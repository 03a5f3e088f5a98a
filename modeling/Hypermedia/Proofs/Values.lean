import Hypermedia.Proofs.History

/-!
# Where stored values come from

A record gets the value of an attribute when it is created or patched: null, the declared default, or
the stored form of a supplied value. What was supplied had passed the check of values as a whole before
anything was written, and nothing else writes to attributes that list no children. So with the declared
rules as the check, a stored value obeys them wherever the default does.
-/

namespace Hypermedia

open Store (Document)
open Operation (Admitted Bookkept Entered Patched)

/-- The ways in which an attribute gets a value: none was supplied and there is no default, none was
supplied and there is one, or one was supplied among values that passed the check. -/
inductive Interface.Provides (i : Interface) (r : Resource) (a : Attribute) : Value → Prop where
  | missing : Provides i r a .null
  | default {v : Value} (declared : a.default = some v) : Provides i r a v
  | supplied {params : Members} {isUpdate : Bool} {v : Value}
      (checked : i.validator r params isUpdate = []) (given : Members.get? params a.name = some v) :
      Provides i r a (Record.stored a.type v)

/-- Every value of a record was provided for its attribute. Lists of children are left out: they are
the store's own. -/
def Interface.Provided (i : Interface) (r : Resource) (d : Document) : Prop :=
  ∀ a ∈ r.attributes, a.type.isChildren = false → ∀ v, Members.get? d a.name = some v → i.Provides r a v

/-- All records of registered resources hold provided values. -/
def Store.Provided (i : Interface) (s : Store) : Prop :=
  ∀ r ∈ i.registry.resources, ∀ d ∈ s.documents r.name, i.Provided r d

/-! ### Records -/

section
variable {i : Interface} {r : Resource} {params : Members}

theorem Interface.provides_initial (hcheck : i.validator r params false = []) {a : Attribute}
    (hc : a.type.isChildren = false) : i.Provides r a (Record.initial params a) := by
  rw [Record.initial, hc, if_neg (by decide)]
  cases hv : Members.get? params a.name with
  | some v => exact .supplied hcheck hv
  | none =>
    cases hd : a.default with
    | none => exact .missing
    | some v => exact .default hd

theorem Interface.provided_new (hdistinct : (r.attributes.map (·.name)).Nodup) (hnames : r.NamesFree)
    (hcheck : i.validator r params false = []) (id now : String) :
    i.Provided r (Record.new r params id now) := by
  intro a ha hc v hv
  rw [Record.get?_new hdistinct hnames params id now ha] at hv
  cases hv
  exact i.provides_initial hcheck hc

theorem Interface.Provided.patched (hdistinct : (r.attributes.map (·.name)).Nodup)
    (hnames : r.NamesFree) (hcheck : i.validator r params true = []) {current d : Document}
    {now : Time.Instant} (h : i.Provided r d) :
    i.Provided r (Members.merge d (Operation.completePatch r params current now)) := by
  intro a ha hc v hv
  rw [Operation.get?_merge_completePatch hdistinct hnames ha hc] at hv
  cases hs : Members.get? params a.name with
  | none =>
    rw [hs, Option.map_none, Option.none_or] at hv
    exact h a ha hc v hv
  | some w =>
    rw [hs, Option.map_some, Option.some_or] at hv
    cases hv
    exact .supplied hcheck hs

theorem Interface.Provided.bookkept (hg : i.registry.Consistent) (hr : r ∈ i.registry.resources)
    (hdistinct : (r.attributes.map (·.name)).Nodup) {x : Resource} (hx : x ∈ i.registry.resources)
    {listed : Members → String → Prop} {d e : Document} (hb : Bookkept x listed r.name d e)
    (h : i.Provided r d) : i.Provided r e := by
  intro a ha hc v hv
  rw [hb.get?_attribute hg hx hr hdistinct ha hc] at hv
  exact h a ha hc v hv

end

/-! ### Stores -/

namespace Store

section
variable {i : Interface} {x : Resource} {s t : Store}
variable (hg : i.registry.Consistent) (hx : x ∈ i.registry.resources)
variable (hdistinct : ∀ r ∈ i.registry.resources, (r.attributes.map (·.name)).Nodup)

include hg hx hdistinct

theorem Provided.bookkept {listed : Members → String → Prop} (h : s.Provided i)
    (hst : s.Related (Bookkept x listed) t) : t.Provided i := by
  intro r hr e he
  obtain ⟨d, hd, hb⟩ := forall₂_mem_right (hst r.name) he
  exact (h r hr d hd).bookkept hg hr (hdistinct r hr) hx hb

theorem Provided.patched {params : Members} {id : String} {patch : Document} (h : s.Provided i)
    (hcheck : i.validator x params true = []) (hst : Patched x params id patch s t) : t.Provided i := by
  intro r hr e he
  obtain ⟨d, hd, hde⟩ := forall₂_mem_right (hst.related r.name) he
  rcases hde with rfl | ⟨hname, -, rfl⟩
  · exact h r hr e hd
  · obtain rfl : r = x := hg.eq_of_name hr hx hname
    obtain ⟨current, now, -, rfl⟩ := hst.patch_eq
    exact (h r hr d hd).patched (hdistinct r hr) (hg.namesFree hr) hcheck

theorem Provided.entered {params : Members} {id now : String} (h : s.Provided i)
    (hadm : Admitted i x params id s) (hst : Entered x params id now s t) : t.Provided i := by
  obtain ⟨u, hsu, -, rfl⟩ := hst
  intro r hr e he
  rcases mem_documents_append.mp he with he | ⟨hname, rfl⟩
  · exact h.bookkept hg hx hdistinct hsu r hr e he
  · obtain rfl : r = x := hg.eq_of_name hr hx hname
    exact Interface.provided_new (hdistinct r hr) (hg.namesFree hr) hadm.checked id now

end

end Store

/-! ### Operations -/

namespace Operation

theorem keeps_provided {env : Program.Environment} {i : Interface} {x : Resource}
    (hg : i.registry.Consistent) (hx : x ∈ i.registry.resources)
    (hdistinct : ∀ r ∈ i.registry.resources, (r.attributes.map (·.name)).Nodup) (c : Command) :
    Service.Keeps env (Store.Provided i) (c.service i x) := by
  refine keeps_of_checked_writes (hg.listsFree hx) (fun s t params id now hs hadm hent => ?_)
    (fun s u id params patch hs hcheck hpatched => ?_) (fun s t listed hs hst => ?_)
    (fun s t hts hs r hr d hd => ?_) c
  · exact hs.entered hg hx hdistinct hadm hent
  · exact hs.patched hg hx hdistinct hcheck hpatched
  · exact hs.bookkept hg hx hdistinct hst
  · exact hs r hr d ((hts r.name).subset hd)

theorem History.provided {ds : List Schema.ResourceDeclaration} {i : Interface} {h : History}
    (hdistinct : Schema.Distinct ds) (hresolve : Schema.resolve ds = .ok i.registry)
    (hon : h.On i.registry) : (h.after i Store.empty).Provided i := by
  have hg : i.registry.Consistent := Schema.consistent_of_resolve hresolve
  have hnames := Schema.distinct_of_resolve hdistinct hresolve
  refine History.after_of_keeps (fun x hx => ?_) (fun r hr d hd => by cases hd)
  exact keeps_provided hg (hon x hx) hnames x.command

end Operation

/-! ### The declared rules as the check -/

theorem Record.isValid_of_check {r : Resource} {params : Members} {isUpdate : Bool}
    (h : check r params isUpdate = []) {a : Attribute} (ha : a ∈ r.attributes) {v : Value}
    (hv : Members.get? params a.name = some v) (hnull : v ≠ .null) : isValid a v = true := by
  have hfails := List.filterMap_eq_nil_iff.mp h a ha
  rw [hv] at hfails
  cases v with
  | null => exact absurd rfl hnull
  | _ => simpa [fails] using hfails

/-- Values are stored as they are supplied where the attribute has neither times nor positions. -/
def FieldType.KeepsForm (t : FieldType) : Prop := t ≠ .date ∧ t ≠ .geometry ∧ t.isChildren = false

theorem Record.stored_of_keepsForm {t : FieldType} (h : t.KeepsForm) (v : Value) : stored t v = v := by
  cases t with
  | date => exact absurd rfl h.1
  | geometry => exact absurd rfl h.2.1
  | _ => cases v <;> rfl

theorem Interface.Provides.isValid {i : Interface} (hcheck : i.validator = Record.check) {r : Resource}
    {a : Attribute} (ha : a ∈ r.attributes) (htype : a.type.KeepsForm)
    (hdefault : ∀ v, a.default = some v → Record.isValid a v = true) {v : Value}
    (h : i.Provides r a v) (hnull : v ≠ .null) : Record.isValid a v = true := by
  cases h with
  | missing => exact absurd rfl hnull
  | default hd => exact hdefault v hd
  | supplied hchecked hgiven =>
    rw [Record.stored_of_keepsForm htype] at hnull ⊢
    rw [hcheck] at hchecked
    exact Record.isValid_of_check hchecked ha hgiven hnull

namespace Operation

/-- In every reached store, each value in an attribute that keeps the form of its values obeys the rules
declared for it, if the defaults do: whatever was supplied is checked before it is written. -/
theorem stored_values_obey_rules {ds : List Schema.ResourceDeclaration} {i : Interface} {h : History}
    (hdistinct : Schema.Distinct ds) (hresolve : Schema.resolve ds = .ok i.registry)
    (hcheck : i.validator = Record.check)
    (hdefaults : ∀ r ∈ i.registry.resources, ∀ a ∈ r.attributes, ∀ v, a.default = some v →
      Record.isValid a v = true)
    (hon : h.On i.registry) :
    ∀ r ∈ i.registry.resources, ∀ d ∈ (h.after i Store.empty).documents r.name,
      ∀ a ∈ r.attributes, a.type.KeepsForm → ∀ v, Members.get? d a.name = some v → v ≠ .null →
        Record.isValid a v = true := by
  intro r hr d hd a ha htype v hv hnull
  have hprovided : i.Provides r a v :=
    History.provided hdistinct hresolve hon r hr d hd a ha htype.2.2 v hv
  exact hprovided.isValid hcheck ha htype (hdefaults r hr a ha) hnull

end Operation

/-! ### Players of two ranks -/

namespace Players

open Operation (History Step)

def ranks : Rules := { allowed := some [.string "low", .string "high"] }

def names : Rules := { minLength := some 2 }

def declarations : List Schema.ResourceDeclaration :=
  [("player", [("name", { Groups.declared .string none true with rules := names }),
    ("rank", { Groups.declared .string none false with
        rules := ranks
        default := some (.string "low") }),
    ("active", Groups.declared .boolean none false)])]

def rank : Attribute :=
  { name := "rank", type := .string, default := some (.string "low"), rules := ranks }

def player : Resource :=
  ⟨"player", "players", [{ name := "name", type := .string, unique := true, rules := names }, rank,
    { name := "active", type := .boolean }]⟩

def interface : Interface := { registry := ⟨[player]⟩, settings := {} }

/-- A player who rises, one who would rise too far, and one whose name is too short. -/
def history : History :=
  [⟨Groups.refusing none, player, .createItem (Groups.values [("name", .string "ann")])⟩,
    ⟨Groups.refusing none, player, .update "ann" (Groups.values [("rank", .string "high")])⟩,
    ⟨Groups.refusing none, player, .createItem (Groups.values [("name", .string "bob")])⟩,
    ⟨Groups.refusing none, player, .update "bob" (Groups.values [("rank", .string "highest")])⟩,
    ⟨Groups.refusing none, player, .createItem (Groups.values [("name", .string "c")])⟩]

end Players

theorem Operation.stored_values_obey_rules_players :
    Schema.Distinct Players.declarations ∧
      Schema.resolve Players.declarations = .ok Players.interface.registry ∧
      (∀ r ∈ Players.interface.registry.resources, ∀ a ∈ r.attributes, ∀ v, a.default = some v →
        Record.isValid a v = true) ∧
      Players.history.On Players.interface.registry ∧
      ((Players.history.after Players.interface Store.empty).documents "player").map (fun d =>
          (Document.id? d, (Members.get? d "rank").bind Value.string?)) =
        [(some "ann", some "high"), (some "bob", some "low")] ∧
      ∀ d ∈ (Players.history.after Players.interface Store.empty).documents "player",
        ∀ v, Members.get? d "rank" = some v → v ≠ .null → Record.isValid Players.rank v = true := by
  have hdistinct : Schema.Distinct Players.declarations := by
    simp [Schema.Distinct, Players.declarations]
  have hresolve : Schema.resolve Players.declarations = .ok Players.interface.registry := rfl
  have hdefaults : ∀ r ∈ Players.interface.registry.resources, ∀ a ∈ r.attributes, ∀ v,
      a.default = some v → Record.isValid a v = true := by
    intro r hr a ha v hv
    obtain rfl := List.mem_singleton.mp hr
    simp only [Players.player, List.mem_cons, List.not_mem_nil, or_false] at ha
    rcases ha with rfl | rfl | rfl <;> cases hv
    decide
  have hon : Players.history.On Players.interface.registry := by
    simp [History.On, Players.history, Players.interface]
  have hmem : Players.player ∈ Players.interface.registry.resources := by simp [Players.interface]
  have hrank : Players.rank ∈ Players.player.attributes := by simp [Players.player]
  refine ⟨hdistinct, hresolve, hdefaults, hon, by decide +kernel, fun d hd => ?_⟩
  have hobey := stored_values_obey_rules hdistinct hresolve rfl hdefaults hon Players.player hmem d hd
  exact hobey Players.rank hrank (by unfold FieldType.KeepsForm; decide)

end Hypermedia
