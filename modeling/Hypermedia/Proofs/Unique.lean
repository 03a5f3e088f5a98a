import Hypermedia.Proofs.Intact

/-!
# Unique values

The identity of a record comes of the values that were supplied for its unique attributes, and two
records of a collection never have the same identity. So no two records were made of the same unique
values. What the records hold is the stored form of these values: a timestamp in canonical form, a
position as a point, a default for a value that was left out. Where the stored form has the text of the
supplied value, no two records hold the same unique values either.
-/

namespace Hypermedia

open Store (Document)
open Operation (Admitted Bookkept Entered Patched)

/-! ### The unique attributes of a resource -/

theorem Resource.mem_uniqueFields {r : Resource} {field : String} :
    field ∈ r.uniqueFields ↔ ∃ a ∈ r.attributes, a.unique = true ∧ a.name = field := by
  simp [Resource.uniqueFields, and_assoc]

/-- No unique attribute lists children. -/
def Resource.UniquePlain (r : Resource) : Prop :=
  ∀ a ∈ r.attributes, a.unique = true → a.type.isChildren = false

/-- The stored value of an attribute has the normalized text of the supplied one: it is no timestamp and
no position, and what stands for a missing value has no text. -/
def Attribute.KeepsText (a : Attribute) : Prop :=
  a.type ≠ .date ∧ a.type ≠ .geometry ∧ Identity.normalized a.default = ""

namespace Record

/-- The document has the identity that the values give, and in its unique attributes the stored form of
the values. -/
structure MadeOf (r : Resource) (params : Members) (d : Document) : Prop where
  identity : Document.id? d = Identity.derived? r.uniqueFields params
  values : ∀ a ∈ r.attributes, a.unique = true → Members.get? d a.name = some (initial params a)

theorem normalized_initial {a : Attribute} (hc : a.type.isChildren = false) (hkeeps : a.KeepsText)
    (params : Members) :
    Identity.normalized (some (initial params a)) =
      Identity.normalized (Members.get? params a.name) := by
  obtain ⟨hdate, hgeometry, hdefault⟩ := hkeeps
  rw [initial, hc, if_neg (by decide)]
  cases Members.get? params a.name with
  | some v =>
    have hstored : stored a.type v = v := by
      cases ht : a.type with
      | date => exact absurd ht hdate
      | geometry => exact absurd ht hgeometry
      | _ => cases v <;> rfl
    simp only [hstored]
  | none =>
    cases hd : a.default with
    | none => rfl
    | some v =>
      rw [hd] at hdefault
      exact hdefault

section
variable {r : Resource} {params : Members} {d : Document}

/-- The values that a record was made of are read off it again, up to the normalized text. -/
theorem MadeOf.normalized_eq (hplain : r.UniquePlain) (h : MadeOf r params d)
    (hkeeps : ∀ a ∈ r.attributes, a.unique = true → a.KeepsText) {field : String}
    (hfield : field ∈ r.uniqueFields) :
    Identity.normalized (Members.get? d field) = Identity.normalized (Members.get? params field) := by
  obtain ⟨a, ha, hu, rfl⟩ := Resource.mem_uniqueFields.mp hfield
  rw [h.values a ha hu]
  exact normalized_initial (hplain a ha hu) (hkeeps a ha hu) params

theorem madeOf_new (hdistinct : (r.attributes.map (·.name)).Nodup) (hnames : r.NamesFree)
    (hunique : r.uniqueFields ≠ []) {id : String} (hid : Operation.MayName r params id) (now : String) :
    MadeOf r params (new r params id now) := by
  refine ⟨?_, fun a ha _ => get?_new hdistinct hnames params id now ha⟩
  rw [id?_new, hid.derived hunique]

theorem get?_of_checkUnique {field : String} (h : checkUnique r params = [])
    (hfield : field ∈ r.uniqueFields) : Members.get? params field = none := by
  have hnone := List.filterMap_eq_nil_iff.mp h field hfield
  cases hv : Members.get? params field with
  | none => rfl
  | some v => simp [Members.has, hv] at hnone

theorem MadeOf.patched (hdistinct : (r.attributes.map (·.name)).Nodup) (hnames : r.NamesFree)
    (hplain : r.UniquePlain) {supplied : Members} (hnone : checkUnique r supplied = [])
    {current : Document} {now : Time.Instant} (h : MadeOf r params d) :
    MadeOf r params (Members.merge d (Operation.completePatch r supplied current now)) := by
  refine ⟨?_, fun a ha hu => ?_⟩
  · rw [Operation.id?_merge_completePatch hnames]
    exact h.identity
  · -- An update that supplies a value for a unique attribute is refused before its patch.
    have hv : Members.get? supplied a.name = none :=
      get?_of_checkUnique hnone (Resource.mem_uniqueFields.mpr ⟨a, ha, hu, rfl⟩)
    rw [Operation.get?_merge_completePatch hdistinct hnames ha (hplain a ha hu), hv, Option.map_none,
      Option.none_or]
    exact h.values a ha hu

theorem MadeOf.bookkept {g : Registry} (hg : g.Consistent) (hr : r ∈ g.resources)
    (hdistinct : (r.attributes.map (·.name)).Nodup) (hplain : r.UniquePlain) {x : Resource}
    (hx : x ∈ g.resources) {listed : Members → String → Prop} {e : Document}
    (hb : Bookkept x listed r.name d e) (h : MadeOf r params d) : MadeOf r params e := by
  refine ⟨?_, fun a ha hu => ?_⟩
  · rw [hb.id?_eq (hg.listsFree hx)]
    exact h.identity
  · rw [hb.get?_attribute hg hx hr hdistinct ha (hplain a ha hu)]
    exact h.values a ha hu

theorem MadeOf.differ {params' : Members} {e : Document} (h : MadeOf r params d)
    (h' : MadeOf r params' e) (hid : Document.id? d ≠ Document.id? e) :
    ∃ f ∈ r.uniqueFields, Identity.normalized (Members.get? params f) ≠
      Identity.normalized (Members.get? params' f) := by
  by_contra hno
  push Not at hno
  apply hid
  rw [h.identity, h'.identity, Identity.derived?_congr hno]

end

end Record

/-! ### Stores -/

namespace Store

/-- Every record of the resource was made of supplied values. -/
def Supplied (r : Resource) (s : Store) : Prop :=
  ∀ d ∈ s.documents r.name, ∃ params, Record.MadeOf r params d

section
variable {g : Registry} {r x : Resource} {s t : Store}
variable (hg : g.Consistent) (hr : r ∈ g.resources) (hdistinct : (r.attributes.map (·.name)).Nodup)
variable (hplain : r.UniquePlain) (hx : x ∈ g.resources)

include hg hr hdistinct hplain hx

theorem Supplied.bookkept {listed : Members → String → Prop} (h : s.Supplied r)
    (hst : s.Related (Bookkept x listed) t) : t.Supplied r := by
  intro e he
  obtain ⟨d, hd, hb⟩ := forall₂_mem_right (hst r.name) he
  obtain ⟨params, hp⟩ := h d hd
  exact ⟨params, hp.bookkept hg hr hdistinct hplain hx hb⟩

theorem Supplied.patched {supplied : Members} {id : String} {patch : Document} (h : s.Supplied r)
    (hst : Patched x supplied id patch s t) : t.Supplied r := by
  intro e he
  obtain ⟨d, hd, hde⟩ := forall₂_mem_right (hst.related r.name) he
  obtain ⟨params, hp⟩ := h d hd
  rcases hde with rfl | ⟨hname, -, rfl⟩
  · exact ⟨params, hp⟩
  · obtain rfl : r = x := hg.eq_of_name hr hx hname
    obtain ⟨current, now, -, rfl⟩ := hst.patch_eq
    exact ⟨params, hp.patched hdistinct (hg.namesFree hr) hplain hst.unique⟩

theorem Supplied.entered (hunique : r.uniqueFields ≠ []) {supplied : Members} {id now : String}
    (h : s.Supplied r) (hid : Operation.MayName x supplied id)
    (hst : Entered x supplied id now s t) : t.Supplied r := by
  obtain ⟨u, hsu, -, rfl⟩ := hst
  intro e he
  rcases mem_documents_append.mp he with he | ⟨hname, rfl⟩
  · exact h.bookkept hg hr hdistinct hplain hx hsu e he
  · obtain rfl : r = x := hg.eq_of_name hr hx hname
    exact ⟨supplied, Record.madeOf_new hdistinct (hg.namesFree hr) hunique hid now⟩

end

end Store

/-! ### Operations -/

namespace Operation

/-- Every operation, on whatever resource, leaves each record of `r` with the unique values that it was
made of. -/
theorem keeps_supplied {env : Program.Environment} {i : Interface} {g : Registry} {r x : Resource}
    (hg : g.Consistent) (hr : r ∈ g.resources) (hdistinct : (r.attributes.map (·.name)).Nodup)
    (hplain : r.UniquePlain) (hunique : r.uniqueFields ≠ []) (hx : x ∈ g.resources) (c : Command) :
    Service.Keeps env (Store.Supplied r) (c.service i x) := by
  refine keeps_of_writes (hg.listsFree hx) (fun s t params id now hs hadm hent => ?_)
    (fun s u id params patch hs hpatched => ?_) (fun s t listed hs hst => ?_)
    (fun s t hts hs d hd => ?_) c
  · exact hs.entered hg hr hdistinct hplain hx hunique hadm.identity hent
  · exact hs.patched hg hr hdistinct hplain hx hpatched
  · exact hs.bookkept hg hr hdistinct hplain hx hst
  · exact hs d ((hts r.name).subset hd)

/-- In every reached store, each record of a resource with unique attributes holds the stored form of
the unique values that it was made of, and no two records were made of values with the same normalized
texts. If the stored form keeps the texts, no two records hold values with the same normalized texts. -/
theorem unique_in_store {ds : List Schema.ResourceDeclaration} {i : Interface} {h : History}
    (hdistinct : Schema.Distinct ds) (hresolve : Schema.resolve ds = .ok i.registry)
    (hon : h.On i.registry) {r : Resource} (hr : r ∈ i.registry.resources)
    (hunique : r.uniqueFields ≠ []) (hplain : r.UniquePlain) :
    (∀ d ∈ (h.after i Store.empty).documents r.name, ∃ params, Record.MadeOf r params d) ∧
      ((h.after i Store.empty).documents r.name).Pairwise (fun d e =>
        ∀ params params', Record.MadeOf r params d → Record.MadeOf r params' e →
          ∃ f ∈ r.uniqueFields, Identity.normalized (Members.get? params f) ≠
            Identity.normalized (Members.get? params' f)) ∧
      ((∀ a ∈ r.attributes, a.unique = true → a.KeepsText) →
        ((h.after i Store.empty).documents r.name).Pairwise fun d e =>
          ∃ f ∈ r.uniqueFields, Identity.normalized (Members.get? d f) ≠
            Identity.normalized (Members.get? e f)) := by
  have hg : i.registry.Consistent := Schema.consistent_of_resolve hresolve
  have hnames := Schema.distinct_of_resolve hdistinct hresolve
  have hsupplied : (h.after i Store.empty).Supplied r := by
    refine History.after_of_keeps (P := Store.Supplied r) (fun x hx => ?_) (fun d hd => by cases hd)
    exact keeps_supplied hg hr (hnames r hr) hplain hunique (hon x hx) x.command
  have hintact : (h.after i Store.empty).Intact i.registry := by
    refine History.after_of_keeps (fun x hx => ?_) (Store.intact_empty _)
    exact keeps_intact hg (hnames _ (hon x hx)) (hon x hx) x.command
  -- The identity is a function of the normalized texts, so different identities mean different texts.
  have hids : ((h.after i Store.empty).documents r.name).Pairwise
      fun d e => Document.id? d ≠ Document.id? e := List.pairwise_map.mp (hintact.identities r hr)
  refine ⟨hsupplied, ?_, fun hkeeps => ?_⟩
  · exact hids.imp fun hid params params' hd he => hd.differ he hid
  · refine hids.imp_of_mem fun {d e} hd he hid => ?_
    obtain ⟨params, hp⟩ := hsupplied d hd
    obtain ⟨params', hp'⟩ := hsupplied e he
    obtain ⟨f, hf, hne⟩ := hp.differ hp' hid
    refine ⟨f, hf, ?_⟩
    rwa [hp.normalized_eq hplain hkeeps hf, hp'.normalized_eq hplain hkeeps hf]

/-- Two people in one group; a second Ann is refused, and an update leaves the names. -/
def twoPeople : History :=
  [Groups.newGroup "Ops",
    ⟨Groups.refusing none, Groups.person,
      .createItem (Groups.values [("name", .string "Ann"), ("group", .string "ops")])⟩,
    ⟨Groups.refusing none, Groups.person, .createItem (Groups.values [("name", .string "ANN")])⟩,
    ⟨Groups.refusing none, Groups.person, .createItem (Groups.values [("name", .string "Bob")])⟩,
    ⟨Groups.refusing none, Groups.person, .update "bob" (Groups.values [("boss", .string "ann")])⟩]

theorem unique_in_store_groups :
    twoPeople.On Groups.interface.registry ∧ Groups.person.uniqueFields ≠ [] ∧
      Groups.person.UniquePlain ∧
      (∀ a ∈ Groups.person.attributes, a.unique = true → a.KeepsText) ∧
      ((twoPeople.after Groups.interface Store.empty).documents "person").map Document.id? =
        [some "ann", some "bob"] ∧
      ((twoPeople.after Groups.interface Store.empty).documents "person").Pairwise fun d e =>
        ∃ f ∈ Groups.person.uniqueFields, Identity.normalized (Members.get? d f) ≠
          Identity.normalized (Members.get? e f) := by
  have hon : twoPeople.On Groups.interface.registry := by
    simp [History.On, twoPeople, Groups.newGroup, Groups.interface]
  have hmem : Groups.person ∈ Groups.interface.registry.resources := by simp [Groups.interface]
  have hunique : Groups.person.uniqueFields ≠ [] := by decide
  have hplain : Groups.person.UniquePlain := by
    unfold Resource.UniquePlain
    decide
  have hkeeps : ∀ a ∈ Groups.person.attributes, a.unique = true → a.KeepsText := by
    unfold Attribute.KeepsText
    decide +kernel
  have hids : ((twoPeople.after Groups.interface Store.empty).documents "person").map Document.id? =
      [some "ann", some "bob"] := by decide +kernel
  obtain ⟨-, -, htexts⟩ := unique_in_store (h := twoPeople) Groups.distinct_declarations
    Groups.resolve_declarations hon hmem hunique hplain
  exact ⟨hon, hunique, hplain, hkeeps, hids, htexts hkeeps⟩

end Operation

/-! ### Stored values that come of different supplied ones -/

/-- No two records of the resource hold the same values in all its unique attributes. -/
def Store.UniqueValues (r : Resource) (s : Store) : Prop :=
  (s.documents r.name).Pairwise fun d e => ∃ f ∈ r.uniqueFields,
    ((Members.get? d f).getD .null).same ((Members.get? e f).getD .null) = false

instance (r : Resource) (s : Store) : Decidable (s.UniqueValues r) :=
  inferInstanceAs (Decidable (List.Pairwise _ _))

namespace Diary

open Operation (History Step)

def declarations : List Schema.ResourceDeclaration :=
  [("day", [("date", Groups.declared .date none true)]),
    ("spot", [("at", Groups.declared .geometry none true)]),
    ("mood", [("name", { Groups.declared .string none true with default := some (.string "good") })]),
    ("label", [("name", Groups.declared .string none true)])]

def day : Resource := ⟨"day", "days", [{ name := "date", type := .date, unique := true }]⟩

def spot : Resource := ⟨"spot", "spots", [{ name := "at", type := .geometry, unique := true }]⟩

def mood : Resource :=
  ⟨"mood", "moods",
    [{ name := "name", type := .string, default := some (.string "good"), unique := true }]⟩

def label : Resource := ⟨"label", "labels", [{ name := "name", type := .string, unique := true }]⟩

def interface : Interface := { registry := ⟨[day, spot, mood, label]⟩, settings := {} }

theorem resolve_declarations : Schema.resolve declarations = .ok interface.registry := rfl

def entry (r : Resource) (ms : Members) : Step :=
  ⟨Groups.refusing none, r, .createItem (Groups.values ms)⟩

/-- One day, one spot, one mood and one label, each supplied in two ways. -/
def written : History :=
  [entry day [("date", .string "2024-01-01")], entry day [("date", .string "2024-1-1")],
    entry spot [("at", .string "35,139")], entry spot [("at", .array [.nat 139, .nat 35])],
    entry mood [("name", .string "good")], entry mood [],
    entry label [("name", .object [("x", .nat 1), ("y", .nat 2)])],
    entry label [("name", .object [("y", .nat 2), ("x", .nat 1)])]]

/-- A stored timestamp, a point, a default and an object do not tell in which of several ways they were
supplied, so two records can hold the same one. -/
theorem unique_values_repeat :
    Schema.Distinct declarations ∧ Schema.resolve declarations = .ok interface.registry ∧
      written.On interface.registry ∧
      ∀ r ∈ interface.registry.resources, r.uniqueFields ≠ [] ∧ r.UniquePlain ∧
        ¬ (written.after interface Store.empty).UniqueValues r := by
  have hon : written.On interface.registry := by
    simp [History.On, written, entry, interface]
  have hplain : ∀ r ∈ interface.registry.resources, r.UniquePlain := by
    unfold Resource.UniquePlain
    decide
  have hrepeat : ∀ r ∈ interface.registry.resources, r.uniqueFields ≠ [] ∧
      ¬ (written.after interface Store.empty).UniqueValues r := by decide +kernel
  refine ⟨by simp [Schema.Distinct, declarations], resolve_declarations, hon, fun r hr => ?_⟩
  exact ⟨(hrepeat r hr).1, hplain r hr, (hrepeat r hr).2⟩

end Diary

end Hypermedia
