import Hypermedia.Proofs.Origin

/-!
# References that are written

The references that a request supplies are looked up before anything is written, and no create and no
update takes a record away, so right after a write each of them names a record. A declared default is
written as it stands, without being looked up.
-/

namespace Hypermedia.Operation

open Store (Document)
open Program (Environment World run)
open Hypermedia.Filter (Request)

/-- Each reference of a new document was supplied and names a record, or nothing was supplied and it is the
declared default. -/
def ReferencesStand (r : Resource) (params : Members) (t : Store) (d : Document) : Prop :=
  ∀ a ∈ r.attributes, ∀ relation, a.type = .relation relation → relation.isChildren = false →
    ∀ v id, Members.get? d a.name = some v → reference? (some v) = some id →
      Members.get? params a.name = some v ∧ t.Holds relation.target id ∨
        Members.get? params a.name = none ∧ a.default = some v

/-- What an update makes of the references of a document: each one that was supplied is there and names a
record, and the others are what they were. -/
def ReferencesPatched (r : Resource) (params : Members) (t : Store) (d e : Document) : Prop :=
  ∀ a ∈ r.attributes, ∀ relation, a.type = .relation relation → relation.isChildren = false →
    Members.get? e a.name = (Members.get? params a.name).or (Members.get? d a.name) ∧
      ∀ id, reference? (Members.get? params a.name) = some id → t.Holds relation.target id

/-- The one document of this identity got these references. -/
structure Rereferred (r : Resource) (id : String) (params : Members) (s t : Store) : Prop where
  before : s.Holds r.name id
  after : t.Holds r.name id
  patched : ∀ d ∈ s.documents r.name, ∀ e ∈ t.documents r.name, Document.id? d = some id →
    Document.id? e = some id → ReferencesPatched r params t d e

section
variable {env : Environment} {i : Interface} {r : Resource} {s t : Store} {params : Members} {id : String}

theorem Made.referencesStand (hs : s.Named) (h : Made i r params id s t) {d : Document}
    (hd : ∀ a ∈ r.attributes, a.type.isChildren = false →
      Members.get? d a.name = some (Record.initial params a)) : ReferencesStand r params t d := by
  intro a ha relation htype hc v target hv htarget
  have hchildren : a.type.isChildren = false := by rw [htype]; exact hc
  have hinitial : Record.initial params a = v := by
    have hvalue := hd a ha hchildren
    rw [hv] at hvalue
    exact (Option.some.inj hvalue).symm
  rw [Record.initial, hchildren, if_neg (by decide), htype] at hinitial
  cases hp : Members.get? params a.name with
  | some w =>
    rw [hp] at hinitial
    obtain rfl : w = v := (Record.stored_relation relation w).symm.trans hinitial
    have hrel : (a.name, relation) ∈ r.relations := Resource.mem_relations.mpr ⟨a, ha, rfl, htype⟩
    exact .inl ⟨rfl, h.references hs a.name relation target hrel hc (hp ▸ htarget)⟩
  | none =>
    rw [hp] at hinitial
    cases hdefault : a.default with
    | some w =>
      rw [hdefault] at hinitial
      exact .inr ⟨rfl, congrArg some hinitial⟩
    | none =>
      rw [hdefault] at hinitial
      rw [← hinitial] at htarget
      cases htarget

variable (hg : i.registry.Consistent) (hr : r ∈ i.registry.resources)
variable (hdistinct : (r.attributes.map (·.name)).Nodup)

include hg hr hdistinct

theorem ends_update_references (hs : s.Named) {request : Request} :
    Service.Ends env s (update i r id request)
      (fun _ t => ∃ d ∈ s.documents r.name, ∃ e ∈ t.documents r.name, Document.id? d = some id ∧
        Document.id? e = some id ∧ ReferencesPatched r (updateParams r request) t d e)
      (fun _ _ => True) := by
  have hlists : r.ListsFree := hg.listsFree hr
  have hnames : r.NamesFree := hg.namesFree hr
  refine Service.ends_mono (ends_update hlists) (fun _ t ht => ?_) fun _ _ _ => trivial
  obtain ⟨patch, u, hpatched, hut, -⟩ := ht
  obtain ⟨current, now, hd, hpatch⟩ := hpatched.patch_eq
  have hid : Document.id? current = some id := Store.id?_of_called hs hd
  have hmem : Members.merge current patch ∈ u.documents r.name := by
    rw [hpatched.store_eq, Store.documents_withDocuments, if_pos rfl]
    exact Store.mem_changeFirst_of_find? hd
  obtain ⟨e, he, hbook⟩ := forall₂_mem_left (hut r.name) hmem
  refine ⟨current, Store.mem_of_called hd, e, he, hid, ?_, fun a ha relation htype hc => ⟨?_, ?_⟩⟩
  · rw [hbook.id?_eq hlists, hpatched.id?_eq hnames, hid]
  · have hchildren : a.type.isChildren = false := by rw [htype]; exact hc
    rw [hbook.get?_attribute hg hr hr hdistinct ha hchildren, hpatch,
      get?_merge_completePatch hdistinct hnames ha hchildren, htype, Record.map_stored_relation]
  · intro target htarget
    have hrel : (a.name, relation) ∈ r.relations := Resource.mem_relations.mpr ⟨a, ha, rfl, htype⟩
    obtain ⟨o, ho⟩ := hpatched.references a.name relation target hrel hc htarget
    have hheld : s.Holds relation.target target := ⟨o, Store.mem_of_called ho, Store.id?_of_called hs ho⟩
    exact Store.holds_of_bookkept hlists hut (hpatched.holds hnames hheld)

end

/-- In every reached store, right after a create of one record or of several and right after an update, each
parent or instance value that the request supplied and that is not null names by its text a record of the
relation's target, and it is what the document holds. Where nothing was supplied, a new document holds the
declared default, whether it names a record or not, and an updated one what it held before. -/
theorem supplied_references_stand {ds : List Schema.ResourceDeclaration} {i : Interface} {h : History}
    (hdistinct : Schema.Distinct ds) (hresolve : Schema.resolve ds = .ok i.registry)
    (hon : h.On i.registry) {r : Resource} (hr : r ∈ i.registry.resources) (env : Environment) (w : World)
    (hw : w.store = h.after i Store.empty) (request : Request) :
    (∀ c, (run env (createItem i r request).run w).1 = .ok c →
      Appears r c.id
        (ReferencesStand r (request.params r.attributes)
          (run env (createItem i r request).run w).2.store)
        w.store (run env (createItem i r request).run w).2.store) ∧
      (∀ body created, (run env (create i r body request).run w).1 = .ok created →
        ∃ items, Batch.ofBody body = .ok items ∧
          List.Forall₂ (fun item c =>
              Appears r c.id
                (ReferencesStand r (itemParams r request item)
                  (run env (create i r body request).run w).2.store)
                w.store (run env (create i r body request).run w).2.store)
            items.toList created.toList) ∧
      ∀ id, (run env (update i r id request).run w).1 = .ok () →
        Rereferred r id (updateParams r request) w.store
          (run env (update i r id request).run w).2.store := by
  have hg : i.registry.Consistent := Schema.consistent_of_resolve hresolve
  have hnames := Schema.distinct_of_resolve hdistinct hresolve
  have hnamed : w.store.Named := hw ▸ History.named hg hon
  have hs : w.store.Intact i.registry := hw ▸ History.intact hg hnames hon
  refine ⟨fun c hok => ?_, fun body created hok => ?_, fun id hok => ?_⟩
  · exact appears_of_createItem hg hr (hnames r hr) env hs request
      (P := fun params t => ReferencesStand r params t)
      (fun _ _ _ hmade _ => hmade.referencesStand hnamed) hok
  · exact appears_of_create hg hr (hnames r hr) env hs request
      (P := fun params t => ReferencesStand r params t)
      (fun _ _ _ hmade _ => hmade.referencesStand hnamed) hok
  · have hend : Service.Ends env w.store (update i r id request) _ _ :=
      ends_update_references hg hr (hnames r hr) hnamed
    have hupdated := hend w rfl
    rw [hok] at hupdated
    obtain ⟨d, hd, e, he, hid, hide, hpatched⟩ := hupdated
    have ht : (run env (update i r id request).run w).2.store.Intact i.registry :=
      Service.store_of_keeps (keeps_intact hg (hnames r hr) hr (.update id request)) hs
    refine ⟨⟨d, hd, hid⟩, ⟨e, he, hide⟩, fun d' hd' e' he' hid' hide' => ?_⟩
    obtain rfl : d = d' := List.inj_on_of_nodup_map (hs.identities r hr) hd hd' (hid.trans hid'.symm)
    obtain rfl : e = e' := List.inj_on_of_nodup_map (ht.identities r hr) he he' (hide.trans hide'.symm)
    exact hpatched

/-! ### People of a group that is not there -/

namespace Haunted

def declarations : List Schema.ResourceDeclaration :=
  [("group", [("name", Groups.declared .string none true),
      ("members", Groups.declared .children (some "person") false)]),
    ("person", [("name", Groups.declared .string none true),
      ("group", { Groups.declared .parent (some "group.members") false with
        default := some (.string "ghost") })])]

def person : Resource :=
  ⟨"person", "people", [{ name := "name", type := .string, unique := true },
    { name := "group", type := .relation (.parent "group" "members"), default := some (.string "ghost") }]⟩

def interface : Interface := { registry := ⟨[Groups.group, person]⟩, settings := {} }

/-- The create of a person. -/
def hire (ms : Members) : Service Created := createItem interface person (Groups.values ms)

/-- A group, and a person who names none. -/
def history : History :=
  [⟨Groups.refusing none, Groups.group, .createItem (Groups.values [("name", .string "ops")])⟩,
    ⟨Groups.refusing none, person, .createItem (Groups.values [("name", .string "bob")])⟩]

/-- The world after them. -/
def world : World := { store := history.after interface Store.empty }

end Haunted

/-- A second person names the group, and then the first one moves there. -/
theorem supplied_references_stand_haunted :
    Schema.Distinct Haunted.declarations ∧
      Schema.resolve Haunted.declarations = .ok Haunted.interface.registry ∧
      Haunted.history.On Haunted.interface.registry ∧
      Appears Haunted.person "ann"
        (ReferencesStand Haunted.person [("name", .string "ann"), ("group", .string "ops")]
          (run (Groups.refusing none) (Haunted.hire
            [("name", .string "ann"), ("group", .string "ops")]).run Haunted.world).2.store)
        Haunted.world.store (run (Groups.refusing none) (Haunted.hire
          [("name", .string "ann"), ("group", .string "ops")]).run Haunted.world).2.store ∧
      Rereferred Haunted.person "bob" [("group", .string "ops")] Haunted.world.store
        (run (Groups.refusing none) (update Haunted.interface Haunted.person "bob"
          (Groups.values [("group", .string "ops")])).run Haunted.world).2.store := by
  have hdistinct : Schema.Distinct Haunted.declarations := by
    simp [Schema.Distinct, Haunted.declarations]
  have hresolve : Schema.resolve Haunted.declarations = .ok Haunted.interface.registry := rfl
  have hon : Haunted.history.On Haunted.interface.registry := by
    simp [History.On, Haunted.history, Haunted.interface]
  have hr : Haunted.person ∈ Haunted.interface.registry.resources := by simp [Haunted.interface]
  have hmade : (run (Groups.refusing none) (Haunted.hire
      [("name", .string "ann"), ("group", .string "ops")]).run Haunted.world).1 =
        .ok ⟨"ann", "/people/ann"⟩ := rfl
  have hmoved : (run (Groups.refusing none) (update Haunted.interface Haunted.person "bob"
      (Groups.values [("group", .string "ops")])).run Haunted.world).1 = .ok () := rfl
  obtain ⟨hcreate, -, -⟩ := supplied_references_stand hdistinct hresolve hon hr (Groups.refusing none)
    Haunted.world rfl (Groups.values [("name", .string "ann"), ("group", .string "ops")])
  obtain ⟨-, -, hupdate⟩ := supplied_references_stand hdistinct hresolve hon hr (Groups.refusing none)
    Haunted.world rfl (Groups.values [("group", .string "ops")])
  exact ⟨hdistinct, hresolve, hon, hcreate _ hmade, hupdate "bob" hmoved⟩

/-- A default is not looked up: a person who names no group is created in one that is not there. -/
theorem default_reference_dangles :
    Schema.resolve Haunted.declarations = .ok Haunted.interface.registry ∧
      (run (Groups.refusing none) (Haunted.hire [("name", .string "ann")]).run
        { store := Store.empty }).1 = .ok ⟨"ann", "/people/ann"⟩ ∧
      ((run (Groups.refusing none) (Haunted.hire [("name", .string "ann")]).run
        { store := Store.empty }).2.store.documents "person").map (Members.get? · "group") =
          [some (.string "ghost")] ∧
      ¬ (run (Groups.refusing none) (Haunted.hire [("name", .string "ann")]).run
        { store := Store.empty }).2.store.Holds "group" "ghost" := by
  refine ⟨rfl, rfl, rfl, ?_⟩
  have hnone : (run (Groups.refusing none) (Haunted.hire [("name", .string "ann")]).run
      { store := Store.empty }).2.store.documents "group" = [] := rfl
  rintro ⟨d, hd, -⟩
  rw [hnone] at hd
  cases hd

end Hypermedia.Operation
