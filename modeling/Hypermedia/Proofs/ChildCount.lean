import Hypermedia.Proofs.Children
import Hypermedia.Proofs.Intact

/-!
# How many children a listing shows

A record refers to its owner by the text of a value, whether the value is that text or, say, a number.
The listing of the owner's children looks for the text itself. A reached store keeps no array where an
owner is named, since the text of an array is no identity. So there the listing misses exactly the
children that name their owner by another value than its text.
-/

namespace Hypermedia

open Store (Document)
open Hypermedia.Filter (Texts)
open Operation (Bookkept Entered Patched ReferencesHold reference?)

/-- A document names the record of this identity in an attribute. -/
def Store.Document.RefersTo (d : Document) (name id : String) : Prop :=
  reference? (Members.get? d name) = some id

instance (d : Document) (name id : String) : Decidable (Document.RefersTo d name id) :=
  inferInstanceAs (Decidable (_ = _))

/-- No attribute that names an owner has an array for its default. -/
def Registry.OwnerDefaultsPlain (g : Registry) : Prop :=
  ∀ r ∈ g.resources, ∀ a ∈ r.attributes, ∀ owner field,
    a.type = .relation (.parent owner field) → ∀ xs, a.default ≠ some (.array xs)

/-- No record names an owner by an array. -/
def Store.OwnersPlain (g : Registry) (s : Store) : Prop :=
  ∀ r ∈ g.resources, ∀ a ∈ r.attributes, ∀ owner field, a.type = .relation (.parent owner field) →
    ∀ d ∈ s.documents r.name, ∀ xs, Members.get? d a.name ≠ some (.array xs)

/-! ### Owners are named by identities -/

theorem Identity.not_fit_array (xs : List Value) : ¬ Identity.Fit (Value.plainText (.array xs)) := by
  rintro ⟨-, hchars⟩
  have hopen : '[' ∈ (Value.plainText (.array xs)).toList := by
    simp [Value.plainText, Value.text, Json.chars]
  exact absurd (hchars '[' hopen) (by decide)

namespace Store

section
variable {g : Registry} {r : Resource} {s t : Store} {params : Members}

/-- A reference that was found is no array. -/
theorem Intact.not_array (hs : s.Intact g) (hg : g.Consistent) (hr : r ∈ g.resources)
    (hrefs : ReferencesHold params r.relations s) {a : Attribute} (ha : a ∈ r.attributes)
    {owner field : String} (htype : a.type = .relation (.parent owner field)) (xs : List Value) :
    Members.get? params a.name ≠ some (.array xs) := by
  intro hx
  have hrel : (a.name, Relation.parent owner field) ∈ r.relations :=
    Resource.mem_relations.mpr ⟨a, ha, rfl, htype⟩
  -- The owner that was found has an identity, and the text of an array is none.
  obtain ⟨o, ho, rfl, -⟩ := hg.owner_of_relation hr hrel
  obtain ⟨d, hd⟩ := hrefs a.name _ (Value.plainText (.array xs)) hrel rfl (by rw [hx]; rfl)
  obtain ⟨id, hid, hfit⟩ := (hs.forms o ho d (mem_of_called hd)).identity
  have hfound := Document.id?_eq_of_isFoundBy (isFoundBy_of_called hd) (by rw [hid]; rfl)
  rw [hid, Option.some.injEq] at hfound
  exact Identity.not_fit_array xs (hfound ▸ hfit)

variable (hg : g.Consistent) (hr : r ∈ g.resources)
variable (hdistinct : ∀ o ∈ g.resources, (o.attributes.map (·.name)).Nodup)

include hg hr hdistinct

theorem OwnersPlain.bookkept {listed : Members → String → Prop} (h : s.OwnersPlain g)
    (hst : s.Related (Bookkept r listed) t) : t.OwnersPlain g := by
  intro o ho a ha owner field htype e he
  obtain ⟨d, hd, hb⟩ := forall₂_mem_right (hst o.name) he
  rw [hb.get?_attribute hg hr ho (hdistinct o ho) ha (Attribute.isChildren_of_parent htype)]
  exact h o ho a ha owner field htype d hd

theorem OwnersPlain.patched {id : String} {patch : Document} (h : s.OwnersPlain g) (hs : s.Intact g)
    (hst : Patched r params id patch s t) : t.OwnersPlain g := by
  intro o ho a ha owner field htype e he xs
  obtain ⟨d, hd, hde⟩ := forall₂_mem_right (hst.related o.name) he
  have hold := h o ho a ha owner field htype d hd xs
  rcases hde with rfl | ⟨hname, -, rfl⟩
  · exact hold
  · obtain rfl : o = r := hg.eq_of_name ho hr hname
    obtain ⟨current, now, -, rfl⟩ := hst.patch_eq
    rw [Operation.get?_merge_completePatch (hdistinct o ho) (hg.namesFree ho) ha
      (Attribute.isChildren_of_parent htype), htype, Record.map_stored_relation]
    cases hv : Members.get? params a.name with
    | none => exact hold
    | some v =>
      rw [Option.some_or, ← hv]
      exact hs.not_array hg ho hst.references ha htype xs

theorem OwnersPlain.entered (hdefaults : g.OwnerDefaultsPlain) {id now : String} (h : s.OwnersPlain g)
    (hs : s.Intact g) (hrefs : ReferencesHold params r.relations s)
    (hst : Entered r params id now s t) : t.OwnersPlain g := by
  obtain ⟨u, hsu, -, rfl⟩ := hst
  have hu : u.OwnersPlain g := h.bookkept hg hr hdistinct hsu
  intro o ho a ha owner field htype e he xs
  rcases mem_documents_append.mp he with he | ⟨hname, rfl⟩
  · exact hu o ho a ha owner field htype e he xs
  · obtain rfl : o = r := hg.eq_of_name ho hr hname
    rw [Record.get?_new_parent (hdistinct o ho) (hg.namesFree ho) params id now ha htype]
    cases hv : Members.get? params a.name with
    | some v =>
      rw [Option.getD_some, ← hv]
      exact hs.not_array hg ho hrefs ha htype xs
    | none =>
      cases hd : a.default with
      | none => simp
      | some v =>
        rw [Option.getD_none, Option.getD_some, ← hd]
        exact hdefaults o ho a ha owner field htype xs

end

end Store

/-! ### Operations -/

namespace Operation

theorem keeps_ownersPlain {env : Program.Environment} {i : Interface} {g : Registry} {r : Resource}
    (hg : g.Consistent) (hr : r ∈ g.resources)
    (hdistinct : ∀ o ∈ g.resources, (o.attributes.map (·.name)).Nodup)
    (hdefaults : g.OwnerDefaultsPlain) (c : Command) :
    Service.Keeps env (fun s => s.Intact g ∧ s.OwnersPlain g) (c.service i r) := by
  have hnames := hdistinct r hr
  refine keeps_of_writes (hg.listsFree hr) (fun s t params id now hs hadm hent => ?_)
    (fun s u id params patch hs hpatched => ?_) (fun s t listed hs hst => ?_)
    (fun s t hts hs => ?_) c
  · exact ⟨hs.1.entered hg hnames hr hadm.identity.fit hadm.fresh hent,
      hs.2.entered hg hr hdistinct hdefaults hs.1 hadm.references hent⟩
  · exact ⟨hs.1.patched hg hnames hr hpatched, hs.2.patched hg hr hdistinct hs.1 hpatched⟩
  · exact ⟨hs.1.bookkept hg hr hst, hs.2.bookkept hg hr hdistinct hst⟩
  · exact ⟨hs.1.within hts, fun o ho a ha owner field htype d hd =>
      hs.2 o ho a ha owner field htype d ((hts o.name).subset hd)⟩

/-! ### Counting -/

/-- A query that filters nothing of a resource. -/
def Unfiltered (r : Resource) (query : Texts) : Prop :=
  query.Silent "q" ∧ ∀ name ∈ r.fieldNames, query.Silent name

theorem condition_of_unfiltered {r : Resource} (hdistinct : (r.attributes.map (·.name)).Nodup)
    (hnames : r.NamesFree) {query : Texts} (h : Unfiltered r query) :
    Filter.condition r ⟨none, [], query⟩ = [] := by
  have hasked : ∀ a ∈ Filter.conditionAttributes r, Filter.asked ⟨none, [], query⟩ a = none := by
    intro a ha
    have hsilent : (⟨none, [], query⟩ : Filter.Request).option? a.name = none :=
      h.2 a.name (List.mem_map_of_mem (List.mem_filter.mp ha).1)
    have hnil : Texts.get? [] a.name = none := rfl
    simp only [Filter.asked, Filter.Request.value?, Option.bind_none, hnil, hsilent, Option.map_none]
  have htext : (⟨none, [], query⟩ : Filter.Request).option? "q" = none := h.1
  rw [Filter.condition_eq hdistinct hnames, Filter.freeText, htext,
    List.filterMap_eq_nil_iff.mpr hasked]
  rfl

theorem has_iff_of_plain {d : Document} {name text : String}
    (h : ∀ xs, Members.get? d name ≠ some (.array xs)) :
    Document.Has d name text ↔ Members.get? d name = some (.string text) := by
  unfold Document.Has
  cases hv : Members.get? d name with
  | none => exact ⟨(fun hn => by cases hn), (fun hn => by cases hn)⟩
  | some v =>
    cases v with
    | string s => simp [Value.has_string_iff]
    | array xs => exact absurd hv (h xs)
    | _ => exact ⟨(fun hn => by cases hn), (fun hn => by cases hn)⟩

theorem selection_unfiltered {i : Interface} {owner child : Resource} {field : String} {p : Attribute}
    (hg : i.registry.Consistent) (hdistinct : (child.attributes.map (·.name)).Nodup)
    (hinv : i.registry.Inverse owner field child p) (id : String) {query : Texts}
    (hquery : Unfiltered child query) (s : Store) :
    Service.selection s (listChildren i owner id field ⟨none, Web.idPath id, query⟩) =
      .ok ((s.documents child.name).filter fun d => Document.Has d p.name id) := by
  have hnames : child.NamesFree := hg.namesFree hinv.mem_resources
  have hid : query.Silent idField := hquery.2 idField (List.mem_cons_self ..)
  refine (selection_listChildren hinv hg hdistinct s id (hquery.2 p.name hinv.mem_fieldNames)).trans ?_
  rw [list, selection_listWhere, Filter.condition_without hdistinct hnames hid,
    condition_of_unfiltered hdistinct hnames hquery, Store.matching_nil]
  rfl

/-- Without filters the listing of a record's children answers a page, whose size is the number of the
records that hold the identity of their owner as a text. In a reached store these are the records that
refer to the owner, less those that refer to it by another value than the text of its identity; so all
are counted exactly when all refer to it by that text. -/
theorem children_counted {ds : List Schema.ResourceDeclaration} {i : Interface}
    (hdistinct : Schema.Distinct ds) (hresolve : Schema.resolve ds = .ok i.registry)
    {owner child : Resource} {field : String} {p : Attribute}
    (hinv : i.registry.Inverse owner field child p) (id : String) {query : Texts}
    (hquery : Unfiltered child query) {env : Program.Environment} (henv : env.Accepts)
    (w : Program.World) :
    ∃ page, (Program.run env
        (listChildren i owner id field ⟨none, Web.idPath id, query⟩).run w).1 = .ok page ∧
      page.size = (w.store.documents child.name).countP (fun d => Document.Has d p.name id) ∧
      ∀ h : History, h.On i.registry → i.registry.OwnerDefaultsPlain →
        w.store = h.after i Store.empty →
        page.size + (w.store.documents child.name).countP (fun d =>
            decide (Document.RefersTo d p.name id) && !decide (Document.Has d p.name id)) =
          (w.store.documents child.name).countP (fun d => Document.RefersTo d p.name id) ∧
        (page.size = (w.store.documents child.name).countP (fun d => Document.RefersTo d p.name id) ↔
          ∀ d ∈ w.store.documents child.name, Document.RefersTo d p.name id →
            Members.get? d p.name = some (.string id)) := by
  have hg : i.registry.Consistent := Schema.consistent_of_resolve hresolve
  have hnames := Schema.distinct_of_resolve hdistinct hresolve
  have hselect := selection_unfiltered hg (hnames child hinv.mem_resources) hinv id hquery w.store
  rw [listChildren_eq hinv] at hselect ⊢
  obtain ⟨page, hpage, hsize⟩ := page_of_selection henv hselect
  rw [← List.countP_eq_length_filter] at hsize
  refine ⟨page, hpage, hsize, fun h hon hdefaults hw => ?_⟩
  have hend : (h.after i Store.empty).Intact i.registry ∧
      (h.after i Store.empty).OwnersPlain i.registry := by
    refine History.after_of_keeps (P := fun s => s.Intact i.registry ∧ s.OwnersPlain i.registry)
      (fun x hx => ?_) ⟨Store.intact_empty _, fun _ _ _ _ _ _ _ d hd => by cases hd⟩
    exact keeps_ownersPlain hg (hon x hx) hnames hdefaults x.command
  have hhas : ∀ d ∈ w.store.documents child.name,
      (Document.Has d p.name id ↔ Members.get? d p.name = some (.string id)) := by
    intro d hd
    rw [hw] at hd
    exact has_iff_of_plain (hend.2 child hinv.mem_resources p hinv.mem_attributes owner.name field
      hinv.type_eq d hd)
  have hrefers : ∀ d ∈ w.store.documents child.name, decide (Document.Has d p.name id) = true →
      decide (Document.RefersTo d p.name id) = true := by
    intro d hd hd'
    have hv := (hhas d hd).mp (of_decide_eq_true hd')
    rw [decide_eq_true_eq, Document.RefersTo, hv]
    rfl
  rw [hsize]
  refine ⟨countP_add_countP hrefers, (countP_eq_countP_iff hrefers).trans ?_⟩
  refine forall₂_congr fun d hd => ?_
  rw [decide_eq_true_eq, decide_eq_true_eq, hhas d hd]

/-! ### A group with a number for its name -/

/-- Ann names the group by its text and Bob by a number of the same digits. -/
def numbered : History :=
  [Groups.newGroup "42",
    ⟨Groups.refusing none, Groups.person,
      .createItem (Groups.values [("name", .string "Ann"), ("group", .string "42")])⟩,
    ⟨Groups.refusing none, Groups.person,
      .createItem (Groups.values [("name", .string "Bob"), ("group", .nat 42)])⟩]

theorem children_counted_groups :
    numbered.On Groups.interface.registry ∧ Groups.interface.registry.OwnerDefaultsPlain ∧
      Unfiltered Groups.person [("orderBy", "-name")] ∧
      ∃ page, (Program.run (Groups.refusing none) (listChildren Groups.interface Groups.group "42"
          "members" ⟨none, Web.idPath "42", [("orderBy", "-name")]⟩).run
            { store := numbered.after Groups.interface Store.empty }).1 = .ok page ∧
        page.size = ((numbered.after Groups.interface Store.empty).documents "person").countP
          (fun d => Document.Has d "group" "42") ∧
        page.size + ((numbered.after Groups.interface Store.empty).documents "person").countP
            (fun d => decide (Document.RefersTo d "group" "42") && !decide (Document.Has d "group" "42")) =
          ((numbered.after Groups.interface Store.empty).documents "person").countP
            (fun d => Document.RefersTo d "group" "42") := by
  have hon : numbered.On Groups.interface.registry := by
    simp [History.On, numbered, Groups.newGroup, Groups.interface]
  have hdefaults : Groups.interface.registry.OwnerDefaultsPlain := by
    simp [Registry.OwnerDefaultsPlain, Groups.interface, Groups.group, Groups.person]
  have hquery : Unfiltered Groups.person [("orderBy", "-name")] := by
    unfold Unfiltered Texts.Silent
    decide +kernel
  obtain ⟨page, hpage, hsize, hreached⟩ := children_counted Groups.distinct_declarations
    Groups.resolve_declarations inverse_members "42" hquery Groups.accepts
    { store := numbered.after Groups.interface Store.empty }
  obtain ⟨hcount, -⟩ := hreached numbered hon hdefaults rfl
  exact ⟨hon, hdefaults, hquery, page, hpage, hsize, hcount⟩

/-- Of the two members of the group the listing counts one. -/
theorem children_miss_number :
    ((Program.run (Groups.refusing none) (listChildren Groups.interface Groups.group "42" "members"
        ⟨none, Web.idPath "42", []⟩).run
          { store := numbered.after Groups.interface Store.empty }).1.toOption.map (·.size)) = some 1 ∧
      ((numbered.after Groups.interface Store.empty).documents "person").countP
        (fun d => Document.RefersTo d "group" "42") = 2 := by
  decide +kernel

end Operation

end Hypermedia
