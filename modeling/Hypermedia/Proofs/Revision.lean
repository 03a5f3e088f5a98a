import Hypermedia.Proofs.Creation

/-!
# The whole effect of an update

An update revises one document by the supplied values and enrols its record with the owners that these
values name, which may be the revised document itself. Every other document, its place and all its other
values are as before.
-/

namespace Hypermedia

open Program (Environment World run)
open Store (Document)
open Hypermedia.Filter (Request)

/-- A document is another one after an update: attributes that list no children have the stored forms of
the values that the request supplies for them, the time of change is bumped, and the searchable text is
taken anew if a part of it was supplied. -/
structure Store.Document.Revises (r : Resource) (q : Request) (now : Time.Instant) (d e : Document) :
    Prop where
  keys : Members.keys e = Members.keys d
  identity : Members.get? e idField = Members.get? d idField
  createdAt : Members.get? e createdAtField = Members.get? d createdAtField
  lists : ∀ a ∈ r.attributes, a.type.isChildren = true → Members.get? e a.name = Members.get? d a.name
  values : ∀ a ∈ r.attributes, a.type.isChildren = false → Members.get? e a.name =
    ((q.value? a).map (Record.stored a.type)).or (Members.get? d a.name)
  updatedAt : Members.get? e updatedAtField =
    some (.string (Record.bumped (Members.get? d updatedAtField) now))
  newText : Record.SuppliesText r q.value? → e.Indexed r
  oldText : ¬ Record.SuppliesText r q.value? → Members.get? e searchField = Members.get? d searchField

theorem Store.Document.Revises.id?_eq {r : Resource} {q : Request} {now : Time.Instant} {d e : Document}
    (h : Document.Revises r q now d e) : Document.id? e = Document.id? d := by
  rw [Document.id?, h.identity]
  rfl

namespace Operation

section
variable {r : Resource} (hdistinct : (r.attributes.map (·.name)).Nodup)

include hdistinct

theorem get?_updateParams (q : Request) {a : Attribute} (ha : a ∈ r.attributes)
    (hc : a.type.isChildren = false) : Members.get? (updateParams r q) a.name = q.value? a :=
  q.get?_params ((List.filter_sublist.map _).nodup hdistinct)
    (List.mem_filter.mpr ⟨ha, by simp [hc]⟩) hc

theorem suppliesText_updateParams (q : Request) :
    Record.SuppliesText r (fun a => Members.get? (updateParams r q) a.name) ↔
      Record.SuppliesText r q.value? := by
  refine exists_congr fun a => and_congr_right fun ha => and_congr_right fun _ =>
    and_congr_right fun hc => ?_
  dsimp only
  rw [get?_updateParams hdistinct q ha hc]

/-- A patch names the owner that was supplied. -/
theorem get?_completePatch_parent (hnames : r.NamesFree) (q : Request) {d : Document} {now : Time.Instant}
    {a : Attribute} (ha : a ∈ r.attributes) {owner field : String}
    (htype : a.type = .relation (.parent owner field)) :
    Members.get? (completePatch r (updateParams r q) d now) a.name = q.value? a := by
  have hc := Attribute.isChildren_of_parent htype
  rw [get?_completePatch_attribute hdistinct hnames ha hc, get?_updateParams hdistinct q ha hc, htype,
    Record.map_stored_relation]

/-- To merge the patch of an update into a record is to revise it. -/
theorem revises_merge (hnames : r.NamesFree) {d : Document} (hd : Document.Fits r d) (q : Request)
    (now : Time.Instant) :
    Document.Revises r q now d (Members.merge d (completePatch r (updateParams r q) d now)) := by
  have hreserved : ∀ {name : String}, name ∈ Schema.reserved → name ≠ updatedAtField → name ≠ searchField →
      Members.get? (Members.merge d (completePatch r (updateParams r q) d now)) name =
        Members.get? d name := fun hname hu hq =>
    Members.get?_merge_of_notMem d _ (reserved_notMem_completePatch hnames hname hu hq)
  obtain ⟨hanew, hsame⟩ := get?_merge_completePatch_search hdistinct hnames (updateParams r q) d now
  rw [suppliesText_updateParams hdistinct q] at hanew hsame
  refine ⟨?_, hreserved (by decide) (by decide) (by decide),
    hreserved (by decide) (by decide) (by decide), fun a ha hc => ?_, fun a ha hc => ?_, ?_, hanew, hsame⟩
  · exact (hd.merge hdistinct hnames).keys.trans hd.keys.symm
  · exact Members.get?_merge_of_notMem d _ (children_notMem_completePatch hdistinct hnames ha hc)
  · rw [get?_merge_completePatch hdistinct hnames ha hc, get?_updateParams hdistinct q ha hc]
  · rw [Members.get?_merge d (nodup_keys_completePatch hdistinct), get?_completePatch_updatedAt]
    rfl

/-- A record and the request determine what an update makes of the record. -/
theorem revises_unique (hnames : r.NamesFree) {d e f : Document} (hd : Document.Fits r d) {q : Request}
    {now : Time.Instant} (he : Document.Revises r q now d e) (hf : Document.Revises r q now d f) : f = e := by
  have hkeys : Members.keys f = Members.keys e := hf.keys.trans he.keys.symm
  have hnodup : (Members.keys e).Nodup := he.keys ▸ hd.nodup_keys hdistinct hnames
  have hattribute : ∀ a ∈ r.attributes, Members.get? f a.name = Members.get? e a.name := by
    intro a ha
    cases hc : a.type.isChildren with
    | true => rw [hf.lists a ha hc, he.lists a ha hc]
    | false => rw [hf.values a ha hc, he.values a ha hc]
  have htext : Members.get? f searchField = Members.get? e searchField := by
    by_cases hsupplied : Record.SuppliesText r q.value?
    · rw [hf.newText hsupplied, he.newText hsupplied,
        Record.searchText_congr fun a ha _ => hattribute a ha]
    · rw [hf.oldText hsupplied, he.oldText hsupplied]
  refine Members.eq_of_get? hkeys hnodup fun name hname => ?_
  rw [he.keys, hd.keys] at hname
  simp only [List.cons_append, List.mem_cons, List.mem_append, List.not_mem_nil, or_false] at hname
  rcases hname with rfl | hname | rfl | rfl | rfl
  · rw [hf.identity, he.identity]
  · obtain ⟨a, ha, rfl⟩ := List.mem_map.mp hname
    exact hattribute a ha
  · rw [hf.createdAt, he.createdAt]
  · rw [hf.updatedAt, he.updatedAt]
  · exact htext

end

/-- A document of a store was put in the place of the one of its identity, and its record enrolled with the
owners that these values name, at the readings of the clock from the given one on. -/
def Replaced (r : Resource) (id : String) (value : Attribute → Option Value) (e : Document)
    (clock : Nat → Time.Instant) (n : Nat) (s t : Store) : Prop :=
  ∀ collection, t.documents collection = (s.documents collection).map fun x =>
    enrolled id (enrolments s value clock n r.attributes) collection
      (if collection = r.name ∧ Document.id? x = some id then e else x)

section
variable {r : Resource} {id : String} {value : Attribute → Option Value} {e : Document}
variable {clock : Nat → Time.Instant} {n : Nat} {s t : Store} (h : Replaced r id value e clock n s t)

include h

theorem Replaced.mem {collection : String} {x : Document} (hx : x ∈ s.documents collection) :
    enrolled id (enrolments s value clock n r.attributes) collection
      (if collection = r.name ∧ Document.id? x = some id then e else x) ∈ t.documents collection := by
  rw [h collection]
  exact List.mem_map.mpr ⟨x, hx, rfl⟩

theorem Replaced.ids (hfields : ∀ x ∈ enrolments s value clock n r.attributes, x.1.field ≠ idField)
    (he : Document.id? e = some id) (collection : String) :
    (t.documents collection).map Document.id? = (s.documents collection).map Document.id? := by
  rw [h collection, List.map_map]
  refine List.map_congr_left fun x _ => (id?_enrolled hfields).trans ?_
  split
  · rename_i hplace
    rw [he, hplace.2]
  · rfl

end

end Operation

/-- What a record is enrolled in depends on the values of its parent attributes. -/
theorem enrolments_congr_value {s : Store} {value other : Attribute → Option Value}
    {clock : Nat → Time.Instant} {n : Nat} {as : List Attribute}
    (h : ∀ a ∈ as, ∀ owner field, a.type = .relation (.parent owner field) → other a = value a) :
    enrolments s other clock n as = enrolments s value clock n as := by
  have hof : as.filterMap (Roll.of? s other) = as.filterMap (Roll.of? s value) := by
    refine List.filterMap_congr fun a ha => ?_
    unfold Roll.of?
    split
    · rename_i owner field htype
      rw [h a ha owner field htype]
    · rfl
  rw [enrolments, hof, enrolments]

namespace Operation

section
variable {env : Environment} {w : World} {i : Interface} {g : Registry} {r : Resource}
variable (hg : g.Consistent) (hdistinct : ∀ o ∈ g.resources, (o.attributes.map (·.name)).Nodup)
variable (hr : r ∈ g.resources) (hs : w.store.Intact g)

include hg hdistinct hr hs

omit hg hdistinct in
/-- Only the record of the identity changes by a patch. -/
theorem Patched.documents_eq {params : Members} {id : String} {patch d : Document} {u : Store}
    (h : Patched r params id patch w.store u) (hd : w.store.called r.name id = some d) (collection : String) :
    u.documents collection = (w.store.documents collection).map fun x =>
      if collection = r.name ∧ Document.id? x = some id then Members.merge d patch else x := by
  rw [h.store_eq, Store.documents_withDocuments]
  by_cases hname : r.name = collection
  · subst hname
    rw [if_pos rfl, changeFirst_eq_map (hs.identities r hr) hd, hs.id?_of_called hr hd]
    simp only [true_and]
  · rw [if_neg hname]
    simp only [Ne.symm hname, false_and, if_false]
    exact (List.map_id _).symm

/-- A record that is there gets its patch, and is enrolled with the owners that its supplied values name. -/
theorem achieves_update {id : String} {request : Request} :
    Service.Achieves env w (update i r id request) fun _ v =>
      Record.checkUnique r (updateParams r request) = [] ∧
        i.validator r (updateParams r request) true = [] ∧
        ReferencesHold (updateParams r request) r.relations w.store ∧
        ∃ d, w.store.called r.name id = some d ∧
          Replaced r id request.value? (Members.merge d
            (completePatch r (updateParams r request) d (env.clock w.readings))) env.clock
              (w.readings + 1) w.store v.store := by
  unfold update
  refine Service.achieves_require_bind fun hunique => Service.achieves_require_bind fun hcheck => ?_
  refine Service.achieves_bind achieves_checkRelated ?_
  rintro _ v ⟨hread, hv, hrefs⟩
  refine Service.achieves_byId_bind ?_
  rw [hv]
  cases hd : w.store.called r.name id with
  | none => exact Service.achieves_fail
  | some d =>
    refine Service.achieves_now_bind ?_
    dsimp only [Option.map_some, Document.project]
    rw [hread]
    generalize hpatch : completePatch r (request.params (r.attributes.filter fun a => !a.type.isChildren)) d
      (env.clock w.readings) = patch
    change completePatch r (updateParams r request) d (env.clock w.readings) = patch at hpatch
    refine Service.achieves_bind (R := fun updated u => updated.isSome = true ∧
      u.readings = w.readings + 1 ∧ Patched r (updateParams r request) id patch w.store u.store) ?_ ?_
    · refine Service.achieves_ask ?_
      simp only [Call.perform, Store.patchFirst_byId, hd]
      rintro _ ⟨⟩
      exact ⟨rfl, trivial, hrefs, hunique, ⟨d, _, hd, hpatch.symm⟩, rfl⟩
    · rintro updated u ⟨hsome, hread', hpatched⟩
      rw [if_pos hsome]
      have hu : u.store.Intact g := hs.patched hg (hdistinct r hr) hr hpatched
      refine Service.achieves_mono (achieves_appendToOwners hg hdistinct hr (fun _ ha => ha) hu) ?_
      intro _ t ht
      have hvalue : ∀ a ∈ r.attributes, ∀ owner field, a.type = .relation (.parent owner field) →
          Members.get? patch a.name = request.value? a := fun a ha _ _ htype =>
        hpatch ▸ get?_completePatch_parent (hdistinct r hr) (hg.namesFree hr) request ha htype
      rw [hread', enrolments_congr fun c => Store.holds_iff_of_ids (hpatched.ids (hg.namesFree hr) c),
        enrolments_congr_value hvalue] at ht
      refine ⟨hunique, hcheck, hrefs, d, rfl, fun collection => ?_⟩
      rw [hpatch, ht, hpatched.documents_eq hr hs hd, List.map_map]
      rfl

omit hdistinct in
/-- The owners that an update names are there. -/
theorem ReferencesHold.holds_owner (hnodup : (r.attributes.map (·.name)).Nodup) {request : Request}
    (h : ReferencesHold (updateParams r request) r.relations w.store) {a : Attribute}
    (ha : a ∈ r.attributes) {owner field x : String} (htype : a.type = .relation (.parent owner field))
    (hx : reference? (request.value? a) = some x) : w.store.Holds owner x := by
  have hrel : (a.name, Relation.parent owner field) ∈ r.relations :=
    Resource.mem_relations.mpr ⟨a, ha, rfl, htype⟩
  rw [← get?_updateParams hnodup request ha (Attribute.isChildren_of_parent htype)] at hx
  obtain ⟨d, hd⟩ := h a.name _ x hrel rfl hx
  obtain ⟨o, ho, rfl, -⟩ := hg.owner_of_relation hr hrel
  exact ⟨d, Store.mem_of_called hd, hs.id?_of_called ho hd⟩

end

/-- Two groups, of which the first has one person. -/
def annAndDev : History := annInOps ++ [Groups.newGroup "Dev"]

/-- The person moves to the second group and belongs to herself. -/
def moveAnn : Request := Groups.values [("group", .string "dev"), ("boss", .string "ann")]

end Operation

end Hypermedia
