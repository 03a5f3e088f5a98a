import Hypermedia.Proofs.Catalog
import Hypermedia.Proofs.Intact
import Hypermedia.Proofs.Success

/-!
# Enrolment with owners

Whoever writes a record reads, changes and saves the document of each owner that the record names, one
after another. Taken together these writes change the documents of the owners in their places, by values
under names that are there: the lists that name the record now, and the times of change.
-/

namespace Hypermedia

open Program (Environment World)
open Store (Document)

/-! ### Rolls and enrolments -/

instance (s : Store) (collection id : String) : Decidable (s.Holds collection id) :=
  inferInstanceAs (Decidable (∃ d ∈ s.documents collection, Document.id? d = some id))

/-- A list that an owner keeps of its children. -/
structure Roll where
  owner : String
  id : String
  field : String

/-- The roll is one of this document. -/
def Roll.isOf (x : Roll) (collection : String) (d : Document) : Bool :=
  x.owner == collection && Document.id? d == some x.id

/-- The roll for a record that an attribute points at, if its value names an owner that is there. -/
def Roll.of? (s : Store) (value : Attribute → Option Value) (a : Attribute) : Option Roll :=
  match a.type with
  | .relation (.parent owner field) =>
    ((Operation.reference? (value a)).filter fun id => s.Holds owner id).map fun id => ⟨owner, id, field⟩
  | _ => none

/-- The rolls for a record with these values, in the order of its attributes, each with a reading of the
clock of its own. -/
def enrolments (s : Store) (value : Attribute → Option Value) (clock : Nat → Time.Instant) (n : Nat)
    (as : List Attribute) : List (Roll × Time.Instant) :=
  ((as.filterMap (Roll.of? s value)).zipIdx n).map fun x => (x.1, clock x.2)

/-- A list with a child at its end, unless it has the child already. -/
def enlisted (child : String) : Value → Value
  | .array xs => .array (if xs.any (·.string? == some child) then xs else xs ++ [.string child])
  | v => v

/-- What enrolments of a child in a document make of one of its values. -/
def enrolledValue (child : String) (xs : List (Roll × Time.Instant)) (name : String) (v : Value) : Value :=
  if name = updatedAtField then xs.foldl (fun v x => .string (Record.bumped (some v) x.2)) v
  else if xs.any (·.1.field == name) then enlisted child v
  else v

/-- A document after enrolments of a child: those in rolls of this document change its lists and its time
of change. -/
def enrolled (child : String) (xs : List (Roll × Time.Instant)) (collection : String) (d : Document) :
    Document :=
  d.map fun m => (m.1, enrolledValue child (xs.filter (·.1.isOf collection d)) m.1 m.2)

/-- A store after enrolments of a child: every document is in its place. -/
def Store.Enrolled (s : Store) (child : String) (xs : List (Roll × Time.Instant)) (t : Store) : Prop :=
  ∀ collection, t.documents collection = (s.documents collection).map (enrolled child xs collection)

/-! ### One value -/

theorem enlisted_enlisted (child : String) (v : Value) :
    enlisted child (enlisted child v) = enlisted child v := by
  cases v with
  | array xs =>
    have hmore : (xs ++ [Value.string child]).any (·.string? == some child) = true := by
      simp [Value.string?]
    cases h : xs.any (·.string? == some child) with
    | true => simp only [enlisted, h, if_true]
    | false => simp only [enlisted, h, hmore, Bool.false_eq_true, if_false, if_true]
  | _ => rfl

theorem withChild_eq_enlisted (child : String) (xs : List Value) :
    Operation.withChild (some (.array xs)) child = enlisted child (.array xs) := by
  have hsame : ∀ x : Value, x.same (.string child) = (x.string? == some child) := by
    intro x
    cases x <;> simp [Value.same, Value.string?]
  simp only [Operation.withChild, enlisted, hsame]

section
variable {child name : String} {xs ys : List (Roll × Time.Instant)} {v : Value}

theorem enrolledValue_nil : enrolledValue child [] name v = v := by
  simp [enrolledValue]

/-- Enrolments one after another. -/
theorem enrolledValue_append : enrolledValue child (xs ++ ys) name v =
    enrolledValue child ys name (enrolledValue child xs name v) := by
  by_cases hu : name = updatedAtField
  · simp only [enrolledValue, if_pos hu, List.foldl_append]
  · simp only [enrolledValue, if_neg hu, List.any_append]
    cases xs.any (·.1.field == name) <;> cases ys.any (·.1.field == name) <;>
      simp [enlisted_enlisted]

end

/-! ### One document -/

section
variable {child collection : String} {xs ys : List (Roll × Time.Instant)} {d : Document}

theorem get?_enrolled (name : String) : Members.get? (enrolled child xs collection d) name =
    (Members.get? d name).map (enrolledValue child (xs.filter (·.1.isOf collection d)) name) :=
  Members.get?_map_named _ d name

/-- Enrolments with other owners leave a document as it is. -/
theorem enrolled_of_none (h : ∀ x ∈ xs, x.1.isOf collection d = false) :
    enrolled child xs collection d = d := by
  have hnil : xs.filter (·.1.isOf collection d) = [] := by
    rw [List.filter_eq_nil_iff]
    intro x hx
    rw [h x hx]
    decide
  simp only [enrolled, hnil, enrolledValue_nil]
  exact List.map_id d

theorem get?_enrolled_other {name : String} (hu : name ≠ updatedAtField)
    (hx : ∀ x ∈ xs, x.1.owner = collection → x.1.field ≠ name) :
    Members.get? (enrolled child xs collection d) name = Members.get? d name := by
  have hany : (xs.filter (·.1.isOf collection d)).any (·.1.field == name) = false := by
    rw [List.any_eq_false]
    intro x hm
    obtain ⟨hm, hof⟩ := List.mem_filter.mp hm
    have howner : x.1.owner = collection := by
      simp only [Roll.isOf, Bool.and_eq_true, beq_iff_eq] at hof
      exact hof.1
    simpa using hx x hm howner
  have hkept : enrolledValue child (xs.filter (·.1.isOf collection d)) name = id := by
    funext v
    simp only [enrolledValue, if_neg hu, hany]
    rfl
  rw [get?_enrolled, hkept, Option.map_id_apply]

variable (hxs : ∀ x ∈ xs, x.1.field ≠ idField)

include hxs

theorem id?_enrolled : Document.id? (enrolled child xs collection d) = Document.id? d := by
  rw [Document.id?, get?_enrolled_other (by decide) fun x hx _ => hxs x hx]
  rfl

theorem enrolled_append : enrolled child (xs ++ ys) collection d =
    enrolled child ys collection (enrolled child xs collection d) := by
  have hof : ∀ x : Roll, x.isOf collection (enrolled child xs collection d) = x.isOf collection d := by
    intro x
    rw [Roll.isOf, id?_enrolled hxs, Roll.isOf]
  have hlast : enrolled child ys collection (enrolled child xs collection d) =
      (enrolled child xs collection d).map fun m =>
        (m.1, enrolledValue child (ys.filter (·.1.isOf collection d)) m.1 m.2) := by
    rw [enrolled]
    simp only [hof]
  rw [hlast, enrolled, enrolled, List.map_map]
  refine List.map_congr_left fun m _ => ?_
  rw [List.filter_append, enrolledValue_append]
  rfl

end

/-- To list a child in a record's list, with the time of that, is one enrolment. -/
theorem withListed_eq_enrolled {o : Resource} (hdistinct : (o.attributes.map (·.name)).Nodup)
    (hnames : o.NamesFree) {d : Document} (hd : Document.Fits o d) {id : String}
    (hid : Document.id? d = some id) {b : Attribute} (hb : b ∈ o.attributes)
    (hc : b.type.isChildren = true) (child : String) (t : Time.Instant) :
    Operation.withListed b.name child t d = enrolled child [(⟨o.name, id, b.name⟩, t)] o.name d := by
  have hnodup : (Members.keys d).Nodup := hd.nodup_keys hdistinct hnames
  have hu : b.name ≠ updatedAtField := hnames.ne hb (by decide)
  have hfield : b.name ∈ Members.keys d := by
    rw [hd.keys]
    simp [List.mem_map_of_mem hb]
  have hupdated : updatedAtField ∈ Members.keys d := by
    rw [hd.keys]
    simp
  obtain ⟨ids, hids, -⟩ := hd.lists b hb hc
  have hof : Roll.isOf ⟨o.name, id, b.name⟩ o.name d = true := by simp [Roll.isOf, hid]
  have hkeys := Members.keys_set_of_mem (Operation.withChild (Members.get? d b.name) child) hfield
  rw [Operation.withListed, Members.get?_set, if_neg hu, Members.set_eq_map (hkeys ▸ hnodup)
    (hkeys ▸ hupdated), Members.set_eq_map hnodup hfield, List.map_map, enrolled]
  refine List.map_congr_left fun m hm => ?_
  have hvalue : Members.get? d m.1 = some m.2 := Members.get?_of_mem hnodup hm
  simp only [Function.comp_apply, List.filter_cons, List.filter_nil, hof, if_true, enrolledValue,
    List.foldl_cons, List.foldl_nil, List.any_cons, List.any_nil, Bool.or_false, beq_iff_eq]
  by_cases hmu : m.1 = updatedAtField
  · rw [if_pos hmu, if_pos hmu, ← hvalue, hmu]
  · rw [if_neg hmu, if_neg hmu]
    by_cases hmb : m.1 = b.name
    · rw [hmb, hids] at hvalue
      rw [if_pos hmb, if_pos hmb.symm, hids, withChild_eq_enlisted, Option.some.inj hvalue]
    · rw [if_neg hmb, if_neg (Ne.symm hmb)]

/-! ### Stores -/

namespace Store

section
variable {child : String} {xs ys : List (Roll × Time.Instant)} {s t u : Store}

theorem enrolled_nil (s : Store) : s.Enrolled child [] s := by
  intro collection
  refine ((List.map_congr_left fun d _ => ?_).trans (List.map_id _)).symm
  exact enrolled_of_none nofun

variable (hxs : ∀ x ∈ xs, x.1.field ≠ idField)

include hxs

theorem Enrolled.append (h : s.Enrolled child xs t) (h' : t.Enrolled child ys u) :
    s.Enrolled child (xs ++ ys) u := by
  intro collection
  rw [h' collection, h collection, List.map_map]
  exact List.map_congr_left fun d _ => (enrolled_append hxs).symm

theorem Enrolled.ids (h : s.Enrolled child xs t) (collection : String) :
    (t.documents collection).map Document.id? = (s.documents collection).map Document.id? := by
  rw [h collection, List.map_map]
  exact List.map_congr_left fun d _ => id?_enrolled hxs

end

theorem holds_iff_of_ids {s t : Store} {collection : String} (h : (t.documents collection).map Document.id? =
    (s.documents collection).map Document.id?) (id : String) :
    t.Holds collection id ↔ s.Holds collection id := by
  have hmem : ∀ u : Store, u.Holds collection id ↔
      some id ∈ (u.documents collection).map Document.id? := fun _ => List.mem_map.symm
  rw [hmem, h, hmem]

/-- A record of a reached store is found under its identity. -/
theorem Intact.id?_of_called {g : Registry} {s : Store} (hs : s.Intact g) {o : Resource}
    (ho : o ∈ g.resources) {id : String} {d : Document} (hd : s.called o.name id = some d) :
    Document.id? d = some id := by
  obtain ⟨x, hx, -⟩ := (hs.forms o ho d (mem_of_called hd)).identity
  exact Document.id?_eq_of_isFoundBy (isFoundBy_of_called hd) (by rw [hx]; rfl)

/-- To save an owner with one more child is one enrolment in the store. -/
theorem Intact.enrolled_save {g : Registry} {s : Store} (hs : s.Intact g) {o : Resource}
    (ho : o ∈ g.resources) (hdistinct : (o.attributes.map (·.name)).Nodup) (hnames : o.NamesFree)
    {id : String} {d : Document} (hd : s.called o.name id = some d) {b : Attribute}
    (hb : b ∈ o.attributes) (hc : b.type.isChildren = true) (child : String) (now : Time.Instant) :
    s.Enrolled child [(⟨o.name, id, b.name⟩, now)]
      ((Call.save o.name (Operation.withListed b.name child now d)).perform s).2 := by
  have hid : Document.id? d = some id := hs.id?_of_called ho hd
  have hsaved : Document.id? (Operation.withListed b.name child now d) = some id :=
    (Operation.id?_withListed (hnames.ne hb (by decide))).trans hid
  obtain ⟨hplace, hfind⟩ := place_of_find? hd hid (Operation.withListed b.name child now d)
  simp only [Call.perform, save_of_id? s o.name hsaved, hplace,
    changeFirst_eq_map (hs.identities o ho) hfind, hid]
  intro collection
  rw [documents_withDocuments]
  by_cases hother : o.name = collection
  · subst hother
    rw [if_pos rfl]
    refine List.map_congr_left fun e he => ?_
    by_cases hide : Document.id? e = some id
    · obtain rfl : e = d := List.inj_on_of_nodup_map (hs.identities o ho) he (mem_of_called hd)
        (hide.trans hid.symm)
      rw [if_pos hide, withListed_eq_enrolled hdistinct hnames (hs.forms o ho e he) hid hb hc]
    · rw [if_neg hide, enrolled_of_none]
      simpa [Roll.isOf] using hide
  · rw [if_neg hother]
    refine ((List.map_congr_left fun e _ => enrolled_of_none ?_).trans (List.map_id _)).symm
    simp [Roll.isOf, hother]

end Store

/-! ### The owners of a record -/

section
variable {s t : Store} {value : Attribute → Option Value} {clock : Nat → Time.Instant} {n : Nat}
variable {a : Attribute} {as : List Attribute}

theorem enrolments_congr (h : ∀ collection id, t.Holds collection id ↔ s.Holds collection id) :
    enrolments t value clock n as = enrolments s value clock n as := by
  have hof : Roll.of? t value = Roll.of? s value := by
    funext a
    simp only [Roll.of?, h]
  rw [enrolments, hof, enrolments]

theorem enrolments_nil_of_none (h : Roll.of? s value a = none) : enrolments s value clock n [a] = [] := by
  rw [enrolments, List.filterMap_cons, h]
  rfl

theorem enrolments_singleton {x : Roll} (h : Roll.of? s value a = some x) :
    enrolments s value clock n [a] = [(x, clock n)] := by
  rw [enrolments, List.filterMap_cons, h]
  rfl

/-- Each enrolment takes one reading of the clock, so those of the first attribute put off the others. -/
theorem enrolments_cons : enrolments s value clock n (a :: as) = enrolments s value clock n [a] ++
    enrolments s value clock (n + (enrolments s value clock n [a]).length) as := by
  cases h : Roll.of? s value a with
  | none =>
    rw [enrolments_nil_of_none h, enrolments, List.filterMap_cons, h]
    rfl
  | some x =>
    rw [enrolments_singleton h, enrolments, List.filterMap_cons, h]
    rfl

theorem Roll.of?_parent {owner field id : String} (htype : a.type = .relation (.parent owner field))
    (hid : Operation.reference? (value a) = some id) :
    Roll.of? s value a = if s.Holds owner id then some ⟨owner, id, field⟩ else none := by
  simp only [Roll.of?, htype, hid, Option.filter_some, decide_eq_true_eq]
  split <;> rfl

/-- Each roll is the list that a parent relation points at. -/
theorem mem_enrolments {x : Roll × Time.Instant} (hx : x ∈ enrolments s value clock n as) :
    ∃ a ∈ as, a.type = .relation (.parent x.1.owner x.1.field) ∧
      Operation.reference? (value a) = some x.1.id ∧ s.Holds x.1.owner x.1.id := by
  obtain ⟨y, hy, rfl⟩ := List.mem_map.mp hx
  obtain ⟨a, ha, hof⟩ := List.mem_filterMap.mp (List.fst_mem_of_mem_zipIdx hy)
  refine ⟨a, ha, ?_⟩
  unfold Roll.of? at hof
  split at hof
  · rename_i owner field htype
    obtain ⟨id, hid, he⟩ := Option.map_eq_some_iff.mp hof
    obtain ⟨hid, hholds⟩ := Option.filter_eq_some_iff.mp hid
    rw [← he]
    exact ⟨htype, hid, of_decide_eq_true hholds⟩
  · cases hof

end

namespace Operation

section
variable {env : Environment} {w : World} {g : Registry} {r : Resource}
variable (hg : g.Consistent) (hdistinct : ∀ o ∈ g.resources, (o.attributes.map (·.name)).Nodup)
variable (hr : r ∈ g.resources)

include hg hr

theorem field_ne_id {s : Store} {value : Attribute → Option Value} {clock : Nat → Time.Instant} {n : Nat}
    {as : List Attribute} (has : ∀ a ∈ as, a ∈ r.attributes) {x : Roll × Time.Instant}
    (hx : x ∈ enrolments s value clock n as) : x.1.field ≠ idField := by
  obtain ⟨a, ha, htype, -⟩ := mem_enrolments hx
  exact (ne_of_free (hg.listsFree hr _ _ _ (Resource.mem_relations.mpr ⟨a, has a ha, rfl, htype⟩))).1

include hdistinct

/-- An owner that was read goes back to its place with one enrolment more, and the store stays one of whole
records. -/
theorem achieves_saveListed (hs : w.store.Intact g) {o : Resource} (ho : o ∈ g.resources) {b : Attribute}
    (hb : b ∈ o.attributes) (hc : b.type.isChildren = true) {name : String}
    (hrel : (name, Relation.parent o.name b.name) ∈ r.relations) {values : Members} {child id : String}
    (hid : reference? (Members.get? values name) = some id) {d : Document}
    (hd : w.store.called o.name id = some d) (now : Time.Instant) {calls readings : Nat} :
    Service.Achieves env { w with calls, readings }
      (Service.ask (.save o.name (withListed b.name child now d))) fun _ v =>
        v.readings = readings ∧ w.store.Enrolled child [(⟨o.name, id, b.name⟩, now)] v.store ∧
          v.store.Intact g := by
  have hkept : Service.Achieves env { w with calls, readings } _ _ := Service.achieves_of_ends
    (P := fun _ t => w.store.Related (Bookkept r fun _ _ => True) t ∧ t.Lists o.name id b.name child)
    (ends_saveListed (hg.listsFree hr) trivial now hrel hid hd)
  have hsaved : Service.Achieves env { w with calls, readings }
      (Service.ask (.save o.name (withListed b.name child now d))) fun _ v =>
        v.readings = readings ∧ w.store.Enrolled child [(⟨o.name, id, b.name⟩, now)] v.store :=
    Service.achieves_ask fun _ _ =>
      ⟨rfl, hs.enrolled_save ho (hdistinct o ho) (hg.namesFree ho) hd hb hc child now⟩
  refine Service.achieves_mono (Service.achieves_and hsaved hkept) ?_
  rintro _ v ⟨⟨hreadings, henrolled⟩, hrelated, -⟩
  exact ⟨hreadings, henrolled, hs.bookkept hg hr hrelated⟩

/-- To list a record through one attribute is to enrol it with the owner that the attribute names, if that
owner is there, and it takes a reading of the clock for that. -/
theorem achieves_listWith {values : Members} {child : String} {a : Attribute} (ha : a ∈ r.attributes)
    {relation : Relation} (htype : a.type = .relation relation) (hs : w.store.Intact g) :
    Service.Achieves env w (listWith values child (a.name, relation)) fun _ v => v.store.Intact g ∧
      w.store.Enrolled child
        (enrolments w.store (fun a => Members.get? values a.name) env.clock w.readings [a]) v.store ∧
      v.readings = w.readings +
        (enrolments w.store (fun a => Members.get? values a.name) env.clock w.readings [a]).length := by
  have skip (calls : Nat) (h : Roll.of? w.store (fun a => Members.get? values a.name) a = none) :
      Service.Achieves env { w with calls } (pure ()) fun _ v => v.store.Intact g ∧
        w.store.Enrolled child
          (enrolments w.store (fun a => Members.get? values a.name) env.clock w.readings [a]) v.store ∧
        v.readings = w.readings +
          (enrolments w.store (fun a => Members.get? values a.name) env.clock w.readings [a]).length := by
    rw [enrolments_nil_of_none h]
    exact Service.achieves_pure ⟨hs, Store.enrolled_nil _, rfl⟩
  cases relation with
  | children target => exact skip w.calls (by simp [Roll.of?, htype])
  | reference target => exact skip w.calls (by simp [Roll.of?, htype])
  | parent owner field =>
    have hrel : (a.name, Relation.parent owner field) ∈ r.relations :=
      Resource.mem_relations.mpr ⟨a, ha, rfl, htype⟩
    obtain ⟨o, ho, rfl, b, hb, rfl, hc⟩ := hg.owner_of_relation hr hrel
    rw [listWith]
    cases hid : reference? (Members.get? values a.name) with
    | none => exact skip w.calls (by simp [Roll.of?, htype, hid])
    | some id =>
      have hof : Roll.of? w.store (fun a => Members.get? values a.name) a =
          if w.store.Holds o.name id then some ⟨o.name, id, b.name⟩ else none :=
        Roll.of?_parent htype hid
      refine Service.achieves_byId_bind ?_
      cases hd : w.store.called o.name id with
      | none =>
        rw [if_neg (Store.not_holds_of_called hd)] at hof
        exact skip _ hof
      | some d =>
        rw [if_pos ⟨d, Store.mem_of_called hd, hs.id?_of_called ho hd⟩] at hof
        rw [enrolments_singleton hof]
        refine Service.achieves_now_bind (Service.achieves_mono (achieves_saveListed hg hdistinct hr hs ho
          hb hc hrel hid hd (env.clock w.readings)) ?_)
        rintro _ v ⟨hreadings, hsaved, hv⟩
        exact ⟨hv, hsaved, hreadings⟩

/-- To list a record with its owners is to enrol it with them, at the next readings of the clock. -/
theorem achieves_appendToOwners {values : Members} {child : String} {as : List Attribute}
    (has : ∀ a ∈ as, a ∈ r.attributes) (hs : w.store.Intact g) :
    Service.Achieves env w
      (appendToOwners values child (as.filterMap fun a => a.type.relation?.map (a.name, ·)))
      fun _ v => w.store.Enrolled child
        (enrolments w.store (fun a => Members.get? values a.name) env.clock w.readings as) v.store := by
  induction as generalizing w with
  | nil => exact Service.achieves_pure (Store.enrolled_nil _)
  | cons a rest ih =>
    obtain ⟨ha, hrest⟩ := List.forall_mem_cons.mp has
    rw [List.filterMap_cons]
    cases htype : a.type with
    | relation relation =>
      rw [FieldType.relation?, Option.map_some, appendToOwners_cons]
      refine Service.achieves_bind (achieves_listWith hg hdistinct hr ha htype hs) ?_
      rintro _ v ⟨hv, hfirst, hreadings⟩
      refine Service.achieves_mono (ih hrest hv) fun _ u hu => ?_
      have hfield : ∀ x ∈ enrolments w.store (fun a => Members.get? values a.name) env.clock w.readings
          [a], x.1.field ≠ idField :=
        fun x hx => field_ne_id hg hr (List.forall_mem_singleton.mpr ha) hx
      rw [hreadings, enrolments_congr fun c => Store.holds_iff_of_ids (hfirst.ids hfield c)] at hu
      exact enrolments_cons ▸ hfirst.append hfield hu
    | _ =>
      -- An attribute that is no relation is no entry.
      rw [enrolments_cons, enrolments_nil_of_none (by simp only [Roll.of?, htype])]
      exact ih hrest hs

end

end Operation

end Hypermedia
