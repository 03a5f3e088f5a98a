import Mathlib.Logic.Function.Basic
import Hypermedia.Proofs.Collections
import Hypermedia.Proofs.Conditions
import Hypermedia.Store.Program

/-!
# The store as ordered maps

A store refines a family of maps, one for each collection, from identities to documents in the order in
which they came. Some calls choose a document by a condition and others by its identity; because no two
documents of a collection share an identity, what changes is one entry of one map in either case.
-/

namespace Hypermedia

open Hypermedia.Filter (Condition Matcher Predicate)

/-! ### Lists without two elements of one key -/

section
variable {α β : Type} [DecidableEq β] {key : α → β} {test : α → Bool} {xs : List α} {x : α}

theorem changeFirst_eq_map (hd : (xs.map key).Nodup) (h : xs.find? test = some x) (change : α → α) :
    Store.changeFirst test change xs = xs.map fun y => if key y = key x then change x else y := by
  induction xs with
  | nil => cases h
  | cons y ys ih =>
    rw [List.map_cons, List.nodup_cons] at hd
    rw [Store.changeFirst, List.map_cons]
    cases hy : test y with
    | true =>
      obtain rfl : y = x := by simpa [hy] using h
      have hrest : ys.map (fun z => if key z = key y then change y else z) = ys := by
        conv_rhs => rw [← List.map_id ys]
        refine List.map_congr_left fun z hz => if_neg fun he : key z = key y => hd.1 ?_
        exact he ▸ List.mem_map_of_mem hz
      simp [hrest]
    | false =>
      have hfind : ys.find? test = some x := by simpa [hy] using h
      have hne : key y ≠ key x := fun he =>
        hd.1 (he ▸ List.mem_map_of_mem (List.mem_of_find?_eq_some hfind))
      simp [hne, ih hd.2 hfind]

theorem dropFirst_eq_filter (hd : (xs.map key).Nodup) (h : xs.find? test = some x) :
    Store.dropFirst test xs = xs.filter fun y => key y ≠ key x := by
  induction xs with
  | nil => cases h
  | cons y ys ih =>
    rw [List.map_cons, List.nodup_cons] at hd
    rw [Store.dropFirst, List.filter_cons]
    cases hy : test y with
    | true =>
      obtain rfl : y = x := by simpa [hy] using h
      have hrest : ys.filter (fun z => key z ≠ key y) = ys := by
        refine List.filter_eq_self.mpr fun z hz => decide_eq_true fun he => hd.1 ?_
        exact he ▸ List.mem_map_of_mem hz
      simpa using hrest.symm
    | false =>
      have hfind : ys.find? test = some x := by simpa [hy] using h
      have hne : key y ≠ key x := fun he =>
        hd.1 (he ▸ List.mem_map_of_mem (List.mem_of_find?_eq_some hfind))
      simp [hne, ih hd.2 hfind]

end

/-! ### Ordered maps -/

namespace Store

/-- Documents by their identities, in the order in which they came. -/
@[ext]
structure Shelf where
  documents : List Document
  named : ∀ d ∈ documents, (Document.id? d).isSome
  distinct : (documents.map Document.id?).Nodup

namespace Shelf

def empty : Shelf := ⟨[], by simp, by simp⟩

/-- A document under its identity: in the place of the one that has it, or at the end. -/
def put (h : Shelf) (id : String) (d : Document) (hd : Document.id? d = some id) : Shelf where
  documents :=
    if some id ∈ h.documents.map Document.id? then
      h.documents.map fun e => if Document.id? e = some id then d else e
    else h.documents ++ [d]
  named e he := by
    split at he
    · obtain ⟨x, hx, rfl⟩ := List.mem_map.mp he
      split
      · simp [hd]
      · exact h.named x hx
    · rcases List.mem_append.mp he with he | he
      · exact h.named e he
      · rw [List.mem_singleton.mp he, hd]
        rfl
  distinct := by
    split
    · have hsame : (h.documents.map fun e => if Document.id? e = some id then d else e).map Document.id? =
          h.documents.map Document.id? := by
        rw [List.map_map]
        refine List.map_congr_left fun e _ => ?_
        simp only [Function.comp_apply]
        split
        · rename_i he
          rw [hd, he]
        · rfl
      exact hsame ▸ h.distinct
    · rename_i hfresh
      rw [List.map_append, List.map_singleton, hd, ← List.concat_eq_append]
      exact h.distinct.concat hfresh

/-- The map without an identity. -/
def erase (h : Shelf) (id : String) : Shelf where
  documents := h.documents.filter fun d => Document.id? d ≠ some id
  named d hd := h.named d (List.mem_filter.mp hd).1
  distinct := h.distinct.sublist (List.filter_sublist.map _)

def matching (h : Shelf) (m : Matcher) : List Document := h.documents.filter (Matcher.accepts m)

def get? (h : Shelf) (id : String) : Option Document := h.documents.find? fun d => Document.id? d == some id

theorem documents_put (h : Shelf) {id : String} {d : Document} (hd : Document.id? d = some id) :
    (h.put id d hd).documents =
      if some id ∈ h.documents.map Document.id? then
        h.documents.map fun e => if Document.id? e = some id then d else e
      else h.documents ++ [d] := rfl

theorem id?_of_get? {h : Shelf} {id : String} {d : Document} (hd : h.get? id = some d) :
    Document.id? d = some id := by simpa using List.find?_some hd

theorem exists_get? {h : Shelf} {id : String} (hid : some id ∈ h.documents.map Document.id?) :
    ∃ d, h.get? id = some d := by
  obtain ⟨d, hd, hid⟩ := List.mem_map.mp hid
  exact Option.isSome_iff_exists.mp (List.find?_isSome.mpr ⟨d, hd, by simp [hid]⟩)

theorem get?_eq_none {h : Shelf} {id : String} (hid : some id ∉ h.documents.map Document.id?) :
    h.get? id = none := by
  refine List.find?_eq_none.mpr fun d hd he => hid ?_
  exact List.mem_map.mpr ⟨d, hd, by simpa using he⟩

theorem get?_put (h : Shelf) {id : String} {d : Document} (hd : Document.id? d = some id) (other : String) :
    (h.put id d hd).get? other = if other = id then some d else h.get? other := by
  rw [get?, documents_put]
  split
  · rename_i hmem
    have hsame : ∀ e : Document,
        Document.id? (if Document.id? e = some id then d else e) = Document.id? e := by
      intro e
      split
      · rename_i he
        rw [hd, he]
      · rfl
    have hfind : (h.documents.map fun e => if Document.id? e = some id then d else e).find?
        (fun e => Document.id? e == some other) =
          (h.get? other).map fun e => if Document.id? e = some id then d else e := by
      rw [List.find?_map, get?]
      simp only [Function.comp_def, hsame]
    rw [hfind]
    by_cases ho : other = id
    · subst ho
      obtain ⟨e, he⟩ := exists_get? hmem
      simp [he, id?_of_get? he]
    · rw [if_neg ho]
      cases he : h.get? other with
      | none => rfl
      | some e => simp [id?_of_get? he, ho]
  · rename_i hfresh
    rw [List.find?_append, List.find?_singleton, hd]
    by_cases ho : other = id
    · subst ho
      have hnone := get?_eq_none hfresh
      rw [get?] at hnone
      simp [hnone]
    · simp [get?, ho, Ne.symm ho]

theorem get?_erase (h : Shelf) (id other : String) :
    (h.erase id).get? other = if other = id then none else h.get? other := by
  rw [get?, erase, List.find?_filter]
  by_cases ho : other = id
  · subst ho
    simp
  · rw [if_neg ho, get?]
    congr 1
    funext e
    by_cases he : Document.id? e = some other <;> simp [he, ho]

end Shelf

/-- A map for each collection. -/
abbrev Catalog := String → Shelf

namespace Catalog

def empty : Catalog := fun _ => Shelf.empty

def set (a : Catalog) (collection : String) (h : Shelf) : Catalog := Function.update a collection h

end Catalog

end Store

/-! ### What calls do to ordered maps -/

/-- A pattern that cannot be read, or a place or a distance that is no number. -/
def Filter.Predicate.Senseless : Predicate → Prop
  | .pattern source => Regex.ofString? source = none
  | .near n => ∃ e, n.resolve = .error e
  | _ => False

namespace Call

/-- The call cannot be answered: its condition makes no sense, or its document has no text for an
identity. -/
def Senseless : Call → Prop
  | find _ c _ | count _ c | first _ c _ | patchFirst _ c _ | removeFirst _ c => ∃ x ∈ c, x.2.Senseless
  | save _ d => Store.Document.id? d = none
  | remove .. => False

/-- No patch sets the identity of the document that it changes. -/
def KeepsIds : Call → Prop
  | patchFirst _ _ patch => idField ∉ Members.keys patch
  | _ => True

end Call

namespace Store

/-- The part of a list that a read asks for. -/
def Options.window {α : Type} (o : Options) (xs : List α) : List α :=
  match o.limit with
  | some n => (xs.drop o.skip).take n
  | none => xs.drop o.skip

/-- What a call does to a family of ordered maps, and what it answers. -/
inductive Catalog.Does (a : Catalog) : (call : Call) → Except Error call.Answer → Catalog → Prop
  /-- A call without sense fails and changes nothing, whatever the collection holds. -/
  | failed {call : Call} (h : call.Senseless) (e : Error) : Does a call (.error e) a
  /-- A read answers the documents that meet its condition, in their order if it asks for no other. -/
  | found {collection : String} {c : Condition} {o : Options} {m : Matcher} {xs : List Document}
      (hm : Condition.prepare c = .ok m) (hperm : xs.Perm ((a collection).matching m))
      (horder : o.sort = [] → Condition.near? c = none → xs = (a collection).matching m) :
      Does a (.find collection c o) (.ok ((o.window xs).map (Document.project · o.fields))) a
  | counted {collection : String} {c : Condition} {m : Matcher} (hm : Condition.prepare c = .ok m) :
      Does a (.count collection c) (.ok ((a collection).matching m).length) a
  | first {collection : String} {c : Condition} {fields : Option (List String)} {m : Matcher}
      (hm : Condition.prepare c = .ok m) :
      Does a (.first collection c fields)
        (.ok (((a collection).matching m).head?.map (Document.project · fields))) a
  | patchedNone {collection : String} {c : Condition} {patch : Document} {m : Matcher}
      (hm : Condition.prepare c = .ok m) (hnone : (a collection).matching m = []) :
      Does a (.patchFirst collection c patch) (.ok none) a
  /-- A patch is merged into the first document that meets the condition, in its place. -/
  | patched {collection : String} {c : Condition} {patch : Document} {m : Matcher} {d : Document} {id : String}
      (hm : Condition.prepare c = .ok m) (hfirst : ((a collection).matching m).head? = some d)
      (hid : Document.id? d = some id) (hkept : Document.id? (Members.merge d patch) = some id) :
      Does a (.patchFirst collection c patch) (.ok (some (Members.merge d patch)))
        (a.set collection ((a collection).put id (Members.merge d patch) hkept))
  | removedNone {collection : String} {c : Condition} {m : Matcher}
      (hm : Condition.prepare c = .ok m) (hnone : (a collection).matching m = []) :
      Does a (.removeFirst collection c) (.ok none) a
  | removedFirst {collection : String} {c : Condition} {m : Matcher} {d : Document} {id : String}
      (hm : Condition.prepare c = .ok m) (hfirst : ((a collection).matching m).head? = some d)
      (hid : Document.id? d = some id) :
      Does a (.removeFirst collection c) (.ok (some d)) (a.set collection ((a collection).erase id))
  | saved {collection : String} {d : Document} {id : String} (hid : Document.id? d = some id) :
      Does a (.save collection d) (.ok ()) (a.set collection ((a collection).put id d hid))
  | removed (collection id : String) :
      Does a (.remove collection id) (.ok ()) (a.set collection ((a collection).erase id))

/-! ### The store does it -/

/-- The store holds, in each collection, the documents of its map. -/
def Models (s : Store) (a : Catalog) : Prop := ∀ collection, s.documents collection = (a collection).documents

section
variable {s : Store} {a : Catalog} (h : s.Models a)

include h

theorem Models.set {collection : String} {ds : List Document} {shelf : Shelf} (hds : ds = shelf.documents) :
    (s.withDocuments collection ds).Models (a.set collection shelf) := by
  intro other
  rw [documents_withDocuments, Catalog.set, Function.update_apply]
  by_cases ho : collection = other
  · rw [if_pos ho, if_pos ho.symm, hds]
  · rw [if_neg ho, if_neg (Ne.symm ho), h]

theorem Models.matching_eq {c : Condition} {m : Matcher} (hm : Condition.prepare c = .ok m)
    (collection : String) : s.matching collection c = .ok ((a collection).matching m) := by
  rw [matching, hm, Shelf.matching, h]
  rfl

end

theorem Shelf.find?_eq (h : Shelf) (m : Matcher) :
    h.documents.find? (Matcher.accepts m) = (h.matching m).head? := (List.head?_filter ..).symm

/-- The first document that meets a condition has an identity. -/
theorem Shelf.id?_of_head? {h : Shelf} {m : Matcher} {d : Document} (hd : (h.matching m).head? = some d) :
    ∃ id, Document.id? d = some id := by
  have hmem : d ∈ h.matching m := List.mem_of_head? hd
  exact Option.isSome_iff_exists.mp (h.named d (List.mem_filter.mp hmem).1)

/-- To change the first document that passes a test is to put its new form under its identity. -/
theorem Shelf.changeFirst_documents {h : Shelf} {test : Document → Bool} {d : Document} {id : String}
    (hd : h.documents.find? test = some d) (hid : Document.id? d = some id) {change : Document → Document}
    (hkept : Document.id? (change d) = some id) :
    changeFirst test change h.documents = (h.put id (change d) hkept).documents := by
  have hmem : some id ∈ h.documents.map Document.id? :=
    hid ▸ List.mem_map_of_mem (List.mem_of_find?_eq_some hd)
  rw [changeFirst_eq_map h.distinct hd, documents_put, if_pos hmem, hid]

theorem Shelf.dropFirst_documents {h : Shelf} {test : Document → Bool} {d : Document} {id : String}
    (hd : h.documents.find? test = some d) (hid : Document.id? d = some id) :
    dropFirst test h.documents = (h.erase id).documents := by
  rw [dropFirst_eq_filter h.distinct hd, hid]
  rfl

theorem Shelf.place_documents (h : Shelf) {id : String} {d : Document} (hd : Document.id? d = some id) :
    place id d h.documents = (h.put id d hd).documents := by
  unfold place
  split
  · rename_i hany
    obtain ⟨e, he⟩ := Option.isSome_iff_exists.mp (List.find?_isSome.mpr (List.any_eq_true.mp hany))
    have hid : Document.id? e = some id := by simpa using List.find?_some he
    exact changeFirst_documents he hid hd
  · rename_i hfresh
    have hnone : some id ∉ h.documents.map Document.id? := by
      simpa [List.any_eq_true] using hfresh
    rw [documents_put, if_neg hnone]

/-! ### Calls without sense -/

theorem prepare_eq_error_iff (p : Predicate) : (∃ e, p.prepare = .error e) ↔ p.Senseless := by
  cases p with
  | exact v => simp [Predicate.prepare, Predicate.Senseless]
  | range least greatest => simp [Predicate.prepare, Predicate.Senseless]
  | oneOf vs => simp [Predicate.prepare, Predicate.Senseless]
  | pattern source =>
    cases hr : Regex.ofString? source <;> simp [Predicate.prepare, Predicate.Senseless, hr]
  | near n =>
    cases hr : n.resolve <;> simp [Predicate.prepare, Predicate.Senseless, hr, Except.map]

/-- A condition can be made ready unless one of its predicates makes no sense. -/
theorem condition_prepare_eq_error_iff (c : Condition) :
    (∃ e, Condition.prepare c = .error e) ↔ ∃ x ∈ c, x.2.Senseless := by
  induction c with
  | nil => simp [Condition.prepare]
  | cons x c ih =>
    obtain ⟨field, p⟩ := x
    rw [List.exists_mem_cons_iff, ← ih, ← prepare_eq_error_iff]
    simp only [Condition.prepare]
    cases p.prepare <;> cases Condition.prepare c <;> simp [bind, Except.bind, pure, Except.pure]

theorem exists_prepare {c : Condition} (h : ¬ ∃ x ∈ c, x.2.Senseless) : ∃ m, Condition.prepare c = .ok m := by
  rw [← condition_prepare_eq_error_iff] at h
  cases hc : Condition.prepare c with
  | error e => exact absurd ⟨e, hc⟩ h
  | ok m => exact ⟨m, rfl⟩

theorem perform_senseless (s : Store) {call : Call} (h : call.Senseless) :
    ∃ e, call.perform s = (.error e, s) := by
  cases call with
  | save collection d =>
    refine ⟨.invalidQuery "document has no string id", ?_⟩
    rw [Call.perform, save_of_no_id s collection h]
  | remove collection id => exact h.elim
  | find collection c o =>
    obtain ⟨e, he⟩ := (condition_prepare_eq_error_iff c).mpr h
    refine ⟨e, ?_⟩
    simp only [Call.perform, find, matching, he]
    rfl
  | count collection c =>
    obtain ⟨e, he⟩ := (condition_prepare_eq_error_iff c).mpr h
    refine ⟨e, ?_⟩
    simp only [Call.perform, count, matching, he]
    rfl
  | first collection c fields =>
    obtain ⟨e, he⟩ := (condition_prepare_eq_error_iff c).mpr h
    refine ⟨e, ?_⟩
    simp only [Call.perform, first, matching, he]
    rfl
  | patchFirst collection c patch =>
    obtain ⟨e, he⟩ := (condition_prepare_eq_error_iff c).mpr h
    refine ⟨e, ?_⟩
    simp [Call.perform, patchFirst, he, Except.map]
  | removeFirst collection c =>
    obtain ⟨e, he⟩ := (condition_prepare_eq_error_iff c).mpr h
    refine ⟨e, ?_⟩
    simp [Call.perform, removeFirst, he, Except.map]

theorem sensible {c : Condition} {m : Matcher} (hm : Condition.prepare c = .ok m) :
    ¬ ∃ x ∈ c, x.2.Senseless := by
  intro hsense
  obtain ⟨e, he⟩ := (condition_prepare_eq_error_iff c).mpr hsense
  rw [hm] at he
  cases he

section
variable {a b : Catalog} {call : Call}

/-- Ordered maps answer calls that make sense only. -/
theorem Catalog.Does.sensible {r : call.Answer} (h : a.Does call (.ok r) b) : ¬ call.Senseless := by
  cases h with
  | found hm => exact Store.sensible hm
  | counted hm => exact Store.sensible hm
  | first hm => exact Store.sensible hm
  | patchedNone hm => exact Store.sensible hm
  | patched hm => exact Store.sensible hm
  | removedNone hm => exact Store.sensible hm
  | removedFirst hm => exact Store.sensible hm
  | saved hid => exact fun hnone => nomatch hid.symm.trans hnone
  | removed => exact id

/-- Ordered maps fail without sense only, and then stay as they are. -/
theorem Catalog.Does.unchanged {e : Error} (h : a.Does call (.error e) b) : call.Senseless ∧ b = a := by
  cases h with
  | failed hsense => exact ⟨hsense, rfl⟩

end

/-! ### One call -/

section
variable {s : Store} {a : Catalog} (h : s.Models a) (collection : String) {c : Condition} {m : Matcher}
variable (hm : Condition.prepare c = .ok m)

include h

theorem Models.save {d : Document} {id : String} (hid : Document.id? d = some id) :
    ∃ b, a.Does (.save collection d) (Call.perform s (.save collection d)).1 b ∧
      (Call.perform s (.save collection d)).2.Models b := by
  have hsave := save_of_id? s collection hid
  rw [h collection, Shelf.place_documents _ hid] at hsave
  rw [Call.perform, hsave]
  exact ⟨_, .saved hid, h.set rfl⟩

theorem Models.remove (id : String) :
    (s.remove collection id).Models (a.set collection ((a collection).erase id)) := by
  refine h.set ?_
  rw [h collection]
  refine List.filter_congr fun d _ => ?_
  rw [Bool.eq_iff_iff, bne_iff_ne, decide_eq_true_iff]

include hm

theorem Models.find (o : Options) : a.Does (.find collection c o) (s.find collection c o) a := by
  have hmatching := h.matching_eq hm collection
  obtain ⟨found, hfound⟩ := find_ok hmatching o
  rw [hfound]
  simp only [Store.find, hmatching, bind, Except.bind] at hfound
  cases hx : ordered o.sort c ((a collection).matching m) with
  | error e =>
    rw [hx] at hfound
    cases hfound
  | ok xs =>
    rw [hx] at hfound
    cases hfound
    refine .found hm (ordered_perm hx) fun hsort hnear => ?_
    rw [hsort, ordered, hnear] at hx
    cases hx
    rfl

theorem Models.patchFirst {patch : Document} (hpatch : idField ∉ Members.keys patch) :
    ∃ b, a.Does (.patchFirst collection c patch) (Call.perform s (.patchFirst collection c patch)).1 b ∧
      (Call.perform s (.patchFirst collection c patch)).2.Models b := by
  simp only [Call.perform, Store.patchFirst, hm, Except.map, h collection, Shelf.find?_eq]
  cases hfirst : ((a collection).matching m).head? with
  | none => exact ⟨a, .patchedNone hm (List.head?_eq_none_iff.mp hfirst), h⟩
  | some d =>
    obtain ⟨id, hid⟩ := Shelf.id?_of_head? hfirst
    have hkept : Document.id? (Members.merge d patch) = some id := by
      rw [Document.id?, Members.get?_merge_of_notMem d patch hpatch]
      exact hid
    refine ⟨_, .patched hm hfirst hid hkept, h.set ?_⟩
    exact Shelf.changeFirst_documents ((Shelf.find?_eq ..).trans hfirst) hid hkept

theorem Models.removeFirst :
    ∃ b, a.Does (.removeFirst collection c) (Call.perform s (.removeFirst collection c)).1 b ∧
      (Call.perform s (.removeFirst collection c)).2.Models b := by
  simp only [Call.perform, Store.removeFirst, hm, Except.map, h collection, Shelf.find?_eq]
  cases hfirst : ((a collection).matching m).head? with
  | none => exact ⟨a, .removedNone hm (List.head?_eq_none_iff.mp hfirst), h⟩
  | some d =>
    obtain ⟨id, hid⟩ := Shelf.id?_of_head? hfirst
    refine ⟨_, .removedFirst hm hfirst hid, h.set ?_⟩
    exact Shelf.dropFirst_documents ((Shelf.find?_eq ..).trans hfirst) hid

end

/-- A call does to the store what it does to its ordered maps. -/
theorem Models.perform {s : Store} {a : Catalog} (h : s.Models a) (call : Call) (hkeeps : call.KeepsIds) :
    ∃ b, a.Does call (call.perform s).1 b ∧ (call.perform s).2.Models b := by
  by_cases hsense : call.Senseless
  · obtain ⟨e, he⟩ := perform_senseless s hsense
    rw [he]
    exact ⟨a, .failed hsense e, h⟩
  · cases call with
    | find collection c o =>
      obtain ⟨m, hm⟩ := exists_prepare hsense
      exact ⟨a, h.find collection hm o, h⟩
    | count collection c =>
      obtain ⟨m, hm⟩ := exists_prepare hsense
      have hcount : s.count collection c = .ok ((a collection).matching m).length := by
        rw [count, h.matching_eq hm]
        rfl
      refine ⟨a, ?_, h⟩
      rw [Call.perform, hcount]
      exact .counted hm
    | first collection c fields =>
      obtain ⟨m, hm⟩ := exists_prepare hsense
      have hfirst : s.first collection c fields =
          .ok (((a collection).matching m).head?.map (Document.project · fields)) := by
        rw [first, h.matching_eq hm]
        rfl
      refine ⟨a, ?_, h⟩
      rw [Call.perform, hfirst]
      exact .first hm
    | patchFirst collection c patch =>
      obtain ⟨m, hm⟩ := exists_prepare hsense
      exact h.patchFirst collection hm hkeeps
    | removeFirst collection c =>
      obtain ⟨m, hm⟩ := exists_prepare hsense
      exact h.removeFirst collection hm
    | save collection d =>
      obtain ⟨id, hid⟩ := Option.ne_none_iff_exists'.mp hsense
      exact h.save collection hid
    | remove collection id => exact ⟨_, .removed collection id, h.remove collection id⟩

/-! ### Runs of calls -/

/-- What a call was answered. -/
structure Reply where
  call : Call
  answer : Except Error call.Answer

/-- Calls one after the other, with what they are answered and the store after them. -/
def performAll (s : Store) : List Call → List Reply × Store
  | [] => ([], s)
  | call :: calls =>
    let (r, s) := call.perform s
    let (rs, s) := performAll s calls
    (⟨call, r⟩ :: rs, s)

theorem performAll_cons (s : Store) (call : Call) (calls : List Call) :
    performAll s (call :: calls) =
      (⟨call, (call.perform s).1⟩ :: (performAll (call.perform s).2 calls).1,
        (performAll (call.perform s).2 calls).2) := rfl

/-- Every call is replied to, in their order. -/
theorem calls_performAll (s : Store) (calls : List Call) :
    (performAll s calls).1.map (·.call) = calls := by
  induction calls generalizing s with
  | nil => rfl
  | cons call calls ih => rw [performAll_cons, List.map_cons, ih]

/-- Replies that a family of ordered maps gives one after the other. -/
inductive Catalog.Runs : Catalog → List Reply → Catalog → Prop
  | nil (a : Catalog) : Runs a [] a
  | cons {a b z : Catalog} {r : Reply} {rs : List Reply} (h : a.Does r.call r.answer b) (rest : Runs b rs z) :
      Runs a (r :: rs) z

theorem Models.performAll {s : Store} {a : Catalog} (h : s.Models a) {calls : List Call}
    (hkeeps : ∀ call ∈ calls, call.KeepsIds) :
    ∃ b, a.Runs (performAll s calls).1 b ∧ (performAll s calls).2.Models b := by
  induction calls generalizing s a with
  | nil => exact ⟨a, .nil a, h⟩
  | cons call calls ih =>
    rw [List.forall_mem_cons] at hkeeps
    obtain ⟨b, hdoes, hb⟩ := h.perform call hkeeps.1
    obtain ⟨z, hruns, hz⟩ := ih hb hkeeps.2
    exact ⟨z, .cons hdoes hruns, hz⟩

theorem models_empty : Store.empty.Models Catalog.empty := fun _ => rfl

/-- Whatever calls an empty store gets, as long as no patch sets an identity, its collections are ordered maps
whose documents have texts for their identities, no two the same, and every call does to the store what
it does to these maps: a failed call nothing, and any other call at most one entry of one map. -/
theorem store_refines_ordered_maps {calls : List Call} (hkeeps : ∀ call ∈ calls, call.KeepsIds) :
    ∃ a, Catalog.empty.Runs (performAll empty calls).1 a ∧ (performAll empty calls).2.Models a :=
  models_empty.performAll hkeeps

/-! ### A run of calls -/

namespace Shelves

/-- Two groups are saved and the first one is changed; a count with an unclosed pattern fails although there is
nothing to count, and the second group is removed. -/
def calls : List Call :=
  [.save "group" [("id", .string "b"), ("mood", .string "low")],
    .save "group" [("id", .string "a"), ("mood", .string "low")],
    .patchFirst "group" [("mood", .exact (.string "low"))] [("mood", .string "high")],
    .count "nowhere" [("mood", .pattern "(")],
    .removeFirst "group" [("mood", .exact (.string "low"))]]

end Shelves

theorem store_refines_ordered_maps_groups :
    (∀ call ∈ Shelves.calls, call.KeepsIds) ∧
      ∃ a, Catalog.empty.Runs (performAll empty Shelves.calls).1 a ∧
        (performAll empty Shelves.calls).2.Models a ∧
        (a "group").documents = [[("id", .string "b"), ("mood", .string "high")]] := by
  have hkeeps : ∀ call ∈ Shelves.calls, call.KeepsIds := by
    simp [Shelves.calls, Call.KeepsIds, Members.keys, idField]
  obtain ⟨a, hruns, hmodels⟩ := store_refines_ordered_maps hkeeps
  have hleft : (performAll empty Shelves.calls).2.documents "group" =
      [[("id", .string "b"), ("mood", .string "high")]] := by rfl
  exact ⟨hkeeps, a, hruns, hmodels, (hmodels "group").symm.trans hleft⟩

end Store

end Hypermedia
