import Hypermedia.Proofs.Lists
import Hypermedia.Proofs.Members

/-!
# Documents by identity

What a store does with a condition that asks for an identity, and with a document that has one. A
document whose identity is a text is found by that text only.
-/

namespace Hypermedia.Store

open Hypermedia.Filter (Condition Matcher Test)

/-- A document is found by this identity. -/
def Document.isFoundBy (id : String) (d : Document) : Bool :=
  Matcher.accepts [(idField, .exact (.string id))] d

/-- The first document that is found by this identity. -/
def called (s : Store) (collection id : String) : Option Document :=
  (s.documents collection).find? (Document.isFoundBy id)

/-- A document of this identity is in the collection. -/
def Holds (s : Store) (collection id : String) : Prop :=
  ∃ d ∈ s.documents collection, Document.id? d = some id

/-- Every document has a text for its identity. -/
def Named (s : Store) : Prop := ∀ collection, ∀ d ∈ s.documents collection, (Document.id? d).isSome

namespace Document

theorem id?_eq_some_iff {d : Document} {id : String} :
    id? d = some id ↔ Members.get? d idField = some (.string id) := by
  unfold id?
  cases hv : Members.get? d idField with
  | none => simp
  | some v => cases v <;> simp [Value.string?]

theorem isFoundBy_of_id? {d : Document} {id : String} (h : id? d = some id) (other : String) :
    isFoundBy other d = (id == other) := by
  rw [id?_eq_some_iff] at h
  simp [isFoundBy, Matcher.accepts, h, Test.holds, Test.holdsOf, Filter.equals, Value.same]

theorem isFoundBy_id {d : Document} {id : String} (h : id? d = some id) : isFoundBy id d = true := by
  simp [isFoundBy_of_id? h]

theorem id?_eq_of_isFoundBy {d : Document} {id : String} (h : isFoundBy id d = true)
    (hs : (id? d).isSome) : id? d = some id := by
  obtain ⟨x, hx⟩ := Option.isSome_iff_exists.mp hs
  have he : x = id := by simpa [isFoundBy_of_id? hx] using h
  rw [hx, he]

theorem id?_set {d : Document} {name : String} (h : name ≠ idField) (v : Value) :
    id? (Members.set d name v) = id? d := by
  simp only [id?, Members.get?_set, if_neg h]

end Document

theorem not_holds_of_called {s : Store} {collection id : String} (h : s.called collection id = none) :
    ¬ s.Holds collection id := by
  rintro ⟨d, hd, hid⟩
  exact (List.find?_eq_none.mp h d hd) (Document.isFoundBy_id hid)

theorem mem_of_called {s : Store} {collection id : String} {d : Document}
    (h : s.called collection id = some d) : d ∈ s.documents collection := List.mem_of_find?_eq_some h

theorem isFoundBy_of_called {s : Store} {collection id : String} {d : Document}
    (h : s.called collection id = some d) : Document.isFoundBy id d = true := List.find?_some h

theorem id?_of_called {s : Store} (hs : s.Named) {collection id : String} {d : Document}
    (h : s.called collection id = some d) : Document.id? d = some id :=
  Document.id?_eq_of_isFoundBy (isFoundBy_of_called h) (hs collection d (mem_of_called h))

/-! ### Calls for an identity -/

theorem prepare_byId (id : String) :
    Condition.prepare (.byId id) = .ok [(idField, .exact (.string id))] := rfl

theorem first_byId (s : Store) (collection id : String) (fields : Option (List String)) :
    s.first collection (.byId id) fields =
      .ok ((s.called collection id).map (Document.project · fields)) := by
  simp only [first, matching, prepare_byId, Except.map, List.head?_filter]
  rfl

theorem patchFirst_byId (s : Store) (collection id : String) (patch : Document) :
    s.patchFirst collection (.byId id) patch =
      .ok (match s.called collection id with
        | none => (none, s)
        | some d => (some (Members.merge d patch), s.withDocuments collection
            (changeFirst (Document.isFoundBy id) (Members.merge · patch) (s.documents collection)))) := rfl

theorem removeFirst_byId (s : Store) (collection id : String) :
    s.removeFirst collection (.byId id) =
      .ok (match s.called collection id with
        | none => (none, s)
        | some d => (some d, s.withDocuments collection
            (dropFirst (Document.isFoundBy id) (s.documents collection)))) := rfl

/-! ### Saving -/

theorem save_of_id? (s : Store) (collection : String) {d : Document} {id : String}
    (h : Document.id? d = some id) :
    s.save collection d = .ok (s.withDocuments collection (place id d (s.documents collection))) := by
  simp only [save, Document.requireId, h]
  rfl

theorem save_of_no_id (s : Store) (collection : String) {d : Document} (h : Document.id? d = none) :
    s.save collection d = .error (.invalidQuery "document has no string id") := by
  simp only [save, Document.requireId, h]
  rfl

theorem place_of_fresh {s : Store} {collection id : String} (h : ¬ s.Holds collection id)
    (d : Document) : place id d (s.documents collection) = s.documents collection ++ [d] := by
  have hn : (s.documents collection).any (fun e => Document.id? e == some id) = false := by
    rw [List.any_eq_false]
    intro e he hid
    exact h ⟨e, he, by simpa using hid⟩
  simp [place, hn]

theorem mem_documents_append {s : Store} {name collection : String} {d e : Document} :
    e ∈ (s.withDocuments name (s.documents name ++ [d])).documents collection ↔
      e ∈ s.documents collection ∨ collection = name ∧ e = d := by
  rw [documents_withDocuments]
  by_cases hn : name = collection
  · subst hn
    simp
  · simp [hn, Ne.symm hn]

/-- A document that was read and keeps its identity goes back to its place. -/
theorem place_of_find? {ds : List Document} {id : String} {d : Document}
    (h : ds.find? (Document.isFoundBy id) = some d) (hd : Document.id? d = some id) (e : Document) :
    place id e ds = changeFirst (fun x => Document.id? x == some id) (fun _ => e) ds ∧
      ds.find? (fun x => Document.id? x == some id) = some d := by
  have hf : ds.find? (fun x => Document.id? x == some id) = some d := by
    apply find?_of_narrower h (by simp [hd])
    intro x hx
    exact Document.isFoundBy_id (by simpa using hx)
  have ha : ds.any (fun x => Document.id? x == some id) = true := by
    rw [List.any_eq_true]
    exact ⟨d, List.mem_of_find?_eq_some hf, by simp [hd]⟩
  exact ⟨by simp [place, ha], hf⟩

end Hypermedia.Store
