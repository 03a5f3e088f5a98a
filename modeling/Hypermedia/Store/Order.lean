import Hypermedia.Filter.Match
import Hypermedia.Filter.Request
import Hypermedia.Store.Document

/-!
# Sorted reads

A stable sort by insertion: each element goes in front of the elements that have to come after it, as
far as it meets such ones from the end. On an order that is total and transitive the result is sorted,
and equal elements keep their places.
-/

namespace Hypermedia.Store

/-- An element put into a list that is read from its end. -/
def insertBack {α : Type} (less : α → α → Bool) (x : α) : List α → List α
  | [] => [x]
  | y :: ys => if less x y then y :: insertBack less x ys else x :: y :: ys

def sorted {α : Type} (less : α → α → Bool) (xs : List α) : List α :=
  (xs.foldl (fun done x => insertBack less x done) []).reverse

/-- The order of two documents by one key; a missing field counts as null. -/
def compareBy (key : String × Filter.Direction) (a b : Document) : Ordering :=
  let field (d : Document) : Value := (Members.get? d key.1).getD .null
  let o := Filter.sortOrder (field a) (field b)
  match key.2 with
  | .ascending => o
  | .descending => o.swap

/-- The order of two documents by several keys, the first that tells them apart. -/
def compareByAll : List (String × Filter.Direction) → Document → Document → Ordering
  | [], _, _ => .eq
  | key :: keys, a, b =>
    match compareBy key a b with
    | .eq => compareByAll keys a b
    | o => o

def farthest : Float := 1.7976931348623157e308

/-- The distance of a document's field from a point; a field without position is farthest. -/
def distanceOf (field : String) (origin : Geo.Position) (d : Document) : Float :=
  match (Members.get? d field).bind Geo.Position.ofValue? with
  | some p => Geo.distance origin p
  | none => farthest

/-- Documents in the order asked for; without one, a condition of nearness puts the nearest first. -/
def ordered (keys : List (String × Filter.Direction)) (c : Filter.Condition) (ds : List Document) :
    Except Error (List Document) :=
  if ¬ keys.isEmpty then .ok (sorted (fun a b => compareByAll keys a b == .lt) ds)
  else
    match Filter.Condition.near? c with
    | none => .ok ds
    | some (field, n) =>
      n.resolve.map fun circle =>
        let origin : Geo.Position := ⟨circle.lng, circle.lat⟩
        sorted (fun a b => distanceOf field origin a < distanceOf field origin b) ds

theorem insertBack_perm {α : Type} (less : α → α → Bool) (x : α) (ys : List α) :
    (insertBack less x ys).Perm (x :: ys) := by
  induction ys with
  | nil => exact List.Perm.refl _
  | cons y ys ih =>
    simp only [insertBack]
    split
    · exact (ih.cons y).trans (List.Perm.swap x y ys)
    · exact List.Perm.refl _

/-- Sorting loses and repeats nothing. -/
theorem sorted_perm {α : Type} (less : α → α → Bool) (xs : List α) : (sorted less xs).Perm xs := by
  have step : ∀ (xs done : List α),
      (xs.foldl (fun done x => insertBack less x done) done).Perm (xs ++ done) := by
    intro xs
    induction xs with
    | nil => intro done; exact List.Perm.refl _
    | cons x xs ih =>
      intro done
      refine (ih _).trans ?_
      refine ((insertBack_perm less x done).append_left xs).trans ?_
      exact List.perm_middle
  refine (List.reverse_perm _).trans ?_
  simpa using step xs []

end Hypermedia.Store
