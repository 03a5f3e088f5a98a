import Hypermedia.Store.Order

/-!
# Collections

A store holds documents by collection, each collection in the order in which its documents came. Every
call reads or writes one collection, or refuses and leaves the store as it is.
-/

namespace Hypermedia

/-- How a read is windowed, sorted and projected. -/
structure Store.Options where
  fields : Option (List String) := none
  skip : Nat := 0
  limit : Option Nat := none
  sort : List (String × Filter.Direction) := []

structure Store where
  collections : List (String × List Store.Document)

namespace Store

def empty : Store := ⟨[]⟩

def documents (s : Store) (collection : String) : List Document :=
  ((s.collections.find? (·.1 == collection)).map (·.2)).getD []

/-- A collection put in the place of its old state, or at the end. -/
def putCollection (name : String) (ds : List Document) :
    List (String × List Document) → List (String × List Document)
  | [] => [(name, ds)]
  | (n, old) :: rest => if n = name then (n, ds) :: rest else (n, old) :: putCollection name ds rest

def withDocuments (s : Store) (collection : String) (ds : List Document) : Store :=
  ⟨putCollection collection ds s.collections⟩

/-- The documents of a collection that meet a condition, in their order. -/
def matching (s : Store) (collection : String) (c : Filter.Condition) : Except Error (List Document) :=
  (Filter.Condition.prepare c).map fun m => (s.documents collection).filter (Filter.Matcher.accepts m)

def changeFirst {α : Type} (test : α → Bool) (change : α → α) : List α → List α
  | [] => []
  | x :: xs => if test x then change x :: xs else x :: changeFirst test change xs

def dropFirst {α : Type} (test : α → Bool) : List α → List α
  | [] => []
  | x :: xs => if test x then xs else x :: dropFirst test xs

/-- The documents that meet a condition: sorted, windowed, projected. -/
def find (s : Store) (collection : String) (c : Filter.Condition) (o : Options) :
    Except Error (List Document) := do
  let found ← s.matching collection c
  let found ← ordered o.sort c found
  let found := found.drop o.skip
  let found := match o.limit with
    | some n => found.take n
    | none => found
  pure (found.map (Document.project · o.fields))

def count (s : Store) (collection : String) (c : Filter.Condition) : Except Error Nat :=
  (s.matching collection c).map List.length

/-- The first document that meets a condition, projected. -/
def first (s : Store) (collection : String) (c : Filter.Condition) (fields : Option (List String)) :
    Except Error (Option Document) :=
  (s.matching collection c).map fun found => found.head?.map (Document.project · fields)

/-- The first document that meets a condition, with the members of a patch set; answers the new form. -/
def patchFirst (s : Store) (collection : String) (c : Filter.Condition) (patch : Document) :
    Except Error (Option Document × Store) :=
  (Filter.Condition.prepare c).map fun m =>
    let ds := s.documents collection
    match ds.find? (Filter.Matcher.accepts m) with
    | none => (none, s)
    | some d =>
      (some (Members.merge d patch),
        s.withDocuments collection
          (changeFirst (Filter.Matcher.accepts m) (Members.merge · patch) ds))

/-- The store without the first document that meets a condition; answers that document. -/
def removeFirst (s : Store) (collection : String) (c : Filter.Condition) :
    Except Error (Option Document × Store) :=
  (Filter.Condition.prepare c).map fun m =>
    let ds := s.documents collection
    match ds.find? (Filter.Matcher.accepts m) with
    | none => (none, s)
    | some d => (some d, s.withDocuments collection (dropFirst (Filter.Matcher.accepts m) ds))

/-- A document in the place of the one with its identity, or at the end. -/
def place (id : String) (d : Document) (ds : List Document) : List Document :=
  if ds.any fun e => Document.id? e == some id then
    changeFirst (fun e => Document.id? e == some id) (fun _ => d) ds
  else ds ++ [d]

def save (s : Store) (collection : String) (d : Document) : Except Error Store :=
  (Document.requireId d).map fun id =>
    s.withDocuments collection (place id d (s.documents collection))

def remove (s : Store) (collection id : String) : Store :=
  s.withDocuments collection ((s.documents collection).filter fun d => Document.id? d != some id)

theorem documents_withDocuments (s : Store) (a b : String) (ds : List Document) :
    (s.withDocuments a ds).documents b = if a = b then ds else s.documents b := by
  obtain ⟨cs⟩ := s
  simp only [withDocuments, documents]
  induction cs with
  | nil => by_cases h : a = b <;> simp [putCollection, h]
  | cons x cs ih =>
    obtain ⟨n, old⟩ := x
    by_cases hn : n = a
    · subst hn
      by_cases hb : n = b <;> simp [putCollection, hb]
    · by_cases hb : n = b
      · subst hb
        simp [putCollection, hn, Ne.symm hn]
      · simp [putCollection, hn, hb, ih]

end Store

end Hypermedia
