import Hypermedia.Service.Basic

/-!
# Relations as links

The relation fields of a record as answers show them: a list of children as a link to their listing, a
reference as a link with the identity of its target. A reference that is asked to be expanded becomes
its target's record, whose own relations are links; where there is no target it stays a link.
-/

namespace Hypermedia.Link

open Store (Document)

/-- Where the resources of a registry are found. -/
structure Place where
  registry : Registry
  basePath : String

def childrenLink (p : Place) (collection id field : String) : Value :=
  .object [("href", .string (p.basePath ++ "/" ++ collection ++ "/" ++ id ++ "/" ++ field))]

/-- A link to a record by the value that refers to it; null refers to nothing. -/
def referenceLink (p : Place) (plural : String) (v : Value) : Value :=
  let href := if v.isNull then Value.null else .string (p.basePath ++ "/" ++ plural ++ "/" ++ v.plainText)
  .object [("href", href), ("id", v)]

/-- A reference that is to be replaced by its target's record, in the record of that number. -/
structure Expansion where
  record : Nat
  field : String
  target : Resource
  id : String

def recordId (d : Document) : String := ((Members.get? d idField).map Value.plainText).getD ""

/-- The value of a reference field. One that is absent counts as null where it may be shown. -/
def referenced? (d : Document) (field : String) (relation : Relation)
    (fields : Option (List String)) : Option Value :=
  match Members.get? d field with
  | some v => some v
  | none =>
    match relation with
    | .reference _ => if fields.all fun fs => fs.contains field then some .null else none
    | _ => none

/-- One relation field of a record: its link, or the expansion that will replace it. -/
def linkField (p : Place) (collection id : String) (expands : List String)
    (fields : Option (List String)) (index : Nat) (d : Document) (field : String) (relation : Relation) :
    Document × Option Expansion :=
  if relation.isChildren then
    if Members.has d field then (Members.set d field (childrenLink p collection id field), none)
    else (d, none)
  else
    match referenced? d field relation fields with
    | none => (d, none)
    | some v =>
      match p.registry.get? relation.target with
      | none => (Members.set d field (referenceLink p relation.target v), none)
      | some target =>
        if expands.contains field ∧ ¬ v.isNull then (d, some ⟨index, field, target, v.plainText⟩)
        else (Members.set d field (referenceLink p target.plural v), none)

def linkFields (p : Place) (collection id : String) (expands : List String)
    (fields : Option (List String)) (index : Nat) :
    List (String × Relation) → Document → Document × List Expansion
  | [], d => (d, [])
  | (field, relation) :: rest, d =>
    let (d, expansion) := linkField p collection id expands fields index d field relation
    let (d, expansions) := linkFields p collection id expands fields index rest d
    (d, expansion.toList ++ expansions)

def linkRecord (p : Place) (r : Resource) (collection : String) (expands : List String)
    (fields : Option (List String)) (index : Nat) (d : Document) : Document × List Expansion :=
  linkFields p collection (recordId d) expands fields index r.relations d

/-- Stored records from a number on, with their links, and all expansions that will replace some. -/
def linkRecords (p : Place) (r : Resource) (collection : String) (expands : List String)
    (fields : Option (List String)) : Nat → List Document → List Document × List Expansion
  | _, [] => ([], [])
  | index, d :: ds =>
    let (d, expansions) := linkRecord p r collection expands fields index (Document.materialize d)
    let (ds, rest) := linkRecords p r collection expands fields (index + 1) ds
    (d :: ds, expansions ++ rest)

/-- A record with links in place of its relations, nothing expanded. -/
def linked (p : Place) (r : Resource) (collection : String) (d : Document) : Document :=
  (linkRecord p r collection [] none 0 d).1

/-- The value of an expansion: the target's record with links, or a link where there is none. -/
def expand (p : Place) (e : Expansion) : Service Value := do
  let found ← Service.byId e.target.name e.id (some e.target.fieldNames)
  match found with
  | some d => pure (.object (linked p e.target e.target.plural (Document.materialize d)))
  | none => pure (referenceLink p e.target.plural (.string e.id))

/-- The values of expansions, each with its record and its field. -/
def expandAll (p : Place) : List Expansion → Service (List (Nat × String × Value))
  | [] => pure []
  | e :: es => do
    let v ← expand p e
    let vs ← expandAll p es
    pure ((e.record, e.field, v) :: vs)

/-- A value put into the field of a record. -/
def put (records : List Document) : Nat × String × Value → List Document
  | (record, field, v) => records.modify record (Members.set · field v)

/-- Stored records as answers show them. All records get their links first; then every expansion is
looked up, and its value replaces the reference it came from. -/
def resolve (p : Place) (r : Resource) (collection : String) (expands : List String)
    (fields : Option (List String)) (ds : List Document) : Service (List Document) := do
  let (records, expansions) := linkRecords p r collection expands fields 0 ds
  let values ← expandAll p expansions
  pure (values.foldl put records)

end Hypermedia.Link
