import Hypermedia.Service.Basic
import Hypermedia.Record.Form
import Hypermedia.Record.Identity

/-!
# Writing operations

Creating one record or several, the dry run of that, updating and deleting. The owner of a record keeps
a list of its children: whatever writes an owner into a record appends the record to that list.
-/

namespace Hypermedia.Operation

open Store (Document)
open Hypermedia.Filter (Request Condition)

structure Created where
  id : String
  href : String

/-- What a create was asked for, and has done: one record, or several. -/
inductive Batch (α : Type) where
  | one (a : α)
  | many (as : List α)

/-- The items of a list, up to the first that is no object. -/
def itemBodies (index : Nat) : List Value → Except ServiceError (List Members)
  | [] => .ok []
  | .object ms :: rest => (itemBodies (index + 1) rest).map (ms :: ·)
  | _ :: _ => .error (.item index (.badRequest "item must be a JSON object"))

/-- The records that a body asks for: several where it lists `items`, else one. -/
def Batch.ofBody (body : Value) : Except ServiceError (Batch Members) :=
  match body with
  | .object ms =>
    match Members.get? ms "items" with
    | some (.array items) => (itemBodies 0 items).map .many
    | _ => .ok (.one ms)
  | _ => .error (.badRequest "body must be a JSON object")

/-- The text of a value that refers to a record; null refers to none. -/
def reference? : Option Value → Option String
  | none => none
  | some .null => none
  | some v => some v.plainText

/-- Every supplied reference names a record that is there. -/
def checkRelated (params : Members) : List (String × Relation) → Service Unit
  | [] => pure ()
  | (field, relation) :: rest =>
    match if relation.isChildren then none else reference? (Members.get? params field) with
    | none => checkRelated params rest
    | some id => do
      let found ← Service.byId relation.target id (some [idField])
      if found.isSome then checkRelated params rest
      else Service.fail (.relatedMissing field
        ("Specified ID (" ++ id ++ ") does not exist in " ++ relation.target))

/-- The children of an owner with one more at the end, unless it is there already. -/
def withChild (children : Option Value) (child : String) : Value :=
  match children with
  | some (.array xs) =>
    .array (if xs.any fun x => x.same (.string child) then xs else xs ++ [.string child])
  | _ => .array [.string child]

/-- Each owner that a record names gets the record into its list and a new time of change. An owner
that is not there is passed over. -/
def appendToOwners (values : Members) (child : String) : List (String × Relation) → Service Unit
  | [] => pure ()
  | (name, .parent owner field) :: rest =>
    match reference? (Members.get? values name) with
    | none => appendToOwners values child rest
    | some id => do
      let found ← Service.byId owner id none
      match found with
      | none => appendToOwners values child rest
      | some d =>
        let d := Members.set d field (withChild (Members.get? d field) child)
        let now ← Service.now
        let changed := Record.bumped (Members.get? d updatedAtField) now
        Service.ask (.save owner (Members.set d updatedAtField (.string changed)))
        appendToOwners values child rest
  | _ :: rest => appendToOwners values child rest

/-- The identity of a new record: from its unique fields, or drawn. -/
def newId (r : Resource) (params : Members) : Service String :=
  match Identity.derived? r.uniqueFields params with
  | some id => pure id
  | none => do
    let t ← Service.now
    let x ← Service.draw
    pure (Identity.drawn t x)

/-- One record created: checked, given an identity that is not in use, listed with its owners, saved. -/
def createItem (i : Interface) (r : Resource) (request : Request) : Service Created := do
  let params := request.params r.attributes
  checkRelated params r.relations
  Service.require (i.validator r params false)
  let id ← newId r params
  let taken ← Service.byId r.name id (some [idField])
  if taken.isSome then
    Service.fail (.conflict ("duplicate id '" ++ id ++ "' exists in " ++ r.name))
  else
    let now ← Service.now
    let record := Record.new r params id now.text
    appendToOwners record id r.relations
    Service.ask (.save r.name record)
    pure ⟨id, i.href r.plural id⟩

/-- Items worked off in order from an index on, up to the first failure, which gets its index. -/
def eachItem {α : Type} (work : Members → Service α) (index : Nat) : List Members → Service (List α)
  | [] => pure []
  | item :: rest => do
    let a ← Service.mapError (.item index) (work item)
    let as ← eachItem work (index + 1) rest
    pure (a :: as)

def eachOf {α : Type} (work : Members → Service α) : Batch Members → Service (Batch α)
  | .one item => do
    let a ← work item
    pure (.one a)
  | .many items => do
    let as ← eachItem work 0 items
    pure (.many as)

def onBody {α : Type} (work : Members → Service α) (body : Value) : Service (Batch α) :=
  match Batch.ofBody body with
  | .error e => Service.fail e
  | .ok batch => eachOf work batch

/-- Records created. The ones before a failing one stay. -/
def create (i : Interface) (r : Resource) (body : Value) (request : Request) :
    Service (Batch Created) :=
  onBody (fun item => createItem i r (request.withBody item)) body

/-- The checks of a create for one record. -/
def checkItem (i : Interface) (r : Resource) (request : Request) : Service Unit := do
  let params := request.params r.attributes
  checkRelated params r.relations
  Service.require (i.validator r params false)

/-- The checks of a create, with nothing stored. -/
def validateOnly (i : Interface) (r : Resource) (body : Value) (request : Request) : Service Unit := do
  let _ ← onBody (fun item => checkItem i r (request.withBody item)) body
  pure ()

/-- The patch of an update with its time of change, and the new searchable text where a part of it was
supplied. -/
def completePatch (r : Resource) (params : Members) (current : Document) (now : Time.Instant) :
    Document :=
  let patch := Members.set (Record.patch r params) updatedAtField
    (.string (Record.bumped (Members.get? current updatedAtField) now))
  if r.textFields.any fun f => Members.has patch f then
    Members.set patch searchField (.string (Record.searchText r (Members.merge current patch)))
  else patch

/-- Supplied values merged into one record. -/
def update (i : Interface) (r : Resource) (id : String) (request : Request) : Service Unit := do
  let params := request.params (r.attributes.filter fun a => !a.type.isChildren)
  Service.require (Record.checkUnique r params)
  Service.require (i.validator r params true)
  checkRelated params r.relations
  let missing : ServiceError := .notFound (i.href r.plural id)
  let found ← Service.byId r.name id none
  match found with
  | none => Service.fail missing
  | some current =>
    let now ← Service.now
    let patch := completePatch r params current now
    let updated ← Service.ask (.patchFirst r.name (Condition.byId id) patch)
    if updated.isSome then appendToOwners patch id r.relations else Service.fail missing

/-- Records removed one by one; answers how many had an identity. -/
def removeEach (collection : String) (removed : Nat) : List Document → Service Nat
  | [] => pure removed
  | d :: ds =>
    match Document.id? d with
    | none => removeEach collection removed ds
    | some id => do
      Service.ask (.remove collection id)
      removeEach collection (removed + 1) ds

end Hypermedia.Operation
