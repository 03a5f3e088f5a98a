import Hypermedia.Filter.Compile
import Hypermedia.Link.Page
import Hypermedia.Link.Resolve

/-!
# Reading operations

A page of a collection, a page of the children of a record, and one record. Filters select; order,
window, projection and expansion only decide what is shown of the selection.
-/

namespace Hypermedia.Operation

open Store (Document)
open Hypermedia.Filter (Request Condition)

def place (i : Interface) : Link.Place := ⟨i.registry, i.settings.basePath⟩

/-- The fields asked for, the identity always among them; none where no field is asked for. -/
def projection (request : Request) : Option (List String) :=
  match (request.option? "fields").elim [] Filter.names with
  | [] => none
  | fields => some (if fields.contains idField then fields else idField :: fields)

def expansions (request : Request) : List String := (request.option? "expands").elim [] Filter.names

/-- A page of the records that meet a condition; its links begin with `base`. -/
def listWhere (i : Interface) (r : Resource) (c : Condition) (request : Request) (base : String) :
    Service (Link.Page Document) := do
  let window := Filter.Window.ofQuery request.query i.settings.defaultLimit
  let fields := projection request
  let sort := (request.option? "orderBy").elim [] Filter.order
  let found ← Service.ask (.find r.name c
    { fields, skip := window.offset, limit := some window.limit, sort })
  let size ← Service.ask (.count r.name c)
  let items ← Link.resolve (place i) r r.plural (expansions request) fields found
  pure (Link.page base window size items)

def list (i : Interface) (r : Resource) (request : Request) : Service (Link.Page Document) :=
  listWhere i r (Filter.condition r request) request (i.settings.basePath ++ "/" ++ r.plural)

/-- A page of the records that name a record as their owner in `field`. -/
def listChildren (i : Interface) (owner : Resource) (id field : String) (request : Request) :
    Service (Link.Page Document) :=
  let missing : ServiceError := .notFound (owner.plural ++ "/" ++ id ++ "/" ++ field)
  match (owner.attribute? field).bind (·.type.relation?) with
  | some (.children target) =>
    match i.registry.get? target with
    | none => Service.fail (.notFound target)
    | some child =>
      match child.parentAttribute? owner.name field with
      | none => Service.fail missing
      | some inverse =>
        let c := Condition.remove (Filter.condition child request) idField
        let c := Condition.set c inverse.name (.exact (.string id))
        listWhere i child c request (i.href owner.plural id ++ "/" ++ field)
  | _ => Service.fail missing

def read (i : Interface) (r : Resource) (id : String) (request : Request) : Service Document := do
  let fields := projection request
  let found ← Service.byId r.name id fields
  match found with
  | none => Service.fail (.notFound (i.href r.plural id))
  | some d =>
    let items ← Link.resolve (place i) r r.plural (expansions request) fields [d]
    match items.getLast? with
    | some d => pure d
    | none => Service.fail (.notFound (i.href r.plural id))

end Hypermedia.Operation
