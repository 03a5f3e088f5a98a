import Hypermedia.Record.Rules
import Hypermedia.Schema.Registry
import Hypermedia.Store.Error

/-!
# Errors of operations

Why an operation failed, with the code, the status and the details that its answer shows. An error of
one item among many carries the item's place.
-/

namespace Hypermedia

inductive ServiceError where
  | schema (e : Schema.Error)
  | unauthorized (text : String)
  | notFound (text : String)
  | conflict (text : String)
  | validationFailed (report : Record.Report)
  | relatedMissing (field text : String)
  | store (e : Store.Error)
  | badRequest (text : String)
  | item (index : Nat) (e : ServiceError)
  | encoding (text : String)

namespace ServiceError

def status : ServiceError → Nat
  | schema _ => 500
  | unauthorized _ => 401
  | notFound _ => 404
  | conflict _ => 409
  | validationFailed _ => 400
  | relatedMissing _ _ => 400
  | store (.invalidQuery _) => 400
  | store _ => 500
  | badRequest _ => 400
  | item _ e => e.status
  | encoding _ => 500

def code : ServiceError → String
  | schema _ => "config_error"
  | unauthorized _ => "unauthorized"
  | notFound _ => "not_found"
  | conflict _ => "conflict"
  | validationFailed _ => "validation_error"
  | relatedMissing _ _ => "related_entity_missing"
  | store _ => "store_error"
  | badRequest _ => "bad_request"
  | item _ e => e.code
  | encoding _ => "internal_error"

def message : ServiceError → String
  | schema e => e.message
  | unauthorized text => "unauthorized: " ++ text
  | notFound text => "not found: " ++ text
  | conflict text => "conflict: " ++ text
  | validationFailed _ => "validation failed"
  | relatedMissing _ text => "related entity missing: " ++ text
  | store e => "store: " ++ e.message
  | badRequest text => "bad request: " ++ text
  | item index e => "item " ++ toString index ++ ": " ++ e.message
  | encoding text => "response encoding: " ++ text

/-- The details of an error: messages by field, and the place of an item, the outermost one. -/
def details : ServiceError → Option Members
  | validationFailed report => some [("fields", .object report.members)]
  | relatedMissing field text => some [("fields", .object [(field, .string text)])]
  | item index e => some (Members.set (e.details.getD []) "index" (.nat index))
  | _ => none

def body (e : ServiceError) : Value :=
  .object [("error", .object
    ([("code", .string e.code), ("message", .string e.message)] ++
      (e.details.map fun ms => ("details", Value.object ms)).toList))]

end ServiceError

end Hypermedia
