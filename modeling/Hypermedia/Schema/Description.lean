import Hypermedia.Schema.Registry

/-!
# Descriptions

The published description of a resource: a JSON Schema of one record as answers show it.
-/

namespace Hypermedia.Schema

def typed (name : String) : Members := [("type", .string name)]

def textOrNull : Value := .object [("type", .array [.string "string", .string "null"])]

/-- A link, with the target's identity or without. -/
def linkType (withId : Bool) : Members :=
  typed "object" ++
    [("properties", .object (("href", textOrNull) :: (if withId then [("id", textOrNull)] else [])))]

def typeMembers : FieldType → Members
  | .string => typed "string"
  | .number => typed "number"
  | .boolean => typed "boolean"
  | .date => typed "string" ++ [("format", .string "date-time")]
  | .geometry =>
    typed "array" ++ [("items", .object (typed "number")), ("minItems", .nat 2), ("maxItems", .nat 2)]
  | .relation (.children _) => linkType false
  | .relation _ => linkType true

def member? (name : String) (v : Option Value) : Members := (v.map fun v => (name, v)).toList

def propertyOf (a : Attribute) : Value :=
  .object (typeMembers a.type ++ member? "description" (a.desc.map .string) ++
    member? "default" a.default ++ member? "pattern" (a.rules.pattern.map .string) ++
    member? "enum" (a.rules.allowed.map .array))

/-- The description of a resource whose routes begin with `base`. -/
def describe (base : String) (r : Resource) : Value :=
  .object [
    ("$schema", .string "http://json-schema.org/draft-04/schema#"),
    ("id", .string (base ++ "/" ++ r.plural)),
    ("title", .string r.name),
    ("type", .string "object"),
    ("properties", .object (r.allAttributes.map fun a => (a.name, propertyOf a))),
    ("required", .array ((r.attributes.filter (·.required)).map fun a => .string a.name))]

end Hypermedia.Schema
