import Hypermedia.Json.Value

/-!
# Attributes

The types that an attribute may have, the rules that its values obey, and the names that every record
carries beside its declared attributes.
-/

namespace Hypermedia

/-- How an attribute points at other records. -/
inductive Relation where
  /-- The records of a resource that name this one as their owner. -/
  | children (target : String)
  /-- The record of `owner` whose `field` lists this one. -/
  | parent (owner field : String)
  /-- One record of a resource. -/
  | reference (target : String)
  deriving DecidableEq

namespace Relation

def target : Relation → String
  | children t => t
  | parent owner _ => owner
  | reference t => t

def isChildren : Relation → Bool
  | children _ => true
  | _ => false

end Relation

inductive FieldType where
  | string
  | number
  | boolean
  | date
  | geometry
  | relation (r : Relation)
  deriving DecidableEq

namespace FieldType

def relation? : FieldType → Option Relation
  | relation r => some r
  | _ => none

def isChildren : FieldType → Bool
  | relation r => r.isChildren
  | _ => false

end FieldType

/-- The rules that the values of an attribute obey, each where it is declared. -/
structure Rules where
  pattern : Option String := none
  /-- The message for a value that breaks a rule. -/
  invalid : Option String := none
  allowed : Option (List Value) := none
  minLength : Option Nat := none
  maxLength : Option Nat := none
  minimum : Option Float := none
  maximum : Option Float := none

structure Attribute where
  name : String
  type : FieldType
  default : Option Value := none
  required : Bool := false
  /-- The value takes part in the record's identity. -/
  unique : Bool := false
  /-- The value takes part in the free-text search. -/
  text : Bool := false
  desc : Option String := none
  rules : Rules := {}

def idField : String := "id"

def createdAtField : String := "createdAt"

def updatedAtField : String := "updatedAt"

/-- The stored name of a record's searchable text; no answer shows it. -/
def searchField : String := "_q"

end Hypermedia
