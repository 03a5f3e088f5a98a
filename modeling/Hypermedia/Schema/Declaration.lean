import Hypermedia.Decimal.Power
import Hypermedia.Schema.Attribute

/-!
# Declarations

A schema document as it is written: resources with their attributes in document order. Reading it checks
the shape of the document only; whether its relations make sense is decided by the registry.
-/

namespace Hypermedia.Schema

inductive Kind where
  | string
  | number
  | boolean
  | date
  | geometry
  | children
  | parent
  | reference
  deriving DecidableEq

structure AttributeDeclaration where
  kind : Kind
  relation : Option String
  default : Option Value
  required : Bool
  unique : Bool
  text : Bool
  desc : Option String
  rules : Rules

/-- A declared resource: its name and its attributes. -/
abbrev ResourceDeclaration := String × List (String × AttributeDeclaration)

/-- Why a document is not a schema. -/
inductive ShapeError where
  | documentNotObject
  | resourceNotObject
  | malformedAttribute

/-- What is wrong with the shape; there is no fixed wording for a malformed attribute. -/
def ShapeError.message? : ShapeError → Option String
  | documentNotObject => some "schema document must be an object of resources"
  | resourceNotObject => some "resource must be an object of attributes"
  | malformedAttribute => none

def Kind.ofName? : String → Option Kind
  | "string" => some string
  | "number" => some number
  | "boolean" => some boolean
  | "date" => some date
  | "geometry" => some geometry
  | "children" => some children
  | "parent" => some parent
  | "instance" => some reference
  | _ => none

/-- A kind is written as its name, or as an object with the name as its only member, which is null. -/
def Kind.ofValue? : Value → Option Kind
  | .string s => ofName? s
  | .object [(s, .null)] => ofName? s
  | _ => none

/-- The declared forms of single members: what is absent, and how a value is read. -/
def optional {α : Type} (read : Value → Option α) (ms : Members) (name : String) : Option (Option α) :=
  match Members.get? ms name with
  | none => some none
  | some .null => some none
  | some v => (read v).map some

/-- A flag, false where it is absent. -/
def flag (ms : Members) (name : String) : Option Bool :=
  match Members.get? ms name with
  | none => some false
  | some (.bool b) => some b
  | some _ => none

/-- A natural number of 32 bits. -/
def word? : Value → Option Nat
  | .number (.int n) => if 0 ≤ n ∧ n < Decimal.twoTo 32 then some n.toNat else none
  | _ => none

def rules? (ms : Members) : Option Rules := do
  let pattern ← optional Value.string? ms "pattern"
  let invalid ← optional Value.string? ms "invalid"
  let allowed ← optional Value.items? ms "allowed"
  let minLength ← optional word? ms "min_length"
  let maxLength ← optional word? ms "max_length"
  let minimum ← optional Value.float? ms "minimum"
  let maximum ← optional Value.float? ms "maximum"
  pure ⟨pattern, invalid, allowed, minLength, maxLength, minimum, maximum⟩

/-- A declared attribute. `uniq` is another name of `unique`; both together are refused. -/
def AttributeDeclaration.ofValue? : Value → Option AttributeDeclaration
  | .object ms => do
    let kind ← match Members.get? ms "type" with
      | none => some Kind.string
      | some v => Kind.ofValue? v
    let relation ← optional Value.string? ms "relation"
    let default ← optional some ms "default"
    let required ← flag ms "required"
    let unique ←
      if Members.has ms "unique" ∧ Members.has ms "uniq" then none
      else if Members.has ms "uniq" then flag ms "uniq"
      else flag ms "unique"
    let text ← flag ms "text"
    let desc ← optional Value.string? ms "desc"
    let rules ← rules? ms
    pure ⟨kind, relation, default, required, unique, text, desc, rules⟩
  | _ => none

/-- The attributes of a resource, up to the first malformed one. -/
def attributes? : Members → Option (List (String × AttributeDeclaration))
  | [] => some []
  | (name, v) :: ms => do
    let a ← AttributeDeclaration.ofValue? v
    let rest ← attributes? ms
    pure ((name, a) :: rest)

def resources? : Members → Except ShapeError (List ResourceDeclaration)
  | [] => .ok []
  | (name, .object attrs) :: ms =>
    match attributes? attrs with
    | none => .error .malformedAttribute
    | some attrs => (resources? ms).map ((name, attrs) :: ·)
  | _ :: _ => .error .resourceNotObject

def declarations? : Value → Except ShapeError (List ResourceDeclaration)
  | .object ms => resources? ms
  | _ => .error .documentNotObject

end Hypermedia.Schema
