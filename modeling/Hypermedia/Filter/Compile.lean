import Hypermedia.Filter.Condition
import Hypermedia.Filter.Request
import Hypermedia.Regex.Escape
import Hypermedia.Schema.Registry

/-!
# From values to conditions

A supplied value becomes a predicate by the type of its attribute: texts may write wildcards, lists,
ranges of numbers and dates, and nearness; any other value is asked for exactly.
-/

namespace Hypermedia.Filter

/-- The two bounds between brackets, cut at the last comma that leaves neither empty. -/
def bounds? (cs : List Char) : Option (List Char × List Char) :=
  match cs with
  | '[' :: inner =>
    match inner.reverse with
    | ']' :: last :: before =>
      if last = '\n' ∨ before.contains '\n' then none
      else
        match Text.cutLast ',' before.reverse with
        | some ([], _) => none
        | some (low, high) => some (low, high ++ [last])
        | none => none
    | _ => none
  | _ => none

def bound (type : FieldType) (cs : List Char) : Value :=
  let s := String.ofList (Text.trimChars cs)
  match type with
  | .number => numberOrText s
  | _ => .string (Time.normalized s)

/-- The pattern of a text with wildcards: a star stands for any characters, all else for itself. -/
def wildcardChars (cs : List Char) : List Char :=
  "(?s)^".toList ++ ['.', '*'].intercalate ((Text.splitChars '*' cs).map Regex.escapeChars) ++ ['$']

def wildcard (s : String) : String := String.ofList (wildcardChars s.toList)

/-- A text without a range: wildcards, then a list, then one value. -/
def plainPredicate (type : FieldType) (s : String) : Predicate :=
  if s.toList.contains '*' then .pattern (wildcard s)
  else if s.toList.contains ',' then .oneOf ((Text.split ',' s).map (coerce type))
  else .exact (coerce type s)

def isRanged : FieldType → Bool
  | .number => true
  | .date => true
  | _ => false

def textPredicate (type : FieldType) (s : String) : Predicate :=
  if type = .geometry then .near (Near.ofText s)
  else if isRanged type then
    match bounds? s.toList with
    | some (low, high) => .range (bound type low) (bound type high)
    | none => plainPredicate type s
  else plainPredicate type s

def predicate (type : FieldType) : Value → Predicate
  | .string s => textPredicate type s
  | v => .exact v

/-- The attributes that a condition may ask for: all but those that list children. -/
def conditionAttributes (r : Resource) : List Attribute :=
  r.allAttributes.filter fun a => !a.type.isChildren

def predicates (params : Members) : List Attribute → Condition
  | [] => []
  | a :: rest =>
    match Members.get? params a.name with
    | some v => (a.name, predicate a.type v) :: predicates params rest
    | none => predicates params rest

/-- The condition of a request: its values, then the free text of `q`. -/
def condition (r : Resource) (request : Request) : Condition :=
  let attributes := conditionAttributes r
  let c := predicates (request.params attributes) attributes
  match request.option? "q" with
  | some q => Condition.set c searchField (.pattern (Regex.escape q))
  | none => c

end Hypermedia.Filter
