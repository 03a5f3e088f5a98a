import Hypermedia.Decimal.Numeral
import Hypermedia.Schema.Attribute
import Hypermedia.Text.Blank
import Hypermedia.Text.Case
import Hypermedia.Text.Split
import Hypermedia.Time.Reader

/-!
# Request values

The values that a request supplies: its body over the parameters of its path over those of its query.
Texts from path and query are typed by the attribute that they are meant for. The query also holds the
order, the list options and the window of a collection read.
-/

namespace Hypermedia.Filter

/-- Named texts, each name once. -/
abbrev Texts := List (String × String)

def Texts.get? (ts : Texts) (name : String) : Option String := (ts.find? (·.1 == name)).map (·.2)

structure Request where
  body : Option Members
  path : Texts
  query : Texts

def Request.withBody (r : Request) (body : Members) : Request := { r with body := some body }

/-- A text of the query, unless it is empty. -/
def Request.option? (r : Request) (name : String) : Option String :=
  (r.query.get? name).filter fun s => !s.isEmpty

/-- The number that a trimmed text writes: an integer of 64 bits, else a finite float. -/
def number? (s : String) : Option Number :=
  let s := Text.trim s
  match Decimal.int64? s with
  | some n => some (.int n)
  | none => (Decimal.float? s).bind Number.ofFloat?

def numberOrText (s : String) : Value :=
  match number? s with
  | some n => .number n
  | none => .string s

def coerce : FieldType → String → Value
  | .number, s => numberOrText s
  | .boolean, s =>
    if Text.lowerAscii s = "true" then .bool true
    else if Text.lowerAscii s = "false" then .bool false
    else .string s
  | .date, s => .string (Time.normalized s)
  | _, s => .string s

/-- The value of one attribute: body over path over query, where an empty query text does not count. -/
def Request.value? (r : Request) (a : Attribute) : Option Value :=
  match r.body.bind fun b => Members.get? b a.name with
  | some v => some v
  | none =>
    match r.path.get? a.name with
    | some s => some (coerce a.type s)
    | none => (r.option? a.name).map (coerce a.type)

/-- The values of attributes as far as the request supplies them. An attribute that lists children is
always there, empty if nothing is supplied. -/
def Request.params (r : Request) : List Attribute → Members
  | [] => []
  | a :: rest =>
    match r.value? a with
    | some v => (a.name, v) :: r.params rest
    | none =>
      if a.type.isChildren then (a.name, .array []) :: r.params rest else r.params rest

inductive Direction where
  | ascending
  | descending
  deriving DecidableEq

/-- One part of an order: its sign gives the direction; a blank is as good as a plus. -/
def orderKey? (part : List Char) : Option (String × Direction) :=
  let named (direction : Direction) (cs : List Char) :=
    let key := Text.trimChars cs
    if key.isEmpty then none else some (String.ofList key, direction)
  match part with
  | [] => none
  | '-' :: cs => named .descending cs
  | '+' :: cs => named .ascending cs
  | ' ' :: cs => named .ascending cs
  | cs => named .ascending cs

def order (s : String) : List (String × Direction) :=
  (Text.splitChars ',' s.toList).filterMap orderKey?

def names (s : String) : List String :=
  ((Text.splitChars ',' s.toList).map Text.trimChars).filterMap fun cs =>
    if cs.isEmpty then none else some (String.ofList cs)

/-- A part of a collection: where it begins and how many records it holds at most. -/
structure Window where
  offset : Nat
  limit : Nat
  deriving DecidableEq

def Window.largest : Nat := Decimal.twoTo 63 - 1

/-- The window that a query asks for. What is not a number is left at its default, and so is a limit of
zero; larger numbers are cut to the largest. -/
def Window.ofQuery (query : Texts) (defaultLimit : Nat) : Window :=
  let read (name : String) : Option Nat :=
    (query.get? name).bind fun s => Decimal.uint64? (Text.trim s)
  let limit := ((read "limit").filter (0 < ·)).getD defaultLimit
  ⟨min ((read "offset").getD 0) largest, min limit largest⟩

end Hypermedia.Filter
