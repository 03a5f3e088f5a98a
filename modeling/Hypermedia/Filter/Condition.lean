import Hypermedia.Decimal.Numeral
import Hypermedia.Json.Value
import Hypermedia.Store.Error
import Hypermedia.Text.Blank
import Hypermedia.Text.Split

/-!
# Conditions

A condition asks several fields for one predicate each; a record meets it when it meets all. The fields
keep the order in which they were first asked for.
-/

namespace Hypermedia.Filter

/-- Nearness to a point, as it was written. -/
structure Near where
  lat : String
  lng : String
  maxDistance : String
  deriving DecidableEq

/-- Latitude, longitude and distance between commas; what is missing is empty. -/
def Near.ofText (s : String) : Near :=
  let parts := Text.split ',' s
  let part (i : Nat) : String := Text.trim (parts.getD i "")
  ⟨part 0, part 1, part 2⟩

/-- A point and the largest distance from it. -/
structure Circle where
  lng : Float
  lat : Float
  maxDistance : Float

/-- A number that names its part when it cannot be read. -/
def Near.number (part s : String) : Except Store.Error Float :=
  match Decimal.float? s with
  | some x => .ok x
  | none => .error (.invalidQuery ("geo " ++ part ++ " '" ++ s ++ "' is not a number"))

/-- The circle meant, if all three parts are numbers; the longitude is read first. -/
def Near.resolve (n : Near) : Except Store.Error Circle :=
  match Near.number "longitude" n.lng with
  | .error e => .error e
  | .ok lng =>
    match Near.number "latitude" n.lat with
    | .error e => .error e
    | .ok lat =>
      match Near.number "max distance" n.maxDistance with
      | .error e => .error e
      | .ok maxDistance => .ok ⟨lng, lat, maxDistance⟩

inductive Predicate where
  | exact (v : Value)
  /-- The text of the field matches a pattern. -/
  | pattern (source : String)
  /-- The field lies between two bounds, which belong to the range. -/
  | range (least greatest : Value)
  /-- The field is one of several values. -/
  | oneOf (vs : List Value)
  /-- The field is a point near another. -/
  | near (n : Near)

/-- Fields with their predicates, each field once. -/
abbrev Condition := List (String × Predicate)

namespace Condition

def get? (c : Condition) (field : String) : Option Predicate :=
  (c.find? (·.1 == field)).map (·.2)

/-- A predicate for a field: in the place of its old one, or at the end. -/
def set : Condition → String → Predicate → Condition
  | [], field, p => [(field, p)]
  | (f, q) :: rest, field, p => if f = field then (f, p) :: rest else (f, q) :: set rest field p

def remove (c : Condition) (field : String) : Condition := c.filter (·.1 ≠ field)

def byId (id : String) : Condition := [("id", .exact (.string id))]

def near? : Condition → Option (String × Near)
  | [] => none
  | (field, .near n) :: _ => some (field, n)
  | _ :: rest => near? rest

theorem get?_set (c : Condition) (a b : String) (p : Predicate) :
    get? (set c a p) b = if a = b then some p else get? c b := by
  induction c with
  | nil => by_cases h : a = b <;> simp [set, get?, h]
  | cons x c ih =>
    obtain ⟨f, q⟩ := x
    by_cases hf : f = a
    · subst hf
      by_cases hb : f = b <;> simp [set, get?, hb]
    · by_cases hb : f = b
      · subst hb
        simp [set, get?, hf, Ne.symm hf]
      · simp only [get?] at ih
        simp [set, get?, hf, hb, ih]

end Condition

end Hypermedia.Filter
