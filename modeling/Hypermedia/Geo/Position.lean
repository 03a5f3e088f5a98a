import Hypermedia.Decimal.Layout
import Hypermedia.Json.Value

/-!
# Positions on the globe

A position is a pair of longitude and latitude in degrees. A stored point is an object with a pair of
coordinates; a bare pair is read alike. Distances are great-circle distances on a sphere.
-/

namespace Hypermedia.Geo

/-- Longitude and latitude in degrees. -/
structure Position where
  lng : Float
  lat : Float

def Position.ofPair? : Value → Option Position
  | .array (x :: y :: _) => do
    let lng ← x.float?
    let lat ← y.float?
    pure ⟨lng, lat⟩
  | _ => none

/-- The position of a stored point or of a bare pair. -/
def Position.ofValue? : Value → Option Position
  | .object ms => (Members.get? ms "coordinates").bind ofPair?
  | v => ofPair? v

/-- A value of a number, null where the number is not finite. -/
def numberValue (x : Float) : Value :=
  match Number.ofFloat? x with
  | some n => .number n
  | none => .null

def Position.toPoint (p : Position) : Value :=
  .object [("type", .string "Point"), ("coordinates", .array [numberValue p.lng, numberValue p.lat])]

/-- The members name themselves a point. -/
def isPoint (ms : Members) : Bool :=
  match Members.get? ms "type" with
  | some (.string s) => s == "Point"
  | _ => false

def coordinates? : Value → Option Value
  | .object ms => if isPoint ms then Members.get? ms "coordinates" else none
  | _ => none

/-- The radius of the globe in metres. -/
def radius : Float := 6371000.0

def degree : Float := 3.14159265358979323846 / 180.0

def radians (x : Float) : Float := x * degree

def square (x : Float) : Float := x * x

/-- The great-circle distance of two positions in metres. -/
def distance (a b : Position) : Float :=
  let lng₁ := radians a.lng
  let lat₁ := radians a.lat
  let lng₂ := radians b.lng
  let lat₂ := radians b.lat
  let h := square (Float.sin ((lat₂ - lat₁) / 2.0)) +
    Float.cos lat₁ * Float.cos lat₂ * square (Float.sin ((lng₂ - lng₁) / 2.0))
  2.0 * radius * Float.asin (Float.sqrt h)

def lengthText (x : Float) : String :=
  if x.isNaN then "NaN"
  else if x.isInf then (if x < 0.0 then "-inf" else "inf")
  else Decimal.fixed 3 x

end Hypermedia.Geo
