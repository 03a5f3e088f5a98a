import Hypermedia.Json.Value
import Hypermedia.Time.Reader

/-!
# Comparing values

Numbers compare by size, timestamps by instant, other texts by their characters. Values of different
kinds do not compare; for sorting, the kinds themselves are ordered.
-/

namespace Hypermedia.Filter

/-- Numbers of equal size are equal, integers and floats alike; other values have to be the same. -/
def equals : Value → Value → Bool
  | .number m, .number n => m.toFloat == n.toFloat
  | v, w => v.same w

def compareFloats (x y : Float) : Option Ordering :=
  if x < y then some .lt else if y < x then some .gt else if x == y then some .eq else none

def compareTexts (s t : String) : Ordering := if s < t then .lt else if t < s then .gt else .eq

def compareBools : Bool → Bool → Ordering
  | false, true => .lt
  | true, false => .gt
  | _, _ => .eq

def compare? : Value → Value → Option Ordering
  | .number m, .number n => compareFloats m.toFloat n.toFloat
  | .string s, .string t =>
    match Time.instant? s, Time.instant? t with
    | some i, some j => some (i.compare j)
    | _, _ => some (compareTexts s t)
  | .bool a, .bool b => some (compareBools a b)
  | .null, .null => some .eq
  | _, _ => none

def rank : Value → Nat
  | .null => 0
  | .bool _ => 1
  | .number _ => 2
  | .string _ => 3
  | .array _ => 4
  | .object _ => 5

def sortOrder (v w : Value) : Ordering := (compare? v w).getD (Ord.compare (rank v) (rank w))

end Hypermedia.Filter
