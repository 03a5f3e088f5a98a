import Hypermedia.Decimal.Power

/-!
# Shortest decimals

A binary64 number stands for every real that rounds to it. Its shortest decimal is the one with the
fewest digits among those reals, and of those the nearest; a tie goes to the even last digit. All
arithmetic is on natural numbers: the number is `m * 2 ^ q`, and a grid of `n` digits is tried at the
two points next to it.
-/

namespace Hypermedia.Decimal

/-- A finite magnitude `coefficient * 2 ^ exponent`. -/
structure Magnitude where
  coefficient : Nat
  exponent : Int
  deriving DecidableEq

def Magnitude.ofFloat (x : Float) : Magnitude :=
  let bits := x.toBits.toNat
  let field : Nat := bits / twoTo 52 % twoTo 11
  let fraction : Nat := bits % twoTo 52
  if field = 0 then ⟨fraction, -1074⟩ else ⟨fraction + twoTo 52, (field : Int) - 1075⟩

def isNegative (x : Float) : Bool := twoTo 63 ≤ x.toBits.toNat

/-- The reals that round to a magnitude, as `[low, high] * num / den`; the ends belong to it when
`closed`. `middle` is the magnitude itself. -/
structure Neighbourhood where
  low : Nat
  middle : Nat
  high : Nat
  closed : Bool
  num : Nat
  den : Nat

/-- Half a unit to each side, a quarter below a power of two. -/
def Magnitude.neighbourhood (v : Magnitude) : Neighbourhood :=
  let m := v.coefficient
  let q := v.exponent - 2
  { low := 4 * m - (if m = twoTo 52 ∧ v.exponent > -1074 then 1 else 2)
    middle := 4 * m
    high := 4 * m + 2
    closed := m % 2 == 0
    num := twoTo q.toNat
    den := twoTo (-q).toNat }

/-- The same neighbourhood measured in units of `10 ^ k`. -/
def Neighbourhood.inUnits (r : Neighbourhood) (k : Int) : Neighbourhood :=
  { r with num := r.num * tenTo (-k).toNat, den := r.den * tenTo k.toNat }

/-- The grid point `d` rounds to the number. -/
def Neighbourhood.holds (r : Neighbourhood) (d : Nat) : Bool :=
  let point := d * r.den
  if r.closed then r.low * r.num ≤ point && point ≤ r.high * r.num
  else r.low * r.num < point && point < r.high * r.num

/-- The grid point next to the number that rounds to it, the nearer one if both do. -/
def Neighbourhood.gridPoint (r : Neighbourhood) : Option Nat :=
  let below := r.middle * r.num / r.den
  let above := below + 1
  match r.holds below, r.holds above with
  | false, false => none
  | true, false => some below
  | false, true => some above
  | true, true =>
    let down := r.middle * r.num - below * r.den
    let up := above * r.den - r.middle * r.num
    if down < up ∨ (down = up ∧ below % 2 = 0) then some below else some above

/-- The number of decimal digits of `n`, at most `fuel`. -/
def digitCount : Nat → Nat → Nat
  | 0, _ => 0
  | fuel + 1, n => if n = 0 then 0 else digitCount fuel (n / 10) + 1

/-- The least `j` from the given one on with `den ≤ num * 10 ^ j`, within the fuel. -/
def leadingZeros (num den : Nat) : Nat → Nat → Nat
  | 0, j => j
  | fuel + 1, j => if den ≤ num * tenTo j then j else leadingZeros num den fuel (j + 1)

/-- The exponent of the first digit of a positive magnitude. -/
def Neighbourhood.firstDigit (r : Neighbourhood) : Int :=
  let num := r.middle * r.num
  if r.den ≤ num then (digitCount 400 (num / r.den) : Int) - 1
  else -(leadingZeros num r.den 400 1 : Int)

/-- The first grid, from `n` digits on, with a point that rounds to the number. -/
def Neighbourhood.search (r : Neighbourhood) (first : Int) : Nat → Nat → Nat × Int
  | 0, n =>
    let k := first - n + 1
    let s := r.inUnits k
    (s.middle * s.num / s.den, k)
  | fuel + 1, n =>
    let k := first - n + 1
    match (r.inUnits k).gridPoint with
    | some d => (d, k)
    | none => search r first fuel (n + 1)

/-- A coefficient without trailing zeros, and its exponent. -/
def dropZeros : Nat → Nat → Int → Nat × Int
  | 0, d, k => (d, k)
  | fuel + 1, d, k => if d ≠ 0 ∧ d % 10 = 0 then dropZeros fuel (d / 10) (k + 1) else (d, k)

/-- Digits and exponent of the shortest decimal of a finite number's magnitude. -/
def shortest (x : Float) : Nat × Int :=
  let v := Magnitude.ofFloat x
  if v.coefficient = 0 then (0, 0)
  else
    let r := v.neighbourhood
    let (d, k) := r.search r.firstDigit 17 1
    dropZeros 20 d k

end Hypermedia.Decimal
