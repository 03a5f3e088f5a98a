import Hypermedia.Decimal.Shortest

/-!
# Decimal texts of numbers

Three ways to write a number: the layout of JSON texts, which turns to an exponent for small and large
numbers; plain positional notation; and a fixed count of places.
-/

namespace Hypermedia.Decimal

def digits (n : Nat) : List Char := Nat.toDigits 10 n

/-- Digits `ds` with the point after the first `point` of them; zeros fill the gap. -/
def positional (ds : List Char) (point : Int) : List Char × List Char :=
  if point ≤ 0 then (['0'], List.replicate (-point).toNat '0' ++ ds)
  else
    let n := point.toNat
    (ds.take n ++ List.replicate (n - ds.length) '0', ds.drop n)

/-- Decimal exponents that are written positionally: from `first` to `last`. -/
structure Layout where
  first : Int
  last : Int

/-- JSON texts write 1e-5 up to just below 1e16 positionally. -/
def Layout.json : Layout := ⟨-5, 15⟩

/-- The text of a finite number: always with a fraction or an exponent. -/
def Layout.write (l : Layout) (x : Float) : String :=
  let (d, k) := shortest x
  let ds := digits d
  let exponent := k + (ds.length : Int) - 1
  let sign := if isNegative x then "-" else ""
  let body :=
    if d = 0 then ['0', '.', '0']
    else if l.first ≤ exponent ∧ exponent ≤ l.last then
      let (whole, fraction) := positional ds (exponent + 1)
      whole ++ '.' :: (if fraction.isEmpty then ['0'] else fraction)
    else
      let fraction := ds.drop 1
      ds.take 1 ++ (if fraction.isEmpty then [] else '.' :: fraction) ++
        'e' :: (if exponent < 0 then '-' else '+') :: digits exponent.natAbs
  sign ++ String.ofList body

/-- A finite number in positional notation, without a fraction when it is whole. -/
def plain (x : Float) : String :=
  let (d, k) := shortest x
  let ds := digits d
  let (whole, fraction) := positional ds (k + ds.length)
  let sign := if isNegative x then "-" else ""
  sign ++ String.ofList (whole ++ (if d = 0 ∨ fraction.isEmpty then [] else '.' :: fraction))

/-- The quotient rounded to nearest, a half to the even neighbour. -/
def roundDiv (num den : Nat) : Nat :=
  let q := num / den
  let r := num % den
  if 2 * r < den ∨ (2 * r = den ∧ q % 2 = 0) then q else q + 1

def fixed (places : Nat) (x : Float) : String :=
  let v := Magnitude.ofFloat x
  let n := roundDiv (v.coefficient * twoTo v.exponent.toNat * tenTo places) (twoTo (-v.exponent).toNat)
  let ds := digits n
  let padded := List.replicate (places + 1 - ds.length) '0' ++ ds
  let cut := padded.length - places
  let sign := if isNegative x then "-" else ""
  sign ++ String.ofList (padded.take cut ++ (if places = 0 then [] else '.' :: padded.drop cut))

end Hypermedia.Decimal
