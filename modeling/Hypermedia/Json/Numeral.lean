import Hypermedia.Decimal.Numeral
import Hypermedia.Json.Value

/-!
# Numerals of JSON texts

A numeral without fraction and exponent that fits 64 bits is an integer. Any other is a float, read in
two roundings: its leading digits are gathered while they fit 64 bits unsigned, the digits after them
are dropped, and the gathered number is multiplied or divided by one power of ten. A numeral beyond the
largest float is refused.
-/

namespace Hypermedia.Json

open Decimal (isDigit twoTo)

def digit (c : Char) : Nat := c.toNat - 48

/-- Digits gathered so far, the power of ten they stand for, and what follows. -/
structure Gathered where
  significand : Nat
  exponent : Int
  rest : List Char

/-- The digits before the point: gathered while they fit, then counted. -/
def gatherWhole : List Char → Nat → Nat → Gathered
  | [], s, dropped => ⟨s, dropped, []⟩
  | c :: cs, s, dropped =>
    if isDigit c then
      if dropped = 0 ∧ 10 * s + digit c < twoTo 64 then gatherWhole cs (10 * s + digit c) 0
      else gatherWhole cs s (dropped + 1)
    else ⟨s, dropped, c :: cs⟩

/-- The digits after the point: gathered while they fit, then ignored. -/
def gatherFraction : List Char → Nat → Int → Bool → Gathered
  | [], s, e, _ => ⟨s, e, []⟩
  | c :: cs, s, e, full =>
    if isDigit c then
      if !full && decide (10 * s + digit c < twoTo 64) then
        gatherFraction cs (10 * s + digit c) (e - 1) false
      else gatherFraction cs s e true
    else ⟨s, e, c :: cs⟩

/-- The largest power of ten that is multiplied or divided by at once. -/
def largestPower : Nat := 308

def powerOfTen (k : Nat) : Float := Float.ofScientific 1 false k

/-- Division by `10 ^ k`, by the largest power first where `k` exceeds it. -/
def divideBy : Nat → Float → Nat → Float
  | 0, f, _ => f
  | fuel + 1, f, k =>
    if k ≤ largestPower then f / powerOfTen k
    else if f == 0.0 then f
    else divideBy fuel (f / powerOfTen largestPower) (k - largestPower)

/-- `s * 10 ^ e` in binary64; none where it is infinite. -/
def scaled (s : Nat) (e : Int) : Option Float :=
  let f := s.toUInt64.toFloat
  if e < 0 then some (divideBy 4 f (-e).toNat)
  else if e ≤ largestPower then
    let r := f * powerOfTen e.toNat
    if r.isInf then none else some r
  else if s = 0 then some f
  else none

def floatOf (negative : Bool) (s : Nat) (e : Int) : Option Number :=
  (scaled s e).map fun x => .float (if negative then -x else x)

def readExponent (negative : Bool) (s : Nat) (e : Int) (cs : List Char) : Option (Number × List Char) :=
  let (down, cs) := Decimal.signed cs
  let ds := cs.takeWhile isDigit
  if ds.isEmpty then none
  else
    let n := Decimal.digitsValue ds
    let e' := if down then e - n else e + n
    (floatOf negative s (if n < twoTo 31 ∨ s ≠ 0 then e' else 0)).map (·, cs.dropWhile isDigit)

def readFrom (negative : Bool) (g : Gathered) : Option (Number × List Char) :=
  match g.rest with
  | '.' :: cs =>
    if (cs.takeWhile isDigit).isEmpty then none
    else
      let f := gatherFraction cs g.significand g.exponent false
      match f.rest with
      | 'e' :: cs => readExponent negative f.significand f.exponent cs
      | 'E' :: cs => readExponent negative f.significand f.exponent cs
      | rest => (floatOf negative f.significand f.exponent).map (·, rest)
  | 'e' :: cs => readExponent negative g.significand g.exponent cs
  | 'E' :: cs => readExponent negative g.significand g.exponent cs
  | rest =>
    if g.exponent = 0 ∧ ¬ negative then some (.int g.significand, rest)
    else if g.exponent = 0 ∧ g.significand ≠ 0 ∧ g.significand ≤ twoTo 63 then
      some (.int (-(g.significand : Int)), rest)
    else (floatOf negative g.significand g.exponent).map (·, rest)

/-- A number at the start of a list, and what follows. Only a single zero may lead. -/
def readNumber (cs : List Char) : Option (Number × List Char) :=
  let (negative, body) := match cs with
    | '-' :: cs => (true, cs)
    | cs => (false, cs)
  match body with
  | [] => none
  | c :: rest =>
    if c = '0' then
      if (rest.head?).any isDigit then none else readFrom negative ⟨0, 0, rest⟩
    else if isDigit c then readFrom negative (gatherWhole (c :: rest) 0 0)
    else none

end Hypermedia.Json
