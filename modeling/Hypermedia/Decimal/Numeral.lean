import Hypermedia.Decimal.Power

/-!
# Reading numerals

Numerals as they stand in request texts: signed and unsigned 64-bit integers, and binary64 numbers with
an optional fraction and exponent, or one of the words for infinity and "not a number". A numeral takes
up the whole text; a number is rounded to nearest, once.
-/

namespace Hypermedia.Decimal

def isDigit (c : Char) : Bool := '0' ≤ c && c ≤ '9'

/-- The value of a list of digits, most significant first. -/
def digitsValue (ds : List Char) : Nat := ds.foldl (fun n c => 10 * n + (c.toNat - 48)) 0

def natural? (cs : List Char) : Option Nat :=
  if cs.isEmpty ∨ ¬ cs.all isDigit then none else some (digitsValue cs)

/-- A list after its sign: negative or not. A missing sign is positive. -/
def signed : List Char → Bool × List Char
  | '-' :: cs => (true, cs)
  | '+' :: cs => (false, cs)
  | cs => (false, cs)

def int64? (s : String) : Option Int :=
  let (negative, cs) := signed s.toList
  (natural? cs).bind fun n =>
    if negative then (if n ≤ twoTo 63 then some (-(n : Int)) else none)
    else if n < twoTo 63 then some (n : Int) else none

/-- An unsigned integer of 64 bits; a plus sign may stand in front. -/
def uint64? (s : String) : Option Nat :=
  let cs := match s.toList with
    | '+' :: cs => cs
    | cs => cs
  (natural? cs).bind fun n => if n < twoTo 64 then some n else none

/-- The decimal `± coefficient * 10 ^ exponent`. -/
structure Numeral where
  negative : Bool
  coefficient : Nat
  exponent : Int

/-- A digit string after the exponent mark, with its sign. -/
def exponent? (cs : List Char) : Option Int :=
  let (negative, ds) := signed cs
  (natural? ds).map fun n => if negative then -(n : Int) else (n : Int)

/-- Whole part, fraction and exponent; at least one digit stands before the exponent. -/
def numeral? (cs : List Char) : Option Numeral :=
  let (negative, body) := signed cs
  let whole := body.takeWhile isDigit
  let rest := body.dropWhile isDigit
  let (fraction, rest) := match rest with
    | '.' :: cs => (cs.takeWhile isDigit, cs.dropWhile isDigit)
    | cs => ([], cs)
  if whole.isEmpty ∧ fraction.isEmpty then none
  else
    let scaled (e : Int) : Numeral := ⟨negative, digitsValue (whole ++ fraction), e - fraction.length⟩
    match rest with
    | [] => some (scaled 0)
    | c :: cs => if c = 'e' ∨ c = 'E' then (exponent? cs).map scaled else none

/-- The binary64 number nearest to a numeral; beyond the largest it is infinite. -/
def Numeral.toFloat (n : Numeral) : Float :=
  let size := (Nat.toDigits 10 n.coefficient).length
  let magnitude : Float :=
    if n.coefficient = 0 ∨ n.exponent + size < -330 then 0.0
    else if n.exponent + size > 310 then 1.0 / 0.0
    else Float.ofScientific n.coefficient (n.exponent < 0) n.exponent.natAbs
  if n.negative then -magnitude else magnitude

def folded (cs : List Char) : List Char := cs.map Char.toLower

/-- A binary64 number: a numeral or a word, with an optional sign. -/
def float? (s : String) : Option Float :=
  match numeral? s.toList with
  | some n => some n.toFloat
  | none =>
    let (negative, word) := signed s.toList
    let word := String.ofList (folded word)
    let value : Option Float :=
      if word = "inf" ∨ word = "infinity" then some (1.0 / 0.0)
      else if word = "nan" then some (0.0 / 0.0)
      else none
    value.map fun x => if negative then -x else x

end Hypermedia.Decimal
