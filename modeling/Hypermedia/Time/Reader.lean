import Hypermedia.Decimal.Numeral
import Hypermedia.Text.Blank
import Hypermedia.Time.Instant

/-!
# Reading timestamps and dates

Timestamps follow RFC 3339: a date, a separator, a time with optional fraction, and an offset that is
`Z` or hours and minutes. Second 60 is a leap second in any minute. A plain date is year, month and day,
with blanks allowed before each number and a sign before the year.
-/

namespace Hypermedia.Time

open Decimal (isDigit digitsValue)

def digitsOf (n : Nat) (cs : List Char) : Option (Nat × List Char) :=
  let ds := cs.take n
  if ds.length = n ∧ ds.all isDigit then some (digitsValue ds, cs.drop n) else none

def expect (c : Char) : List Char → Option (List Char)
  | d :: cs => if d = c then some cs else none
  | [] => none

/-- A timestamp as written: date, time of day and offset in minutes. -/
structure Stamp where
  date : Date
  hour : Nat
  minute : Nat
  second : Nat
  nanos : Nat
  offset : Int
  deriving DecidableEq

def Stamp.isValid (s : Stamp) : Bool :=
  s.date.isValid && decide (s.hour ≤ 23) && decide (s.minute ≤ 59) && decide (s.second ≤ 60)

def Stamp.instant (s : Stamp) : Instant :=
  let second := if s.second = 60 then 59 else s.second
  let nanos := if s.second = 60 then s.nanos + 1000000000 else s.nanos
  ⟨s.date.toDays * 86400 + ((s.hour * 3600 + s.minute * 60 + second : Nat) : Int) - s.offset * 60, nanos⟩

/-- Nanoseconds of a fraction: its first nine digits. -/
def fractionNanos (ds : List Char) : Nat :=
  let kept := ds.take 9
  digitsValue kept * Decimal.tenTo (9 - kept.length)

def fraction : List Char → Option (Nat × List Char)
  | '.' :: cs =>
    let ds := cs.takeWhile isDigit
    if ds.isEmpty then none else some (fractionNanos ds, cs.dropWhile isDigit)
  | cs => some (0, cs)

/-- Hours and minutes of an offset, in minutes. -/
def offsetMinutes (cs : List Char) : Option Nat := do
  let (hours, cs) ← digitsOf 2 cs
  let cs ← expect ':' cs
  let (minutes, cs) ← digitsOf 2 cs
  if cs.isEmpty ∧ minutes ≤ 59 ∧ hours ≤ 23 then some (hours * 60 + minutes) else none

/-- The offset that ends a timestamp; the true minus sign is as good as the hyphen. -/
def offset : List Char → Option Int
  | ['Z'] => some 0
  | ['z'] => some 0
  | '+' :: cs => (offsetMinutes cs).map fun n => (n : Int)
  | c :: cs =>
    if c = '-' ∨ c.toNat = 0x2212 then (offsetMinutes cs).map fun n => -(n : Int) else none
  | [] => none

/-- A timestamp that takes up the whole list. -/
def stamp? (cs : List Char) : Option Stamp := do
  let (year, cs) ← digitsOf 4 cs
  let cs ← expect '-' cs
  let (month, cs) ← digitsOf 2 cs
  let cs ← expect '-' cs
  let (day, cs) ← digitsOf 2 cs
  let cs ← match cs with
    | c :: cs => if c = 'T' ∨ c = 't' ∨ c = ' ' then some cs else none
    | [] => none
  let (hour, cs) ← digitsOf 2 cs
  let cs ← expect ':' cs
  let (minute, cs) ← digitsOf 2 cs
  let cs ← expect ':' cs
  let (second, cs) ← digitsOf 2 cs
  let (nanos, cs) ← fraction cs
  let offset ← offset cs
  let stamp : Stamp := ⟨⟨year, month, day⟩, hour, minute, second, nanos, offset⟩
  if stamp.isValid then some stamp else none

def instant? (s : String) : Option Instant := (stamp? s.toList).map Stamp.instant

/-- At least one digit and at most `n`, and what follows. -/
def digitsUpTo (n : Nat) (cs : List Char) : Option (Nat × List Char) :=
  let ds := (cs.take n).takeWhile isDigit
  if ds.isEmpty then none else some (digitsValue ds, cs.drop ds.length)

/-- A year: any number of digits after a sign, at most four without. -/
def year (cs : List Char) : Option (Int × List Char) :=
  match Text.dropBlanks cs with
  | '-' :: cs => (digitsUpTo cs.length cs).map fun (n, cs) => (-(n : Int), cs)
  | '+' :: cs => (digitsUpTo cs.length cs).map fun (n, cs) => ((n : Int), cs)
  | cs => (digitsUpTo 4 cs).map fun (n, cs) => ((n : Int), cs)

def date? (cs : List Char) : Option Date := do
  let (year, cs) ← year cs
  let cs ← expect '-' cs
  let (month, cs) ← digitsUpTo 2 (Text.dropBlanks cs)
  let cs ← expect '-' cs
  let (day, cs) ← digitsUpTo 2 (Text.dropBlanks cs)
  let date : Date := ⟨year, month, day⟩
  if cs.isEmpty ∧ date.isValid then some date else none

def Date.midnight (d : Date) : Instant := ⟨d.toDays * 86400, 0⟩

/-- The instant that a text denotes once trimmed, as a timestamp or else as a plain date. -/
def denoted? (s : String) : Option Instant :=
  let cs := Text.trimChars s.toList
  ((stamp? cs).map Stamp.instant).or ((date? cs).map Date.midnight)

/-- The canonical text of what a text denotes; a text that denotes no time stays as it is. -/
def normalized (s : String) : String :=
  match denoted? s with
  | some t => t.text
  | none => s

end Hypermedia.Time
