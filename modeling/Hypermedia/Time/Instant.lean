import Hypermedia.Time.Calendar

/-!
# Instants and their canonical text

An instant counts seconds since 1970-01-01 and nanoseconds within the second; a leap second is the
second before it with a thousand million nanoseconds added. The canonical text is in UTC with three
decimals, and cuts off what is finer.
-/

namespace Hypermedia.Time

structure Instant where
  seconds : Int
  nanos : Nat
  deriving DecidableEq

namespace Instant

def compare (a b : Instant) : Ordering :=
  if a.seconds < b.seconds then .lt
  else if b.seconds < a.seconds then .gt
  else Ord.compare a.nanos b.nanos

def isAfter (a b : Instant) : Bool := a.compare b == .gt

/-- Whole milliseconds since 1970-01-01; a leap second counts into the next one. -/
def milliseconds (t : Instant) : Int := t.seconds * 1000 + (t.nanos / 1000000 : Nat)

end Instant

def padded (width n : Nat) : List Char :=
  let ds := Nat.toDigits 10 n
  List.replicate (width - ds.length) '0' ++ ds

/-- Four digits for the years 0 to 9999, a sign and at least four digits for all others. -/
def yearText (y : Int) : List Char :=
  if 0 ≤ y ∧ y ≤ 9999 then padded 4 y.toNat
  else (if y < 0 then '-' else '+') :: padded 4 y.natAbs

def Date.chars (d : Date) : List Char :=
  yearText d.year ++ '-' :: padded 2 d.month ++ '-' :: padded 2 d.day

def clockChars (secondOfDay nanos : Nat) : List Char :=
  let leap := 1000000000 ≤ nanos
  let second := secondOfDay % 60 + (if leap then 1 else 0)
  let fraction := if leap then nanos - 1000000000 else nanos
  padded 2 (secondOfDay / 3600) ++ ':' :: padded 2 (secondOfDay / 60 % 60) ++
    ':' :: padded 2 second ++ '.' :: padded 3 (fraction / 1000000)

/-- The canonical text: UTC, three decimals, `Z`. -/
def Instant.text (t : Instant) : String :=
  String.ofList ((Date.ofDays (t.seconds / 86400)).chars ++
    'T' :: clockChars (t.seconds % 86400).toNat t.nanos ++ ['Z'])

end Hypermedia.Time
