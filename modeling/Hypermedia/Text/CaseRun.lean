/-!
# Runs of a character mapping

A mapping of characters that moves many of them by the same distance is kept as runs: every `step`-th
character from `first` to `last` moves by `shift`.
-/

namespace Hypermedia.Text

/-- The characters `first, first + step, …, last`, each moved by `shift`. -/
structure CaseRun where
  first : Nat
  last : Nat
  step : Nat
  shift : Int

def CaseRun.covers (r : CaseRun) (n : Nat) : Bool :=
  r.first ≤ n && n ≤ r.last && (n - r.first) % r.step == 0

/-- Where the first covering run moves a character, if one covers it. -/
def movedBy (runs : List CaseRun) (n : Nat) : Option Nat :=
  (runs.find? (·.covers n)).map fun r => ((n : Int) + r.shift).toNat

def movedTo (runs : List CaseRun) (n : Nat) : List Nat :=
  runs.filterMap fun r =>
    let source := (n : Int) - r.shift
    if 0 ≤ source ∧ r.covers source.toNat then some source.toNat else none

end Hypermedia.Text
