import Hypermedia.Text.CaseTable
import Hypermedia.Text.Category

/-!
# Lower case, upper case, case folding

Mappings of whole texts. Lower case depends on its surroundings at one letter only: a capital sigma at
the end of a word becomes the final form.
-/

namespace Hypermedia.Text

/-- Lower case of one character, without regard to its surroundings. -/
def lowerChar (c : Char) : List Char :=
  if c.toNat < 128 then [if 'A' ≤ c ∧ c ≤ 'Z' then Char.ofNat (c.toNat + 32) else c]
  else if c.toNat = 0x130 then ['i', Char.ofNat 0x307]
  else [Char.ofNat ((movedBy lowerRuns c.toNat).getD c.toNat)]

def upperChar (c : Char) : List Char :=
  if c.toNat < 128 then [if 'a' ≤ c ∧ c ≤ 'z' then Char.ofNat (c.toNat - 32) else c]
  else match upperExpansions.find? (·.1 == c.toNat) with
    | some (_, expansion) => expansion.map Char.ofNat
    | none => [Char.ofNat ((movedBy upperRuns c.toNat).getD c.toNat)]

/-- The first character that case conditions do not look through has case. -/
def meetsCased (cs : List Char) : Bool := (cs.dropWhile isCaseIgnorable).head?.any isCased

/-- A sigma between these neighbours ends a word; `before` is read backwards. -/
def endsWord (before after : List Char) : Bool := meetsCased before && !meetsCased after

/-- Lower case of a list; `before` holds what was passed, backwards. -/
def lowerFrom (before : List Char) : List Char → List Char
  | [] => []
  | c :: cs =>
    (if c.toNat = 0x3A3 then [Char.ofNat (if endsWord before cs then 0x3C2 else 0x3C3)]
      else lowerChar c) ++ lowerFrom (c :: before) cs

def lower (s : String) : String := String.ofList (lowerFrom [] s.toList)

def lowerAscii (s : String) : String :=
  String.ofList (s.toList.map fun c => if 'A' ≤ c ∧ c ≤ 'Z' then Char.ofNat (c.toNat + 32) else c)

def foldCode (n : Nat) : Nat :=
  if n < 128 then (if 65 ≤ n ∧ n ≤ 90 then n + 32 else n) else (movedBy foldRuns n).getD n

/-- All characters with the same simple case folding, the character itself included. -/
def caseVariants (c : Char) : List Char :=
  let folded := foldCode c.toNat
  let capital := if 97 ≤ folded ∧ folded ≤ 122 then [folded - 32] else []
  c :: ((folded :: capital ++ movedTo foldRuns folded).filter (· ≠ c.toNat)).map Char.ofNat

end Hypermedia.Text
