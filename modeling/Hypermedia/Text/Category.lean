import Hypermedia.Text.CategoryTable

/-!
# Character classes

The general category of a character and the classes built from it: letters with case, word
characters, decimal digits. ASCII is decided by its ranges; all else is looked up in the table.
-/

namespace Hypermedia.Text

namespace Category

def codes : List (String × Category) := [
  ("Lu", .lu), ("Ll", .ll), ("Lt", .lt), ("Lm", .lm), ("Lo", .lo), ("Mn", .mn), ("Mc", .mc),
  ("Me", .me), ("Nd", .nd), ("Nl", .nl), ("No", .no), ("Pc", .pc), ("Pd", .pd), ("Ps", .ps),
  ("Pe", .pe), ("Pi", .pi), ("Pf", .pf), ("Po", .po), ("Sm", .sm), ("Sc", .sc), ("Sk", .sk),
  ("So", .so), ("Zs", .zs), ("Zl", .zl), ("Zp", .zp), ("Cc", .cc), ("Cf", .cf), ("Cs", .cs),
  ("Co", .co), ("Cn", .cn)]

/-- The category with this code; unassigned for any other text. -/
def ofCode (code : String) : Category := ((codes.find? (·.1 == code)).map (·.2)).getD .cn

end Category

def hexValue (c : Char) : Option Nat :=
  if '0' ≤ c ∧ c ≤ '9' then some (c.toNat - 48)
  else if 'a' ≤ c ∧ c ≤ 'f' then some (c.toNat - 87)
  else if 'A' ≤ c ∧ c ≤ 'F' then some (c.toNat - 55)
  else none

/-- The value of a run of hexadecimal digits; other characters count as zero. -/
def hexNumber (cs : List Char) : Nat := cs.foldl (fun n c => n * 16 + (hexValue c).getD 0) 0

/-- The words of a table; `word` holds the current one backwards. -/
def categoryWords : List Char → List Char → List (List Char)
  | [], word => [word.reverse]
  | c :: cs, word =>
    if c = ' ' ∨ c = '\n' then word.reverse :: categoryWords cs [] else categoryWords cs (c :: word)

def categoryRuns : Array (Nat × Category) := categoryList.toArray

/-- The category of the last run in `[lo, hi)` that begins at or before `n`, by halving. -/
def categorySearch (runs : Array (Nat × Category)) (n : Nat) : Nat → Nat → Nat → Category
  | 0, lo, _ => ((runs[lo]?).map (·.2)).getD .cn
  | fuel + 1, lo, hi =>
    if hi ≤ lo + 1 then ((runs[lo]?).map (·.2)).getD .cn
    else
      let mid := (lo + hi) / 2
      if ((runs[mid]?).map (·.1)).getD 0 ≤ n then categorySearch runs n fuel mid hi
      else categorySearch runs n fuel lo mid

def category (c : Char) : Category := categorySearch categoryRuns c.toNat 32 0 categoryRuns.size

def inRanges (ranges : List (Nat × Nat)) (c : Char) : Bool :=
  ranges.any fun (lo, hi) => lo ≤ c.toNat && c.toNat ≤ hi

/-- Enclosed letters and numerals that count as upper case without being letters. -/
def otherUpper : List (Nat × Nat) :=
  [(0x2160, 0x216F), (0x24B6, 0x24CF), (0x1F130, 0x1F149), (0x1F150, 0x1F169), (0x1F170, 0x1F189)]

/-- Modifiers, numerals and enclosed letters that count as lower case without being letters. -/
def otherLower : List (Nat × Nat) := [
  (0xAA, 0xAA), (0xBA, 0xBA), (0x2B0, 0x2B8), (0x2C0, 0x2C1), (0x2E0, 0x2E4), (0x345, 0x345),
  (0x37A, 0x37A), (0x10FC, 0x10FC), (0x1D2C, 0x1D6A), (0x1D78, 0x1D78), (0x1D9B, 0x1DBF),
  (0x2071, 0x2071), (0x207F, 0x207F), (0x2090, 0x209C), (0x2170, 0x217F), (0x24D0, 0x24E9),
  (0x2C7C, 0x2C7D), (0xA69C, 0xA69D), (0xA770, 0xA770), (0xA7F2, 0xA7F4), (0xA7F8, 0xA7F9),
  (0xAB5C, 0xAB5F), (0xAB69, 0xAB69), (0x10780, 0x10780), (0x10783, 0x10785), (0x10787, 0x107B0),
  (0x107B2, 0x107BA), (0x1E030, 0x1E06D)]

/-- Enclosed letters that count as alphabetic without being letters, marks or letter numbers. -/
def otherAlphabetic : List (Nat × Nat) :=
  [(0x24B6, 0x24E9), (0x1F130, 0x1F149), (0x1F150, 0x1F169), (0x1F170, 0x1F189)]

/-- Quotes, stops and colons inside words, which case conditions look through. -/
def wordInner : List Nat := [
  0x27, 0x2E, 0x3A, 0xB7, 0x387, 0x55F, 0x5F4, 0x2018, 0x2019, 0x2024, 0x2027, 0xFE13, 0xFE52,
  0xFE55, 0xFF07, 0xFF0E, 0xFF1A]

/-- The character has the property `Uppercase`. -/
def isUpper (c : Char) : Bool :=
  if c.toNat < 128 then 'A' ≤ c && c ≤ 'Z' else category c == .lu || inRanges otherUpper c

/-- The character has the property `Lowercase`. -/
def isLower (c : Char) : Bool :=
  if c.toNat < 128 then 'a' ≤ c && c ≤ 'z' else category c == .ll || inRanges otherLower c

def isCased (c : Char) : Bool := isUpper c || isLower c || category c == .lt

/-- The character is passed over when a case condition looks at its neighbourhood. -/
def isCaseIgnorable (c : Char) : Bool :=
  wordInner.contains c.toNat ||
    [Category.mn, .me, .cf, .lm, .sk].contains (category c)

def isDecimalDigit (c : Char) : Bool :=
  if c.toNat < 128 then '0' ≤ c && c ≤ '9' else category c == .nd

/-- Letters, marks, decimal digits, letter numbers, connectors and the two joiners. -/
def isWord (c : Char) : Bool :=
  if c.toNat < 128 then ('a' ≤ c && c ≤ 'z') || ('A' ≤ c && c ≤ 'Z') || ('0' ≤ c && c ≤ '9') || c == '_'
  else [Category.lu, .ll, .lt, .lm, .lo, .mn, .mc, .me, .nd, .nl, .pc].contains (category c) ||
    c.toNat == 0x200C || c.toNat == 0x200D || inRanges otherAlphabetic c

end Hypermedia.Text
