import Hypermedia.Text.Blank
import Hypermedia.Text.Case

/-!
# Character classes of patterns

A class is a predicate on characters. The short classes have a wide form, which knows every script, and
a narrow form of ASCII characters. Closing a class under case adds every character whose case folding
is that of a member; a class is closed before it is negated.
-/

namespace Hypermedia.Regex

abbrev CharClass := Char → Bool

namespace CharClass

def none : CharClass := fun _ => false

def single (x : Char) : CharClass := fun c => c == x

def range (first last : Char) : CharClass := fun c => first ≤ c && c ≤ last

def union (p q : CharClass) : CharClass := fun c => p c || q c

def complement (p : CharClass) : CharClass := fun c => !p c

/-- One of several characters or ranges, by code point. -/
def ofRanges (rs : List (Nat × Nat)) : CharClass := fun c =>
  rs.any fun (lo, hi) => lo ≤ c.toNat && c.toNat ≤ hi

/-- The class closed under case, of all scripts or of ASCII letters only. -/
def caseless (wide : Bool) (p : CharClass) : CharClass := fun c =>
  if wide then (Text.caseVariants c).any p
  else p c || ('a' ≤ c && c ≤ 'z' && p (Char.ofNat (c.toNat - 32))) ||
    ('A' ≤ c && c ≤ 'Z' && p (Char.ofNat (c.toNat + 32)))

def digit (wide : Bool) : CharClass := if wide then Text.isDecimalDigit else range '0' '9'

def blank (wide : Bool) : CharClass := if wide then Text.isBlank else ofRanges [(9, 13), (32, 32)]

def word (wide : Bool) : CharClass :=
  if wide then Text.isWord else ofRanges [(48, 57), (65, 90), (95, 95), (97, 122)]

/-- The ASCII classes that are named inside brackets. -/
def named : List (String × List (Nat × Nat)) := [
  ("alnum", [(48, 57), (65, 90), (97, 122)]), ("alpha", [(65, 90), (97, 122)]), ("ascii", [(0, 127)]),
  ("blank", [(9, 9), (32, 32)]), ("cntrl", [(0, 31), (127, 127)]), ("digit", [(48, 57)]),
  ("graph", [(33, 126)]), ("lower", [(97, 122)]), ("print", [(32, 126)]),
  ("punct", [(33, 47), (58, 64), (91, 96), (123, 126)]), ("space", [(9, 13), (32, 32)]),
  ("upper", [(65, 90)]), ("word", [(48, 57), (65, 90), (95, 95), (97, 122)]),
  ("xdigit", [(48, 57), (65, 70), (97, 102)])]

end CharClass

inductive SetOperation where
  | intersection
  | difference
  | symmetricDifference

def SetOperation.apply : SetOperation → CharClass → CharClass → CharClass
  | intersection, p, q => fun c => p c && q c
  | difference, p, q => fun c => p c && !q c
  | symmetricDifference, p, q => fun c => p c != q c

/-- A condition on the characters before and after a position. -/
abbrev Anchor := Option Char → Option Char → Bool

namespace Anchor

def textStart : Anchor := fun before _ => before.isNone

def textEnd : Anchor := fun _ after => after.isNone

/-- The start of a line; with `crlf` a carriage return ends a line, alone or before a line feed. -/
def lineStart (crlf : Bool) : Anchor := fun before after =>
  before.isNone || before == some '\n' || (crlf && before == some '\r' && after != some '\n')

def lineEnd (crlf : Bool) : Anchor := fun before after =>
  after.isNone ||
    (if crlf then after == some '\r' || (after == some '\n' && before != some '\r')
      else after == some '\n')

/-- Exactly one side is a word character. -/
def wordEdge (word : CharClass) : Anchor := fun before after => before.any word != after.any word

def notWordEdge (word : CharClass) : Anchor := fun before after => before.any word == after.any word

def wordStart (word : CharClass) : Anchor := fun before after => !before.any word && after.any word

def wordEnd (word : CharClass) : Anchor := fun before after => before.any word && !after.any word

def wordStartHalf (word : CharClass) : Anchor := fun before _ => !before.any word

def wordEndHalf (word : CharClass) : Anchor := fun _ after => !after.any word

end Anchor

end Hypermedia.Regex
