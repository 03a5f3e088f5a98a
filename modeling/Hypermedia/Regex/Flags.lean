import Hypermedia.Text.Blank

/-!
# Flags of patterns

What a pattern's flags change, and the reading of a list of flags such as `is-m`. Flags hold to the end
of the group that they stand in.
-/

namespace Hypermedia.Regex

/-- The flags in force at a point of a pattern. -/
structure Flags where
  /-- Letters match in either case. -/
  caseless : Bool := false
  /-- The line anchors look at every line. -/
  multiLine : Bool := false
  /-- The dot matches line feeds too. -/
  dotAll : Bool := false
  /-- A carriage return ends a line. -/
  crlf : Bool := false
  /-- Classes know every script. -/
  wide : Bool := true
  /-- Blanks and comments in the pattern do not count. -/
  spaced : Bool := false

/-- A flag set or cleared by its letter; the letter for greed changes nothing about membership. -/
def Flags.put (f : Flags) (letter : Char) (on : Bool) : Option Flags :=
  match letter with
  | 'i' => some { f with caseless := on }
  | 'm' => some { f with multiLine := on }
  | 's' => some { f with dotAll := on }
  | 'R' => some { f with crlf := on }
  | 'u' => some { f with wide := on }
  | 'x' => some { f with spaced := on }
  | 'U' => some f
  | _ => none

/-- A list without leading blanks and comments; `comment` tells that one has begun. -/
def skipIgnored (comment : Bool) : List Char → List Char
  | [] => []
  | c :: cs =>
    if comment then skipIgnored (c ≠ '\n') cs
    else if Text.isBlank c then skipIgnored false cs
    else if c = '#' then skipIgnored true cs
    else c :: cs

def Flags.settle (f : Flags) (cs : List Char) : List Char :=
  if f.spaced then skipIgnored false cs else cs

/-- Flag letters up to a colon or a closing parenthesis: the new flags, whether there were letters, that
character, and what follows. No letter may come twice, and no hyphen may come twice or last. -/
def readFlags (f : Flags) (seen : List Char) (on : Bool) : List Char →
    Option (Flags × Bool × Char × List Char)
  | [] => none
  | c :: cs =>
    if c = ':' ∨ c = ')' then
      if seen.head? = some '-' then none else some (f, !seen.isEmpty, c, cs)
    else if seen.contains c then none
    else if c = '-' then readFlags f (c :: seen) false cs
    else match f.put c on with
      | some f => readFlags f (c :: seen) on cs
      | none => none

end Hypermedia.Regex
