import Hypermedia.Regex.CharClass
import Hypermedia.Regex.Flags
import Hypermedia.Text.Property

/-!
# Escapes in patterns

What a backslash and the characters after it stand for: a literal character, a class or an anchor.
Digits are refused, for there are no references to groups. A text is made literal by putting a
backslash before each character that has a meaning.
-/

namespace Hypermedia.Regex

open Text (hexValue)

inductive Escape where
  | literal (c : Char)
  | inClass (p : CharClass)
  | anchor (holds : Anchor)

def metaCharacters : List Char :=
  ['\\', '.', '+', '*', '?', '(', ')', '|', '[', ']', Char.ofNat 123, Char.ofNat 125, '^', '$', '#', '&', '-', '~']

/-- A character that stands for itself after a backslash: ASCII, but no letter, digit or angle. -/
def isEscapable (c : Char) : Bool :=
  c.toNat < 128 && !(('a' ≤ c && c ≤ 'z') || ('A' ≤ c && c ≤ 'Z') || ('0' ≤ c && c ≤ '9') ||
    c == '<' || c == '>')

def escapeChar (c : Char) : List Char := if metaCharacters.contains c then ['\\', c] else [c]

def escapeChars (cs : List Char) : List Char := cs.flatMap escapeChar

/-- The pattern of a literal text. -/
def escape (s : String) : String := String.ofList (escapeChars s.toList)

/-- The character with this code point, unless it is a surrogate or too large. -/
def scalar? (n : Nat) : Option Char :=
  if n < 0xD800 ∨ (0xDFFF < n ∧ n < 0x110000) then some (Char.ofNat n) else none

def hex? (cs : List Char) : Option Nat :=
  if cs.isEmpty ∨ ¬ cs.all fun c => (hexValue c).isSome then none else some (Text.hexNumber cs)

/-- The next `n` characters that count. -/
def takeSettled (f : Flags) : Nat → List Char → Option (List Char × List Char)
  | 0, cs => some ([], cs)
  | n + 1, cs =>
    match f.settle cs with
    | [] => none
    | c :: cs => (takeSettled f n cs).map fun (ds, rest) => (c :: ds, rest)

/-- What stands before a closing brace, without blanks if they do not count, and what follows. -/
def braced (f : Flags) (cs : List Char) : Option (List Char × List Char) :=
  match cs.dropWhile (· ≠ Char.ofNat 125) with
  | [] => none
  | _ :: rest =>
    let inner := cs.takeWhile (· ≠ Char.ofNat 125)
    some (if f.spaced then inner.filter (!Text.isBlank ·) else inner, rest)

/-- A code point: in braces, or exactly `width` digits. -/
def readCodePoint (f : Flags) (width : Nat) (cs : List Char) : Option (Escape × List Char) :=
  let cs := f.settle cs
  let (digits, single) :=
    if cs.head? = some (Char.ofNat 123) then (braced f (cs.drop 1), false)
    else (takeSettled f width cs, width = 2)
  digits.bind fun (ds, rest) =>
    ((hex? ds).bind scalar?).bind fun c =>
      if single ∧ ¬ f.wide ∧ 128 ≤ c.toNat then none else some (.literal c, rest)

def cutAtAny (separators : List (List Char)) : List Char → Option (List Char × List Char)
  | [] => none
  | c :: cs =>
    match separators.find? fun s => s.isPrefixOf (c :: cs) with
    | some s => some ([], (c :: cs).drop s.length)
    | none => (cutAtAny separators cs).map fun (before, after) => (c :: before, after)

/-- A class by the text between braces, and whether it is negated: a name, or property and value. -/
def propertyClass? (text : List Char) : Option (CharClass × Bool) :=
  let valued (before after : List Char) (negated : Bool) :=
    (Text.valuedClass? (String.ofList before) (String.ofList after)).map (·, negated)
  match cutAtAny [['!', '=']] text with
  | some (before, after) => valued before after true
  | none =>
    match (cutAtAny [[':']] text).or (cutAtAny [['=']] text) with
    | some (before, after) => valued before after false
    | none => (Text.namedClass? (String.ofList text)).map (·, false)

/-- The class of a property; `capital` for the negated form. -/
def readProperty (f : Flags) (capital : Bool) (cs : List Char) : Option (Escape × List Char) :=
  if ¬ f.wide then none
  else
    match f.settle cs with
    | [] => none
    | c :: cs =>
      let found :=
        if c = Char.ofNat 123 then braced f cs
        else if c = '\\' then none
        else some ([c], cs)
      found.bind fun (text, rest) =>
        (propertyClass? text).map fun (p, negated) =>
          let p := if f.caseless then p.caseless true else p
          (.inClass (if negated != capital then p.complement else p), rest)

/-- The anchor named in braces after `\b`, if braces with a word follow; an unknown word is refused. -/
def readWordAnchor (f : Flags) (cs : List Char) : Option (Escape × List Char) :=
  let word := CharClass.word f.wide
  let plain := some (Escape.anchor (.wordEdge word), cs)
  match cs with
  | [] => plain
  | c :: inner =>
    if c ≠ Char.ofNat 123 then plain
    else
      match f.settle inner with
      | [] => none
      | d :: _ =>
        if ¬ (('a' ≤ d ∧ d ≤ 'z') ∨ ('A' ≤ d ∧ d ≤ 'Z') ∨ d = '-') then plain
        else
          (braced f inner).bind fun (name, rest) =>
            match String.ofList name with
            | "start" => some (.anchor (.wordStart word), rest)
            | "end" => some (.anchor (.wordEnd word), rest)
            | "start-half" => some (.anchor (.wordStartHalf word), rest)
            | "end-half" => some (.anchor (.wordEndHalf word), rest)
            | _ => none

def readEscape (f : Flags) : List Char → Option (Escape × List Char)
  | [] => none
  | c :: cs =>
    let literal (n : Nat) : Option (Escape × List Char) := some (.literal (Char.ofNat n), cs)
    let short (p : CharClass) : Option (Escape × List Char) := some (.inClass p, cs)
    let negated (p : CharClass) : Option (Escape × List Char) :=
      if f.wide then some (.inClass p.complement, cs) else none
    match c with
    | 'x' => readCodePoint f 2 cs
    | 'u' => readCodePoint f 4 cs
    | 'U' => readCodePoint f 8 cs
    | 'p' => readProperty f false cs
    | 'P' => readProperty f true cs
    | 'd' => short (.digit f.wide)
    | 's' => short (.blank f.wide)
    | 'w' => short (.word f.wide)
    | 'D' => negated (.digit f.wide)
    | 'S' => negated (.blank f.wide)
    | 'W' => negated (.word f.wide)
    | 'a' => literal 7
    | 'f' => literal 12
    | 't' => literal 9
    | 'n' => literal 10
    | 'r' => literal 13
    | 'v' => literal 11
    | 'A' => some (.anchor .textStart, cs)
    | 'z' => some (.anchor .textEnd, cs)
    | 'b' => readWordAnchor f cs
    | 'B' => some (.anchor (.notWordEdge (.word f.wide)), cs)
    | '<' => some (.anchor (.wordStart (.word f.wide)), cs)
    | '>' => some (.anchor (.wordEnd (.word f.wide)), cs)
    | c => if isEscapable c then some (.literal c, cs) else none

end Hypermedia.Regex
