import Hypermedia.Decimal.Numeral
import Hypermedia.Regex.Escape
import Hypermedia.Regex.Pattern

/-!
# Reading patterns

The pattern language: literals, classes in brackets with set operations, anchors, groups with flags or
names, alternatives, and repetitions. A text outside the language is refused: an unclosed group or
class, a repetition of nothing, a look-around, a reference to a group.

Brackets and groups are read with an explicit stack of what is still open. Every step takes at least one
character, so the length of the text bounds the number of steps. No pattern is refused for its size or its
depth.
-/

namespace Hypermedia.Regex

/-- What a class in brackets waits for: its enclosing class, or the right side of an operation. -/
inductive ClassFrame where
  | opened (outer : CharClass) (negated : Bool)
  | operation (op : SetOperation) (left : CharClass)

def Flags.close (f : Flags) (p : CharClass) : CharClass := if f.caseless then p.caseless f.wide else p

/-- A class with its negation; a narrow class cannot be negated. -/
def Flags.finish (f : Flags) (negated : Bool) (p : CharClass) : Option CharClass :=
  if negated then (if f.wide then some (f.close p).complement else none) else some (f.close p)

/-- The right side of the operation that is waiting, if one is. -/
def Flags.combine (f : Flags) (frames : List ClassFrame) (right : CharClass) :
    CharClass × List ClassFrame :=
  match frames with
  | .operation op left :: frames => (op.apply (f.close left) (f.close right), frames)
  | frames => (right, frames)

/-- Hyphens in front of a class are literal, and so is a bracket that would close it at once. -/
def classStart (f : Flags) : List Char → Bool → CharClass → CharClass × List Char
  | [], _, p => (p, [])
  | c :: cs, hyphen, p =>
    if c = '-' then classStart f cs true (p.union (.single '-'))
    else if f.spaced ∧ Text.isBlank c then classStart f cs hyphen p
    else if c = ']' ∧ ¬ hyphen then (p.union (.single ']'), cs)
    else (p, c :: cs)

/-- A class after its opening bracket: negated or not, its first literals, what follows. -/
def openClass (f : Flags) (cs : List Char) : Bool × CharClass × List Char :=
  match f.settle cs with
  | '^' :: cs => (true, classStart f (f.settle cs) false .none)
  | cs => (false, classStart f cs false .none)

/-- One of the named ASCII classes after an opening bracket, such as `[:alpha:]`, and what follows. -/
def namedClass (f : Flags) : List Char → Option (CharClass × List Char)
  | ':' :: cs =>
    let (negated, cs) := match cs with
      | '^' :: cs => (true, cs)
      | cs => (false, cs)
    let name := String.ofList (cs.takeWhile (· ≠ ':'))
    match cs.dropWhile (· ≠ ':') with
    | ':' :: ']' :: rest =>
      ((CharClass.named.find? (·.1 == name)).bind fun (_, ranges) =>
        f.finish negated (.ofRanges ranges)).map (·, rest)
    | _ => none
  | _ => none

def classItem (f : Flags) : List Char → Option (Escape × List Char)
  | [] => none
  | '\\' :: cs => readEscape f cs
  | c :: cs => if f.wide ∨ c.toNat < 128 then some (.literal c, cs) else none

def classRange (f : Flags) (cs : List Char) : Option (CharClass × List Char) :=
  (classItem f cs).bind fun (item, cs) =>
    let alone : Option (CharClass × List Char) :=
      match item with
      | .literal c => some (.single c, cs)
      | .inClass p => some (p, cs)
      | .anchor _ => none
    match f.settle cs with
    | '-' :: after =>
      match f.settle after with
      | [] => none
      | d :: _ =>
        if d = ']' ∨ d = '-' then alone
        else match item, classItem f (f.settle after) with
          | .literal first, some (.literal last, rest) =>
            if first ≤ last then some (.range first last, rest) else none
          | _, _ => none
    | [] => none
    | _ => alone

def operation? : List Char → Option (SetOperation × List Char)
  | '&' :: '&' :: cs => some (.intersection, cs)
  | '-' :: '-' :: cs => some (.difference, cs)
  | '~' :: '~' :: cs => some (.symmetricDifference, cs)
  | _ => none

/-- The rest of a class: `p` holds what was read of the innermost open class. -/
def readClass (f : Flags) : Nat → List ClassFrame → CharClass → List Char → Option (CharClass × List Char)
  | 0, _, _, _ => none
  | fuel + 1, frames, p, cs =>
    match f.settle cs with
    | [] => none
    | '[' :: cs =>
      match namedClass f cs with
      | some (q, rest) => readClass f fuel frames (p.union q) rest
      | none =>
        let (negated, q, rest) := openClass f cs
        readClass f fuel (.opened p negated :: frames) q rest
    | ']' :: cs =>
      let (whole, frames) := f.combine frames p
      match frames with
      | .opened outer negated :: frames =>
        match f.finish negated whole with
        | none => none
        | some q => if frames.isEmpty then some (q, cs) else readClass f fuel frames (outer.union q) cs
      | _ => none
    | cs =>
      match operation? cs with
      | some (op, rest) =>
        let (left, frames) := f.combine frames p
        readClass f fuel (.operation op left :: frames) .none rest
      | none =>
        match classRange f cs with
        | some (q, rest) => readClass f fuel frames (p.union q) rest
        | none => none

def readBrackets (f : Flags) (cs : List Char) : Option (CharClass × List Char) :=
  let (negated, p, rest) := openClass f cs
  readClass f (cs.length + 1) [.opened .none negated] p rest

/-- A count: digits with blanks around them, and what follows; none where there is no digit. -/
def readCount (f : Flags) (cs : List Char) : Option Nat × List Char :=
  let cs := Text.dropBlanks cs
  let visible := if f.spaced then cs.filter (!Text.isBlank ·) else cs
  let ds := visible.takeWhile Decimal.isDigit
  let rest := if f.spaced then
      (cs.dropWhile fun c => Decimal.isDigit c || Text.isBlank c) else cs.drop ds.length
  (Decimal.natural? ds, Text.dropBlanks rest)

/-- The bounds of a repetition after its opening brace, and what follows. Only the upper bound may be
left out, and no bound exceeds 32 bits. -/
def readBounds (f : Flags) (cs : List Char) : Option (Nat × Option Nat × List Char) :=
  let closing := Char.ofNat 125
  let fits (n : Nat) : Bool := decide (n < Decimal.twoTo 32)
  match readCount f (f.settle cs) with
  | (some least, ',' :: rest) =>
    match f.settle rest with
    | c :: after =>
      if c = closing then (if fits least then some (least, none, after) else none)
      else match readCount f (c :: after) with
        | (some most, d :: after) =>
          if d = closing ∧ fits least ∧ fits most ∧ least ≤ most then some (least, some most, after) else none
        | _ => none
    | [] => none
  | (some n, c :: after) => if c = closing ∧ fits n then some (n, some n, after) else none
  | _ => none

inductive GroupStart where
  | group (f : Flags) (name : Option (List Char))
  | directive (f : Flags)

def readName (cs : List Char) : Option (List Char × List Char) :=
  let name := cs.takeWhile (· ≠ '>')
  let inner (c : Char) : Bool :=
    c == '_' || c == '.' || c == '[' || c == ']' || Text.isAlphanumeric c
  match name, cs.dropWhile (· ≠ '>') with
  | c :: more, _ :: rest =>
    if (c = '_' ∨ Text.isAlphabetic c) ∧ more.all inner then some (name, rest) else none
  | _, _ => none

def readGroupStart (f : Flags) (cs : List Char) : Option (GroupStart × List Char) :=
  match f.settle cs with
  | '?' :: '=' :: _ => none
  | '?' :: '!' :: _ => none
  | '?' :: '<' :: '=' :: _ => none
  | '?' :: '<' :: '!' :: _ => none
  | '?' :: 'P' :: '<' :: cs => (readName cs).map fun (name, rest) => (.group f (some name), rest)
  | '?' :: '<' :: cs => (readName cs).map fun (name, rest) => (.group f (some name), rest)
  | '?' :: cs =>
    (readFlags f [] true cs).bind fun (g, listed, last, rest) =>
      if last = ':' then some (.group g none, rest)
      else if listed then some (.directive g, rest)
      else none
  | cs => some (.group f none, cs)

/-- An open group: the flags to go back to, its finished branches and the items of the last branch, both
in reverse order. A flag directive is an item that cannot be repeated. -/
structure Level where
  outer : Flags
  branches : List Regex
  items : List (Option Regex)

def Level.branch (l : Level) : Regex := sequence (l.items.reverse.filterMap id)

def Level.whole (l : Level) : Regex := choice (l.branch :: l.branches).reverse

def Level.push (l : Level) (item : Option Regex) : Level := { l with items := item :: l.items }

/-- The group with its last item repeated; there has to be one that is no directive. -/
def Level.repeatLast (l : Level) (least : Nat) (most : Option Nat) : Option Level :=
  match l.items with
  | some r :: items => some { l with items := some (.repeated r least most) :: items }
  | _ => none

/-- A list without the mark of a lazy repetition, which does not change membership. -/
def dropLazy : List Char → List Char
  | '?' :: cs => cs
  | cs => cs

def readPlain (f : Flags) (c : Char) : Option Regex :=
  if c = '.' then
    if ¬ f.wide then none
    else if f.dotAll then some (.one fun _ => true)
    else if f.crlf then some (.one fun c => c != '\n' && c != '\r')
    else some (.one fun c => c != '\n')
  else if c = '^' then some (.look (if f.multiLine then Anchor.lineStart f.crlf else Anchor.textStart))
  else if c = '$' then some (.look (if f.multiLine then Anchor.lineEnd f.crlf else Anchor.textEnd))
  else some (.one (f.close (.single c)))

def Escape.toRegex (f : Flags) : Escape → Regex
  | literal c => .one (f.close (.single c))
  | inClass p => .one p
  | anchor holds => .look holds

/-- The rest of a pattern inside the open groups, the innermost apart. -/
def readPattern (fuel : Nat) (f : Flags) (names : List (List Char)) (l : Level) (enclosing : List Level)
    (cs : List Char) : Option Regex :=
  match fuel with
  | 0 => none
  | fuel + 1 =>
    match f.settle cs with
    | [] => if enclosing.isEmpty then some l.whole else none
    | '(' :: cs =>
      match readGroupStart f cs with
      | some (.group g name, rest) =>
        if name.any names.contains then none
        else readPattern fuel g (name.toList ++ names) ⟨f, [], []⟩ (l :: enclosing) rest
      | some (.directive g, rest) => readPattern fuel g names (l.push none) enclosing rest
      | none => none
    | ')' :: cs =>
      match enclosing with
      | outer :: enclosing => readPattern fuel l.outer names (outer.push (some l.whole)) enclosing cs
      | [] => none
    | '|' :: cs => readPattern fuel f names ⟨l.outer, l.branch :: l.branches, []⟩ enclosing cs
    | '[' :: cs =>
      match readBrackets f cs with
      | some (p, rest) => readPattern fuel f names (l.push (some (.one p))) enclosing rest
      | none => none
    | '?' :: cs =>
      match l.repeatLast 0 (some 1) with
      | some l => readPattern fuel f names l enclosing (dropLazy cs)
      | none => none
    | '*' :: cs =>
      match l.repeatLast 0 none with
      | some l => readPattern fuel f names l enclosing (dropLazy cs)
      | none => none
    | '+' :: cs =>
      match l.repeatLast 1 none with
      | some l => readPattern fuel f names l enclosing (dropLazy cs)
      | none => none
    | '\\' :: cs =>
      match readEscape f cs with
      | some (e, rest) => readPattern fuel f names (l.push (some (e.toRegex f))) enclosing rest
      | none => none
    | c :: cs =>
      if c = Char.ofNat 123 then
        match readBounds f cs with
        | some (least, most, rest) =>
          match l.repeatLast least most with
          | some l => readPattern fuel f names l enclosing (dropLazy (f.settle rest))
          | none => none
        | none => none
      else
        match readPlain f c with
        | some r => readPattern fuel f names (l.push (some r)) enclosing cs
        | none => none

def ofChars? (cs : List Char) : Option Regex := readPattern (cs.length + 1) {} [] ⟨{}, [], []⟩ [] cs

/-- The pattern of a text, if it is one. -/
def ofString? (s : String) : Option Regex := ofChars? s.toList

end Hypermedia.Regex
