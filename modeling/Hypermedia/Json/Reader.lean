import Hypermedia.Json.Numeral
import Hypermedia.Text.Category

/-!
# Reading JSON texts

The strict grammar: nothing may follow the value but blanks, a string holds no bare control character,
and an escaped surrogate needs its partner. A repeated member keeps its first place and its last value.
Arrays and objects may be nested to a limit.
-/

namespace Hypermedia.Json

/-- The four blanks of the grammar. -/
def isSpace (c : Char) : Bool := c = ' ' || c = '\n' || c = '\t' || c = '\r'

def skipSpace (cs : List Char) : List Char := cs.dropWhile isSpace

def unit? (a b c d : Char) : Option Nat :=
  match Text.hexValue a, Text.hexValue b, Text.hexValue c, Text.hexValue d with
  | some a, some b, some c, some d => some (((a * 16 + b) * 16 + c) * 16 + d)
  | _, _, _, _ => none

def simpleEscape? (c : Char) : Option Char :=
  match c with
  | '"' => some '"'
  | '\\' => some '\\'
  | '/' => some '/'
  | 'b' => some (Char.ofNat 8)
  | 'f' => some (Char.ofNat 12)
  | 'n' => some '\n'
  | 'r' => some '\r'
  | 't' => some '\t'
  | _ => none

/-- The rest of a string after its opening quote; `done` holds what was read, backwards. -/
def readString (done : List Char) : List Char → Option (String × List Char)
  | [] => none
  | '"' :: cs => some (String.ofList done.reverse, cs)
  | '\\' :: 'u' :: a :: b :: c :: d :: '\\' :: 'u' :: e :: f :: g :: h :: cs =>
    match unit? a b c d, unit? e f g h with
    | some m, some n =>
      if 0xD800 ≤ m ∧ m < 0xDC00 then
        if 0xDC00 ≤ n ∧ n < 0xE000 then
          readString (Char.ofNat (0x10000 + (m - 0xD800) * 0x400 + (n - 0xDC00)) :: done) cs
        else none
      else if 0xDC00 ≤ m ∧ m < 0xE000 then none
      else readString (Char.ofNat m :: done) ('\\' :: 'u' :: e :: f :: g :: h :: cs)
    | _, _ => none
  | '\\' :: 'u' :: a :: b :: c :: d :: cs =>
    match unit? a b c d with
    | some m => if 0xD800 ≤ m ∧ m < 0xE000 then none else readString (Char.ofNat m :: done) cs
    | none => none
  | '\\' :: c :: cs =>
    match simpleEscape? c with
    | some x => readString (x :: done) cs
    | none => none
  | c :: cs => if c.toNat < 32 then none else readString (c :: done) cs

mutual

/-- A value at the start of a list, and what follows it. -/
def readValue : Nat → Nat → List Char → Option (Value × List Char)
  | 0, _, _ => none
  | fuel + 1, depth, cs =>
    match cs with
    | 'n' :: 'u' :: 'l' :: 'l' :: cs => some (.null, cs)
    | 't' :: 'r' :: 'u' :: 'e' :: cs => some (.bool true, cs)
    | 'f' :: 'a' :: 'l' :: 's' :: 'e' :: cs => some (.bool false, cs)
    | '"' :: cs => (readString [] cs).map fun (s, cs) => (.string s, cs)
    | '[' :: cs =>
      if depth ≤ 1 then none
      else match skipSpace cs with
        | ']' :: cs => some (.array [], cs)
        | cs => (readItems fuel (depth - 1) [] cs).map fun (xs, cs) => (.array xs, cs)
    | c :: cs =>
      if c.toNat = 123 then
        if depth ≤ 1 then none
        else match skipSpace cs with
          | [] => none
          | d :: ds =>
            if d.toNat = 125 then some (.object [], ds)
            else (readMembers fuel (depth - 1) [] (d :: ds)).map fun (ms, cs) => (.object ms, cs)
      else (readNumber (c :: cs)).map fun (n, cs) => (.number n, cs)
    | [] => none

/-- The items up to the closing bracket; `done` holds those read, backwards. -/
def readItems : Nat → Nat → List Value → List Char → Option (List Value × List Char)
  | 0, _, _, _ => none
  | fuel + 1, depth, done, cs =>
    match readValue fuel depth (skipSpace cs) with
    | none => none
    | some (v, cs) =>
      match skipSpace cs with
      | ',' :: cs => readItems fuel depth (v :: done) cs
      | ']' :: cs => some ((v :: done).reverse, cs)
      | _ => none

def readMembers : Nat → Nat → Members → List Char → Option (Members × List Char)
  | 0, _, _, _ => none
  | fuel + 1, depth, done, cs =>
    match skipSpace cs with
    | '"' :: cs =>
      match readString [] cs with
      | none => none
      | some (key, cs) =>
        match skipSpace cs with
        | ':' :: cs =>
          match readValue fuel depth (skipSpace cs) with
          | none => none
          | some (v, cs) =>
            let done := Members.set done key v
            match skipSpace cs with
            | ',' :: cs => readMembers fuel depth done cs
            | d :: cs => if d.toNat = 125 then some (done, cs) else none
            | [] => none
        | _ => none
    | _ => none

end

/-- How deep arrays and objects of a document may be nested. -/
def nestingLimit : Nat := 128

def readStart (s : String) : Option (Value × List Char) :=
  let cs := s.toList
  readValue (cs.length + 1) nestingLimit (skipSpace cs)

/-- The value at the start of a text; anything may follow it. -/
def readLeading? (s : String) : Option Value := (readStart s).map (·.1)

def read? (s : String) : Option Value :=
  match readStart s with
  | some (v, rest) => if (skipSpace rest).isEmpty then some v else none
  | none => none

end Hypermedia.Json
