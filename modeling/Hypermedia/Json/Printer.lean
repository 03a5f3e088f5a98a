import Hypermedia.Decimal.Layout
import Hypermedia.Json.Value

/-!
# JSON texts

The compact text of a value: members in order, no spaces, and only those characters escaped that have
to be.
-/

namespace Hypermedia

/-- The text of a number: digits of an integer, shortest digits of a float. -/
def Number.text : Number → String
  | .int n => toString n
  | .float x => Decimal.Layout.json.write x

namespace Json

def hexDigit (n : Nat) : Char := if n < 10 then Char.ofNat (48 + n) else Char.ofNat (87 + n)

/-- A character inside a quoted text: quote, backslash and controls are escaped. -/
def escape (c : Char) : List Char :=
  if c = '"' then ['\\', '"']
  else if c = '\\' then ['\\', '\\']
  else if c = '\n' then ['\\', 'n']
  else if c = '\r' then ['\\', 'r']
  else if c = '\t' then ['\\', 't']
  else if c.toNat = 8 then ['\\', 'b']
  else if c.toNat = 12 then ['\\', 'f']
  else if c.toNat < 32 then ['\\', 'u', '0', '0', hexDigit (c.toNat / 16), hexDigit (c.toNat % 16)]
  else [c]

def quote (s : String) : List Char := '"' :: s.toList.flatMap escape ++ ['"']

mutual

def chars : Value → List Char
  | .null => ['n', 'u', 'l', 'l']
  | .bool true => ['t', 'r', 'u', 'e']
  | .bool false => ['f', 'a', 'l', 's', 'e']
  | .number n => n.text.toList
  | .string s => quote s
  | .array xs => '[' :: itemChars xs ++ [']']
  | .object ms => Char.ofNat 123 :: memberChars ms ++ [Char.ofNat 125]

def itemChars : List Value → List Char
  | [] => []
  | [x] => chars x
  | x :: xs => chars x ++ ',' :: itemChars xs

def memberChars : List (String × Value) → List Char
  | [] => []
  | [(k, v)] => quote k ++ ':' :: chars v
  | (k, v) :: ms => quote k ++ ':' :: chars v ++ ',' :: memberChars ms

end

end Json

namespace Value

def text (v : Value) : String := String.ofList (Json.chars v)

/-- A string as it is, any other value as its JSON text. -/
def plainText : Value → String
  | string s => s
  | v => v.text

end Value

end Hypermedia
