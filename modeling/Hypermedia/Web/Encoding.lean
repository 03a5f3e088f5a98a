import Hypermedia.Filter.Request
import Hypermedia.Text.Category
import Hypermedia.Text.Split
import Hypermedia.Text.Utf8

/-!
# Encodings of addresses

Percent escapes in paths and query texts. An escape that is not followed by two hexadecimal digits
stands for itself. A path has to be a text once it is decoded; a query is made one.
-/

namespace Hypermedia.Web

def hexByte? (b : UInt8) : Option Nat := Text.hexValue (Char.ofNat b.toNat)

def percentDecode : List UInt8 → List UInt8
  | 37 :: a :: b :: rest =>
    match hexByte? a, hexByte? b with
    | some x, some y => (16 * x + y).toUInt8 :: percentDecode rest
    | _, _ => 37 :: percentDecode (a :: b :: rest)
  | c :: rest => c :: percentDecode rest
  | [] => []

/-- A segment of a path decoded; none if it is no text. -/
def decodeSegment? (s : String) : Option String := Text.decode? (percentDecode s.toUTF8.toList)

/-- A part of a query decoded: a plus is a space. -/
def decodeFormPart (cs : List Char) : String :=
  let spaced := String.ofList (cs.map fun c => if c = '+' then ' ' else c)
  Text.decodeLossy (percentDecode spaced.toUTF8.toList)

/-- One pair of a query: name and value at the first equals sign, an empty value without one. -/
def formPair (piece : List Char) : String × String :=
  match Text.cutFirst '=' piece with
  | some (name, value) => (decodeFormPart name, decodeFormPart value)
  | none => (decodeFormPart piece, "")

/-- A text under a name: in the place of the old one, or at the end. -/
def putText : Filter.Texts → String → String → Filter.Texts
  | [], name, text => [(name, text)]
  | (n, old) :: rest, name, text =>
    if n = name then (n, text) :: rest else (n, old) :: putText rest name text

/-- The pairs of a query; of several with one name the last counts. -/
def decodeForm (query : String) : Filter.Texts :=
  ((Text.splitChars '&' query.toList).filter fun piece => !piece.isEmpty).foldl
    (fun done piece => putText done (formPair piece).1 (formPair piece).2) []

end Hypermedia.Web
