import Hypermedia.Decimal.Layout
import Hypermedia.Digest.Md5
import Hypermedia.Json.Printer
import Hypermedia.Text.Blank
import Hypermedia.Text.Case
import Hypermedia.Time.Instant

/-!
# Identities

The identity of a new record. A single unique value that is already fit for paths is the identity
itself; any other value, and several values joined by hyphens, are hashed. Without unique attributes
the identity is drawn from the time and a random number.
-/

namespace Hypermedia.Identity

/-- A character whose runs become one underscore: a blank, a dot or a slash. -/
def isSeparator (c : Char) : Bool := Text.isBlank c || c == '.' || c == '/'

/-- Runs of separators as one underscore each; `inside` tells that a run has begun. -/
def collapse (inside : Bool) : List Char → List Char
  | [] => []
  | c :: cs =>
    if isSeparator c then (if inside then collapse true cs else '_' :: collapse true cs)
    else c :: collapse false cs

/-- The text of a value before it is normalized; absent and null are empty. -/
def sourceText : Option Value → String
  | none => ""
  | some .null => ""
  | some v => v.plainText

/-- The normalized text of a value: separators collapsed, lower case. -/
def normalized (v : Option Value) : String :=
  Text.lower (String.ofList (collapse false (sourceText v).toList))

def isSafeChar (c : Char) : Bool :=
  ('a' ≤ c && c ≤ 'z') || c == '_' || ('0' ≤ c && c ≤ '9') || c == '-'

def isSafe (s : String) : Bool := !s.isEmpty && s.toList.all isSafeChar

/-- The first seven hexadecimal digits of a text's digest. -/
def shortHash (s : String) : String := String.ofList ((Digest.hexDigest s).take 7)

def joined (fields : List String) (params : Members) : String :=
  String.intercalate "-" (fields.map fun f => normalized (Members.get? params f))

/-- The identity that the unique fields give; none where there are no such fields. -/
def derived? (fields : List String) (params : Members) : Option String :=
  match fields with
  | [] => none
  | [field] =>
    let s := normalized (Members.get? params field)
    some (if isSafe s then s else shortHash s)
  | fields => some (shortHash (joined fields params))

/-- An identity from the time and a number from 0 to 1. -/
def drawn (t : Time.Instant) (x : Float) : String :=
  shortHash (toString t.milliseconds ++ ":" ++ Decimal.plain x)

end Hypermedia.Identity
