import Hypermedia.Text.Case
import Hypermedia.Text.Split

/-!
# Media types

Whether a content type names JSON: `application/json`, or a type of `application` with the suffix
`json`. The parameters after it have to be well formed.
-/

namespace Hypermedia.Web

def isTokenChar (c : Char) : Bool :=
  ('a' ≤ c && c ≤ 'z') || ('A' ≤ c && c ≤ 'Z') || ('0' ≤ c && c ≤ '9') ||
    ['!', '#', '$', '%', '&', Char.ofNat 39, '*', '+', '-', '.', '^', '_', Char.ofNat 96, '|', '~'].contains c

/-- What follows a quoted value: blanks, and the next parameter after a semicolon. -/
def afterQuoted : List Char → Option (List Char)
  | [] => some []
  | c :: cs => if c = ';' then some cs else if c = ' ' then afterQuoted cs else none

/-- What follows the value of a parameter; `isFirst` tells that a quote may open it. -/
def afterValue (isFirst : Bool) : List Char → Option (List Char)
  | [] => some []
  | c :: cs =>
    if c = '"' ∧ isFirst then
      match cs with
      | [] => none
      | d :: ds =>
        if 32 ≤ d.toNat ∧ d.toNat ≠ 127 then
          match ds.dropWhile fun e => e ≠ '"' && decide (32 ≤ e.toNat ∧ e.toNat ≠ 127) with
          | '"' :: rest => afterQuoted rest
          | _ => none
        else none
    else if isTokenChar c then afterValue false cs
    else if c = ';' ∧ ¬ isFirst then some cs
    else none

/-- Parameters after a semicolon are well formed, at most so many of them. -/
def parametersHold : Nat → List Char → Bool
  | 0, _ => false
  | fuel + 1, cs =>
    let cs := cs.dropWhile (· == ' ')
    if cs.isEmpty then true
    else
      match cs.takeWhile isTokenChar, cs.dropWhile isTokenChar with
      | _ :: _, '=' :: rest =>
        match afterValue true rest with
        | some rest => parametersHold fuel rest
        | none => false
      | _, _ => false

/-- The type before its parameters is well formed and names JSON. -/
def essenceIsJson (type subtype : List Char) : Bool :=
  let plain (cs : List Char) : String := Text.lowerAscii (String.ofList cs)
  let json :=
    match subtype with
    | [] => false
    | first :: more =>
      match Text.cutLast '+' more with
      | some (before, suffix) => plain (first :: before) == "json" || plain suffix == "json"
      | none => plain subtype == "json"
  !type.isEmpty && type.all isTokenChar && subtype.all isTokenChar && plain type == "application" && json

def isJsonType (contentType : String) : Bool :=
  match Text.cutFirst '/' contentType.toList with
  | none => false
  | some (type, rest) =>
    match Text.cutFirst ';' rest with
    | none => essenceIsJson type rest
    | some (subtype, parameters) =>
      essenceIsJson type subtype && parametersHold (parameters.length + 1) parameters

end Hypermedia.Web
