import Hypermedia.Text.Blank
import Hypermedia.Text.Category
import Hypermedia.Text.MarkTable
import Hypermedia.Text.ScriptTable

/-!
# Named properties of characters

Classes that are asked for by name: general categories, scripts and a few binary properties. Names are
compared without regard to case, spaces, underscores and hyphens, and a leading `is` does not count.
-/

namespace Hypermedia.Text

/-- The character has the property `Alphabetic`. -/
def isAlphabetic (c : Char) : Bool :=
  if c.toNat < 128 then ('a' ≤ c && c ≤ 'z') || ('A' ≤ c && c ≤ 'Z')
  else [Category.lu, .ll, .lt, .lm, .lo, .nl].contains (category c) || inRanges otherAlphabetic c ||
    ([Category.mn, .mc, .me].contains (category c) && !inRanges silentMarks c)

/-- Letters, alphabetic marks and numbers of any kind. -/
def isAlphanumeric (c : Char) : Bool :=
  isAlphabetic c || [Category.nd, .nl, .no].contains (category c)

def scriptRuns : List (Nat × List Char) :=
  (categoryWords scriptData.toList []).map fun word => (hexNumber (word.drop 4), word.take 4)

def scriptCode (c : Char) : List Char :=
  ((scriptRuns.takeWhile (·.1 ≤ c.toNat)).getLast?.map (·.2)).getD []

def scriptNames : List (String × String) :=
  (categoryWords scriptNameData.toList []).map fun word =>
    (String.ofList (word.take 4), String.ofList (word.drop 5))

/-- A name in the form in which names are compared. -/
def plainName (name : String) : String :=
  let cs := (name.toList.filter fun c => c.toNat < 128 && c ≠ ' ' && c ≠ '_' && c ≠ '-').map Char.toLower
  match name.toList.map Char.toLower with
  | 'i' :: 's' :: _ => if cs = ['i', 's', 'c'] then "isc" else String.ofList (cs.drop 2)
  | _ => String.ofList cs

/-- Long names of the general categories and of their groups, in compared form. -/
def categoryNames : List (String × List String) := [
  ("lu", ["Lu"]), ("uppercaseletter", ["Lu"]), ("ll", ["Ll"]), ("lowercaseletter", ["Ll"]),
  ("lt", ["Lt"]), ("titlecaseletter", ["Lt"]), ("lc", ["Lu", "Ll", "Lt"]),
  ("casedletter", ["Lu", "Ll", "Lt"]), ("lm", ["Lm"]), ("modifierletter", ["Lm"]), ("lo", ["Lo"]),
  ("otherletter", ["Lo"]), ("l", ["Lu", "Ll", "Lt", "Lm", "Lo"]),
  ("letter", ["Lu", "Ll", "Lt", "Lm", "Lo"]), ("mn", ["Mn"]), ("nonspacingmark", ["Mn"]),
  ("mc", ["Mc"]), ("spacingmark", ["Mc"]), ("me", ["Me"]), ("enclosingmark", ["Me"]),
  ("m", ["Mn", "Mc", "Me"]), ("mark", ["Mn", "Mc", "Me"]), ("combiningmark", ["Mn", "Mc", "Me"]),
  ("nd", ["Nd"]), ("decimalnumber", ["Nd"]), ("digit", ["Nd"]), ("nl", ["Nl"]),
  ("letternumber", ["Nl"]), ("no", ["No"]), ("othernumber", ["No"]), ("n", ["Nd", "Nl", "No"]),
  ("number", ["Nd", "Nl", "No"]), ("pc", ["Pc"]), ("connectorpunctuation", ["Pc"]), ("pd", ["Pd"]),
  ("dashpunctuation", ["Pd"]), ("ps", ["Ps"]), ("openpunctuation", ["Ps"]), ("pe", ["Pe"]),
  ("closepunctuation", ["Pe"]), ("pi", ["Pi"]), ("initialpunctuation", ["Pi"]), ("pf", ["Pf"]),
  ("finalpunctuation", ["Pf"]), ("po", ["Po"]), ("otherpunctuation", ["Po"]),
  ("p", ["Pc", "Pd", "Ps", "Pe", "Pi", "Pf", "Po"]),
  ("punctuation", ["Pc", "Pd", "Ps", "Pe", "Pi", "Pf", "Po"]),
  ("punct", ["Pc", "Pd", "Ps", "Pe", "Pi", "Pf", "Po"]), ("sm", ["Sm"]), ("mathsymbol", ["Sm"]),
  ("sc", ["Sc"]), ("currencysymbol", ["Sc"]), ("sk", ["Sk"]), ("modifiersymbol", ["Sk"]),
  ("so", ["So"]), ("othersymbol", ["So"]), ("s", ["Sm", "Sc", "Sk", "So"]),
  ("symbol", ["Sm", "Sc", "Sk", "So"]), ("zs", ["Zs"]), ("spaceseparator", ["Zs"]), ("zl", ["Zl"]),
  ("lineseparator", ["Zl"]), ("zp", ["Zp"]), ("paragraphseparator", ["Zp"]),
  ("z", ["Zs", "Zl", "Zp"]), ("separator", ["Zs", "Zl", "Zp"]), ("cc", ["Cc"]), ("control", ["Cc"]),
  ("cntrl", ["Cc"]), ("cf", ["Cf"]), ("format", ["Cf"]), ("cs", ["Cs"]), ("surrogate", ["Cs"]),
  ("co", ["Co"]), ("privateuse", ["Co"]), ("cn", ["Cn"]), ("unassigned", ["Cn"]),
  ("c", ["Cc", "Cf", "Cs", "Co", "Cn"]), ("other", ["Cc", "Cf", "Cs", "Co", "Cn"])]

/-- The class of a general category, of a group of them, or of all, assigned or ASCII characters. -/
def categoryClass? (name : String) : Option (Char → Bool) :=
  if name = "any" then some fun _ => true
  else if name = "assigned" then some fun c => category c != .cn
  else if name = "ascii" then some fun c => c.toNat < 128
  else (categoryNames.find? (·.1 == name)).map fun (_, codes) =>
    let categories := codes.map Category.ofCode
    fun c => categories.contains (category c)

def scriptClass? (name : String) : Option (Char → Bool) :=
  let name := if name = "qaac" then "copt" else if name = "qaai" then "zinh" else name
  (scriptNames.find? fun (code, long) => plainName code == name || plainName long == name).map
    fun (code, _) => fun c => scriptCode c == code.toList

def binaryClass? (name : String) : Option (Char → Bool) :=
  match name with
  | "alphabetic" => some isAlphabetic
  | "alpha" => some isAlphabetic
  | "uppercase" => some isUpper
  | "upper" => some isUpper
  | "lowercase" => some isLower
  | "lower" => some isLower
  | "whitespace" => some isBlank
  | "wspace" => some isBlank
  | "space" => some isBlank
  | "cased" => some isCased
  | "caseignorable" => some isCaseIgnorable
  | "ci" => some isCaseIgnorable
  | "asciihexdigit" => some fun c => (hexValue c).isSome
  | "ahex" => some fun c => (hexValue c).isSome
  | _ => none

/-- The class with this name alone: a binary property, a category or a script. -/
def namedClass? (name : String) : Option (Char → Bool) :=
  let name := plainName name
  ((binaryClass? name).or (categoryClass? name)).or (scriptClass? name)

def valuedClass? (property value : String) : Option (Char → Bool) :=
  match plainName property with
  | "generalcategory" => categoryClass? (plainName value)
  | "gc" => categoryClass? (plainName value)
  | "script" => scriptClass? (plainName value)
  | "sc" => scriptClass? (plainName value)
  | "scriptextensions" => scriptClass? (plainName value)
  | "scx" => scriptClass? (plainName value)
  | _ => none

end Hypermedia.Text
