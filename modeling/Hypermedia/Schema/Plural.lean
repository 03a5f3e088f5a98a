import Hypermedia.Text.Case

/-!
# English plurals

The plural of a resource's name, which names its collection in paths. Only the last word of a compound
name is inflected. Exceptions come first; all else follows the first suffix rule that fits, where a rule
keeps a stem and exchanges the ending after it.
-/

namespace Hypermedia.Plural

def irregular : List (String × String) := [
  ("ox", "oxen"), ("axe", "axes"), ("die", "dice"), ("foot", "feet"), ("goose", "geese"),
  ("tooth", "teeth"), ("quiz", "quizzes"), ("human", "humans"), ("proof", "proofs"),
  ("carve", "carves"), ("valve", "valves"), ("thief", "thieves"), ("groove", "grooves"),
  ("pickaxe", "pickaxes"), ("passerby", "passersby"), ("canvas", "canvases"), ("echo", "echoes"),
  ("dingo", "dingoes"), ("volcano", "volcanoes"), ("tornado", "tornadoes"),
  ("torpedo", "torpedoes"), ("genus", "genera"), ("viscus", "viscera"), ("stigma", "stigmata"),
  ("stoma", "stomata"), ("dogma", "dogmata"), ("lemma", "lemmata"), ("schema", "schemata"),
  ("anathema", "anathemata")]

def uncountable : List String := [
  "adulthood", "advice", "agenda", "aid", "aircraft", "alcohol", "ammo", "analytics", "anime",
  "athletics", "audio", "bison", "blood", "bream", "buffalo", "butter", "carp", "cash",
  "chassis", "chess", "clothing", "cod", "commerce", "cooperation", "corps", "debris",
  "diabetes", "digestion", "elk", "energy", "equipment", "excretion", "expertise", "firmware",
  "flounder", "fun", "gallows", "garbage", "graffiti", "hardware", "headquarters", "health",
  "herpes", "highjinks", "homework", "housework", "information", "jeans", "justice", "kudos",
  "labour", "literature", "machinery", "mackerel", "mail", "media", "mews", "moose", "music",
  "mud", "manga", "news", "only", "personnel", "pike", "plankton", "pliers", "police",
  "pollution", "premises", "rain", "research", "rice", "salmon", "scissors", "series", "sewage",
  "shambles", "shrimp", "software", "species", "staff", "swine", "tennis", "traffic",
  "transportation", "trout", "tuna", "wealth", "welfare", "whiting", "wildebeest", "wildlife"]

/-- What has to stand before an ending, a predicate for each character. -/
abbrev Stem := List (Char → Bool)

def literal (s : String) : Stem := s.toList.map fun x c => c == x

def oneOf (s : String) (c : Char) : Bool := s.toList.contains c

def noneOf (s : String) (c : Char) : Bool := !s.toList.contains c

/-- A suffix rule: after one of the stems, one of the endings gives way to another. -/
structure Rule where
  stems : List Stem
  endings : List String
  plural : String
  /-- The stem has to begin a word. -/
  wordStart : Bool := false

/-- Words with one of these stems at their end stay as they are. -/
def Rule.keep (stems : List Stem) : Rule := ⟨stems, [""], "", false⟩

/-- The endings after words given by their characters. -/
def Rule.after (stems : List String) (endings : List String) (plural : String) : Rule :=
  ⟨stems.map literal, endings, plural, false⟩

/-- The rules, the most specific first. The last one fits every word. -/
def rules : List Rule := [
  .keep [literal "pok" ++ oneOf "eé" :: literal "mon"],
  .keep [noneOf "aeiou" :: literal "ese"],
  .keep [literal "deer"],
  .keep [literal "fish"],
  .keep [literal "measles"],
  .keep [[oneOf "o", oneOf "iu", oneOf "s"]],
  .keep [literal "pox"],
  .keep [literal "sheep"],
  .after [""] ["man", "men"] "men",
  .keep [literal "eaux"],
  .after ["child"] ["ren", ""] "ren",
  .after ["pe"] ["rson", "ople"] "ople",
  { Rule.after ["titm", "m", "l"] ["ice", "ouse"] "ice" with wordStart := true },
  .after ["matr", "cod", "mur", "sil", "vert", "ind", "append"] ["ix", "ex"] "ices",
  .after ["x", "ch", "ss", "sh", "zz"] [""] "es",
  ⟨[[noneOf "ch", oneOf "ieo", oneOf "ln"]], ["ey"], "ies", false⟩,
  ⟨[[noneOf "aeiouy"], literal "qu"], ["y"], "ies", false⟩,
  .after ["kni", "wi", "li"] ["fe"] "ves",
  .after ["ar", "l", "ea", "eo", "oa", "hoo"] ["f"] "ves",
  .after [""] ["sis"] "ses",
  .after ["apheli", "hyperbat", "periheli", "asyndet", "noumen", "phenomen", "criteri", "organ",
    "prolegomen", "hedr", "automat"] ["a", "on"] "a",
  .after ["agend", "addend", "millenni", "dat", "extrem", "bacteri", "desiderat", "strat", "candelabr",
    "errat", "ov", "symposi", "curricul", "automat", "quor"] ["a", "um"] "a",
  .after ["her", "at", "gr"] ["o"] "oes",
  .after ["seraph", "cherub"] ["im", ""] "im",
  .after ["alumn", "alg", "vertebr"] ["a", "ae"] "ae",
  .after ["alumn", "syllab", "vir", "radi", "nucle", "fung", "cact", "stimul", "termin", "bacill", "foc",
    "uter", "loc", "strat"] ["us", "i"] "i",
  .keep [noneOf "l" :: literal "ias", oneOf "aeiou" :: literal "las", oneOf "ejzr" :: literal "as",
    oneOf "iu" :: literal "am"],
  ⟨[[oneOf "e", oneOf "mn", oneOf "u"]], ["s", ""], "s", false⟩,
  ⟨[literal "alias", noneOf "aou" :: literal "us", [oneOf "t", oneOf "lm", oneOf "a", oneOf "s"],
    literal "gas", literal "ris"], [""], "es", false⟩,
  .after ["ax", "test"] ["is"] "es",
  .keep [[fun c => 128 ≤ c.toNat]],
  .after [""] ["s", ""] "s"]

/-- What stands before a stem that ends a word; word and answer are read backwards. -/
def before? : Stem → List Char → Option (List Char)
  | [], rest => some rest
  | _ :: _, [] => none
  | p :: ps, c :: cs => if p c then before? ps cs else none

/-- A word, read backwards, ends with the stem of a rule. -/
def Rule.fits (r : Rule) (word : List Char) : Bool :=
  r.stems.any fun stem =>
    match before? stem.reverse word with
    | some rest => !r.wordStart || !rest.head?.any Text.isWord
    | none => false

def Rule.exchange? (r : Rule) (word : List Char) : Option (List Char) :=
  r.endings.findSome? fun ending =>
    match before? (literal ending).reverse word.reverse with
    | some rest => if r.fits rest then some (rest.reverse ++ r.plural.toList) else none
    | none => none

def regular (word : List Char) : List Char := (rules.findSome? fun r => r.exchange? word).getD word

/-- The plural of a single word in lower case, unless it has none. -/
def ofWord? (word : String) : Option String :=
  if word.isEmpty ∨ uncountable.contains word ∨ (irregular.map (·.2)).contains word then none
  else match irregular.find? (·.1 == word) with
    | some (_, plural) => some plural
    | none => some (String.ofList (regular word.toList))

/-- Where the last word of a name begins: at its last capital, or after its last underscore; `start` is
the best place so far, `i` the place of the next character. -/
def lastWordFrom (start i : Nat) : List Char → Nat
  | [] => start
  | c :: cs =>
    let here :=
      if i = 0 then start
      else if c = '_' then i + 1
      else if Text.isUpper c then i
      else start
    lastWordFrom here (i + 1) cs

def cutLastWord (name : List Char) : List Char × List Char := name.splitAt (lastWordFrom 0 0 name)

def capitalized : List Char → List Char
  | [] => []
  | c :: cs => Text.upperChar c ++ cs

/-- The plural of a name: its last word inflected, a leading capital kept. -/
def ofName (name : String) : String :=
  let (head, tail) := cutLastWord name.toList
  match ofWord? (Text.lower (String.ofList tail)) with
  | none => name
  | some plural =>
    String.ofList (head ++
      if tail.head?.any Text.isUpper then capitalized plural.toList else plural.toList)

end Hypermedia.Plural
