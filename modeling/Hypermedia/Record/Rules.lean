import Hypermedia.Filter.Compare
import Hypermedia.Json.Printer
import Hypermedia.Regex.Reader
import Hypermedia.Schema.Registry

/-!
# Checking values

The rules that are declared for an attribute, asked of a supplied value. A report names each attribute
that fails, in declared order, with one message.
-/

namespace Hypermedia.Record

/-- Messages by attribute; no message means that all is well. -/
abbrev Report := List (String × String)

/-- The text of a value that a pattern is asked of; arrays and objects have none. -/
def ruleText? : Value → Option String
  | .string s => some s
  | .number n => some n.text
  | .bool true => some "true"
  | .bool false => some "false"
  | _ => none

/-- A pattern matches the text of a value. A pattern that cannot be read matches nothing. -/
def patternHolds (rules : Rules) (v : Value) : Bool :=
  match rules.pattern, ruleText? v with
  | some pattern, some text => (Regex.ofString? pattern).any fun r => r.matchesIn text
  | _, _ => true

def lengthHolds (rules : Rules) (v : Value) : Bool :=
  match v with
  | .string s =>
    rules.minLength.all (fun n => n ≤ s.length) && rules.maxLength.all (fun n => s.length ≤ n)
  | _ => true

def rangeHolds (rules : Rules) (v : Value) : Bool :=
  match v.float? with
  | some x => !rules.minimum.any (fun m => x < m) && !rules.maximum.any (fun m => m < x)
  | none => true

def allowedHolds (rules : Rules) (v : Value) : Bool :=
  rules.allowed.all fun vs => vs.any fun w => Filter.equals w v

def rulesHold (rules : Rules) (v : Value) : Bool :=
  patternHolds rules v && lengthHolds rules v && rangeHolds rules v && allowedHolds rules v

/-- Numbers and truth values have to be such; other types take any value. -/
def typeHolds : FieldType → Value → Bool
  | .number, .number _ => true
  | .number, _ => false
  | .boolean, .bool _ => true
  | .boolean, _ => false
  | _, _ => true

def isValid (a : Attribute) (v : Value) : Bool := typeHolds a.type v && rulesHold a.rules v

def complaint (a : Attribute) (v : Option Value) : String :=
  match a.rules.invalid with
  | some text => text
  | none => "Invalid value[" ++ (v.getD .null).plainText ++ "]"

/-- The attribute fails: a value that does not fit, or none where one is required. An update asks
nothing of attributes that are not supplied. -/
def fails (a : Attribute) (v : Option Value) (isUpdate : Bool) : Bool :=
  match v with
  | none => !isUpdate && a.required && a.default.isNone
  | some .null => !isUpdate && a.required && a.default.isNone
  | some v => !isValid a v

def check (r : Resource) (params : Members) (isUpdate : Bool) : Report :=
  r.attributes.filterMap fun a =>
    let v := Members.get? params a.name
    if fails a v isUpdate then some (a.name, complaint a v) else none

/-- The unique attributes that an update tries to change. -/
def checkUnique (r : Resource) (params : Members) : Report :=
  r.uniqueFields.filterMap fun f =>
    if Members.has params f then some (f, "unique field could not be changed") else none

def Report.members (report : Report) : Members := report.map fun (f, text) => (f, .string text)

def Report.toValue (report : Report) : Value :=
  if report.isEmpty then .object [("ok", .bool true)] else .object report.members

end Hypermedia.Record
