import Hypermedia.Filter.Compare
import Hypermedia.Filter.Condition
import Hypermedia.Geo.Position
import Hypermedia.Json.Printer
import Hypermedia.Regex.Reader

/-!
# Matching records

A condition is prepared once, which reads its patterns and resolves its circles, and then asked of any
number of records. An array meets a predicate when one of its items does, except that an array asked for
exactly is compared as a whole.
-/

namespace Hypermedia.Filter

/-- A predicate ready to be asked. -/
inductive Test where
  | exact (v : Value)
  | pattern (r : Regex)
  | range (least greatest : Value)
  | oneOf (vs : List Value)
  | near (origin : Geo.Position) (maxDistance : Float)

/-- A predicate made ready; a pattern or a circle that makes no sense is refused. -/
def Predicate.prepare : Predicate → Except Store.Error Test
  | .exact v => .ok (.exact v)
  | .pattern source =>
    match Regex.ofString? source with
    | some r => .ok (.pattern r)
    | none => .error .badPattern
  | .range least greatest => .ok (.range least greatest)
  | .oneOf vs => .ok (.oneOf vs)
  | .near n => n.resolve.map fun c => .near ⟨c.lng, c.lat⟩ c.maxDistance

def Test.wantsArray : Test → Bool
  | .exact (.array _) => true
  | _ => false

/-- A test of one value that is not looked into. -/
def Test.holdsOf (t : Test) (v : Value) : Bool :=
  match t with
  | .exact w => equals v w
  | .pattern r =>
    match v with
    | .string s => r.matchesIn s
    | .number n => r.matchesIn n.text
    | _ => false
  | .range least greatest =>
    (compare? v least).any (· != .lt) && (compare? v greatest).any (· != .gt)
  | .oneOf vs => vs.any (equals v)
  | .near origin maxDistance =>
    match Geo.Position.ofValue? v with
    | some p => Geo.distance origin p ≤ maxDistance
    | none => false

mutual

/-- A test of a value: of the items of an array, at any depth, unless an array is asked for. -/
def Test.holds (t : Test) : Value → Bool
  | .array xs => if t.wantsArray then t.holdsOf (.array xs) else t.holdsAny xs
  | v => t.holdsOf v

def Test.holdsAny (t : Test) : List Value → Bool
  | [] => false
  | x :: xs => t.holds x || t.holdsAny xs

end

abbrev Matcher := List (String × Test)

/-- A condition made ready; the first predicate that makes no sense is reported. -/
def Condition.prepare : Condition → Except Store.Error Matcher
  | [] => .ok []
  | (field, p) :: rest => do
    let t ← p.prepare
    let ts ← Condition.prepare rest
    pure ((field, t) :: ts)

/-- A record passes every test; a missing field counts as null. -/
def Matcher.accepts (m : Matcher) (document : Members) : Bool :=
  m.all fun (field, t) => t.holds ((Members.get? document field).getD .null)

def Condition.accepts (c : Condition) (document : Members) : Except Store.Error Bool :=
  (Condition.prepare c).map fun m => Matcher.accepts m document

theorem Matcher.accepts_cons (field : String) (t : Test) (m : Matcher) (document : Members) :
    Matcher.accepts ((field, t) :: m) document =
      (t.holds ((Members.get? document field).getD .null) && Matcher.accepts m document) := rfl

end Hypermedia.Filter
