import Hypermedia.Filter.Request
import Hypermedia.Geo.Position
import Hypermedia.Json.Printer
import Hypermedia.Schema.Registry
import Hypermedia.Store.Document

/-!
# The stored form of records

How supplied values are stored: dates as canonical timestamps, positions as points, searchable texts
joined into one. A new record has every declared attribute; a patch has only what was supplied.
-/

namespace Hypermedia.Record

open Store (Document)

/-- The position that a value writes: a pair, or a text with latitude before longitude. -/
def position? : Value → Option Geo.Position
  | .array [x, y] => do
    let lng ← x.float?
    let lat ← y.float?
    pure ⟨lng, lat⟩
  | .string s => do
    let (lat, lng) ← Text.splitFirst ',' s
    let lng ← Filter.number? lng
    let lat ← Filter.number? lat
    pure ⟨lng.toFloat, lat.toFloat⟩
  | _ => none

/-- The point that a value writes; what calls itself a point is one. -/
def point? : Value → Option Value
  | .object ms => if Geo.isPoint ms then some (.object ms) else none
  | v => (position? v).map Geo.Position.toPoint

def stored (type : FieldType) (v : Value) : Value :=
  match type, v with
  | .date, .string s => .string (Time.normalized s)
  | .geometry, v => (point? v).getD v
  | _, v => v

/-- The text that a value adds to the search, if it is there and not null. -/
def searchPart (v : Option Value) : Option String :=
  match v with
  | none => none
  | some .null => none
  | some v => some v.plainText

def searchText (r : Resource) (record : Members) : String :=
  String.intercalate " " (r.textFields.filterMap fun f => searchPart (Members.get? record f))

/-- The value of an attribute in a new record: the supplied one, else the default, else null. A list of
children begins empty. -/
def initial (params : Members) (a : Attribute) : Value :=
  if a.type.isChildren then .array []
  else
    match Members.get? params a.name with
    | some v => stored a.type v
    | none => a.default.getD .null

def body (r : Resource) (params : Members) (id now : String) : Document :=
  (idField, .string id) :: r.attributes.map (fun a => (a.name, initial params a)) ++
    [(createdAtField, .string now), (updatedAtField, .string now)]

def new (r : Resource) (params : Members) (id now : String) : Document :=
  let record := body r params id now
  record ++ [(searchField, .string (searchText r record))]

/-- The supplied values of an update, without those of children attributes. -/
def patch (r : Resource) (params : Members) : Document :=
  (r.attributes.filter fun a => !a.type.isChildren).filterMap fun a =>
    (Members.get? params a.name).map fun v => (a.name, stored a.type v)

/-- The time of a change: now, or the time before if that is later. -/
def bumped (previous : Option Value) (now : Time.Instant) : String :=
  let before := (previous.bind Value.string?).bind Time.instant?
  match before with
  | some t => if t.isAfter now then t.text else now.text
  | none => now.text

end Hypermedia.Record
