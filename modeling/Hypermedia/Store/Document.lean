import Hypermedia.Geo.Position
import Hypermedia.Schema.Attribute
import Hypermedia.Store.Error

/-!
# Documents

A stored record: named values, one of which is its identity. Answers show a document without its search
text and with its points as pairs of coordinates.
-/

namespace Hypermedia.Store

abbrev Document := Members

namespace Document

/-- The identity of a document, if it is a text. -/
def id? (d : Document) : Option String := (Members.get? d idField).bind Value.string?

def requireId (d : Document) : Except Error String :=
  match id? d with
  | some id => .ok id
  | none => .error (.invalidQuery "document has no string id")

/-- Only the fields asked for; all where none are named. -/
def project (d : Document) : Option (List String) → Document
  | none => d
  | some fields => Members.restrict d fields

/-- A point as its coordinates; any other value as it is. -/
def flatten (v : Value) : Value := (Geo.coordinates? v).getD v

/-- The form that answers show: no search text, points as their coordinates. -/
def materialize (d : Document) : Document :=
  (Members.erase d searchField).map fun (name, v) => (name, flatten v)

end Document

end Hypermedia.Store
