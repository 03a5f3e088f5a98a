import Hypermedia.Text.Split

/-!
# Routes

What a path and a method address. The two fixed paths come first; then, under the base path, one to
three segments name a collection, a record, or a field of a record. Segments are matched undecoded and
are never empty.
-/

namespace Hypermedia.Web

/-- What a path addresses; segments are undecoded. -/
inductive Target where
  | health
  | version
  | collection (segment : String)
  | record (segment id : String)
  | field (segment id name : String)
  deriving DecidableEq

def segments? (base path : List Char) : Option (List (List Char)) :=
  if base.isPrefixOf path then
    match path.drop base.length with
    | '/' :: rest => some (Text.splitChars '/' rest)
    | _ => none
  else none

def Target.ofPath? (base : String) (path : List Char) : Option Target :=
  if path = "/health".toList then some .health
  else if path = "/version".toList then some .version
  else
    match segments? base.toList path with
    | none => none
    | some parts =>
      if parts.any List.isEmpty then none
      else
        match parts.map String.ofList with
        | [segment] => some (.collection segment)
        | [segment, id] => some (.record segment id)
        | [segment, id, name] => some (.field segment id name)
        | _ => none

inductive Action where
  | health
  | version
  | list (segment : String)
  | create (segment : String)
  | deleteCollection (segment : String)
  | read (segment id : String)
  | update (segment id : String)
  | deleteInstance (segment id : String)
  | listChildren (segment id field : String)
  deriving DecidableEq

/-- What a method does to a target; a method that reads answers `HEAD` too. -/
def Target.action? (t : Target) (method : String) : Option Action :=
  let reads := method == "GET" || method == "HEAD"
  match t with
  | health => if reads then some .health else none
  | version => if reads then some .version else none
  | collection segment =>
    if reads then some (.list segment)
    else if method = "POST" then some (.create segment)
    else if method = "DELETE" then some (.deleteCollection segment)
    else none
  | record segment id =>
    if reads then some (.read segment id)
    else if method = "POST" ∨ method = "PATCH" then some (.update segment id)
    else if method = "DELETE" then some (.deleteInstance segment id)
    else none
  | field segment id name => if reads then some (.listChildren segment id name) else none

end Hypermedia.Web
