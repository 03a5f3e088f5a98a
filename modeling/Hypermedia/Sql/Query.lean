import Hypermedia.Sql.Statement
import Hypermedia.Store.Collections

/-!
# Queries over a table of documents

The calls of a store as statements over one table whose rows hold a collection, an identity, a document
and the order of arrival.
-/

namespace Hypermedia.Sql

open Hypermedia.Filter (Predicate Condition Direction)

def field (key : Piece) : List Piece := [.text "(doc -> ", key, .text "::text)"]

def fieldText (key : Piece) : List Piece := [.text "(doc ->> ", key, .text "::text)"]

def coordinate (key : Piece) (index : String) : List Piece :=
  [.text "((doc -> ", key, .text ("::text -> 'coordinates' ->> " ++ index ++ ")::float8)")]

/-- The great-circle distance in metres from a point to a field. -/
def distance (name : String) (c : Filter.Circle) (use : List Piece → Draft) : Draft :=
  .bound (.text name) fun key => .bound (.float c.lng) fun lng => .bound (.float c.lat) fun lat =>
    use ([.text "(12742000 * asin(sqrt(power(sin(radians("] ++ coordinate key "1" ++
      [.text " - ", lat, .text "::float8) / 2), 2) + cos(radians(", lat,
        .text "::float8)) * cos(radians("] ++ coordinate key "1" ++
      [.text ")) * power(sin(radians("] ++ coordinate key "0" ++
      [.text " - ", lng, .text "::float8) / 2), 2))))"])

def predicate (name : String) : Predicate → Draft
  | .exact v =>
    .bound (.text name) fun key => .bound (.json v) fun slot =>
      .pieces ([.text "("] ++ field key ++ [.text " = ", slot, .text "::jsonb OR (jsonb_typeof("] ++
        field key ++ [.text ") = 'array' AND "] ++ field key ++
        [.text " @> jsonb_build_array(", slot, .text "::jsonb)))"])
  | .pattern source =>
    .bound (.text name) fun key => .bound (.text source) fun slot =>
      .pieces (fieldText key ++ [.text " ~ ", slot])
  | .range least greatest =>
    match least.float?, greatest.float? with
    | some lo, some hi =>
      .bound (.text name) fun key => .bound (.text name) fun key' =>
        .bound (.float lo) fun lo => .bound (.float hi) fun hi =>
          .pieces ([.text "(CASE WHEN jsonb_typeof("] ++ field key ++ [.text ") = 'number' THEN "] ++
            fieldText key' ++ [.text "::float8 END) BETWEEN ", lo, .text "::float8 AND ", hi,
              .text "::float8"])
    | _, _ =>
      .bound (.text name) fun key =>
        .bound (.text least.plainText) fun lo => .bound (.text greatest.plainText) fun hi =>
          .pieces (fieldText key ++ [.text " BETWEEN ", lo, .text " AND ", hi])
  | .oneOf vs =>
    .bound (.text name) fun key => .bound (.json (.array vs)) fun slot =>
      .pieces ([slot, .text "::jsonb @> jsonb_build_array("] ++ field key ++ [.text ")"])
  | .near n =>
    match n.resolve with
    | .error e => .refuse e
    | .ok c =>
      distance name c fun ps =>
        .bound (.float c.maxDistance) fun slot => .pieces (ps ++ [.text " <= ", slot, .text "::float8"])

/-- All predicates of a condition, each after `AND`. -/
def predicates : Condition → Draft
  | [] => .pieces []
  | (name, p) :: rest => .text " AND " ++ predicate name p ++ predicates rest

def matching (collection : String) (c : Condition) : Draft :=
  (.bound (.text collection) fun slot => .pieces [.text " WHERE collection = ", slot]) ++ predicates c

/-- The keys of an order, each with a comma after it. -/
def orderKeys : List (String × Direction) → Draft
  | [] => .pieces []
  | (name, direction) :: rest =>
    (.bound (.text name) fun key =>
      .pieces (field key ++ [.text (match direction with
        | .ascending => " ASC, "
        | .descending => " DESC, ")])) ++ orderKeys rest

/-- The order asked for; without one, a condition of nearness puts the nearest first. Rows that are
equal in it come in the order of their arrival. -/
def ordered (c : Condition) (keys : List (String × Direction)) : Draft :=
  let first : Draft :=
    if ¬ keys.isEmpty then orderKeys keys
    else
      match Filter.Condition.near? c with
      | none => .pieces []
      | some (name, n) =>
        match n.resolve with
        | .error e => .refuse e
        | .ok circle => distance name circle fun ps => .pieces (ps ++ [.text ", "])
  .text " ORDER BY " ++ first ++ .text "seq"

def window (o : Store.Options) : Draft :=
  let limit := match o.limit with
    | some n => " LIMIT " ++ toString n
    | none => ""
  let offset := if 0 < o.skip then " OFFSET " ++ toString o.skip else ""
  .text (limit ++ offset)

def select (collection : String) (c : Condition) (o : Store.Options) : Except Store.Error Statement :=
  (.pieces [.text "SELECT doc FROM ", .table] ++ matching collection c ++ ordered c o.sort ++
    window o : Draft).statement

def count (collection : String) (c : Condition) : Except Store.Error Statement :=
  (.pieces [.text "SELECT COUNT(*) FROM ", .table] ++ matching collection c : Draft).statement

def firstId (collection : String) (c : Condition) : Draft :=
  .pieces [.text "(SELECT id FROM ", .table] ++ matching collection c ++ .text " ORDER BY seq LIMIT 1)"

def updateFirst (collection : String) (c : Condition) (patch : Members) :
    Except Store.Error Statement :=
  (.bound (.json (.object patch)) fun p => .bound (.text collection) fun slot =>
    .pieces [.text "UPDATE ", .table, .text " SET doc = doc || ", p,
      .text "::jsonb WHERE collection = ", slot, .text " AND id = "] ++
    firstId collection c ++ .text " RETURNING doc" : Draft).statement

def deleteFirst (collection : String) (c : Condition) : Except Store.Error Statement :=
  (.bound (.text collection) fun slot =>
    .pieces [.text "DELETE FROM ", .table, .text " WHERE collection = ", slot, .text " AND id = "] ++
    firstId collection c ++ .text " RETURNING doc" : Draft).statement

/-- A document put in the place of the one with its identity, or added. -/
def upsert (collection id : String) (document : Members) : Statement where
  pieces := [.text "INSERT INTO ", .table, .text " (collection, id, doc) VALUES (", .slot 1, .text ", ",
    .slot 2, .text ", ", .slot 3,
    .text "::jsonb) ON CONFLICT (collection, id) DO UPDATE SET doc = EXCLUDED.doc"]
  params := [.text collection, .text id, .json (.object document)]

def deleteById (collection id : String) : Statement where
  pieces := [.text "DELETE FROM ", .table, .text " WHERE collection = ", .slot 1, .text " AND id = ",
    .slot 2]
  params := [.text collection, .text id]

end Hypermedia.Sql
