import Hypermedia.Filter.Condition
import Hypermedia.Json.Printer

/-!
# Statements with parameters

A statement is fixed text with two kinds of places: the name of the table, and numbered slots. Every
name and value that a request supplies is a parameter; none stands in the text.
-/

namespace Hypermedia.Sql

inductive Param where
  | text (s : String)
  | float (x : Float)
  | json (v : Value)

inductive Piece where
  | text (s : String)
  | table
  | slot (n : Nat)

def Piece.write (table : String) : Piece → String
  | text s => s
  | .table => table
  | slot n => "$" ++ toString n

/-- Parts in order and the values of the slots, the first slot first. -/
structure Statement where
  pieces : List Piece
  params : List Param

def Statement.sql (s : Statement) (table : String) : String :=
  String.join (s.pieces.map (Piece.write table))

/-- Parts of a statement under construction, which take the values bound so far and bind more. -/
def Draft := List Param → Except Store.Error (List Piece × List Param)

namespace Draft

/-- Parts that bind nothing. -/
def pieces (parts : List Piece) : Draft := fun ps => .ok (parts, ps)

def text (s : String) : Draft := pieces [.text s]

def refuse (e : Store.Error) : Draft := fun _ => .error e

def append (a b : Draft) : Draft := fun ps =>
  match a ps with
  | .error e => .error e
  | .ok (left, ps) =>
    match b ps with
    | .error e => .error e
    | .ok (right, ps) => .ok (left ++ right, ps)

instance : Append Draft := ⟨append⟩

/-- A value bound to the next slot, and what uses that slot. -/
def bound (p : Param) (use : Piece → Draft) : Draft := fun ps =>
  use (.slot (ps.length + 1)) (ps ++ [p])

def statement (d : Draft) : Except Store.Error Statement :=
  (d []).map fun (pieces, params) => ⟨pieces, params⟩

end Draft

end Hypermedia.Sql
