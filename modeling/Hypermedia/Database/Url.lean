import Hypermedia.Store.Error
import Hypermedia.Text.Blank
import Hypermedia.Text.Split

/-!
# Database addresses

The address of a database names it after its last slash, before a question mark. A database is made by
a connection to the one that every server has, whose address differs only in that name.
-/

namespace Hypermedia.Database

def maintenance : String := "postgres"

/-- A database and the address from which it can be made. -/
structure Target where
  adminUrl : String
  name : String
  deriving DecidableEq

/-- The target of an address; one without a slash names nothing. -/
def Target.ofUrl? (url : String) : Except Store.Error Target :=
  match Text.cutLast '/' url.toList with
  | none => .error (.invalidQuery "DATABASE_URL: no path")
  | some (before, after) =>
    .ok ⟨String.ofList before ++ "/" ++ maintenance,
      String.ofList (Text.trimChars (after.takeWhile (· ≠ '?')))⟩

/-- What is to be done to have a database: nothing, or to ask a server for it. -/
inductive Plan where
  | nothing
  | ask (t : Target)
  deriving DecidableEq

/-- An address without a name, and the database that is always there, ask for nothing. -/
def plan (url : String) : Except Store.Error Plan :=
  (Target.ofUrl? url).map fun t => if t.name = "" ∨ t.name = maintenance then .nothing else .ask t

end Hypermedia.Database
