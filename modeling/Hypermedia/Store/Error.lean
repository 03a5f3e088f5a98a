/-!
# Failures of a store

A store refuses a call because the query makes no sense, because it cannot be reached, or because the
database behind it reports a fault.
-/

namespace Hypermedia.Store

inductive Error where
  | database (text : String)
  | invalidQuery (text : String)
  | unavailable (text : String)
  deriving DecidableEq

def Error.message : Error → String
  | database text => "database: " ++ text
  | invalidQuery text => "invalid query: " ++ text
  | unavailable text => "store unavailable: " ++ text

def Error.badPattern : Error := .invalidQuery "regex parse error"

end Hypermedia.Store
