import Hypermedia.Service.Basic

/-!
# Hooks

What may be wrapped around every operation: a check before it, which may reject the request, and a
change of the body after it. A hook sees the request that is being served.
-/

namespace Hypermedia.Web

inductive Verb where
  | list
  | create
  | read
  | update
  | deleteCollection
  | deleteInstance
  | childrenList
  deriving DecidableEq

def Verb.name : Verb → String
  | list => "List"
  | create => "Create"
  | read => "Read"
  | update => "Update"
  | deleteCollection => "DeleteCollection"
  | deleteInstance => "DeleteInstance"
  | childrenList => "ChildrenList"

structure Context where
  resource : String
  verb : Verb
  id : Option String
  query : Filter.Texts
  headers : List (String × String)
  body : Option Value

/-- A check before an operation and a change of its body after it; no body is an empty answer. -/
structure Hooks where
  before : Context → Service Unit := fun _ => pure ()
  after : Context → Option Value → Service (Option Value) := fun _ body => pure body

end Hypermedia.Web
