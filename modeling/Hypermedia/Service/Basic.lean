import Hypermedia.Service.Error
import Hypermedia.Settings
import Hypermedia.Store.Program

/-!
# Services

An operation is a program that may fail. It runs for an interface: a registry of resources, settings,
and a check of supplied values.
-/

namespace Hypermedia

/-- A check of supplied values; the flag tells that it is asked by an update. -/
abbrev Validator := Resource → Members → Bool → Record.Report

/-- What an operation runs for. -/
structure Interface where
  registry : Registry
  settings : Settings
  validator : Validator := Record.check

/-- A program that may fail. -/
abbrev Service (α : Type) := ExceptT ServiceError Program α

namespace Service

/-- A call of the store; its refusal is the operation's failure. -/
def ask (c : Call) : Service c.Answer :=
  Program.call c fun
    | .ok a => .done (.ok a)
    | .error e => .done (.error (.store e))

def now : Service Time.Instant := Program.now fun t => .done (.ok t)

/-- A random number from 0 to 1. -/
def draw : Service Float := Program.draw fun x => .done (.ok x)

def fail {α : Type} (e : ServiceError) : Service α := Program.done (.error e)

/-- A failure where a report has messages. -/
def require (report : Record.Report) : Service Unit :=
  if report.isEmpty then pure () else fail (.validationFailed report)

/-- The first document with an identity. -/
def byId (collection id : String) (fields : Option (List String)) :
    Service (Option Store.Document) :=
  ask (.first collection (Filter.Condition.byId id) fields)

def mapError {α : Type} (f : ServiceError → ServiceError) (s : Service α) : Service α :=
  Program.bind s fun
    | .ok a => .done (.ok a)
    | .error e => .done (.error (f e))

end Service

def Interface.href (i : Interface) (plural id : String) : String :=
  i.settings.basePath ++ "/" ++ plural ++ "/" ++ id

end Hypermedia
