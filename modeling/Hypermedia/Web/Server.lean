import Hypermedia.Operation.Delete
import Hypermedia.Operation.Read
import Hypermedia.Schema.Description
import Hypermedia.Web.Encoding
import Hypermedia.Web.Hook
import Hypermedia.Web.Request
import Hypermedia.Web.Route

/-!
# The server

A request's way to its answer. A declared length beyond the limit is turned away first, then the route
is found. On a route the parts of the request are taken in a fixed order: credentials, path, query, and
the body last. Then the resource is looked up, the hook before is asked, the operation runs, and the
hook after has the last word on the body.
-/

namespace Hypermedia.Web

/-- The body of an answer: nothing, a value, or a short text about the transport. -/
inductive Body where
  | empty
  | json (v : Value)
  | text

structure Response where
  status : Nat
  location : Option String := none
  body : Body := .empty

structure Server where
  interface : Interface
  hooks : Hooks := {}

def Response.ofError (e : ServiceError) : Response := { status := e.status, body := .json e.body }

def answered (s : Service Response) : Program Response :=
  Program.bind s fun
    | .ok r => .done r
    | .error e => .done (.ofError e)

def isAuthorized (settings : Settings) (q : Request) : Bool :=
  match settings.credentials with
  | none => true
  | some (client, secret) =>
    q.named? "x-api-client" == some client && q.named? "x-api-secret" == some secret

def unauthorized : Response :=
  .ofError (.unauthorized "missing or incorrect client credentials")

/-- The segments of a path decoded; an answer if one is no text. -/
def decodeSegments : List String → Except Response (List String)
  | [] => .ok []
  | s :: rest =>
    match decodeSegment? s with
    | none => .error { status := 400, body := .text }
    | some s => (decodeSegments rest).map (s :: ·)

/-- A body that has to be JSON; an answer if it is not. What follows the value does not count. -/
def jsonBody (q : Request) : Except Response Value :=
  if ¬ q.isJson then .error { status := 415, body := .text }
  else if q.bodyTooLong then .error { status := 413, body := .text }
  else
    match Json.readLeading? q.body with
    | some v => .ok v
    | none => .error { status := 400, body := .text }

/-- A body that is read whole; an answer if it is too long. -/
def wholeBody (q : Request) : Except Response Unit :=
  if q.bodyTooLong then .error { status := 413, body := .text } else .ok ()

/-- A body that adds filters: none where it is blank, else a JSON object. -/
def filterBody (q : Request) : Service (Option Value) :=
  if q.isBlankBody then pure none
  else
    match Json.read? q.body with
    | none => Service.fail (.badRequest "invalid JSON body")
    | some (.object ms) => pure (some (.object ms))
    | some _ => Service.fail (.badRequest "body must be a JSON object")

def resourceAt (s : Server) (segment : String) : Service Resource :=
  match s.interface.registry.byPath? segment with
  | some r => pure r
  | none => Service.fail (.notFound (s.interface.settings.basePath ++ "/" ++ segment))

/-- An answer whose body has passed the hook after. -/
def respond (s : Server) (c : Context) (status : Nat) (body : Option Value) : Service Response := do
  let body ← s.hooks.after c body
  match body with
  | some v => pure { status, body := .json v }
  | none => pure { status }

def createdValue (c : Operation.Created) : Value :=
  .object [("id", .string c.id), ("href", .string c.href)]

/-- The answer to a create; a single record's path is its location, if a header can carry it. -/
def respondCreated (s : Server) (c : Context) (created : Operation.Batch Operation.Created) :
    Service Response :=
  match created with
  | .one r => do
    let response ← respond s c 201 (some (createdValue r))
    let location := if r.href.toList.all Request.isVisible then some r.href else none
    pure { response with location }
  | .many rs => respond s c 201 (some (.object [("items", .array (rs.map createdValue))]))

def idPath (id : String) : Filter.Texts := [(idField, id)]

def filters (body : Option Value) : Option Members := body.bind Value.members?

/-- A page of a collection, or its description. -/
def list (s : Server) (q : Request) (segment : String) (query : Filter.Texts) : Service Response := do
  let r ← resourceAt s segment
  let body ← filterBody q
  let c : Context := ⟨r.name, .list, none, query, q.headers, body⟩
  s.hooks.before c
  if q.flag "x-json-schema" then
    respond s c 200 (some (Schema.describe s.interface.settings.basePath r))
  else
    let page ← Operation.list s.interface r ⟨filters body, [], query⟩
    respond s c 200 (some page.ofDocuments)

/-- Records created, or only checked. -/
def create (s : Server) (q : Request) (segment : String) (query : Filter.Texts) (body : Value) :
    Service Response := do
  let r ← resourceAt s segment
  let c : Context := ⟨r.name, .create, none, query, q.headers, some body⟩
  s.hooks.before c
  let request : Filter.Request := ⟨none, [], query⟩
  if q.flag "x-validation" then
    Operation.validateOnly s.interface r body request
    respond s c 200 (some (.object []))
  else
    let created ← Operation.create s.interface r body request
    respondCreated s c created

def deleteCollection (s : Server) (q : Request) (segment : String) (query : Filter.Texts) :
    Service Response := do
  let r ← resourceAt s segment
  let body ← filterBody q
  let c : Context := ⟨r.name, .deleteCollection, none, query, q.headers, body⟩
  s.hooks.before c
  let _ ← Operation.deleteCollection r ⟨filters body, [], query⟩
  respond s c 204 none

def read (s : Server) (q : Request) (segment id : String) (query : Filter.Texts) :
    Service Response := do
  let r ← resourceAt s segment
  let c : Context := ⟨r.name, .read, some id, query, q.headers, none⟩
  s.hooks.before c
  let d ← Operation.read s.interface r id ⟨none, idPath id, query⟩
  respond s c 200 (some (.object d))

/-- One record updated; the body has to be an object. -/
def update (s : Server) (q : Request) (segment id : String) (query : Filter.Texts) (body : Value) :
    Service Response := do
  let r ← resourceAt s segment
  let c : Context := ⟨r.name, .update, some id, query, q.headers, some body⟩
  s.hooks.before c
  match body with
  | .object ms => do
    Operation.update s.interface r id ⟨some ms, idPath id, query⟩
    respond s c 204 none
  | _ => Service.fail (.badRequest "body must be a JSON object")

def deleteInstance (s : Server) (q : Request) (segment id : String) (query : Filter.Texts) :
    Service Response := do
  let r ← resourceAt s segment
  let c : Context := ⟨r.name, .deleteInstance, some id, query, q.headers, none⟩
  s.hooks.before c
  Operation.deleteInstance r id
  respond s c 204 none

def listChildren (s : Server) (q : Request) (segment id field : String) (query : Filter.Texts) :
    Service Response := do
  let r ← resourceAt s segment
  let c : Context := ⟨r.name, .childrenList, some id, query, q.headers, none⟩
  s.hooks.before c
  let page ← Operation.listChildren s.interface r id field ⟨none, idPath id, query⟩
  respond s c 200 (some page.ofDocuments)

/-- A value answered, or the answer that stands in its way. -/
def orRefuse {α : Type} (e : Except Response α) (next : α → Program Response) : Program Response :=
  match e with
  | .ok a => next a
  | .error r => .done r

/-- A route that only known callers reach: its segments decoded, then its work. -/
def guarded (s : Server) (q : Request) (segments : List String)
    (work : List String → Filter.Texts → Program Response) : Program Response :=
  if ¬ isAuthorized s.interface.settings q then .done unauthorized
  else orRefuse (decodeSegments segments) fun parts => work parts (decodeForm q.query)

def versionBody : Value := .object [("name", .string "schema-rest"), ("version", .string "0.1.0")]

def perform (s : Server) (q : Request) : Action → Program Response
  | .health => .done { status := 200, body := .json (.object [("status", .string "ok")]) }
  | .version => .done { status := 200, body := .json versionBody }
  | .list segment =>
    guarded s q [segment] fun parts query =>
      orRefuse (wholeBody q) fun _ => answered (list s q (parts.getD 0 "") query)
  | .create segment =>
    guarded s q [segment] fun parts query =>
      orRefuse (jsonBody q) fun body => answered (create s q (parts.getD 0 "") query body)
  | .deleteCollection segment =>
    guarded s q [segment] fun parts query =>
      orRefuse (wholeBody q) fun _ => answered (deleteCollection s q (parts.getD 0 "") query)
  | .read segment id =>
    guarded s q [segment, id] fun parts query =>
      answered (read s q (parts.getD 0 "") (parts.getD 1 "") query)
  | .update segment id =>
    guarded s q [segment, id] fun parts query =>
      orRefuse (jsonBody q) fun body =>
        answered (update s q (parts.getD 0 "") (parts.getD 1 "") query body)
  | .deleteInstance segment id =>
    guarded s q [segment, id] fun parts query =>
      answered (deleteInstance s q (parts.getD 0 "") (parts.getD 1 "") query)
  | .listChildren segment id field =>
    guarded s q [segment, id, field] fun parts query =>
      answered (listChildren s q (parts.getD 0 "") (parts.getD 1 "") (parts.getD 2 "") query)

/-- The answer to a request, with its body whatever the method. -/
def route (s : Server) (q : Request) : Program Response :=
  if q.declaresTooMuch then .done { status := 413, body := .text }
  else
    match Target.ofPath? s.interface.settings.basePath q.path with
    | none => .done { status := 404 }
    | some target =>
      match target.action? q.method with
      | none => .done { status := 405 }
      | some action => perform s q action

/-- The answer to a request; `HEAD` gets no body. -/
def handle (s : Server) (q : Request) : Program Response :=
  if q.method = "HEAD" then (route s q).bind fun r => .done { r with body := .empty } else route s q

end Hypermedia.Web
