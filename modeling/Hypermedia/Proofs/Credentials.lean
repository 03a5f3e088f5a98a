import Hypermedia.Proofs.Rejection

/-!
# Requests without credentials

Where credentials are configured, a request that does not carry them is answered from its path, its method
and its declared length alone. No resource is looked up, no hook is asked, and the store is not called, so
servers that differ in all of that cannot be told apart.
-/

namespace Hypermedia.Web

open Program (Environment World run)

/-- Both headers of the request can be read and are, trimmed, this pair. -/
def Request.Carries (q : Request) (client secret : String) : Prop :=
  (Request.header? q.headers "x-api-client").map Text.trim = some client ∧
    (Request.header? q.headers "x-api-secret").map Text.trim = some secret

/-- The two fixed paths are open to everyone. -/
def Action.isOpen : Action → Bool
  | health => true
  | version => true
  | _ => false

/-- What a server answers to a request without its credentials, before the body of an answer to `HEAD` is
left out. -/
def refusal (basePath : String) (q : Request) : Response :=
  if q.declaresTooMuch then { status := 413, body := .text }
  else
    match Target.ofPath? basePath q.path with
    | none => { status := 404 }
    | some target =>
      match target.action? q.method with
      | none => { status := 405 }
      | some .health => { status := 200, body := .json (.object [("status", .string "ok")]) }
      | some .version => { status := 200, body := .json versionBody }
      | some _ => unauthorized

/-- Hooks that tell of every call by a reading of the clock. -/
def Hooks.watched (hooks : Hooks) : Hooks where
  before c := do
    let _ ← Service.now
    hooks.before c
  after c body := do
    let _ ← Service.now
    hooks.after c body

section
variable {server : Server} {q : Request} {client secret : String}

theorem carries_of_isAuthorized {settings : Settings} (hset : settings.credentials = some (client, secret))
    (h : isAuthorized settings q = true) : q.Carries client secret := by
  -- A header that is used is the trimmed one, unless that is empty.
  have hnamed : ∀ name value, q.named? name = some value →
      (Request.header? q.headers name).map Text.trim = some value := fun name value hv =>
    (Option.filter_eq_some_iff.mp hv).1
  simp only [isAuthorized, hset, Bool.and_eq_true, beq_iff_eq] at h
  exact ⟨hnamed _ _ h.1, hnamed _ _ h.2⟩

variable (hset : server.interface.settings.credentials = some (client, secret))
variable (hq : ¬ q.Carries client secret)

include hset hq

theorem guarded_refuses (segments : List String) (work : List String → Filter.Texts → Program Response) :
    guarded server q segments work = .done unauthorized := by
  unfold guarded
  rw [if_pos fun h => hq (carries_of_isAuthorized hset h)]

theorem perform_refuses {action : Action} (h : action.isOpen = false) :
    perform server q action = .done unauthorized := by
  cases action with
  | health => cases h
  | version => cases h
  | _ => rw [perform, guarded_refuses hset hq]

theorem route_refuses : route server q = .done (refusal server.interface.settings.basePath q) := by
  unfold route refusal
  cases q.declaresTooMuch with
  | true => rfl
  | false =>
    rw [if_neg (by decide), if_neg (by decide)]
    cases Target.ofPath? server.interface.settings.basePath q.path with
    | none => rfl
    | some target =>
      dsimp only
      cases target.action? q.method with
      | none => rfl
      | some action =>
        cases action with
        | health => rfl
        | version => rfl
        | _ => exact perform_refuses hset hq rfl

theorem handle_refuses : handle server q =
    .done (if q.method = "HEAD" then
      { refusal server.interface.settings.basePath q with body := .empty }
    else refusal server.interface.settings.basePath q) := by
  unfold handle
  rw [route_refuses hset hq]
  split
  · rfl
  · rfl

end

theorem status_refusal {basePath : String} {q : Request} (hlength : q.declaresTooMuch = false)
    {target : Target} (htarget : Target.ofPath? basePath q.path = some target) {action : Action}
    (haction : target.action? q.method = some action) (h : action.isOpen = false) :
    (refusal basePath q).status = 401 := by
  unfold refusal
  rw [hlength, if_neg (by decide), htarget]
  dsimp only
  rw [haction]
  cases action with
  | health => cases h
  | version => cases h
  | _ => rfl

/-- A request without the configured credentials is answered alike by all servers of the same settings,
whatever their resources, stores, checks and hooks are. It leaves the world of each as it is: no call of the
store, no reading of the clock, no draw, and no call of a hook, which watched hooks would tell. If its path
and method lead to resources and it declares no body beyond the limit, the status is 401. -/
theorem nothing_without_credentials {server server' : Server} {client secret : String}
    (hset : server.interface.settings.credentials = some (client, secret))
    (hsame : server'.interface.settings = server.interface.settings) {q : Request}
    (hq : ¬ q.Carries client secret) (env env' : Environment) (w w' : World) :
    (run env (handle server q) w).1 = (run env' (handle server' q) w').1 ∧
      (run env (handle server q) w).2 = w ∧ (run env' (handle server' q) w').2 = w' ∧
      run env (handle { server with hooks := server.hooks.watched } q) w =
        ((run env (handle server q) w).1, w) ∧
      ∀ target action, Target.ofPath? server.interface.settings.basePath q.path = some target →
        target.action? q.method = some action → action.isOpen = false → q.declaresTooMuch = false →
          (run env (handle server q) w).1.status = 401 := by
  have hset' : server'.interface.settings.credentials = some (client, secret) := hsame ▸ hset
  have hwatched : ({ server with hooks := server.hooks.watched } : Server).interface.settings.credentials =
      some (client, secret) := hset
  rw [handle_refuses hset hq, handle_refuses hset' hq, handle_refuses hwatched hq, hsame]
  refine ⟨rfl, rfl, rfl, rfl, fun target action htarget haction hopen hlength => ?_⟩
  have hstatus := status_refusal hlength htarget haction hopen
  simp only [run]
  split
  · exact hstatus
  · exact hstatus

/-! ### A locked server -/

/-- A server of these resources for callers who know the key. -/
def locked (registry : Registry) : Server :=
  { interface := { registry, settings := { credentials := some ("app", "key") } } }

/-- A request for all groups. -/
def groupsWith (key : String) : Request :=
  ⟨"GET", "/groups", [("X-Api-Client", " app "), ("X-Api-Secret", key)], ""⟩

/-- With a wrong key a server that has groups cannot be told from one that has no resources. With the right
one it can, and the hooks are called before and after. -/
theorem nothing_without_credentials_groups :
    ¬ (groupsWith "kex").Carries "app" "key" ∧
      (run (Groups.refusing none) (handle (locked Groups.interface.registry) (groupsWith "kex"))
          { store := oneGroup }).1 =
        (run (Groups.refusing (some 0)) (handle (locked ⟨[]⟩) (groupsWith "kex"))
          { store := Store.empty }).1 ∧
      (run (Groups.refusing none) (handle (locked Groups.interface.registry) (groupsWith "kex"))
          { store := oneGroup }).1.status = 401 ∧
      (groupsWith "key").Carries "app" "key" ∧
      (run (Groups.refusing none) (handle (locked Groups.interface.registry) (groupsWith "key"))
          { store := oneGroup }).1.status = 200 ∧
      (run (Groups.refusing none) (handle (locked ⟨[]⟩) (groupsWith "key"))
          { store := oneGroup }).1.status = 404 ∧
      (run (Groups.refusing none) (handle { locked Groups.interface.registry with
          hooks := (locked Groups.interface.registry).hooks.watched } (groupsWith "key"))
            { store := oneGroup }).2.readings = 2 := by
  have hwrong : ¬ (groupsWith "kex").Carries "app" "key" := by
    unfold Request.Carries
    decide +kernel
  have htarget : Target.ofPath? "" (groupsWith "kex").path = some (.collection "groups") := by
    decide +kernel
  have hset : (locked Groups.interface.registry).interface.settings.credentials = some ("app", "key") := rfl
  have hequal : (locked ⟨[]⟩).interface.settings =
      (locked Groups.interface.registry).interface.settings := rfl
  obtain ⟨hsame, -, -, -, hstatus⟩ := nothing_without_credentials hset hequal hwrong
    (Groups.refusing none) (Groups.refusing (some 0)) { store := oneGroup } { store := Store.empty }
  refine ⟨hwrong, hsame, hstatus _ _ htarget rfl rfl (by decide +kernel), ?_, ?_, ?_, ?_⟩
  · unfold Request.Carries
    decide +kernel
  · decide +kernel
  · decide +kernel
  · decide +kernel

end Hypermedia.Web
