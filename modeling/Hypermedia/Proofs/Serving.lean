import Hypermedia.Proofs.Create
import Hypermedia.Proofs.Read
import Hypermedia.Web.Server

/-!
# What serving a request ends in

On the way from a request to its answer only the four writing operations change the store. What is to
hold of every answer's status and store is therefore asked of the untouched store and of these
operations, and holds then of every request.
-/

namespace Hypermedia.Web

open Program (Environment)

/-- Hooks that leave the store: the one before may reject a request, the one after always answers. -/
structure Hooks.Quiet (hooks : Hooks) : Prop where
  before : ∀ env s c, Service.Ends env s (hooks.before c) (fun _ t => t = s) (fun _ t => t = s)
  after : ∀ env s c body, Service.Ends env s (hooks.after c body) (fun _ t => t = s) (fun _ _ => False)

theorem quiet_default : Hooks.Quiet {} :=
  ⟨fun _ _ _ => Service.ends_pure rfl, fun _ _ _ _ => Service.ends_pure rfl⟩

/-- A request that creates, with several items in its body. -/
def AsksForSeveral (server : Server) (q : Request) : Prop :=
  q.method = "POST" ∧
    (∃ segment, Target.ofPath? server.interface.settings.basePath q.path = some (.collection segment)) ∧
    ∃ body, Json.readLeading? q.body = some body ∧ Operation.IsBulk body

/-- What is asked of a store and of the writing operations from it, for the statuses that a request may
be answered with. -/
structure Allows (env : Environment) (server : Server) (q : Request) (s : Store)
    (K : Nat → Store → Prop) : Prop where
  untouched : ∀ status, K status s
  create : ∀ r ∈ server.interface.registry.resources, ∀ body request,
    (Operation.IsBulk body → AsksForSeveral server q) →
      Service.Ends env s (Operation.create server.interface r body request) (fun _ t => K 201 t)
        (fun e t => K e.status t)
  update : ∀ r ∈ server.interface.registry.resources, ∀ id request,
    Service.Ends env s (Operation.update server.interface r id request) (fun _ t => K 204 t)
      (fun e t => K e.status t)
  deleteCollection : ∀ r ∈ server.interface.registry.resources, ∀ request,
    Service.Ends env s (Operation.deleteCollection r request) (fun _ t => K 204 t)
      (fun e t => K e.status t)
  deleteInstance : ∀ r ∈ server.interface.registry.resources, ∀ id,
    Service.Ends env s (Operation.deleteInstance r id) (fun _ t => K 204 t) (fun e t => K e.status t)

section
variable {env : Environment} {server : Server} {q : Request} {s : Store} {K : Nat → Store → Prop}

/-! ### Answers -/

/-- The service of an answer ends in an answer or an error whose status is allowed. -/
abbrev AnswerEnds (env : Environment) (s : Store) (K : Nat → Store → Prop) (x : Service Response) :
    Prop :=
  Service.Ends env s x (fun response t => K response.status t) (fun e t => K e.status t)

theorem ends_answered {x : Service Response} (hx : AnswerEnds env s K x) :
    Program.Ends env s (answered x) (fun response t => K response.status t) := by
  refine Program.ends_bind hx fun r t hr => ?_
  cases r with
  | ok response => exact Program.ends_done hr
  | error e => exact Program.ends_done hr

theorem ends_respond (hq : server.hooks.Quiet) {c : Context} {status : Nat} {body : Option Value}
    (h : K status s) : AnswerEnds env s K (respond server c status body) := by
  unfold respond
  refine Service.ends_bind (Service.ends_mono (hq.after env s c body) (fun _ _ h => h)
    (fun _ _ h => h.elim)) ?_
  rintro body t rfl
  cases body with
  | some v => exact Service.ends_pure h
  | none => exact Service.ends_pure h

theorem ends_respondCreated (hq : server.hooks.Quiet) {c : Context}
    {created : Operation.Batch Operation.Created} (h : K 201 s) :
    AnswerEnds env s K (respondCreated server c created) := by
  cases created with
  | one r => exact Service.ends_bind (ends_respond hq h) fun _ _ ht => Service.ends_pure ht
  | many rs => exact ends_respond hq h

/-! ### Before the operation -/

section
variable {α : Type} {Q : α → Store → Prop} {E : ServiceError → Store → Prop}

theorem ends_resourceAt_bind {segment : String} {f : Resource → Service α} (hE : ∀ e, E e s)
    (hf : ∀ r ∈ server.interface.registry.resources, Service.Ends env s (f r) Q E) :
    Service.Ends env s (resourceAt server segment >>= f) Q E := by
  unfold resourceAt
  cases hr : server.interface.registry.byPath? segment with
  | none => exact Service.ends_bind (R := fun _ _ => False) (Service.ends_fail (hE _)) fun _ _ h => h.elim
  | some r =>
    have hm : r ∈ server.interface.registry.resources := List.mem_of_find?_eq_some hr
    exact hf r hm

theorem ends_filterBody_bind {f : Option Value → Service α} (hE : ∀ e, E e s)
    (hf : ∀ body, Service.Ends env s (f body) Q E) : Service.Ends env s (filterBody q >>= f) Q E := by
  refine Service.ends_bind (R := fun _ t => t = s) ?_ (fun body _ ht => ht ▸ hf body)
  unfold filterBody
  split
  · exact Service.ends_pure rfl
  · split
    · exact Service.ends_fail (hE _)
    · exact Service.ends_pure rfl
    · exact Service.ends_fail (hE _)

theorem ends_before_bind (hq : server.hooks.Quiet) {c : Context} {f : Unit → Service α}
    (hE : ∀ e, E e s) (hf : Service.Ends env s (f ()) Q E) :
    Service.Ends env s (server.hooks.before c >>= f) Q E := by
  refine Service.ends_bind (Service.ends_mono (hq.before env s c) (fun _ _ h => h)
    (fun e _ ht => ht ▸ hE e)) ?_
  rintro _ t rfl
  exact hf

end

theorem ends_of_keeps {α : Type} {x : Service α} (hK : ∀ status, K status s)
    (hx : Service.Keeps env (· = s) x) :
    Service.Ends env s x (fun _ t => t = s) (fun e t => K e.status t) :=
  Service.ends_mono (hx s rfl) (fun _ _ h => h) (fun e _ ht => ht ▸ hK e.status)

/-! ### Routes -/

section
variable (hq : server.hooks.Quiet) (h : Allows env server q s K)

include hq h

theorem ends_list (segment : String) (query : Filter.Texts) :
    AnswerEnds env s K (list server q segment query) := by
  have hE : ∀ e : ServiceError, K e.status s := fun e => h.untouched e.status
  unfold list
  refine ends_resourceAt_bind hE fun r hr => ends_filterBody_bind hE fun body => ?_
  refine ends_before_bind hq hE ?_
  split
  · exact ends_respond hq (h.untouched 200)
  · refine Service.ends_bind (ends_of_keeps h.untouched Operation.keeps_list) ?_
    rintro page t rfl
    exact ends_respond hq (h.untouched 200)

theorem ends_create {body : Value} (hbody : Operation.IsBulk body → AsksForSeveral server q)
    (segment : String) (query : Filter.Texts) :
    AnswerEnds env s K (create server q segment query body) := by
  have hE : ∀ e : ServiceError, K e.status s := fun e => h.untouched e.status
  unfold create
  refine ends_resourceAt_bind hE fun r hr => ends_before_bind hq hE ?_
  dsimp only
  split
  · refine Service.ends_bind (ends_of_keeps h.untouched (Operation.keeps_validateOnly _ _)) ?_
    rintro _ t rfl
    exact ends_respond hq (h.untouched 200)
  · exact Service.ends_bind (h.create r hr body _ hbody) fun created t ht => ends_respondCreated hq ht

theorem ends_deleteCollection (segment : String) (query : Filter.Texts) :
    AnswerEnds env s K (deleteCollection server q segment query) := by
  have hE : ∀ e : ServiceError, K e.status s := fun e => h.untouched e.status
  unfold deleteCollection
  refine ends_resourceAt_bind hE fun r hr => ends_filterBody_bind hE fun body => ?_
  refine ends_before_bind hq hE ?_
  exact Service.ends_bind (h.deleteCollection r hr _) fun _ t ht => ends_respond hq ht

theorem ends_read (segment id : String) (query : Filter.Texts) :
    AnswerEnds env s K (read server q segment id query) := by
  have hE : ∀ e : ServiceError, K e.status s := fun e => h.untouched e.status
  unfold read
  refine ends_resourceAt_bind hE fun r hr => ends_before_bind hq hE ?_
  refine Service.ends_bind (ends_of_keeps h.untouched Operation.keeps_read) ?_
  rintro d t rfl
  exact ends_respond hq (h.untouched 200)

theorem ends_update (segment id : String) (query : Filter.Texts) (body : Value) :
    AnswerEnds env s K (update server q segment id query body) := by
  have hE : ∀ e : ServiceError, K e.status s := fun e => h.untouched e.status
  unfold update
  refine ends_resourceAt_bind hE fun r hr => ends_before_bind hq hE ?_
  split
  · exact Service.ends_bind (h.update r hr id _) fun _ t ht => ends_respond hq ht
  · exact Service.ends_fail (hE _)

theorem ends_deleteInstance (segment id : String) (query : Filter.Texts) :
    AnswerEnds env s K (deleteInstance server q segment id query) := by
  have hE : ∀ e : ServiceError, K e.status s := fun e => h.untouched e.status
  unfold deleteInstance
  refine ends_resourceAt_bind hE fun r hr => ends_before_bind hq hE ?_
  exact Service.ends_bind (h.deleteInstance r hr id) fun _ t ht => ends_respond hq ht

theorem ends_listChildren (segment id field : String) (query : Filter.Texts) :
    AnswerEnds env s K (listChildren server q segment id field query) := by
  have hE : ∀ e : ServiceError, K e.status s := fun e => h.untouched e.status
  unfold listChildren
  refine ends_resourceAt_bind hE fun r hr => ends_before_bind hq hE ?_
  refine Service.ends_bind (ends_of_keeps h.untouched Operation.keeps_listChildren) ?_
  rintro page t rfl
  exact ends_respond hq (h.untouched 200)

end

/-! ### Requests -/

theorem ends_orRefuse {α : Type} {e : Except Response α} {next : α → Program Response}
    (hK : ∀ status, K status s)
    (hnext : ∀ a, e = .ok a → Program.Ends env s (next a) (fun response t => K response.status t)) :
    Program.Ends env s (orRefuse e next) (fun response t => K response.status t) := by
  cases e with
  | ok a => exact hnext a rfl
  | error response => exact Program.ends_done (hK response.status)

theorem ends_guarded {segments : List String} {work : List String → Filter.Texts → Program Response}
    (hK : ∀ status, K status s)
    (hwork : ∀ parts query,
      Program.Ends env s (work parts query) (fun response t => K response.status t)) :
    Program.Ends env s (guarded server q segments work) (fun response t => K response.status t) := by
  unfold guarded
  split
  · exact Program.ends_done (hK _)
  · exact ends_orRefuse hK fun parts _ => hwork parts _

theorem readLeading?_of_jsonBody {body : Value} (h : jsonBody q = .ok body) :
    Json.readLeading? q.body = some body := by
  unfold jsonBody at h
  split at h
  · cases h
  split at h
  · cases h
  split at h
  · rename_i v hv
    cases h
    exact hv
  · cases h

theorem create_of_action? {target : Target} {method segment : String}
    (h : target.action? method = some (.create segment)) :
    method = "POST" ∧ target = .collection segment := by
  cases target with
  | collection name =>
    simp only [Target.action?] at h
    split at h
    · cases h
    split at h
    · cases h
      exact ⟨by assumption, rfl⟩
    split at h
    · cases h
    · cases h
  | record name id =>
    simp only [Target.action?] at h
    split at h
    · cases h
    split at h
    · cases h
    split at h
    · cases h
    · cases h
  | health | version | field =>
    simp only [Target.action?] at h
    split at h
    · cases h
    · cases h

theorem ends_perform (hq : server.hooks.Quiet) (h : Allows env server q s K) {target : Target}
    {action : Action}
    (htarget : Target.ofPath? server.interface.settings.basePath q.path = some target)
    (haction : target.action? q.method = some action) :
    Program.Ends env s (perform server q action) (fun response t => K response.status t) := by
  have hK : ∀ status, K status s := h.untouched
  cases action with
  | health => exact Program.ends_done (hK 200)
  | version => exact Program.ends_done (hK 200)
  | list segment =>
    rw [perform]
    refine ends_guarded hK fun parts query => ends_orRefuse hK fun _ _ => ?_
    exact ends_answered (ends_list hq h _ query)
  | create segment =>
    obtain ⟨hpost, rfl⟩ := create_of_action? haction
    rw [perform]
    refine ends_guarded hK fun parts query => ends_orRefuse hK fun body hbody => ?_
    refine ends_answered (ends_create hq h (fun hbulk => ?_) _ query)
    exact ⟨hpost, ⟨segment, htarget⟩, body, readLeading?_of_jsonBody hbody, hbulk⟩
  | deleteCollection segment =>
    rw [perform]
    refine ends_guarded hK fun parts query => ends_orRefuse hK fun _ _ => ?_
    exact ends_answered (ends_deleteCollection hq h _ query)
  | read segment id =>
    rw [perform]
    exact ends_guarded hK fun parts query => ends_answered (ends_read hq h _ _ query)
  | update segment id =>
    rw [perform]
    refine ends_guarded hK fun parts query => ends_orRefuse hK fun body _ => ?_
    exact ends_answered (ends_update hq h _ _ query body)
  | deleteInstance segment id =>
    rw [perform]
    exact ends_guarded hK fun parts query => ends_answered (ends_deleteInstance hq h _ _ query)
  | listChildren segment id field =>
    rw [perform]
    exact ends_guarded hK fun parts query => ends_answered (ends_listChildren hq h _ _ _ query)

/-- Every request ends in an answer whose status and store are allowed. -/
theorem ends_handle (hq : server.hooks.Quiet) (h : Allows env server q s K) :
    Program.Ends env s (handle server q) (fun response t => K response.status t) := by
  have hK : ∀ status, K status s := h.untouched
  have hroute : Program.Ends env s (route server q) (fun response t => K response.status t) := by
    unfold route
    split
    · exact Program.ends_done (hK 413)
    split
    · exact Program.ends_done (hK 404)
    rename_i target htarget
    split
    · exact Program.ends_done (hK 405)
    rename_i action haction
    exact ends_perform hq h htarget haction
  unfold handle
  split
  · exact Program.ends_bind hroute fun response t ht => Program.ends_done ht
  · exact hroute

end

end Hypermedia.Web
