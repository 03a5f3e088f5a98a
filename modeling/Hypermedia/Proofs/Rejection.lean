import Hypermedia.Proofs.History
import Hypermedia.Proofs.Serving

/-!
# Rejected requests

A request that is answered with a status of the client's fault has changed nothing, unless it asked for
several records at once. The checks of every operation come before its first write; after that only a
refused call of the store can stop it, and the answer to that is the server's fault.
-/

namespace Hypermedia

open Store (Document)
open Program (Environment World run)

/-- A status that puts the fault on the request. -/
def IsRejection (status : Nat) : Prop := 400 ≤ status ∧ status < 500

theorem not_rejection_of_refused {env : Environment} {e : ServiceError} (h : env.Refused e) :
    ¬ IsRejection e.status := by
  rw [status_of_refused h, IsRejection]
  omega

namespace Operation

variable {env : Environment} {i : Interface} {r : Resource} {s : Store}

/-- A create of one record that fails has changed nothing or has changed owners only; in a store of named
documents that takes a refused call. -/
theorem ends_create_one (hlists : r.ListsFree) {body : Value} (hone : ¬ IsBulk body)
    (request : Filter.Request) :
    Service.Ends env s (create i r body request) (fun _ _ => True)
      (fun e t => t = s ∨ ∃ params id, s.Related (Bookkept r (NewRecord r params id)) t ∧
        (s.Named → env.Refused e)) := by
  refine ends_onBody_one hone (fun _ => .inl rfl) fun item => ?_
  refine Service.ends_mono (ends_createItem hlists) (fun _ _ _ => trivial) (fun e t ht => ?_)
  rcases ht with ⟨rfl, -⟩ | ⟨id, -, h⟩
  · exact .inl rfl
  · exact .inr ⟨_, id, h⟩

end Operation

namespace Web

/-- The stores that operations on registered resources and requests reach from the empty one. -/
inductive Reached (server : Server) : Store → Prop where
  | empty : Reached server Store.empty
  | operation {s : Store} (x : Operation.Step) (before : Reached server s)
      (on : x.resource ∈ server.interface.registry.resources) :
      Reached server (x.after server.interface s)
  | request {s : Store} (env : Environment) (q : Request) (before : Reached server s) :
      Reached server (run env (handle server q) { store := s }).2.store

section
variable {env : Environment} {server : Server} {q : Request} {s : Store}
variable (hg : server.interface.registry.Consistent)

include hg

theorem allows_named (hs : s.Named) : Allows env server q s (fun _ t => t.Named) where
  untouched _ := hs
  create r hr body request _ := by
    have hlists := hg.listsFree hr
    exact Operation.keeps_create (Operation.keeps_named_createItem hlists) body request s hs
  update r hr id request :=
    Operation.keeps_named_update (hg.listsFree hr) (hg.namesFree hr) id request s hs
  deleteCollection r hr request :=
    Service.ends_mono Operation.ends_deleteCollection (fun _ _ h => Operation.named_of_within h hs)
      (fun _ _ h => Operation.named_of_within h.1 hs)
  deleteInstance r hr id :=
    Service.ends_mono Operation.ends_deleteInstance (fun _ _ h => Operation.named_of_within h hs)
      (fun _ _ h => h ▸ hs)

theorem Reached.named (hq : server.hooks.Quiet) (h : Reached server s) : s.Named := by
  induction h with
  | empty => exact Operation.named_empty
  | operation x _ on ih => exact Operation.Step.after_of_keeps (Operation.keeps_named hg on x.command) ih
  | request env q _ ih => exact ends_handle hq (allows_named hg ih) _ rfl

/-- Of a store of named documents, a status of rejection tells that it is untouched. -/
theorem allows_unchanged (hs : s.Named) (hone : ¬ AsksForSeveral server q) :
    Allows env server q s (fun status t => IsRejection status → t = s) where
  untouched _ _ := rfl
  create r hr body request hbulk := by
    have hend : Service.Ends env s (Operation.create server.interface r body request) _ _ :=
      Operation.ends_create_one (hg.listsFree hr) (fun h => hone (hbulk h)) request
    refine Service.ends_mono hend (fun _ t _ h => ?_) (fun e t ht h => ?_)
    · exact absurd h.1 (by decide)
    · rcases ht with rfl | ⟨params, id, -, hrefused⟩
      · rfl
      · exact absurd h (not_rejection_of_refused (hrefused hs))
  update r hr id request := by
    refine Service.ends_mono (Operation.ends_update (hg.listsFree hr)) (fun _ t _ h => ?_)
      (fun e t ht h => ?_)
    · exact absurd h.1 (by decide)
    · rcases ht with rfl | ⟨patch, u, hpatched, -, hrefused⟩
      · rfl
      · have hu : u.Named := hpatched.named (hg.namesFree hr) hs
        exact absurd h (not_rejection_of_refused (hrefused hu))
  deleteCollection r hr request := by
    refine Service.ends_mono Operation.ends_deleteCollection (fun _ t _ h => ?_) (fun e t ht h => ?_)
    · exact absurd h.1 (by decide)
    · rcases ht.2 with rfl | hrefused
      · rfl
      · exact absurd h (not_rejection_of_refused hrefused)
  deleteInstance r hr id := by
    refine Service.ends_mono Operation.ends_deleteInstance (fun _ t _ h => ?_) (fun e t ht h => ht)
    exact absurd h.1 (by decide)

end

/-- In every reached store, a request that does not ask for several records and is rejected leaves the
store as it is; and a create of one record that fails, for whatever reason, adds no record to its
collection. -/
theorem rejected_unchanged {ds : List Schema.ResourceDeclaration} {server : Server}
    (hresolve : Schema.resolve ds = .ok server.interface.registry) (hq : server.hooks.Quiet) :
    (∀ (env : Environment) (w : World) (q : Request), Reached server w.store →
      ¬ AsksForSeveral server q → IsRejection (run env (handle server q) w).1.status →
        (run env (handle server q) w).2.store = w.store) ∧
      ∀ (env : Environment) (w : World) (r : Resource) (body : Value) (request : Filter.Request)
        (e : ServiceError), r ∈ server.interface.registry.resources → ¬ Operation.IsBulk body →
        (run env (Operation.create server.interface r body request).run w).1 = .error e →
          ((run env (Operation.create server.interface r body request).run w).2.store.documents
            r.name).map Document.id? = (w.store.documents r.name).map Document.id? := by
  have hg : server.interface.registry.Consistent := Schema.consistent_of_resolve hresolve
  constructor
  · intro env w q hs hone hstatus
    exact ends_handle hq (allows_unchanged hg (hs.named hg hq) hone) w rfl hstatus
  · intro env w r body request e hr hone he
    have hlists : r.ListsFree := hg.listsFree hr
    have hend : Service.Ends env w.store (Operation.create server.interface r body request) _ _ :=
      Operation.ends_create_one hlists hone request
    have herror := hend w rfl
    rw [he] at herror
    rcases herror with h | ⟨params, id, h, -⟩
    · rw [h]
    · exact Store.ids_of_bookkept hlists h r.name

/-! ### A server for groups of people -/

def groupsServer : Server := { interface := Groups.interface }

/-- A store with one group. -/
def oneGroup : Store := (Groups.newGroup "Ops").after Groups.interface Store.empty

/-- A request for a group whose name has the same normalized form. -/
def sameGroup : Request :=
  ⟨"POST", "/groups", [("content-type", "application/json")], "\x7b\"name\": \"OPS\"\x7d"⟩

/-- The create of a person in that group. -/
def newPerson : Service (Operation.Batch Operation.Created) :=
  Operation.create Groups.interface Groups.person
    (.object [("name", .string "ann"), ("group", .string "ops")]) (Groups.values [])

theorem sameGroup_one : ¬ AsksForSeveral groupsServer sameGroup := by
  have hnone : ((Json.readLeading? sameGroup.body).all fun v =>
      (v.members?.bind (Members.get? · "items")).isNone) = true := by decide +kernel
  rintro ⟨-, -, body, hread, ms, items, rfl, hitems⟩
  rw [hread] at hnone
  simp [Value.members?, hitems] at hnone

/-- The second create of a group is rejected; the create of a person fails when its owner is saved. -/
theorem rejected_unchanged_groups :
    Reached groupsServer oneGroup ∧
      (run (Groups.refusing none) (handle groupsServer sameGroup) { store := oneGroup }).1.status = 409 ∧
      (run (Groups.refusing none) (handle groupsServer sameGroup) { store := oneGroup }).2.store =
        oneGroup ∧
      (run (Groups.refusing (some 4)) newPerson.run { store := oneGroup }).1 =
        .error (.store (.unavailable "down")) ∧
      ((run (Groups.refusing (some 4)) newPerson.run { store := oneGroup }).2.store.documents
        "person").map Document.id? = (oneGroup.documents "person").map Document.id? := by
  have hreached : Reached groupsServer oneGroup :=
    .operation (Groups.newGroup "Ops") .empty (List.mem_cons_self ..)
  have hstatus : (run (Groups.refusing none) (handle groupsServer sameGroup)
      { store := oneGroup }).1.status = 409 := by decide +kernel
  have hfails : (run (Groups.refusing (some 4)) newPerson.run { store := oneGroup }).1 =
      .error (.store (.unavailable "down")) := rfl
  have hone : ¬ Operation.IsBulk (.object [("name", .string "ann"), ("group", .string "ops")]) := by
    rintro ⟨ms, items, he, hitems⟩
    cases he
    simp [Members.get?] at hitems
  obtain ⟨hrequest, hcreate⟩ :=
    @rejected_unchanged Groups.declarations groupsServer Groups.resolve_declarations quiet_default
  refine ⟨hreached, hstatus, ?_, hfails, ?_⟩
  · exact hrequest _ _ _ hreached sameGroup_one (by rw [hstatus]; exact ⟨by decide, by decide⟩)
  · exact hcreate _ { store := oneGroup } Groups.person _ (Groups.values []) _
      (List.mem_cons_of_mem _ (List.mem_cons_self ..)) hone hfails

end Web

end Hypermedia
