import Hypermedia.Proofs.Collections
import Hypermedia.Service.Basic

/-!
# What services end in

A service is run from a store and ends in a success or a failure, with a store. The rules here derive
what holds then, one for each way of building a service. A call of the store may also be refused; the
failure that comes of it is told apart from all others.
-/

namespace Hypermedia

open Program (Environment World run)
open Store (Document)

/-- Run from a store, a program ends in an answer and a store of which `Q` holds. -/
def Program.Ends {α : Type} (env : Environment) (s : Store) (p : Program α) (Q : α → Store → Prop) :
    Prop :=
  ∀ w : World, w.store = s → Q (run env p w).1 (run env p w).2.store

/-- The failure of a service of which a call was refused. -/
def Program.Environment.Refused (env : Environment) (e : ServiceError) : Prop :=
  ∃ n c reason, env.refusal n c = some reason ∧ e = .store (.unavailable reason)

/-- No call is ever refused. -/
def Program.Environment.Accepts (env : Environment) : Prop := ∀ n c, env.refusal n c = none

theorem status_of_refused {env : Environment} {e : ServiceError} (h : env.Refused e) :
    e.status = 500 := by
  obtain ⟨n, c, reason, -, rfl⟩ := h
  rfl

theorem not_refused {env : Environment} (h : env.Accepts) (e : ServiceError) : ¬ env.Refused e := by
  rintro ⟨n, c, reason, hr, -⟩
  rw [h n c] at hr
  cases hr

namespace Program

variable {α β : Type} {env : Environment} {s : Store}

theorem ends_done {a : α} {Q : α → Store → Prop} (h : Q a s) : Ends env s (done a) Q := by
  intro w hw
  subst hw
  exact h

theorem ends_bind {p : Program α} {f : α → Program β} {R : α → Store → Prop} {Q : β → Store → Prop}
    (hp : Ends env s p R) (hf : ∀ a t, R a t → Ends env t (f a) Q) : Ends env s (p.bind f) Q := by
  intro w hw
  rw [run_bind]
  exact hf _ _ (hp w hw) _ rfl

theorem ends_mono {p : Program α} {R Q : α → Store → Prop} (hp : Ends env s p R)
    (h : ∀ a t, R a t → Q a t) : Ends env s p Q := fun w hw => h _ _ (hp w hw)

theorem bind_assoc {γ : Type} (p : Program α) (f : α → Program β) (g : β → Program γ) :
    (p.bind f).bind g = p.bind fun a => (f a).bind g := by
  induction p with
  | done a => rfl
  | call c next ih => simp only [bind, ih]
  | now next ih => simp only [bind, ih]
  | draw next ih => simp only [bind, ih]

/-- The environment as it is from a world on. -/
def Environment.later (env : Environment) (w : World) : Environment where
  refusal n c := env.refusal (w.calls + n) c
  clock n := env.clock (w.readings + n)
  random n := env.random (w.draws + n)

/-- A run that goes on from a world is a run in the environment from there on. -/
theorem run_later (env : Environment) (p : Program α) (w v : World) :
    run env p ⟨v.store, w.calls + v.calls, w.readings + v.readings, w.draws + v.draws⟩ =
      ((run (env.later w) p v).1, ⟨(run (env.later w) p v).2.store,
        w.calls + (run (env.later w) p v).2.calls,
        w.readings + (run (env.later w) p v).2.readings,
        w.draws + (run (env.later w) p v).2.draws⟩) := by
  induction p generalizing v with
  | done a => rfl
  | now next ih => exact ih _ ⟨v.store, v.calls, v.readings + 1, v.draws⟩
  | draw next ih => exact ih _ ⟨v.store, v.calls, v.readings, v.draws + 1⟩
  | call c next ih =>
    simp only [run, answer, Nat.add_sub_cancel]
    have hr : (env.later w).refusal v.calls c = env.refusal (w.calls + v.calls) c := rfl
    rw [hr]
    cases env.refusal (w.calls + v.calls) c with
    | some reason => exact ih _ ⟨v.store, v.calls + 1, v.readings, v.draws⟩
    | none => exact ih _ ⟨(c.perform v.store).2, v.calls + 1, v.readings, v.draws⟩

end Program

namespace Service

/-- The two ways in which a service ends. -/
def Outcome {α : Type} (Q : α → Store → Prop) (E : ServiceError → Store → Prop) :
    Except ServiceError α → Store → Prop
  | .ok a, s => Q a s
  | .error e, s => E e s

/-- Run from a store, a service ends in a success of which `Q` holds or in a failure of which `E`
holds. -/
def Ends {α : Type} (env : Environment) (s : Store) (x : Service α) (Q : α → Store → Prop)
    (E : ServiceError → Store → Prop) : Prop :=
  Program.Ends env s x.run (Outcome Q E)

variable {α β : Type} {env : Environment} {s : Store}
variable {Q : α → Store → Prop} {E : ServiceError → Store → Prop}

theorem bind_assoc {γ : Type} (x : Service α) (f : α → Service β) (g : β → Service γ) :
    x >>= f >>= g = x >>= fun a => f a >>= g := by
  refine (Program.bind_assoc x.run _ _).trans ?_
  refine congrArg (Program.bind x.run) (funext fun r => ?_)
  cases r with
  | ok a => rfl
  | error e => rfl

theorem ends_pure {a : α} (h : Q a s) : Ends env s (pure a) Q E := Program.ends_done h

theorem ends_fail {e : ServiceError} (h : E e s) : Ends env s (fail e : Service α) Q E :=
  Program.ends_done h

theorem ends_bind {x : Service α} {f : α → Service β} {R : α → Store → Prop} {Q : β → Store → Prop}
    (hx : Ends env s x R E) (hf : ∀ a t, R a t → Ends env t (f a) Q E) : Ends env s (x >>= f) Q E := by
  refine Program.ends_bind hx fun r t hr => ?_
  cases r with
  | ok a => exact hf a t hr
  | error e => exact Program.ends_done hr

theorem ends_mono {x : Service α} {R : α → Store → Prop} {F : ServiceError → Store → Prop}
    (hx : Ends env s x R F) (hQ : ∀ a t, R a t → Q a t) (hE : ∀ e t, F e t → E e t) :
    Ends env s x Q E := by
  refine Program.ends_mono hx fun r t hr => ?_
  cases r with
  | ok a => exact hQ a t hr
  | error e => exact hE e t hr

theorem ends_require_bind {report : Record.Report} {f : Unit → Service α}
    (hE : E (.validationFailed report) s) (hf : report = [] → Ends env s (f ()) Q E) :
    Ends env s (require report >>= f) Q E := by
  refine ends_bind (R := fun _ t => t = s ∧ report = []) ?_ ?_
  · unfold require
    split
    · exact ends_pure ⟨rfl, List.isEmpty_iff.mp (by assumption)⟩
    · exact ends_fail hE
  · rintro u t ⟨rfl, hr⟩
    exact hf hr

/-- A check without complaints lets pass. -/
theorem ends_passed_bind {report : Record.Report} {f : Unit → Service α} (h : report = [])
    (hf : Ends env s (f ()) Q E) : Ends env s (require report >>= f) Q E := by
  subst h
  exact hf

theorem ends_mapError {x : Service α} {f : ServiceError → ServiceError}
    (hx : Ends env s x Q (fun e t => E (f e) t)) : Ends env s (mapError f x) Q E := by
  refine Program.ends_bind hx fun r t hr => ?_
  cases r with
  | ok a => exact Program.ends_done hr
  | error e => exact Program.ends_done hr

theorem ends_clock_bind {f : Time.Instant → Service α} (hf : ∀ n, Ends env s (f (env.clock n)) Q E) :
    Ends env s (now >>= f) Q E := by
  refine ends_bind (R := fun now t => t = s ∧ ∃ n, now = env.clock n) (fun w hw => ⟨hw, w.readings, rfl⟩) ?_
  rintro now t ⟨rfl, n, rfl⟩
  exact hf n

/-- Where the time shown does not matter, the clock may show anything. -/
theorem ends_now_bind {f : Time.Instant → Service α} (hf : ∀ t, Ends env s (f t) Q E) :
    Ends env s (now >>= f) Q E := ends_clock_bind fun n => hf (env.clock n)

theorem ends_draw_bind {f : Float → Service α} (hf : ∀ x, Ends env s (f x) Q E) :
    Ends env s (draw >>= f) Q E := by
  refine ends_bind (R := fun _ t => t = s) (fun w hw => hw) ?_
  rintro x t rfl
  exact hf x

theorem answer_of_ends {x : Service α} {w : World} (h : Ends env w.store x Q E) :
    (∃ a, (run env x.run w).1 = .ok a ∧ Q a (run env x.run w).2.store) ∨
      ∃ e, (run env x.run w).1 = .error e ∧ E e (run env x.run w).2.store := by
  have hend := h w rfl
  revert hend
  cases (run env x.run w).1 with
  | ok a => exact fun ha => .inl ⟨a, rfl, ha⟩
  | error e => exact fun he => .inr ⟨e, rfl, he⟩

theorem failure_of_ends {x : Service α} {w : World}
    (h : Ends env w.store x (fun _ _ => False) E) :
    ∃ e, (run env x.run w).1 = .error e ∧ E e (run env x.run w).2.store :=
  (answer_of_ends h).resolve_left fun ⟨_, _, hfalse⟩ => hfalse

theorem success_of_ends {x : Service α} {w : World}
    (h : Ends env w.store x Q (fun _ _ => False)) :
    ∃ a, (run env x.run w).1 = .ok a ∧ Q a (run env x.run w).2.store :=
  (answer_of_ends h).resolve_right fun ⟨_, _, hfalse⟩ => hfalse

theorem success_of_accepts {x : Service α} {w : World} (henv : env.Accepts)
    (h : Ends env w.store x Q (fun e _ => env.Refused e)) :
    ∃ a, (run env x.run w).1 = .ok a ∧ Q a (run env x.run w).2.store :=
  success_of_ends (ends_mono h (fun _ _ h => h) fun e _ he => not_refused henv e he)

theorem error_of_ends {x : Service α} {w : World} {e : ServiceError} (h : Ends env w.store x Q E)
    (he : (run env x.run w).1 = .error e) : E e (run env x.run w).2.store := by
  have hend := h w rfl
  rwa [he] at hend

/-- What follows a success goes on in the world that the success left. -/
theorem run_bind_of_ok {x : Service α} {f : α → Service β} {w : World} {a : α}
    (h : (run env x.run w).1 = .ok a) :
    run env (x >>= f).run w = run env (f a).run (run env x.run w).2 := by
  have hb : (x >>= f).run = Program.bind x.run (ExceptT.bindCont f) := rfl
  rw [hb, Program.run_bind, h]
  rfl

theorem run_bind_of_error {x : Service α} {f : α → Service β} {w : World} {e : ServiceError}
    (h : (run env x.run w).1 = .error e) :
    run env (x >>= f).run w = (.error e, (run env x.run w).2) := by
  have hb : (x >>= f).run = Program.bind x.run (ExceptT.bindCont f) := rfl
  rw [hb, Program.run_bind, h]
  rfl

theorem run_bind_pure (x : Service α) (g : α → β) (w : World) :
    (run env (x >>= fun a => pure (g a)).run w).2 = (run env x.run w).2 := by
  cases hr : (run env x.run w).1 with
  | ok a => rw [run_bind_of_ok hr]; rfl
  | error e => rw [run_bind_of_error hr]

theorem run_mapError (x : Service α) (f : ServiceError → ServiceError) (w : World) :
    run env (mapError f x).run w = ((run env x.run w).1.mapError f, (run env x.run w).2) := by
  have hb : (mapError f x).run = Program.bind x.run fun r => .done (r.mapError f) := by
    refine congrArg (Program.bind x.run) (funext fun r => ?_)
    cases r with
    | ok a => rfl
    | error e => rfl
  rw [hb, Program.run_bind]
  rfl

/-! ### Calls -/

theorem ends_ask {c : Call} {Q : c.Answer → Store → Prop} (hrefused : ∀ e, env.Refused e → E e s)
    (h : Outcome Q E ((c.perform s).1.mapError .store) (c.perform s).2) :
    Ends env s (ask c) Q E := by
  intro w hw
  subst hw
  simp only [ask, ExceptT.run, run, Program.answer, Nat.add_sub_cancel]
  cases hr : env.refusal w.calls c with
  | some reason => exact hrefused _ ⟨w.calls, c, reason, hr, rfl⟩
  | none =>
    revert h
    cases c.perform w.store with
    | mk r t => cases r <;> exact id

theorem ends_byId_bind {collection id : String} {fields : Option (List String)}
    {f : Option Document → Service α} (hrefused : ∀ e, env.Refused e → E e s)
    (hf : Ends env s (f ((s.called collection id).map (Document.project · fields))) Q E) :
    Ends env s (byId collection id fields >>= f) Q E := by
  refine ends_bind (R := fun found t => t = s ∧
    found = (s.called collection id).map (Document.project · fields)) (ends_ask hrefused ?_) ?_
  · simp only [Call.perform, Store.first_byId]
    exact ⟨rfl, rfl⟩
  · rintro found t ⟨rfl, rfl⟩
    exact hf

/-- A look for an identity takes one call, and leaves the store. -/
theorem run_byId (collection id : String) (fields : Option (List String)) (w : World) :
    run env (byId collection id fields).run w =
      (match env.refusal w.calls (.first collection (.byId id) fields) with
        | some reason => .error (.store (.unavailable reason))
        | none => .ok ((w.store.called collection id).map (Document.project · fields)),
        { w with calls := w.calls + 1 }) := by
  simp only [byId, ask, ExceptT.run, run, Program.answer, Nat.add_sub_cancel]
  cases env.refusal w.calls (.first collection (.byId id) fields) with
  | some reason => rfl
  | none =>
    simp only [Call.perform, Store.first_byId]
    rfl

/-! ### What a service keeps -/

/-- What holds of the store before a service holds of it afterwards, also after a failure. -/
def Keeps (env : Environment) (P : Store → Prop) (x : Service α) : Prop :=
  ∀ s, P s → Ends env s x (fun _ t => P t) (fun _ t => P t)

section
variable {P : Store → Prop}

theorem keeps_pure {a : α} : Keeps env P (pure a : Service α) := fun _ hs => ends_pure hs

theorem keeps_fail {e : ServiceError} : Keeps env P (fail e : Service α) := fun _ hs => ends_fail hs

theorem keeps_bind {x : Service α} {f : α → Service β} (hx : Keeps env P x)
    (hf : ∀ a, Keeps env P (f a)) : Keeps env P (x >>= f) :=
  fun s hs => ends_bind (hx s hs) fun a t ht => hf a t ht

theorem keeps_mapError {x : Service α} {f : ServiceError → ServiceError} (hx : Keeps env P x) :
    Keeps env P (mapError f x) := fun s hs => ends_mapError (hx s hs)

theorem store_of_keeps {x : Service α} (h : Keeps env P x) {w : World} (hw : P w.store) :
    P (run env x.run w).2.store := by
  have hend := h w.store hw w rfl
  revert hend
  cases (run env x.run w).1 with
  | ok a => exact id
  | error e => exact id

theorem keeps_ask {c : Call} (hc : ∀ s, (c.perform s).2 = s) : Keeps env P (ask c) := by
  intro s hs
  refine ends_ask (fun _ _ => hs) ?_
  rw [hc]
  cases (c.perform s).1.mapError ServiceError.store with
  | ok a => exact hs
  | error e => exact hs

end

end Service

end Hypermedia
