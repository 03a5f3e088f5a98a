import Hypermedia.Proofs.Catalog
import Hypermedia.Proofs.Service

/-!
# Programs side by side

Two programs share a store. Each call of the store is atomic, and between two steps of one program the
other one may take any number of its own. A program can be followed alone, from what it relies on, which
is how the other one moves, and what it guarantees, which is how it moves itself. Two programs of which
each moves as the other one relies on keep their promises side by side.
-/

namespace Hypermedia

open Store (Reply)

/-- One of two programs that run side by side. -/
inductive Side where
  | left
  | right
  deriving DecidableEq

namespace Side

def other : Side → Side
  | left => right
  | right => left

@[simp]
theorem other_other (k : Side) : k.other.other = k := by cases k <;> rfl

/-- One thing for each side. -/
def pick {α : Type} (a b : α) : Side → α
  | left => a
  | right => b

theorem ne_other (k : Side) : k ≠ k.other := by cases k <;> decide

end Side

/-- The calls that a store has answered, with the side that made them; the last one is the first. -/
abbrev Trace := List (Side × Reply)

/-- A store that two programs share, and its calls so far. -/
structure Scene where
  store : Store
  trace : Trace := []

/-- The scene after a call. -/
def Scene.after (σ : Scene) (k : Side) (c : Call) : Scene where
  store := (c.perform σ.store).2
  trace := (k, ⟨c, (c.perform σ.store).1⟩) :: σ.trace

namespace Program

variable {α β : Type}

/-- A step of a program. A call is performed, or refused before it does anything; the clock may show any
time, and any number may be drawn. -/
inductive Step (k : Side) : Program α → Scene → Program α → Scene → Prop where
  | call (c : Call) (next : Except Store.Error c.Answer → Program α) (σ : Scene) :
      Step k (.call c next) σ (next (c.perform σ.store).1) (σ.after k c)
  | refused (c : Call) (next : Except Store.Error c.Answer → Program α) (reason : String) (σ : Scene) :
      Step k (.call c next) σ (next (.error (.unavailable reason))) σ
  | now (next : Time.Instant → Program α) (t : Time.Instant) (σ : Scene) : Step k (.now next) σ (next t) σ
  | draw (next : Float → Program α) (x : Float) (σ : Scene) : Step k (.draw next) σ (next x) σ

/-- Two programs run to their ends, with their steps in any order. -/
inductive Interleaved : Program α → Program β → Scene → α → β → Scene → Prop where
  | done (a : α) (b : β) (σ : Scene) : Interleaved (.done a) (.done b) σ a b σ
  | left {p p' : Program α} {q : Program β} {σ σ' τ : Scene} {a : α} {b : β}
      (step : p.Step .left σ p' σ') (rest : Interleaved p' q σ' a b τ) : Interleaved p q σ a b τ
  | right {p : Program α} {q q' : Program β} {σ σ' τ : Scene} {a : α} {b : β}
      (step : q.Step .right σ q' σ') (rest : Interleaved p q' σ' a b τ) : Interleaved p q σ a b τ

/-! ### In turn -/

theorem step_answer (k : Side) (env : Environment) (w : World) (t : Trace) {c : Call}
    (next : Except Store.Error c.Answer → Program α) :
    ∃ u, Step k (.call c next) ⟨w.store, t⟩ (next (answer env w c).1) ⟨(answer env w c).2.store, u⟩ := by
  simp only [answer, Nat.add_sub_cancel]
  cases env.refusal w.calls c with
  | some reason => exact ⟨t, .refused c next reason _⟩
  | none => exact ⟨_, .call c next ⟨w.store, t⟩⟩

/-- To run one program after the other is one order of their steps. -/
theorem interleaved_in_turn (env : Environment) (p : Program α) (q : Program β) (w : World) (t : Trace) :
    ∃ u, Interleaved p q ⟨w.store, t⟩ (run env p w).1 (run env q (run env p w).2).1
      ⟨(run env q (run env p w).2).2.store, u⟩ := by
  induction p generalizing w t with
  | done a =>
    induction q generalizing w t with
    | done b => exact ⟨t, .done a b _⟩
    | call c next ih =>
      obtain ⟨u, hstep⟩ := step_answer .right env w t next
      obtain ⟨v, hrest⟩ := ih (answer env w c).1 (answer env w c).2 u
      exact ⟨v, .right hstep hrest⟩
    | now next ih =>
      obtain ⟨u, hrest⟩ := ih (env.clock w.readings) { w with readings := w.readings + 1 } t
      exact ⟨u, .right (.now next _ _) hrest⟩
    | draw next ih =>
      obtain ⟨u, hrest⟩ := ih (env.random w.draws) { w with draws := w.draws + 1 } t
      exact ⟨u, .right (.draw next _ _) hrest⟩
  | call c next ih =>
    obtain ⟨u, hstep⟩ := step_answer .left env w t next
    obtain ⟨v, hrest⟩ := ih (answer env w c).1 (answer env w c).2 u
    exact ⟨v, .left hstep hrest⟩
  | now next ih =>
    obtain ⟨u, hrest⟩ := ih (env.clock w.readings) { w with readings := w.readings + 1 } t
    exact ⟨u, .left (.now next _ _) hrest⟩
  | draw next ih =>
    obtain ⟨u, hrest⟩ := ih (env.random w.draws) { w with draws := w.draws + 1 } t
    exact ⟨u, .left (.draw next _ _) hrest⟩

/-! ### Schedules -/

/-- The next step of a program if nothing is refused, with the clock at its beginning. -/
def advance (k : Side) : Program α → Scene → Program α × Scene
  | done a, σ => (done a, σ)
  | call c next, σ => (next (c.perform σ.store).1, σ.after k c)
  | now next, σ => (next ⟨0, 0⟩, σ)
  | draw next, σ => (next 0, σ)

/-- Two programs run with their steps in this order, if it brings both to their ends. -/
def schedule : List Side → Program α → Program β → Scene → Option (α × β × Scene)
  | [], done a, done b, σ => some (a, b, σ)
  | [], _, _, _ => none
  | .left :: ks, p, q, σ => schedule ks (p.advance .left σ).1 q (p.advance .left σ).2
  | .right :: ks, p, q, σ => schedule ks p (q.advance .right σ).1 (q.advance .right σ).2

theorem advance_eq_or_step (k : Side) (p : Program α) (σ : Scene) :
    p.advance k σ = (p, σ) ∨ p.Step k σ (p.advance k σ).1 (p.advance k σ).2 := by
  cases p with
  | done a => exact .inl rfl
  | call c next => exact .inr (.call c next σ)
  | now next => exact .inr (.now next ⟨0, 0⟩ σ)
  | draw next => exact .inr (.draw next 0 σ)

theorem interleaved_of_schedule {ks : List Side} {p : Program α} {q : Program β} {σ τ : Scene} {a : α}
    {b : β} (h : schedule ks p q σ = some (a, b, τ)) : Interleaved p q σ a b τ := by
  induction ks generalizing p q σ with
  | nil =>
    cases p with
    | done a' =>
      cases q with
      | done b' =>
        cases h
        exact .done _ _ _
      | _ => cases h
    | _ => cases h
  | cons k ks ih =>
    cases k with
    | left =>
      have hrest := ih h
      rcases advance_eq_or_step .left p σ with he | hstep
      · rwa [he] at hrest
      · exact .left hstep hrest
    | right =>
      have hrest := ih h
      rcases advance_eq_or_step .right q σ with he | hstep
      · rwa [he] at hrest
      · exact .right hstep hrest

/-! ### Ends -/

/-- The program ends with this answer if its steps go in some way. -/
def CanEnd (a : α) : Program α → Prop
  | done b => b = a
  | call _ next => ∃ r, CanEnd a (next r)
  | now next => ∃ t, CanEnd a (next t)
  | draw next => ∃ x, CanEnd a (next x)

theorem Step.canEnd {k : Side} {p p' : Program α} {σ σ' : Scene} {a : α} (h : p.Step k σ p' σ')
    (hend : p'.CanEnd a) : p.CanEnd a := by
  cases h with
  | call c next => exact ⟨_, hend⟩
  | refused c next reason => exact ⟨_, hend⟩
  | now next t => exact ⟨t, hend⟩
  | draw next x => exact ⟨x, hend⟩

theorem Interleaved.canEnd {p : Program α} {q : Program β} {σ τ : Scene} {a : α} {b : β}
    (h : Interleaved p q σ a b τ) : p.CanEnd a ∧ q.CanEnd b := by
  induction h with
  | done a b σ => exact ⟨rfl, rfl⟩
  | left step _ ih => exact ⟨step.canEnd ih.1, ih.2⟩
  | right step _ ih => exact ⟨ih.1, step.canEnd ih.2⟩

/-! ### Rely and guarantee -/

/-- As long as the other side moves by `M`, the program moves by `M` with each of its calls, and ends in a
scene of which `Q` holds. Only the runs that end with this answer count. -/
def Guarded (M : Side → Scene → Scene → Prop) (k : Side) (a : α) (Q : Scene → Prop) :
    Program α → Scene → Prop
  | done b, σ => b = a → ∀ τ, M k.other σ τ → Q τ
  | call c next, σ => ∀ τ, M k.other σ τ →
      (∀ reason, Guarded M k a Q (next (.error (.unavailable reason))) τ) ∧
        ((next (c.perform τ.store).1).CanEnd a →
          M k τ (τ.after k c) ∧ Guarded M k a Q (next (c.perform τ.store).1) (τ.after k c))
  | now next, σ => ∀ t, Guarded M k a Q (next t) σ
  | draw next, σ => ∀ x, Guarded M k a Q (next x) σ

section
variable {M : Side → Scene → Scene → Prop} {k : Side} {a : α} {Q : Scene → Prop} {p : Program α}
variable {σ τ : Scene}

variable (htrans : ∀ k σ τ υ, M k σ τ → M k τ υ → M k σ υ)

include htrans

theorem Guarded.moved (h : Guarded M k a Q p σ) (hm : M k.other σ τ) : Guarded M k a Q p τ := by
  induction p with
  | done b => exact fun hb υ hυ => h hb υ (htrans _ _ _ _ hm hυ)
  | call c next _ => exact fun υ hυ => h υ (htrans _ _ _ _ hm hυ)
  | now next ih => exact fun t => ih t (h t)
  | draw next ih => exact fun x => ih x (h x)

variable (hrefl : ∀ k σ, M k σ σ)

include hrefl

omit htrans in
theorem Step.guarded {p' : Program α} {σ' : Scene} (hstep : p.Step k σ p' σ') (hend : p'.CanEnd a)
    (h : Guarded M k a Q p σ) : M k σ σ' ∧ Guarded M k a Q p' σ' := by
  cases hstep with
  | call c next => exact (h σ (hrefl _ σ)).2 hend
  | refused c next reason => exact ⟨hrefl _ σ, (h σ (hrefl _ σ)).1 reason⟩
  | now next t => exact ⟨hrefl _ σ, h t⟩
  | draw next x => exact ⟨hrefl _ σ, h x⟩

/-- Side by side, two programs keep what each of them promises alone. -/
theorem Interleaved.guarded {q : Program β} {b : β} {P : Scene → Prop} (h : Interleaved p q σ a b τ)
    (hp : Guarded M .left a P p σ) (hq : Guarded M .right b Q q σ) : P τ ∧ Q τ := by
  induction h with
  | done a b σ => exact ⟨hp rfl σ (hrefl _ σ), hq rfl σ (hrefl _ σ)⟩
  | left step rest ih =>
    obtain ⟨hmove, hp'⟩ := step.guarded hrefl rest.canEnd.1 hp
    exact ih hp' (hq.moved htrans hmove)
  | right step rest ih =>
    obtain ⟨hmove, hq'⟩ := step.guarded hrefl rest.canEnd.2 hq
    exact ih (hp.moved htrans hmove) hq'

end

end Program

/-! ### Services -/

namespace Service

variable {α β : Type} {M : Side → Scene → Scene → Prop} {k : Side} {b : β} {Q : Scene → Prop} {σ : Scene}

/-- What a service promises for the runs that succeed with this answer. -/
def Guarded (M : Side → Scene → Scene → Prop) (k : Side) (b : β) (Q : Scene → Prop) (x : Service β)
    (σ : Scene) : Prop := Program.Guarded M k (.ok b) Q x.run σ

theorem guarded_pure {a : β} (h : a = b → ∀ τ, M k.other σ τ → Q τ) : Guarded M k b Q (pure a) σ :=
  fun he => h (Except.ok.inj he)

theorem guarded_fail {e : ServiceError} : Guarded M k b Q (fail e) σ := fun he => nomatch he

/-- A call after any moves of the other side. If the service still succeeds, the call was answered. -/
theorem guarded_ask_bind {c : Call} {f : c.Answer → Service β}
    (h : ∀ τ, M k.other σ τ → ∀ r, (c.perform τ.store).1 = .ok r → (f r).run.CanEnd (.ok b) →
      M k τ (τ.after k c) ∧ Guarded M k b Q (f r) (τ.after k c)) : Guarded M k b Q (ask c >>= f) σ := by
  have hfail : ∀ {e : ServiceError} {τ : Scene},
      Program.Guarded M k (.ok b) Q (.done (.error e) : Program (Except ServiceError β)) τ :=
    fun he => nomatch he
  intro τ hτ
  refine ⟨fun reason => hfail, fun hend => ?_⟩
  cases hr : (c.perform τ.store).1 with
  | ok r =>
    rw [hr] at hend
    exact h τ hτ r hr hend
  | error e =>
    rw [hr] at hend
    exact nomatch hend

theorem guarded_byId_bind {collection id : String} {fields : Option (List String)}
    {f : Option Store.Document → Service β}
    (h : ∀ τ, M k.other σ τ → M k τ (τ.after k (.first collection (.byId id) fields)) ∧
      Guarded M k b Q (f ((τ.store.called collection id).map (Store.Document.project · fields)))
        (τ.after k (.first collection (.byId id) fields))) :
    Guarded M k b Q (byId collection id fields >>= f) σ := by
  refine guarded_ask_bind fun τ hτ r hr _ => ?_
  rw [Call.perform, Store.first_byId] at hr
  exact Except.ok.inj hr ▸ h τ hτ

theorem guarded_now_bind {f : Time.Instant → Service β} (h : ∀ t, Guarded M k b Q (f t) σ) :
    Guarded M k b Q (now >>= f) σ := h

theorem guarded_draw_bind {f : Float → Service β} (h : ∀ x, Guarded M k b Q (f x) σ) :
    Guarded M k b Q (draw >>= f) σ := h

theorem guarded_require_bind {report : Record.Report} {f : Unit → Service β}
    (h : Guarded M k b Q (f ()) σ) : Guarded M k b Q (require report >>= f) σ := by
  unfold require
  split
  · exact h
  · exact guarded_fail

end Service

end Hypermedia
