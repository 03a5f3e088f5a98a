import Hypermedia.Proofs.Create

/-!
# What services that succeed have done

Which reading of the clock a service took is told by the world in which it took it. So its success is
followed here from world to world, and failures are left aside. The rules are those for what services
end in, one for each way of building a service.
-/

namespace Hypermedia

open Program (Environment World run)
open Store (Document)

namespace Service

/-- If the service succeeds from a world, then `Q` holds of its answer and of the world that it leaves. -/
def Achieves {α : Type} (env : Environment) (w : World) (x : Service α) (Q : α → World → Prop) : Prop :=
  ∀ a, (run env x.run w).1 = .ok a → Q a (run env x.run w).2

section
variable {α β : Type} {env : Environment} {w : World} {Q R : α → World → Prop}

theorem achieves_pure {a : α} (h : Q a w) : Achieves env w (pure a) Q := by
  rintro _ ⟨⟩
  exact h

theorem achieves_fail {e : ServiceError} : Achieves env w (fail e : Service α) Q := by
  intro a ha
  cases ha

theorem achieves_bind {x : Service α} {f : α → Service β} {Q : β → World → Prop}
    (hx : Achieves env w x R) (hf : ∀ a v, R a v → Achieves env v (f a) Q) :
    Achieves env w (x >>= f) Q := by
  intro b hb
  cases hr : (run env x.run w).1 with
  | error e =>
    rw [run_bind_of_error hr] at hb
    cases hb
  | ok a =>
    rw [run_bind_of_ok hr] at hb ⊢
    exact hf a _ (hx a hr) b hb

theorem achieves_mono {x : Service α} (hx : Achieves env w x R) (h : ∀ a v, R a v → Q a v) :
    Achieves env w x Q := fun a ha => h a _ (hx a ha)

theorem achieves_and {x : Service α} (hQ : Achieves env w x Q) (hR : Achieves env w x R) :
    Achieves env w x fun a v => Q a v ∧ R a v := fun a ha => ⟨hQ a ha, hR a ha⟩

theorem achieves_of_ends {x : Service α} {P : α → Store → Prop} {E : ServiceError → Store → Prop}
    (h : Ends env w.store x P E) : Achieves env w x fun a v => P a v.store := by
  intro a ha
  have hend := h w rfl
  rwa [ha] at hend

theorem achieves_require_bind {report : Record.Report} {f : Unit → Service α}
    (hf : report = [] → Achieves env w (f ()) Q) : Achieves env w (require report >>= f) Q := by
  cases report with
  | nil => exact hf rfl
  | cons => exact achieves_bind (R := fun _ _ => False) achieves_fail fun _ _ hfalse => hfalse.elim

theorem achieves_now_bind {f : Time.Instant → Service α}
    (hf : Achieves env { w with readings := w.readings + 1 } (f (env.clock w.readings)) Q) :
    Achieves env w (now >>= f) Q := hf

theorem achieves_ask {c : Call} {Q : c.Answer → World → Prop}
    (h : ∀ a, (c.perform w.store).1 = .ok a →
      Q a { w with store := (c.perform w.store).2, calls := w.calls + 1 }) :
    Achieves env w (ask c) Q := by
  intro a ha
  simp only [ask, ExceptT.run, run, Program.answer, Nat.add_sub_cancel] at ha ⊢
  cases hr : env.refusal w.calls c with
  | some reason =>
    rw [hr] at ha
    cases ha
  | none =>
    rw [hr] at ha
    revert h ha
    cases c.perform w.store with
    | mk r s =>
      cases r with
      | error e =>
        intro h ha
        cases ha
      | ok b =>
        intro h ha
        cases ha
        exact h a rfl

theorem achieves_byId_bind {collection id : String} {fields : Option (List String)}
    {f : Option Document → Service α}
    (hf : Achieves env { w with calls := w.calls + 1 }
      (f ((w.store.called collection id).map (Document.project · fields))) Q) :
    Achieves env w (byId collection id fields >>= f) Q := by
  refine achieves_bind (R := fun found v => v = { w with calls := w.calls + 1 } ∧
    found = (w.store.called collection id).map (Document.project · fields)) (achieves_ask ?_) ?_
  · simp only [Call.perform, Store.first_byId]
    rintro _ ⟨⟩
    exact ⟨trivial, rfl⟩
  · rintro found v ⟨rfl, rfl⟩
    exact hf

end

end Service

namespace Operation

variable {env : Environment} {w : World} {r : Resource} {params : Members}

/-- To check references takes no reading of the clock. -/
theorem achieves_checkRelated {rels : List (String × Relation)} :
    Service.Achieves env w (checkRelated params rels) fun _ v =>
      v.readings = w.readings ∧ v.store = w.store ∧ ReferencesHold params rels w.store := by
  have hreadings : Service.Achieves env w (checkRelated params rels) fun _ v =>
      v.readings = w.readings := by
    induction rels generalizing w with
    | nil => exact Service.achieves_pure rfl
    | cons x rest ih =>
      obtain ⟨field, relation⟩ := x
      simp only [checkRelated]
      cases if relation.isChildren then none else reference? (Members.get? params field) with
      | none => exact ih
      | some id =>
        refine Service.achieves_byId_bind ?_
        split
        · exact ih
        · exact Service.achieves_fail
  exact Service.achieves_and hreadings (Service.achieves_of_ends ends_checkRelated)

end Operation

end Hypermedia
