import Hypermedia.Operation.Delete
import Hypermedia.Proofs.Service

/-!
# Deleting records

Deletes leave in every collection a part of its documents in their order. A delete that fails has
changed nothing, unless a call was refused after others had removed records.
-/

namespace Hypermedia

open Store (Document)

/-- A store that has some documents of another one, in their order. -/
def Store.Within (t s : Store) : Prop :=
  ∀ collection, (t.documents collection).Sublist (s.documents collection)

namespace Store

theorem within_refl (s : Store) : s.Within s := fun _ => List.Sublist.refl _

theorem Within.trans {s t u : Store} (h : u.Within t) (h' : t.Within s) : u.Within s :=
  fun c => (h c).trans (h' c)

theorem within_withDocuments {s : Store} {collection : String} {ds : List Document}
    (h : ds.Sublist (s.documents collection)) : (s.withDocuments collection ds).Within s := by
  intro c
  rw [documents_withDocuments]
  split
  · rename_i he
    exact he ▸ h
  · exact List.Sublist.refl _

end Store

namespace Operation

section
variable {env : Program.Environment} {s : Store} {r : Resource}

theorem ends_removeEach {collection : String} {ds : List Document} {removed : Nat} :
    Service.Ends env s (removeEach collection removed ds) (fun _ t => t.Within s)
      (fun e t => t.Within s ∧ env.Refused e) := by
  induction ds generalizing s removed with
  | nil => exact Service.ends_pure (Store.within_refl s)
  | cons d ds ih =>
    simp only [removeEach]
    cases Document.id? d with
    | none => exact ih
    | some id =>
      refine Service.ends_bind (R := fun _ t => t.Within s)
        (Service.ends_ask (fun e he => ⟨Store.within_refl s, he⟩) ?_) ?_
      · exact Store.within_withDocuments List.filter_sublist
      · intro _ t ht
        exact Service.ends_mono ih (fun _ u hu => hu.trans ht) (fun e u hu => ⟨hu.1.trans ht, hu.2⟩)

/-- Deleting a selection removes documents only. If it fails then it has changed nothing, or a call was
refused. -/
theorem ends_deleteCollection {request : Filter.Request} :
    Service.Ends env s (deleteCollection r request) (fun _ t => t.Within s)
      (fun e t => t.Within s ∧ (t = s ∨ env.Refused e)) := by
  unfold deleteCollection
  refine Service.ends_bind (R := fun _ t => t = s)
    (Service.ends_ask (fun _ _ => ⟨Store.within_refl s, .inl rfl⟩) ?_) ?_
  · simp only [Call.perform]
    cases s.find r.name (Filter.condition r request) { fields := some [idField] } with
    | error e => exact ⟨Store.within_refl s, .inl rfl⟩
    | ok found => exact rfl
  · rintro found t rfl
    exact Service.ends_mono ends_removeEach (fun _ _ h => h) (fun _ _ h => ⟨h.1, .inr h.2⟩)

theorem ends_deleteInstance {id : String} :
    Service.Ends env s (deleteInstance r id) (fun _ t => t.Within s) (fun _ t => t = s) := by
  unfold deleteInstance
  refine Service.ends_bind (R := fun _ t => t.Within s) (Service.ends_ask (fun _ _ => rfl) ?_)
    (fun _ t ht => Service.ends_pure ht)
  simp only [Call.perform, Store.removeFirst_byId]
  cases s.called r.name id with
  | none => exact Store.within_refl s
  | some d => exact Store.within_withDocuments (Store.dropFirst_sublist _)

end

end Operation

end Hypermedia
