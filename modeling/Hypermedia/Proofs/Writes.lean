import Hypermedia.Proofs.History

/-!
# Writes and their times

One write of an operation changes one record, by a time that the clock has shown, or adds a record made
at such a time to the end of its collection. What each write keeps, every operation keeps.
-/

namespace Hypermedia.Operation

open Store (Document)
open Program (Environment)
open Hypermedia.Filter (Request)

/-- A document and what one write of an operation on `r` makes of it: an owner gets one more child into a
list, or a record its patch. -/
inductive Change (env : Environment) (r : Resource) (collection : String) :
    Document → Document → Prop where
  | same (d : Document) : Change env r collection d d
  | listed {name field : String} (d : Document) (child : String) (n : Nat)
      (relation : (name, Relation.parent collection field) ∈ r.relations) :
      Change env r collection d (withListed field child (env.clock n) d)
  | patched (d : Document) (params : Members) (n : Nat) (place : collection = r.name) :
      Change env r collection d (Members.merge d (completePatch r params d (env.clock n)))

/-- A new record at the end of its collection, made at a time that the clock has shown. -/
def Newcomer (env : Environment) (r : Resource) (s t : Store) : Prop :=
  ∃ params id n, s.called r.name id = none ∧ t = s.withDocuments r.name
    (s.documents r.name ++ [Record.new r params id (env.clock n).text])

section
variable {env : Environment} {i : Interface} {r : Resource} {P : Store → Prop}

/-! ### Identities -/

section
variable (hlists : r.ListsFree) (hnames : r.NamesFree)

include hlists hnames

theorem Change.get?_id {collection : String} {d e : Document} (h : Change env r collection d e) :
    Members.get? e idField = Members.get? d idField := by
  cases h with
  | same => rfl
  | listed _ child n relation =>
    exact get?_withListed (by decide) (Ne.symm (ne_of_free (hlists _ _ _ relation)).1)
  | patched _ params n place =>
    exact Members.get?_merge_of_notMem _ _
      (reserved_notMem_completePatch hnames (by decide) (by decide) (by decide))

theorem Change.id?_eq {collection : String} {d e : Document} (h : Change env r collection d e) :
    Document.id? e = Document.id? d := by
  rw [Document.id?, h.get?_id hlists hnames]
  rfl

theorem called_none_of_change {s t : Store} {collection id : String} (h : s.Related (Change env r) t)
    (hs : s.called collection id = none) : t.called collection id = none := by
  refine List.find?_eq_none.mpr fun e he => ?_
  obtain ⟨d, hd, hde⟩ := forall₂_mem_right (h collection) he
  have hsame : Document.isFoundBy id e = Document.isFoundBy id d := by
    simp only [Document.isFoundBy, Filter.Matcher.accepts, List.all_cons, List.all_nil,
      hde.get?_id hlists hnames]
  rw [hsame]
  exact List.find?_eq_none.mp hs d hd

end

/-! ### What the writes keep -/

variable (hlists : r.ListsFree)
variable (hchange : ∀ s t : Store, P s → s.Related (Change env r) t → P t)

include hlists hchange

theorem keeps_listWith {values : Members} {child : String} {x : String × Relation}
    (hx : x ∈ r.relations) : Service.Keeps env P (listWith values child x) := by
  intro s hs
  obtain ⟨heq, -⟩ | ⟨name, owner, field, id, rfl, -, heq⟩ := listWith_cases values child x
  · exact heq ▸ Service.ends_pure hs
  · rw [heq]
    refine Service.ends_byId_bind (fun _ _ => hs) ?_
    cases hd : s.called owner id with
    | none => exact Service.ends_pure hs
    | some d =>
      refine Service.ends_clock_bind fun n => ?_
      have hid : Document.id? (withListed field child (env.clock n) d) = Document.id? d :=
        id?_withListed (ne_of_free (hlists _ _ _ hx)).1
      refine Service.ends_mono (ends_saveRead (R := Change env r) (fun _ => Change.same) hd hid
        fun _ => Change.listed d child n hx) ?_ ?_
      · rintro _ t ⟨hst, -⟩
        exact hchange s t hs hst
      · rintro _ t ⟨rfl, -⟩
        exact hs

theorem keeps_appendToOwners {values : Members} {child : String} {rels : List (String × Relation)}
    (hrels : ∀ x ∈ rels, x ∈ r.relations) :
    Service.Keeps env P (appendToOwners values child rels) := by
  induction rels with
  | nil => exact Service.keeps_pure
  | cons x rest ih =>
    obtain ⟨hx, hrest⟩ := List.forall_mem_cons.mp hrels
    rw [appendToOwners_cons]
    exact Service.keeps_bind (keeps_listWith hlists hchange hx) fun _ => ih hrest

variable (hnames : r.NamesFree)
variable (hnew : ∀ s t : Store, P s → Newcomer env r s t → P t)

include hnames hnew

theorem keeps_createItem_writes (request : Request) : Service.Keeps env P (createItem i r request) := by
  intro s hs
  rw [createItem_eq]
  refine Service.ends_bind (Service.ends_mono ends_checkItem (fun _ _ h => h) (fun _ _ h => h.1 ▸ hs)) ?_
  rintro _ t ⟨rfl, -, -⟩
  unfold enter
  refine Service.ends_bind (Service.ends_mono ends_newId (fun _ _ h => h) (fun _ _ h => h.elim)) ?_
  rintro id t ⟨rfl, -⟩
  refine Service.ends_byId_bind (fun _ _ => hs) ?_
  cases hfresh : t.called r.name id with
  | some d => exact Service.ends_fail hs
  | none =>
    refine Service.ends_clock_bind fun n => ?_
    -- While the owners are written, no other record takes the identity.
    have howners : Service.Keeps env (fun s => P s ∧ s.called r.name id = none)
        (appendToOwners (Record.new r (request.params r.attributes) id (env.clock n).text) id
          r.relations) := by
      refine keeps_appendToOwners hlists (fun u v hu huv => ⟨hchange u v hu.1 huv, ?_⟩) fun _ hx => hx
      exact called_none_of_change hlists hnames huv hu.2
    refine Service.ends_bind (Service.ends_mono (howners t ⟨hs, hfresh⟩) (fun _ _ h => h)
      (fun _ _ h => h.1)) ?_
    rintro _ u ⟨hu, hfree⟩
    refine Service.ends_bind (R := fun _ v => P v) (Service.ends_ask (fun _ _ => hu) ?_)
      fun _ _ hv => Service.ends_pure hv
    simp only [Call.perform, Store.save_of_id? u r.name (Record.id?_new r _ id _),
      Store.place_of_fresh (Store.not_holds_of_called hfree)]
    exact hnew u _ hu ⟨_, id, n, hfree, rfl⟩

omit hnew hnames in
theorem keeps_update_writes (id : String) (request : Request) :
    Service.Keeps env P (update i r id request) := by
  intro s hs
  unfold update
  refine Service.ends_require_bind hs fun _ => Service.ends_require_bind hs fun _ => ?_
  refine Service.ends_bind (Service.ends_mono ends_checkRelated (fun _ _ h => h) (fun _ _ h => h.1 ▸ hs)) ?_
  rintro _ t ⟨rfl, -⟩
  refine Service.ends_byId_bind (fun _ _ => hs) ?_
  cases hd : t.called r.name id with
  | none => exact Service.ends_fail hs
  | some current =>
    refine Service.ends_clock_bind fun n => ?_
    refine Service.ends_bind (R := fun _ u => P u) (Service.ends_ask (fun _ _ => hs) ?_) ?_
    · simp only [Call.perform, Store.patchFirst_byId, hd]
      refine hchange t _ hs (Store.related_withDocuments (fun _ => Change.same) t ?_)
      exact Store.forall₂_changeFirst Change.same hd (Change.patched current _ n rfl)
    · intro updated u hu
      dsimp only [Document.project, Option.map_some]
      split
      · exact keeps_appendToOwners hlists hchange (fun _ hx => hx) u hu
      · exact Service.ends_fail hu

/-- An operation keeps what changes at the times of its clock and new records keep, and, if it deletes,
what holds of every part of a store. -/
theorem keeps_of_changes (c : Command)
    (hdelete : c.isDeletion = true → ∀ s t : Store, t.Within s → P s → P t) :
    Service.Keeps env P (c.service i r) :=
  keeps_service c (keeps_createItem_writes hlists hchange hnames hnew)
    (keeps_update_writes hlists hchange) hdelete

end

end Hypermedia.Operation
