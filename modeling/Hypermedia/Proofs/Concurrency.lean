import Hypermedia.Proofs.Interleaving
import Hypermedia.Proofs.Keys
import Hypermedia.Proofs.References

/-!
# Two creates at once

Two creates run on one store, their calls in any order. What a store call writes is there from then on, but
between the calls of one create the other one may write: between its look for an identity and its save, and
between reading an owner and saving it with one more child. Two records of different keys are both there in
the end. Two of one key are made into one document, and each was looked for before the other was saved. An
owner lists its new records if neither create has saved it while the other one had it in its hands.
-/

namespace Hypermedia

open Store (Document Reply)
open Operation (Bookkept reference? withListed)

/-! ### What traces tell -/

namespace Store.Reply

/-- The key of the document that a call has saved. -/
def saved? (r : Reply) : Option (String × String) :=
  match r.call with
  | .save collection d => (Document.id? d).map (collection, ·)
  | _ => none

/-- The key of the document that a call has read whole. -/
def taken? : Reply → Option (String × String)
  | ⟨.first collection _ none, .ok (some d)⟩ => (Document.id? d).map (collection, ·)
  | _ => none

theorem saved?_save {collection id : String} {d : Document} (hid : Document.id? d = some id)
    (answer : Except Store.Error Unit) : saved? ⟨.save collection d, answer⟩ = some (collection, id) :=
  congrArg (Option.map (collection, ·)) hid

end Store.Reply

namespace Trace

/-- The key of the document that one side has in its hands: its last call has read it whole. -/
def taken? (k : Side) : Trace → Option (String × String)
  | [] => none
  | (j, r) :: rest => if j = k then r.taken? else taken? k rest

/-- No side has saved the document of this key while the other one had it in its hands. -/
def Undisturbed (key : String × String) : Trace → Prop
  | [] => True
  | (k, r) :: rest => Undisturbed key rest ∧ (r.saved? = some key → taken? k.other rest ≠ some key)

/-- One side has looked for a document and found none, before any was saved under the key. -/
def LookedFirst (k : Side) (collection id : String) (t : Trace) : Prop :=
  ∃ later earlier,
    t = later ++ (k, ⟨.first collection (.byId id) (some [idField]), .ok none⟩) :: earlier ∧
      ∀ e ∈ earlier, e.2.saved? ≠ some (collection, id)

instance decidableUndisturbed (key : String × String) : (t : Trace) → Decidable (Undisturbed key t)
  | [] => inferInstanceAs (Decidable True)
  | (_, _) :: rest =>
    have := decidableUndisturbed key rest
    inferInstanceAs (Decidable (_ ∧ _))

theorem taken?_cons_other (k : Side) (r : Reply) (t : Trace) :
    taken? k.other ((k, r) :: t) = taken? k.other t := if_neg k.ne_other

theorem taken?_first {k : Side} {σ : Scene} {collection id : String} {d : Document}
    (hid : Document.id? d = some id) (hd : σ.store.called collection id = some d) :
    taken? k (σ.after k (.first collection (.byId id) none)).trace = some (collection, id) := by
  have hanswer : (Call.perform σ.store (.first collection (.byId id) none)).1 = .ok (some d) := by
    rw [Call.perform, Store.first_byId, hd]
    rfl
  refine (if_pos rfl).trans ?_
  rw [hanswer]
  exact congrArg (Option.map (collection, ·)) hid

theorem Undisturbed.suffix {key : String × String} {t u : Trace} (h : Undisturbed key u) (hs : t <:+ u) :
    Undisturbed key t := by
  induction u with
  | nil => exact (List.suffix_nil.mp hs) ▸ h
  | cons e rest ih =>
    rcases List.suffix_cons_iff.mp hs with rfl | hs
    · exact h
    · exact ih h.1 hs

theorem LookedFirst.suffix {k : Side} {collection id : String} {t u : Trace}
    (h : LookedFirst k collection id t) (hs : t <:+ u) : LookedFirst k collection id u := by
  obtain ⟨later, earlier, rfl, hnone⟩ := h
  obtain ⟨more, rfl⟩ := hs
  exact ⟨more ++ later, earlier, (List.append_assoc ..).symm, hnone⟩

end Trace

/-! ### New records -/

/-- A document has the value that a create gives to each attribute that is no list of children. -/
def Record.HasInitial (r : Resource) (params : Members) (d : Document) : Prop :=
  ∀ a ∈ r.attributes, a.type.isChildren = false →
    Members.get? d a.name = some (Record.initial params a)

/-- A create of one record: of which resource, from which values, with which identity. -/
structure Creation where
  resource : Resource
  params : Members
  id : String

/-- The document has the key of the record that the create makes, and its values. -/
structure Creation.Made (x : Creation) (collection : String) (d : Document) : Prop where
  place : collection = x.resource.name
  identity : Document.id? d = some x.id
  values : Record.HasInitial x.resource x.params d

/-- Every owner that was there before, that the new record names and that was not disturbed lists it. -/
def Creation.Listed (x : Creation) (s : Store) (τ : Scene) : Prop :=
  ∀ a ∈ x.resource.attributes, ∀ owner field id, a.type = .relation (.parent owner field) →
    reference? (some (Record.initial x.params a)) = some id → s.Holds owner id →
      Trace.Undisturbed (owner, id) τ.trace → τ.store.Lists owner id field x.id

/-! ### What moves the scene -/

namespace Concurrency

section
variable (s : Store) (x : Side → Creation)

/-- In a scene that comes of `s` by the two creates, nothing is lost that was there before or was saved
since, and what came in was made by one of them. -/
structure Sound (σ : Scene) : Prop where
  keyed : σ.store.Keyed
  kept : ∀ collection id, s.Holds collection id → σ.store.Holds collection id
  saved : ∀ e ∈ σ.trace, ∀ collection id, e.2.saved? = some (collection, id) →
    σ.store.Holds collection id
  made : ∀ collection id d, ¬ s.Holds collection id → σ.store.called collection id = some d →
    ∃ k, (x k).Made collection d

/-- A scene comes later than another one. The owners that were there before and that were not disturbed keep
what they list. -/
structure Later (σ τ : Scene) : Prop where
  sound : Sound s x σ → Sound s x τ
  holds : ∀ collection id, σ.store.Holds collection id → τ.store.Holds collection id
  trace : σ.trace <:+ τ.trace
  lists : ∀ collection id, s.Holds collection id → Trace.Undisturbed (collection, id) τ.trace →
    ∀ field child, field ≠ updatedAtField → σ.store.Lists collection id field child →
      τ.store.Lists collection id field child

/-- One side moves the scene: it leaves to the other one what that has in its hands. -/
structure Moves (k : Side) (σ τ : Scene) : Prop extends Later s x σ τ where
  taken : Trace.taken? k.other τ.trace = Trace.taken? k.other σ.trace
  spares : ∀ collection id, Trace.Undisturbed (collection, id) τ.trace →
    Trace.taken? k.other σ.trace = some (collection, id) →
      τ.store.called collection id = σ.store.called collection id

end

variable {s : Store} {x : Side → Creation} {k : Side} {σ τ υ : Scene}

theorem sound_start (hs : s.Keyed) : Sound s x ⟨s, []⟩ where
  keyed := hs
  kept _ _ h := h
  saved _ he := absurd he List.not_mem_nil
  made _ _ _ hno hd := absurd (hs.holds_iff.mpr ⟨_, hd⟩) hno

theorem later_refl (σ : Scene) : Later s x σ σ :=
  ⟨id, fun _ _ h => h, List.suffix_rfl, fun _ _ _ _ _ _ _ h => h⟩

theorem Later.trans (h : Later s x σ τ) (h' : Later s x τ υ) : Later s x σ υ where
  sound hs := h'.sound (h.sound hs)
  holds c id hs := h'.holds c id (h.holds c id hs)
  trace := h.trace.trans h'.trace
  lists c id hs hu field child hf hl :=
    h'.lists c id hs hu field child hf (h.lists c id hs (hu.suffix h'.trace) field child hf hl)

theorem moves_refl (k : Side) (σ : Scene) : Moves s x k σ σ :=
  ⟨later_refl σ, rfl, fun _ _ _ _ => rfl⟩

theorem Moves.trans (h : Moves s x k σ τ) (h' : Moves s x k τ υ) : Moves s x k σ υ where
  toLater := h.toLater.trans h'.toLater
  taken := h'.taken.trans h.taken
  spares c id hu ht := (h'.spares c id hu (h.taken.trans ht)).trans
    (h.spares c id (hu.suffix h'.trace) ht)

theorem moves_first (k : Side) (σ : Scene) (collection : String) (c : Filter.Condition)
    (fields : Option (List String)) : Moves s x k σ (σ.after k (.first collection c fields)) where
  sound hσ := by
    refine ⟨hσ.keyed, hσ.kept, fun e he => ?_, hσ.made⟩
    rcases List.mem_cons.mp he with rfl | he
    · intro c i hsaved
      cases hsaved
    · exact hσ.saved e he
  holds _ _ h := h
  trace := List.suffix_cons ..
  lists _ _ _ _ _ _ _ h := h
  taken := Trace.taken?_cons_other ..
  spares _ _ _ _ := rfl

/-- A save is a move if what it writes under a new key was made by one of the creates, and under a key that
was there before lists what is listed there. -/
theorem moves_save {collection id : String} {e : Document} (hσ : Sound s x σ)
    (hid : Document.id? e = some id)
    (hmade : ¬ s.Holds collection id → ∃ k, (x k).Made collection e)
    (hlists : s.Holds collection id → Trace.Undisturbed (collection, id) σ.trace → ∀ field child,
      field ≠ updatedAtField → σ.store.Lists collection id field child →
        ∃ xs, Members.get? e field = some (.array xs) ∧ Value.string child ∈ xs) :
    Moves s x k σ (σ.after k (.save collection e)) := by
  obtain ⟨hkeyed, hcalled⟩ := hσ.keyed.save collection hid
  have hsaved : Reply.saved? ⟨.save collection e, ((Call.save collection e).perform σ.store).1⟩ =
      some (collection, id) := Reply.saved?_save hid _
  have hholds : ∀ c i, σ.store.Holds c i → ((Call.save collection e).perform σ.store).2.Holds c i :=
    fun _ _ => hσ.keyed.holds_save collection hid
  refine ⟨⟨fun _ => ⟨hkeyed, fun c i hi => hholds c i (hσ.kept c i hi), ?_, ?_⟩, hholds,
    List.suffix_cons .., ?_⟩, Trace.taken?_cons_other .., ?_⟩
  · intro entry hentry c i hsave
    rcases List.mem_cons.mp hentry with rfl | hentry
    · cases hsaved.symm.trans hsave
      exact hσ.keyed.holds_saved collection hid
    · exact hholds c i (hσ.saved entry hentry c i hsave)
  · intro c i d hnew hd
    rw [Scene.after, hcalled] at hd
    by_cases hkey : c = collection ∧ i = id
    · obtain ⟨rfl, rfl⟩ := hkey
      rw [if_pos ⟨rfl, rfl⟩] at hd
      exact Option.some.inj hd ▸ hmade hnew
    · rw [if_neg hkey] at hd
      exact hσ.made c i d hnew hd
  · intro c i hold hu field child hfield hl
    refine hkeyed.lists_iff.mpr ?_
    by_cases hkey : c = collection ∧ i = id
    · obtain ⟨rfl, rfl⟩ := hkey
      exact ⟨e, by rw [hcalled, if_pos ⟨rfl, rfl⟩], hlists hold hu.1 field child hfield hl⟩
    · obtain ⟨d, hd, hxs⟩ := hσ.keyed.lists_iff.mp hl
      exact ⟨d, by rw [hcalled, if_neg hkey, hd], hxs⟩
  · intro c i hu htaken
    have hne : ¬ (c = collection ∧ i = id) := by
      rintro ⟨rfl, rfl⟩
      exact hu.2 hsaved htaken
    rw [Scene.after, hcalled, if_neg hne]

/-! ### One create among the moves of the other -/

open Operation (Created checkRelated checkItem newId enter appendToOwners createItem)

section
variable {i : Interface} {g : Registry} {α : Type} {a : α} {Q : Scene → Prop}

/-- A service keeps its promises among the moves of the other side. -/
abbrev Guarded (s : Store) (x : Side → Creation) (k : Side) (a : α) (Q : Scene → Prop) (p : Service α)
    (σ : Scene) : Prop := Service.Guarded (Moves s x) k a Q p σ

theorem guarded_checkRelated_bind {params : Members} {rels : List (String × Relation)}
    {f : Unit → Service α} (h : ∀ τ, Later s x σ τ → Guarded s x k a Q (f ()) τ) :
    Guarded s x k a Q (checkRelated params rels >>= f) σ := by
  induction rels generalizing σ with
  | nil => exact h σ (later_refl σ)
  | cons y rest ih =>
    obtain ⟨field, relation⟩ := y
    simp only [checkRelated]
    split
    · exact ih h
    · rename_i id _
      rw [Service.bind_assoc]
      refine Service.guarded_byId_bind fun τ hτ => ?_
      have hmove : Moves s x k τ (τ.after k (.first relation.target (.byId id) (some [idField]))) :=
        moves_first ..
      refine ⟨hmove, ?_⟩
      split
      · exact ih fun υ hυ => h υ ((hτ.toLater.trans hmove.toLater).trans hυ)
      · exact Service.guarded_fail

theorem guarded_newId_bind {r : Resource} {params : Members} {f : String → Service α}
    (h : ∀ id, Guarded s x k a Q (f id) σ) : Guarded s x k a Q (newId r params >>= f) σ := by
  unfold newId
  split
  · exact h _
  · exact Service.guarded_now_bind fun t => Service.guarded_draw_bind fun y => h _

/-- Every owner of before that the values name through these relations and that was not disturbed lists the
record. -/
def OwnersKept (s : Store) (values : Members) (child : String) (rels : List (String × Relation))
    (τ : Scene) : Prop :=
  ∀ name owner field id, (name, Relation.parent owner field) ∈ rels →
    reference? (Members.get? values name) = some id → s.Holds owner id →
      Trace.Undisturbed (owner, id) τ.trace → τ.store.Lists owner id field child

theorem ownersKept_cons {values : Members} {child : String} {y : String × Relation}
    {rest : List (String × Relation)}
    (hy : ∀ owner field id, y.2 = .parent owner field → reference? (Members.get? values y.1) = some id →
      s.Holds owner id → Trace.Undisturbed (owner, id) τ.trace → τ.store.Lists owner id field child)
    (hrest : OwnersKept s values child rest τ) : OwnersKept s values child (y :: rest) τ := by
  intro name owner field id hm hn hold hu
  rcases List.mem_cons.mp hm with rfl | hm
  · exact hy owner field id rfl hn hold hu
  · exact hrest name owner field id hm hn hold hu

variable (hg : g.Consistent) (hdistinct : ∀ o ∈ g.resources, (o.attributes.map (·.name)).Nodup)
variable (hx : ∀ k, (x k).resource ∈ g.resources) {r : Resource} (hr : r ∈ g.resources)

include hg hdistinct hx hr

/-- An owner that one side has read goes back with one more child, whatever the other side did meanwhile. -/
theorem moves_relist {name owner field id child : String} {values : Members} {d : Document}
    (hrel : (name, Relation.parent owner field) ∈ r.relations)
    (hnamed : reference? (Members.get? values name) = some id) (hτ : Sound s x τ)
    (hd : τ.store.called owner id = some d) (htaken : Trace.taken? k τ.trace = some (owner, id))
    (hmoves : Moves s x k.other τ υ) (now : Time.Instant) :
    Moves s x k υ (υ.after k (.save owner (withListed field child now d))) ∧
      (υ.after k (.save owner (withListed field child now d))).store.Lists owner id field child := by
  obtain ⟨hfield, hupdated⟩ := Operation.ne_of_free (hg.listsFree hr _ _ _ hrel)
  have hυ : Sound s x υ := hmoves.sound hτ
  have hid : Document.id? d = some id := (hτ.keyed.called_eq_some_iff.mp hd).2
  have hide : Document.id? (withListed field child now d) = some id :=
    (Operation.id?_withListed hfield).trans hid
  have hbook : Bookkept r (fun _ _ => True) owner d (withListed field child now d) :=
    .step now (.same d) trivial hrel hnamed hid
  refine ⟨moves_save hυ hide (fun hnew => ?_) fun _ hu other who hother hl => ?_, ?_⟩
  · obtain ⟨j, hj⟩ := hτ.made owner id d hnew hd
    have hplace := hj.place
    subst hplace
    refine ⟨j, rfl, (Operation.id?_withListed hfield).trans hj.identity, fun b hb hc => ?_⟩
    rw [hbook.get?_attribute hg hr (hx j) (hdistinct _ (hx j)) hb hc, hj.values b hb hc]
  · -- Nobody has written the owner since it was read.
    obtain ⟨e, he, xs, hxs, hwho⟩ := hυ.keyed.lists_iff.mp hl
    have hsame := hmoves.spares owner id hu (by rw [Side.other_other]; exact htaken)
    obtain rfl : d = e := Option.some.inj (hd.symm.trans (hsame.symm.trans he))
    obtain ⟨ys, hys, hsub⟩ := hbook.list_grows hother hxs
    exact ⟨ys, hys, hsub _ hwho⟩
  · obtain ⟨hkeyed, hcalled⟩ := hυ.keyed.save owner hide
    obtain ⟨ys, hys, hchild, -⟩ := Operation.withChild_holds (Members.get? d field) child
    refine hkeyed.lists_iff.mpr ⟨_, by rw [hcalled, if_pos ⟨rfl, rfl⟩], ys, ?_, hchild⟩
    rw [Operation.get?_withListed_field hupdated, hys]

/-- One owner is read and goes back with one more child, and between the two the other side may move. -/
theorem guarded_relist_bind {name owner field id child : String} {values : Members}
    (hrel : (name, Relation.parent owner field) ∈ r.relations)
    (hnamed : reference? (Members.get? values name) = some id) {f : Unit → Service α}
    (hσ : Sound s x σ)
    (h : ∀ τ, Later s x σ τ → (s.Holds owner id → τ.store.Lists owner id field child) →
      Guarded s x k a Q (f ()) τ) :
    Guarded s x k a Q (Operation.relist owner id field child >>= f) σ := by
  rw [Operation.relist, Service.bind_assoc]
  refine Service.guarded_byId_bind fun τ hτ => ?_
  have hsound : Sound s x τ := hτ.sound hσ
  have hread : Moves s x k τ (τ.after k (.first owner (.byId id) none)) := moves_first ..
  have hlater : Later s x σ (τ.after k (.first owner (.byId id) none)) :=
    hτ.toLater.trans hread.toLater
  refine ⟨hread, ?_⟩
  cases hd : τ.store.called owner id with
  | none => exact h _ hlater fun hold => absurd (hsound.kept owner id hold) (Store.not_holds_of_called hd)
  | some d =>
    have htaken : Trace.taken? k (τ.after k (.first owner (.byId id) none)).trace = some (owner, id) :=
      Trace.taken?_first (hsound.keyed.called_eq_some_iff.mp hd).2 hd
    refine Service.guarded_now_bind fun now => ?_
    refine Service.guarded_ask_bind fun υ hυ _ _ _ => ?_
    obtain ⟨hsave, hlisted⟩ := moves_relist hg hdistinct hx hr hrel hnamed (hread.sound hsound) hd htaken
      hυ now
    exact ⟨hsave, h _ (hlater.trans (hυ.toLater.trans hsave.toLater)) fun _ => hlisted⟩

theorem guarded_appendToOwners_bind {values : Members} {child : String} {rels : List (String × Relation)}
    (hrels : ∀ y ∈ rels, y ∈ r.relations) {f : Unit → Service α} (hσ : Sound s x σ)
    (h : ∀ τ, Later s x σ τ → OwnersKept s values child rels τ → Guarded s x k a Q (f ()) τ) :
    Guarded s x k a Q (appendToOwners values child rels >>= f) σ := by
  induction rels generalizing σ with
  | nil => exact h σ (later_refl σ) fun _ _ _ _ hm => absurd hm List.not_mem_nil
  | cons y rest ih =>
    obtain ⟨hy, hrest⟩ := List.forall_mem_cons.mp hrels
    rw [Operation.appendToOwners_cons, Service.bind_assoc]
    obtain ⟨heq, hno⟩ | ⟨name, owner, field, id, rfl, hnamed, heq⟩ :=
      Operation.listWith_cases values child y
    · rw [heq]
      refine ih hrest hσ fun τ hτ hkept => h τ hτ (ownersKept_cons (fun owner field id he hn _ _ => ?_) hkept)
      exact absurd hn (hno y.1 owner field id (by rw [← he]))
    · rw [heq]
      refine guarded_relist_bind hg hdistinct hx hr hy hnamed hσ fun τ hτ hlists => ?_
      refine ih hrest (hτ.sound hσ) fun υ hυ hkept => h υ (hτ.trans hυ) ?_
      refine ownersKept_cons (fun owner' field' id' he hnamed' hold hu => ?_) hkept
      cases he
      cases hnamed.symm.trans hnamed'
      have hfield : field ≠ updatedAtField := (Operation.ne_of_free (hg.listsFree hr _ _ _ hy)).2
      exact hυ.lists owner id hold hu field child hfield (hlists hold)

end

/-- What a create that succeeds has done for good: it has found its key free before anything was saved
under it, its record is there, and the owners of before that were not disturbed list the record. -/
structure Placed (s : Store) (x : Side → Creation) (k : Side) (σ : Scene) : Prop where
  sound : Sound s x σ
  fresh : ¬ s.Holds (x k).resource.name (x k).id
  looked : Trace.LookedFirst k (x k).resource.name (x k).id σ.trace
  held : σ.store.Holds (x k).resource.name (x k).id
  listed : (x k).Listed s σ

/-- The record of a create came in, and one of the two creates has made it. -/
theorem Placed.appears (h : Placed s x k σ) {P : Document → Prop}
    (hP : ∀ j d, (x j).Made (x k).resource.name d → Document.id? d = some (x k).id → P d) :
    Operation.Appears (x k).resource (x k).id P s σ.store := by
  refine ⟨h.fresh, h.held, fun d hd hid => ?_⟩
  have hcalled := h.sound.keyed.called_eq_some_iff.mpr ⟨hd, hid⟩
  obtain ⟨j, hj⟩ := h.sound.made _ _ d h.fresh hcalled
  exact hP j d hj hid

theorem looked_after {collection id : String} (hσ : Sound s x σ)
    (hfree : σ.store.called collection id = none) :
    Trace.LookedFirst k collection id (σ.after k (.first collection (.byId id) (some [idField]))).trace := by
  have hanswer : (Call.perform σ.store (.first collection (.byId id) (some [idField]))).1 = .ok none := by
    rw [Call.perform, Store.first_byId, hfree]
    rfl
  refine ⟨[], σ.trace, ?_, fun e he hsaved => ?_⟩
  · rw [Scene.after, hanswer]
    rfl
  · exact Store.not_holds_of_called hfree (hσ.saved e he collection id hsaved)

section
variable {i : Interface} (hg : i.registry.Consistent)
variable (hdistinct : ∀ o ∈ i.registry.resources, (o.attributes.map (·.name)).Nodup)
variable (hx : ∀ k, (x k).resource ∈ i.registry.resources)

include hg hdistinct hx

theorem hasInitial_new (k : Side) (now : String) : Record.HasInitial (x k).resource (x k).params
    (Record.new (x k).resource (x k).params (x k).id now) :=
  fun _ ha _ => Record.get?_new (hdistinct _ (hx k)) (hg.namesFree (hx k)) _ _ now ha

theorem guarded_saveNew {c : Created} (hid : c.id = (x k).id) {id href now : String} (hσ : Sound s x σ)
    (hfresh : ¬ s.Holds (x k).resource.name id)
    (hlooked : Trace.LookedFirst k (x k).resource.name id σ.trace)
    (hkept : OwnersKept s (Record.new (x k).resource (x k).params id now) id (x k).resource.relations σ) :
    Guarded s x k c (Placed s x k)
      (Service.ask (.save (x k).resource.name (Record.new (x k).resource (x k).params id now)) >>=
        fun _ => pure ⟨id, href⟩) σ := by
  refine Service.guarded_ask_bind fun τ hτ _ _ hend => ?_
  -- The run succeeds with this identity, so it is the one that the record gets.
  have hsame : (⟨id, href⟩ : Created) = c := Except.ok.inj hend
  obtain rfl : id = (x k).id := by rw [← hid, ← hsame]
  have hsound : Sound s x τ := hτ.sound hσ
  have hnew := Record.id?_new (x k).resource (x k).params (x k).id now
  have hmove : Moves s x k τ (τ.after k (.save (x k).resource.name
      (Record.new (x k).resource (x k).params (x k).id now))) :=
    moves_save hsound hnew (fun _ => ⟨k, rfl, hnew, hasInitial_new hg hdistinct hx k now⟩)
      fun hold => absurd hold hfresh
  refine ⟨hmove, Service.guarded_pure fun _ υ hυ => ?_⟩
  have hheld := hsound.keyed.holds_saved (x k).resource.name hnew
  have hlater : Later s x σ υ := (hτ.toLater.trans hmove.toLater).trans hυ.toLater
  refine ⟨hlater.sound hσ, hfresh, hlooked.suffix hlater.trace, hυ.holds _ _ hheld, ?_⟩
  intro a ha owner field oid htype hn hold hu
  have hrel : (a.name, Relation.parent owner field) ∈ (x k).resource.relations :=
    Resource.mem_relations.mpr ⟨a, ha, rfl, htype⟩
  have hvalue : Members.get? (Record.new (x k).resource (x k).params (x k).id now) a.name =
      some (Record.initial (x k).params a) :=
    hasInitial_new hg hdistinct hx k now a ha (Attribute.isChildren_of_parent htype)
  have hfield : field ≠ updatedAtField := (Operation.ne_of_free (hg.listsFree (hx k) _ _ _ hrel)).2
  refine hlater.lists owner oid hold hu field _ hfield ?_
  exact hkept a.name owner field oid hrel (hvalue ▸ hn) hold (hu.suffix hlater.trace)

theorem guarded_enter {c : Created} (hid : c.id = (x k).id) (hσ : Sound s x σ) :
    Guarded s x k c (Placed s x k) (enter i (x k).resource (x k).params) σ := by
  unfold enter
  refine guarded_newId_bind fun id => Service.guarded_byId_bind fun τ hτ => ?_
  have hlook : Moves s x k τ (τ.after k (.first (x k).resource.name (.byId id) (some [idField]))) :=
    moves_first ..
  have hsound : Sound s x τ := hτ.sound hσ
  refine ⟨hlook, ?_⟩
  cases hfree : τ.store.called (x k).resource.name id with
  | some d => exact Service.guarded_fail
  | none =>
    have hfresh : ¬ s.Holds (x k).resource.name id := fun hold =>
      Store.not_holds_of_called hfree (hsound.kept _ _ hold)
    refine Service.guarded_now_bind fun now => ?_
    refine guarded_appendToOwners_bind hg hdistinct hx (hx k) (fun _ hy => hy) (hlook.sound hsound)
      fun υ hυ hkept => ?_
    exact guarded_saveNew hg hdistinct hx hid (hυ.sound (hlook.sound hsound)) hfresh
      ((looked_after hsound hfree).suffix hυ.trace) hkept

theorem guarded_createItem {c : Created} (hid : c.id = (x k).id) {request : Filter.Request}
    (hparams : (x k).params = request.params (x k).resource.attributes) (hσ : Sound s x σ) :
    Guarded s x k c (Placed s x k) (createItem i (x k).resource request) σ := by
  rw [Operation.createItem_eq, checkItem, Service.bind_assoc, ← hparams]
  exact guarded_checkRelated_bind fun τ hτ =>
    Service.guarded_require_bind (guarded_enter hg hdistinct hx hid (hτ.sound hσ))

end

end Concurrency

/-! ### Two creates -/

namespace Operation

open Concurrency (Sound Placed)
open Hypermedia.Filter (Request)

/-- The create that a request has made of a resource. -/
def creation (r : Resource) (request : Request) (c : Created) : Creation :=
  ⟨r, request.params r.attributes, c.id⟩

/-- Two creates of one record each run on a reached store, their steps in any order, and both succeed. If the
records have different keys, both come in, each with the values that its create gives. If they have one
key, one document of it comes in, made by one of the two, and each create has looked for it before any was
saved. Every owner that was there before and that one of the records names lists this record, if no create
has saved the owner while the other one had it in its hands. -/
theorem creates_side_by_side {ds : List Schema.ResourceDeclaration} {i : Interface} {h : History}
    (hdistinct : Schema.Distinct ds) (hresolve : Schema.resolve ds = .ok i.registry)
    (hon : h.On i.registry) {r r' : Resource} (hr : r ∈ i.registry.resources)
    (hr' : r' ∈ i.registry.resources) {request request' : Request} {c c' : Created} {τ : Scene}
    (hrun : Program.Interleaved (createItem i r request).run (createItem i r' request').run
      ⟨h.after i Store.empty, []⟩ (.ok c) (.ok c') τ) :
    ((r.name, c.id) ≠ (r'.name, c'.id) →
      Appears r c.id (Record.HasInitial r (request.params r.attributes)) (h.after i Store.empty) τ.store ∧
        Appears r' c'.id (Record.HasInitial r' (request'.params r'.attributes)) (h.after i Store.empty)
          τ.store) ∧
      ((r.name, c.id) = (r'.name, c'.id) →
        Appears r c.id (fun d => Record.HasInitial r (request.params r.attributes) d ∨
          Record.HasInitial r' (request'.params r'.attributes) d) (h.after i Store.empty) τ.store ∧
        (τ.store.documents r.name).countP (fun d => Document.id? d == some c.id) = 1 ∧
        Trace.LookedFirst .left r.name c.id τ.trace ∧ Trace.LookedFirst .right r.name c.id τ.trace) ∧
      (creation r request c).Listed (h.after i Store.empty) τ ∧
      (creation r' request' c').Listed (h.after i Store.empty) τ := by
  have hg : i.registry.Consistent := Schema.consistent_of_resolve hresolve
  have hnames := Schema.distinct_of_resolve hdistinct hresolve
  let x := Side.pick (creation r request c) (creation r' request' c')
  have hx : ∀ k, (x k).resource ∈ i.registry.resources := by
    rintro (_ | _)
    · exact hr
    · exact hr'
  have hstart : Sound (h.after i Store.empty) x ⟨h.after i Store.empty, []⟩ :=
    Concurrency.sound_start (History.keyed hg hon)
  obtain ⟨hleft, hright⟩ : Placed _ x .left τ ∧ Placed _ x .right τ :=
    hrun.guarded (M := Concurrency.Moves _ x) (fun _ _ _ _ => Concurrency.Moves.trans)
      Concurrency.moves_refl (Concurrency.guarded_createItem hg hnames hx (k := .left) rfl rfl hstart)
      (Concurrency.guarded_createItem hg hnames hx (k := .right) rfl rfl hstart)
  refine ⟨fun hkeys => ⟨hleft.appears fun j d hj hid => ?_, hright.appears fun j d hj hid => ?_⟩,
    fun hkey => ⟨hleft.appears fun j d hj _ => ?_, hleft.sound.keyed.countP_eq_one hleft.held,
      hleft.looked, ?_⟩, hleft.listed, hright.listed⟩
  · cases j with
    | left => exact hj.values
    | right =>
      exact absurd (Prod.ext hj.place (Option.some.inj (hid.symm.trans hj.identity))) hkeys
  · cases j with
    | left =>
      exact absurd (Prod.ext hj.place (Option.some.inj (hid.symm.trans hj.identity))).symm hkeys
    | right => exact hj.values
  · cases j with
    | left => exact .inl hj.values
    | right => exact .inr hj.values
  · obtain ⟨hname, hid⟩ := Prod.mk.inj hkey
    rw [hname, hid]
    exact hright.looked

/-! ### Two people at once -/

def oneGroup : History := [Groups.newGroup "Ops"]

/-- The steps of the creates of two people in the store with one group, in this order. -/
def hiredAtOnce (ks : List Side) (ms ms' : Members) :
    Option (Except ServiceError Created × Except ServiceError Created × Scene) :=
  Program.schedule ks (createItem Groups.interface Groups.person (Groups.values ms)).run
    (createItem Groups.interface Groups.person (Groups.values ms')).run
    ⟨oneGroup.after Groups.interface Store.empty, []⟩

def annOfOps : Members := [("name", .string "Ann"), ("group", .string "ops")]

def bobOfOps : Members := [("name", .string "Bob"), ("group", .string "ops")]

/-- Ann and Bob are checked by turns. Ann is listed with the group before it is read for Bob, and saved
after him. -/
theorem creates_side_by_side_groups :
    ∃ τ, Program.Interleaved
        (createItem Groups.interface Groups.person (Groups.values annOfOps)).run
        (createItem Groups.interface Groups.person (Groups.values bobOfOps)).run
        ⟨oneGroup.after Groups.interface Store.empty, []⟩ (.ok ⟨"ann", "/people/ann"⟩)
        (.ok ⟨"bob", "/people/bob"⟩) τ ∧
      Trace.Undisturbed ("group", "ops") τ.trace ∧
      Appears Groups.person "ann"
        (Record.HasInitial Groups.person ((Groups.values annOfOps).params Groups.person.attributes))
        (oneGroup.after Groups.interface Store.empty) τ.store ∧
      Appears Groups.person "bob"
        (Record.HasInitial Groups.person ((Groups.values bobOfOps).params Groups.person.attributes))
        (oneGroup.after Groups.interface Store.empty) τ.store ∧
      τ.store.Lists "group" "ops" "members" "ann" ∧ τ.store.Lists "group" "ops" "members" "bob" := by
  obtain ⟨τ, hτ, hclear⟩ : ∃ τ, hiredAtOnce [.left, .right, .left, .right, .left, .right, .left, .left,
      .left, .right, .right, .right, .right, .left] annOfOps bobOfOps =
        some (.ok ⟨"ann", "/people/ann"⟩, .ok ⟨"bob", "/people/bob"⟩, τ) ∧
      Trace.Undisturbed ("group", "ops") τ.trace := ⟨_, rfl, by decide +kernel⟩
  have hrun := Program.interleaved_of_schedule hτ
  have hon : oneGroup.On Groups.interface.registry := by
    simp [History.On, oneGroup, Groups.newGroup, Groups.interface]
  have hr : Groups.person ∈ Groups.interface.registry.resources := by simp [Groups.interface]
  obtain ⟨hapart, -, hlists, hlists'⟩ := creates_side_by_side Groups.distinct_declarations
    Groups.resolve_declarations hon hr hr hrun
  obtain ⟨hann, hbob⟩ := hapart (by decide)
  have hold : (oneGroup.after Groups.interface Store.empty).Holds "group" "ops" :=
    ⟨_, List.mem_cons_self .., rfl⟩
  have hgroup : ({ name := "group", type := .relation (.parent "group" "members") } : Attribute) ∈
      Groups.person.attributes := by simp [Groups.person]
  exact ⟨τ, hrun, hclear, hann, hbob, hlists _ hgroup _ _ _ rfl rfl hold hclear,
    hlists' _ hgroup _ _ _ rfl rfl hold hclear⟩

/-- Two creates that both succeed can lose one another's work. When both have read the group before it is
saved, the second save takes the first child from the list. When both have looked for one identity before
a record is saved under it, the second record replaces the first. And a default that names no group leaves
no list to be in. -/
theorem creates_lose_each_other :
    Schema.resolve Groups.declarations = .ok Groups.interface.registry ∧
      oneGroup.On Groups.interface.registry ∧
      (∃ τ, Program.Interleaved
          (createItem Groups.interface Groups.person (Groups.values annOfOps)).run
          (createItem Groups.interface Groups.person (Groups.values bobOfOps)).run
          ⟨oneGroup.after Groups.interface Store.empty, []⟩ (.ok ⟨"ann", "/people/ann"⟩)
          (.ok ⟨"bob", "/people/bob"⟩) τ ∧
        (τ.store.documents "person").map (Members.get? · "group") =
          [some (.string "ops"), some (.string "ops")] ∧
        (τ.store.documents "group").map (Members.get? · "members") =
          [some (.array [.string "bob"])]) ∧
      (∃ τ, Program.Interleaved
          (createItem Groups.interface Groups.person (Groups.values [("name", .string "Ann")])).run
          (createItem Groups.interface Groups.person (Groups.values [("name", .string "ANN")])).run
          ⟨oneGroup.after Groups.interface Store.empty, []⟩ (.ok ⟨"ann", "/people/ann"⟩)
          (.ok ⟨"ann", "/people/ann"⟩) τ ∧
        (τ.store.documents "person").map (Members.get? · "name") = [some (.string "ANN")]) ∧
      Schema.resolve Haunted.declarations = .ok Haunted.interface.registry ∧
      ∃ τ, Program.Interleaved (Haunted.hire [("name", .string "ann")]).run
          (Haunted.hire [("name", .string "bob")]).run ⟨Store.empty, []⟩ (.ok ⟨"ann", "/people/ann"⟩)
          (.ok ⟨"bob", "/people/bob"⟩) τ ∧
        (τ.store.documents "person").map (Members.get? · "group") =
          [some (.string "ghost"), some (.string "ghost")] ∧
        τ.store.documents "group" = [] := by
  obtain ⟨τ, hτ, hrest⟩ : ∃ τ, hiredAtOnce [.left, .right, .left, .right, .left, .right, .left, .right,
      .left, .right, .left, .right, .left, .right] annOfOps bobOfOps =
        some (.ok ⟨"ann", "/people/ann"⟩, .ok ⟨"bob", "/people/bob"⟩, τ) ∧
      (τ.store.documents "person").map (Members.get? · "group") =
        [some (.string "ops"), some (.string "ops")] ∧
      (τ.store.documents "group").map (Members.get? · "members") =
        [some (.array [.string "bob"])] := ⟨_, rfl, rfl, rfl⟩
  obtain ⟨υ, hυ, hone⟩ : ∃ υ, hiredAtOnce [.left, .right, .left, .right, .left, .right]
      [("name", .string "Ann")] [("name", .string "ANN")] =
        some (.ok ⟨"ann", "/people/ann"⟩, .ok ⟨"ann", "/people/ann"⟩, υ) ∧
      (υ.store.documents "person").map (Members.get? · "name") = [some (.string "ANN")] := ⟨_, rfl, rfl⟩
  obtain ⟨ω, hω, hghost⟩ : ∃ ω, Program.schedule [.left, .left, .left, .left, .right, .right, .right, .right]
      (Haunted.hire [("name", .string "ann")]).run (Haunted.hire [("name", .string "bob")]).run
      ⟨Store.empty, []⟩ = some (.ok ⟨"ann", "/people/ann"⟩, .ok ⟨"bob", "/people/bob"⟩, ω) ∧
      (ω.store.documents "person").map (Members.get? · "group") =
        [some (.string "ghost"), some (.string "ghost")] ∧
      ω.store.documents "group" = [] := ⟨_, rfl, rfl, rfl⟩
  have hon : oneGroup.On Groups.interface.registry := by
    simp [History.On, oneGroup, Groups.newGroup, Groups.interface]
  exact ⟨Groups.resolve_declarations, hon, ⟨τ, Program.interleaved_of_schedule hτ, hrest⟩,
    ⟨υ, Program.interleaved_of_schedule hυ, hone⟩, rfl, ω, Program.interleaved_of_schedule hω, hghost⟩

end Operation

end Hypermedia
