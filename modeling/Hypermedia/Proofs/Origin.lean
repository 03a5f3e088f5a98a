import Hypermedia.Proofs.Bulk
import Hypermedia.Proofs.Intact

/-!
# What creates make

Each record that a create of one record or of several has made stands in its collection under an identity
that was not in use: it is the new record of the values of its item, which have passed their checks, and
was changed since by listing other new records only. What the values refer to is still there.
-/

namespace Hypermedia.Operation

open Store (Document)
open Hypermedia.Filter (Request)

/-- Values and identities of new records. -/
def NewRecords (r : Resource) (values : Members) (child : String) : Prop :=
  ∃ params id, NewRecord r params id values child

/-- Between two stores a record of this identity was made of these values. -/
structure Made (i : Interface) (r : Resource) (params : Members) (id : String) (s t : Store) : Prop where
  checked : i.validator r params false = []
  fresh : ¬ s.Holds r.name id
  references : s.Named → ∀ name relation target, (name, relation) ∈ r.relations →
    relation.isChildren = false → reference? (Members.get? params name) = some target →
      t.Holds relation.target target
  record : ∃ d ∈ t.documents r.name, ∃ now,
    Bookkept r (NewRecords r) r.name (Record.new r params id now) d

/-- Between two stores a record of this identity came in, and this holds of it. -/
structure Appears (r : Resource) (id : String) (P : Document → Prop) (s t : Store) : Prop where
  fresh : ¬ s.Holds r.name id
  held : t.Holds r.name id
  holds : ∀ d ∈ t.documents r.name, Document.id? d = some id → P d

/-- The values that a create reads for an item of its body. -/
def itemParams (r : Resource) (request : Request) (item : Members) : Members :=
  (request.withBody item).params r.attributes

/-- A store that came of another one by creates: the records are still there, and all have identities if
they had before. -/
structure Follows (s t : Store) : Prop where
  holds : ∀ collection id, s.Holds collection id → t.Holds collection id
  named : s.Named → t.Named

section
variable {env : Program.Environment} {i : Interface} {r : Resource} {s t u : Store} {params : Members}
variable {id now : String}

theorem follows_refl (s : Store) : Follows s s := ⟨fun _ _ h => h, fun h => h⟩

theorem Bookkept.of_new {collection : String} {d e : Document}
    (h : Bookkept r (NewRecord r params id) collection d e) : Bookkept r (NewRecords r) collection d e :=
  h.mono fun _ _ hn => ⟨params, id, hn⟩

variable (hlists : r.ListsFree)

include hlists

theorem Follows.entered (h : Follows s t) (hent : Entered r params id now t u) : Follows s u where
  holds c x hx := hent.holds hlists (h.holds c x hx)
  named hs := hent.named hlists (h.named hs)

/-! ### Records that were made -/

theorem Made.bookkept {other : Members} {oid : String} (h : Made i r params id s t)
    (htu : t.Related (Bookkept r (NewRecord r other oid)) u) : Made i r params id s u where
  checked := h.checked
  fresh := h.fresh
  references hs name relation target hrel hc hn :=
    Store.holds_of_bookkept hlists htu (h.references hs name relation target hrel hc hn)
  record := by
    obtain ⟨d, hd, now, hnew⟩ := h.record
    obtain ⟨e, he, hde⟩ := forall₂_mem_left (htu r.name) hd
    exact ⟨e, he, now, hnew.trans hde.of_new⟩

theorem Made.entered {other : Members} {oid : String} (h : Made i r params id s t)
    (hent : Entered r other oid now t u) : Made i r params id s u where
  checked := h.checked
  fresh := h.fresh
  references hs name relation target hrel hc hn :=
    hent.holds hlists (h.references hs name relation target hrel hc hn)
  record := by
    obtain ⟨v, htv, -, rfl⟩ := hent
    obtain ⟨d, hd, now, hnew⟩ := (h.bookkept hlists htv).record
    exact ⟨d, Store.mem_documents_append.mpr (.inl hd), now, hnew⟩

theorem made_of_entered (hst : Follows s t) (hadm : Admitted i r params id t)
    (hent : Entered r params id now t u) : Made i r params id s u where
  checked := hadm.checked
  fresh hs := Store.not_holds_of_called hadm.fresh (hst.holds _ _ hs)
  references hs name relation target hrel hc hn := by
    obtain ⟨d, hd⟩ := hadm.references name relation target hrel hc hn
    have hheld : t.Holds relation.target target :=
      ⟨d, Store.mem_of_called hd, Store.id?_of_called (hst.named hs) hd⟩
    exact hent.holds hlists hheld
  record := by
    obtain ⟨v, -, -, rfl⟩ := hent
    exact ⟨_, Store.mem_documents_append.mpr (.inr ⟨rfl, rfl⟩), now, .same _⟩

theorem keeps_made (s : Store) (params : Members) (id : String) (request : Request) :
    Service.Keeps env (Made i r params id s) (createItem i r request) := by
  refine keeps_createItem hlists (fun t u _ _ now ht _ hent => ?_) (fun t u _ _ ht htu => ?_) request
  · exact ht.entered hlists hent
  · exact ht.bookkept hlists htu

theorem ends_createItem_made (hst : Follows s t) {request : Request} :
    Service.Ends env t (createItem i r request)
      (fun c u => Follows s u ∧ Made i r (request.params r.attributes) c.id s u) (fun _ _ => True) := by
  refine Service.ends_mono (ends_createItem hlists) (fun c u hu => ?_) fun _ _ _ => trivial
  obtain ⟨hadm, now, hent⟩ := hu
  exact ⟨hst.entered hlists hent, made_of_entered hlists hst hadm hent⟩

end

/-- What follows from the values that a record got holds of the record. -/
theorem Made.appears {i : Interface} {r : Resource} {s t : Store} {params : Members} {id : String}
    (hg : i.registry.Consistent) (hr : r ∈ i.registry.resources)
    (hdistinct : (r.attributes.map (·.name)).Nodup) (h : Made i r params id s t)
    (ht : t.Intact i.registry) {P : Document → Prop}
    (hP : ∀ d, (∀ a ∈ r.attributes, a.type.isChildren = false →
      Members.get? d a.name = some (Record.initial params a)) → P d) : Appears r id P s t := by
  obtain ⟨d, hd, now, hnew⟩ := h.record
  have hid : Document.id? d = some id := by rw [hnew.id?_eq (hg.listsFree hr), Record.id?_new]
  refine ⟨h.fresh, ⟨d, hd, hid⟩, fun e he hide => ?_⟩
  obtain rfl : d = e := List.inj_on_of_nodup_map (ht.identities r hr) hd he (hid.trans hide.symm)
  refine hP d fun a ha hc => ?_
  rw [hnew.get?_attribute hg hr hr hdistinct ha hc,
    Record.get?_new hdistinct (hg.namesFree hr) params id now ha]

/-! ### Bodies -/

/-- Whatever a service keeps is kept beside what it ends in. -/
theorem ends_beside_kept {α : Type} {env : Program.Environment} {s : Store} {x : Service α}
    {Q : α → Store → Prop} {E : ServiceError → Store → Prop} (hx : Service.Ends env s x Q E) :
    Service.Ends env s x (fun a t => Q a t ∧ ∀ R : Store → Prop, Service.Keeps env R x → R s → R t) E := by
  intro w hw
  have hend := hx w hw
  have hkept : ∀ R : Store → Prop, Service.Keeps env R x → R s →
      R (Program.run env x.run w).2.store := fun R hR hs => Service.store_of_keeps hR (hw ▸ hs)
  cases hr : (Program.run env x.run w).1 with
  | ok a =>
    rw [hr] at hend
    exact ⟨hend, hkept⟩
  | error e =>
    rw [hr] at hend
    exact hend

section
variable {α : Type} {env : Program.Environment} {work : Members → Service α} {P : Store → Prop}
variable {Q : Members → α → Store → Prop}
variable (hwork : ∀ item s, P s → Service.Ends env s (work item) (fun a t => P t ∧ Q item a t) fun _ _ => True)
variable (hkept : ∀ item a other, Service.Keeps env (Q item a) (work other))

include hwork hkept

/-- If what an item ends in is kept by the work on the others, then it holds of every item in the end. -/
theorem ends_eachItem_all (items : List Members) (index : Nat) {s : Store} (hs : P s) :
    Service.Ends env s (eachItem work index items)
      (fun as t => List.Forall₂ (fun item a => Q item a t) items as) (fun _ _ => True) := by
  induction items generalizing index s with
  | nil => exact Service.ends_pure .nil
  | cons item rest ih =>
    refine Service.ends_bind (Service.ends_mapError (hwork item s hs)) fun a t ht => ?_
    refine Service.ends_bind (ends_beside_kept (ih (index + 1) ht.1)) fun as u hu => ?_
    have hitem : Q item a u :=
      hu.2 (Q item a) (keeps_eachItem (fun other => hkept item a other) rest (index + 1)) ht.2
    exact Service.ends_pure (.cons hitem hu.1)

theorem ends_onBody_all (body : Value) {s : Store} (hs : P s) :
    Service.Ends env s (onBody work body)
      (fun batch t => ∃ items, Batch.ofBody body = .ok items ∧
        List.Forall₂ (fun item a => Q item a t) items.toList batch.toList) (fun _ _ => True) := by
  unfold onBody
  cases Batch.ofBody body with
  | error e => exact Service.ends_fail trivial
  | ok items =>
    cases items with
    | one item =>
      refine Service.ends_bind (hwork item s hs) fun a t ht => Service.ends_pure ⟨_, rfl, ?_⟩
      exact .cons ht.2 .nil
    | many items =>
      refine Service.ends_bind (ends_eachItem_all hwork hkept items 0 hs) fun as t hall => ?_
      exact Service.ends_pure ⟨_, rfl, hall⟩

end

/-! ### Creates that succeed -/

theorem History.intact {i : Interface} {h : History} (hg : i.registry.Consistent)
    (hdistinct : ∀ r ∈ i.registry.resources, (r.attributes.map (·.name)).Nodup)
    (hon : h.On i.registry) : (h.after i Store.empty).Intact i.registry := by
  refine History.after_of_keeps (fun x hx => ?_) (Store.intact_empty _)
  exact keeps_intact hg (hdistinct _ (hon x hx)) (hon x hx) x.command

section
variable {i : Interface} {r : Resource} (hg : i.registry.Consistent) (hr : r ∈ i.registry.resources)
variable (hdistinct : (r.attributes.map (·.name)).Nodup) (env : Program.Environment) {w : Program.World}
variable (hw : w.store.Intact i.registry) (request : Request)

include hg hr hdistinct hw

theorem intact_of_createItem :
    (Program.run env (createItem i r request).run w).2.store.Intact i.registry := by
  rw [← congrArg Program.World.store (Service.run_bind_pure (createItem i r request) (fun _ => ()) w)]
  exact Service.store_of_keeps (keeps_intact hg hdistinct hr (.createItem request)) hw

theorem intact_of_create (body : Value) :
    (Program.run env (create i r body request).run w).2.store.Intact i.registry := by
  rw [← congrArg Program.World.store (Service.run_bind_pure (create i r body request) (fun _ => ()) w)]
  exact Service.store_of_keeps (keeps_intact hg hdistinct hr (.create body request)) hw

variable {P : Members → Store → Document → Prop}
variable (hP : ∀ params id t, Made i r params id w.store t → ∀ d, (∀ a ∈ r.attributes,
  a.type.isChildren = false → Members.get? d a.name = some (Record.initial params a)) → P params t d)

include hP

/-- What follows from the values that a record got holds of the record that a create has made. -/
theorem appears_of_createItem {c : Created}
    (hok : (Program.run env (createItem i r request).run w).1 = .ok c) :
    Appears r c.id
      (P (request.params r.attributes) (Program.run env (createItem i r request).run w).2.store)
      w.store (Program.run env (createItem i r request).run w).2.store := by
  have hend : Service.Ends env w.store (createItem i r request) _ _ :=
    ends_createItem_made (hg.listsFree hr) (follows_refl w.store)
  have hmade := hend w rfl
  rw [hok] at hmade
  exact hmade.2.appears hg hr hdistinct (intact_of_createItem hg hr hdistinct env hw request)
    (hP _ _ _ hmade.2)

/-- A create that succeeds has made a record of each item of its body, in their order, and what follows from
the values of an item holds of its record. -/
theorem appears_of_create {body : Value} {created : Batch Created}
    (hok : (Program.run env (create i r body request).run w).1 = .ok created) :
    ∃ items, Batch.ofBody body = .ok items ∧
      List.Forall₂ (fun item c =>
          Appears r c.id
            (P (itemParams r request item) (Program.run env (create i r body request).run w).2.store)
            w.store (Program.run env (create i r body request).run w).2.store)
        items.toList created.toList := by
  have hlists : r.ListsFree := hg.listsFree hr
  have hend : Service.Ends env w.store (create i r body request) _ _ :=
    ends_onBody_all (fun _ _ ht => ends_createItem_made hlists ht)
      (fun item c _ => keeps_made hlists w.store (itemParams r request item) c.id _) body
      (follows_refl w.store)
  have hmade := hend w rfl
  rw [hok] at hmade
  obtain ⟨items, hbody, hall⟩ := hmade
  refine ⟨items, hbody, hall.imp fun item c h => ?_⟩
  exact h.appears hg hr hdistinct (intact_of_create hg hr hdistinct env hw request body) (hP _ _ _ h)

end

end Hypermedia.Operation
