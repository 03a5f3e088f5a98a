import Hypermedia.Proofs.Bulk

/-!
# Dry runs

A dry run makes the checks of a create and stores nothing. What it tells holds for a create from the same
store: one that it passes can only meet an identity that is in use, and for one record its failure is the
failure of the create. Of several records each is checked by the create in a store that has grown by those
before it, and what a store that grows has passed once it passes again.
-/

namespace Hypermedia.Operation

open Program (Environment World run)
open Hypermedia.Filter (Request)

section
variable {env : Environment} {i : Interface} {r : Resource} {s t : Store} {params : Members}

/-! ### Stores that grow -/

theorem ReferencesHold.grow {rels : List (String × Relation)} (h : ReferencesHold params rels s)
    (hs : s.Named) (hgrow : ∀ collection id, s.Holds collection id → t.Holds collection id) :
    ReferencesHold params rels t := by
  intro name relation id hm hc hn
  obtain ⟨d, hd⟩ := h name relation id hm hc hn
  have hheld : t.Holds relation.target id :=
    hgrow _ _ ⟨d, Store.mem_of_called hd, Store.id?_of_called hs hd⟩
  cases hfound : t.called relation.target id with
  | none => exact absurd hheld (Store.not_holds_of_called hfound)
  | some e => exact ⟨e, rfl⟩

theorem objection?_grow (h : objection? i r params s = none) (hs : s.Named)
    (hgrow : ∀ collection id, s.Holds collection id → t.Holds collection id) :
    objection? i r params t = none := by
  -- Only the look for owners sees the store; the rules see the parameters.
  obtain ⟨hrefs, hcheck⟩ := objection?_eq_none_iff.mp h
  exact objection?_eq_none_iff.mpr ⟨hrefs.grow hs hgrow, hcheck⟩

/-! ### One record -/

/-- A create that the checks pass makes its record, in a store that has grown, or meets an identity that
is in use. -/
theorem ends_createItem_passed (hlists : r.ListsFree) (henv : env.Accepts) (hs : s.Named)
    {request : Request} (hpass : objection? i r (request.params r.attributes) s = none) :
    Service.Ends env s (createItem i r request)
      (fun _ t => t.Named ∧ ∀ collection id, s.Holds collection id → t.Holds collection id)
      (fun e _ => ∃ text, e = .conflict text) := by
  refine Service.ends_mono (ends_createItem hlists) (fun c t ht => ?_) (fun e t ht => ?_)
  · obtain ⟨-, now, hent⟩ := ht
    exact ⟨hent.named hlists hs, fun collection id => hent.holds hlists⟩
  · rcases ht with ⟨-, hobjection | ⟨-, id, -, rfl⟩ | hrefused⟩ | ⟨id, -, -, hrefused⟩
    · rw [hpass] at hobjection
      cases hobjection
    · exact ⟨_, rfl⟩
    · exact absurd hrefused (not_refused henv e)
    · exact absurd (hrefused hs) (not_refused henv e)

theorem ends_createItem_stopped (hlists : r.ListsFree) (henv : env.Accepts) {request : Request}
    {e : ServiceError} (hstop : objection? i r (request.params r.attributes) s = some e) :
    Service.Ends env s (createItem i r request) (fun _ _ => False) (fun err t => err = e ∧ t = s) := by
  have hno : ∀ id, ¬ Admitted i r (request.params r.attributes) id s := by
    intro id hadm
    rw [objection?_eq_none_iff.mpr ⟨hadm.references, hadm.checked⟩] at hstop
    cases hstop
  refine Service.ends_mono (ends_createItem hlists) (fun c t ht => hno c.id ht.1) (fun err t ht => ?_)
  -- Of the ways to fail only an objection is left, and it is the one of the dry run.
  rcases ht with ⟨rfl, hobjection | ⟨hnone, -⟩ | hrefused⟩ | ⟨id, hadm, -⟩
  · rw [hstop] at hobjection
    cases hobjection
    exact ⟨rfl, rfl⟩
  · rw [hstop] at hnone
    cases hnone
  · exact absurd hrefused (not_refused henv err)
  · exact absurd hadm (hno id)

/-! ### Several records -/

theorem ends_checkItems {request : Request} (items : List Members) (index : Nat) :
    Service.Ends env s (eachItem (fun item => checkItem i r (request.withBody item)) index items)
      (fun _ t => t = s ∧ ∀ item ∈ items,
        objection? i r ((request.withBody item).params r.attributes) s = none)
      (fun _ t => t = s) := by
  induction items generalizing index with
  | nil => exact Service.ends_pure ⟨rfl, fun item hm => by cases hm⟩
  | cons item rest ih =>
    refine Service.ends_bind (Service.ends_mapError (Service.ends_mono ends_checkItem (fun _ _ h => h)
      (fun _ _ h => h.1))) ?_
    rintro _ t ⟨rfl, hpass⟩
    refine Service.ends_bind (ih (index + 1)) ?_
    rintro _ u ⟨rfl, hrest⟩
    refine Service.ends_pure ⟨rfl, fun x hx => ?_⟩
    rcases List.mem_cons.mp hx with rfl | hx
    · exact objection?_eq_none_iff.mpr hpass
    · exact hrest x hx

theorem ends_createItems_passed (hlists : r.ListsFree) (henv : env.Accepts) {request : Request}
    {items : List Members} (hs : s.Named)
    (hpass : ∀ item ∈ items, objection? i r ((request.withBody item).params r.attributes) s = none)
    (index : Nat) :
    Service.Ends env s (eachItem (fun item => createItem i r (request.withBody item)) index items)
      (fun _ _ => True) (fun e _ => ∃ k text, e = .item k (.conflict text)) := by
  -- For every store on the way: the items that are left pass the checks in each, as it has grown.
  induction items generalizing s index with
  | nil => exact Service.ends_pure trivial
  | cons item rest ih =>
    have hitem := hpass item (List.mem_cons_self ..)
    refine Service.ends_bind (Service.ends_mapError (Service.ends_mono
      (ends_createItem_passed hlists henv hs hitem) (fun _ _ h => h) fun e _ he => ?_)) ?_
    · obtain ⟨text, rfl⟩ := he
      exact ⟨index, text, rfl⟩
    · rintro c t ⟨ht, hgrow⟩
      have hrest : ∀ x ∈ rest, objection? i r ((request.withBody x).params r.attributes) t = none :=
        fun x hx => objection?_grow (hpass x (List.mem_cons_of_mem _ hx)) hs hgrow
      exact Service.ends_bind (ih ht hrest (index + 1)) fun _ _ _ => Service.ends_pure trivial

end

/-! ### Bodies -/

section
variable {env env' : Environment} {i : Interface} {r : Resource} {request : Request} {body : Value}

theorem isBulk_of_many {items : List Members} (h : Batch.ofBody body = .ok (.many items)) :
    IsBulk body := by
  by_contra hone
  cases body with
  | object ms =>
    rw [ofBody_one hone] at h
    cases h
  | _ => cases h

theorem not_isBulk_of_one {item : Members} (h : Batch.ofBody body = .ok (.one item)) :
    ¬ IsBulk body := by
  rintro ⟨ms, items, rfl, hitems⟩
  rw [ofBody_items hitems] at h
  cases hbodies : itemBodies 0 items with
  | error e =>
    rw [hbodies] at h
    cases h
  | ok bodies =>
    rw [hbodies] at h
    cases h

theorem ends_validateOnly_one (henv : env.Accepts) {s : Store} {item : Members}
    (h : Batch.ofBody body = .ok (.one item)) :
    Service.Ends env s (validateOnly i r body request)
      (fun _ _ => objection? i r ((request.withBody item).params r.attributes) s = none)
      (fun e _ => objection? i r ((request.withBody item).params r.attributes) s = some e) := by
  simp only [validateOnly, onBody, h, eachOf]
  have hcheck : Service.Ends env s (checkItem i r (request.withBody item))
      (fun _ _ => objection? i r ((request.withBody item).params r.attributes) s = none)
      (fun e _ => objection? i r ((request.withBody item).params r.attributes) s = some e) :=
    Service.ends_mono ends_checkItem (fun _ _ ht => objection?_eq_none_iff.mpr ht.2)
      fun e t ht => ht.2.resolve_right (not_refused henv e)
  exact Service.ends_bind (Service.ends_bind hcheck fun _ _ ht => Service.ends_pure ht)
    fun _ _ ht => Service.ends_pure ht

theorem ends_validateOnly_many {s : Store} {items : List Members}
    (h : Batch.ofBody body = .ok (.many items)) :
    Service.Ends env s (validateOnly i r body request)
      (fun _ _ => ∀ item ∈ items,
        objection? i r ((request.withBody item).params r.attributes) s = none)
      (fun _ _ => True) := by
  simp only [validateOnly, onBody, h, eachOf]
  have hchecks : Service.Ends env s (eachItem (fun item => checkItem i r (request.withBody item)) 0 items)
      (fun _ _ => ∀ item ∈ items,
        objection? i r ((request.withBody item).params r.attributes) s = none)
      (fun _ _ => True) :=
    Service.ends_mono (ends_checkItems items 0) (fun _ _ ht => ht.2) fun _ _ _ => trivial
  exact Service.ends_bind (Service.ends_bind hchecks fun _ _ ht => Service.ends_pure ht)
    fun _ _ ht => Service.ends_pure ht

variable {w w' : World} (hlists : r.ListsFree) (henv' : env'.Accepts) (hsame : w'.store = w.store)

include hlists henv' hsame

theorem ends_create_passed (henv : env.Accepts) (hs : w.store.Named)
    (hpass : (run env (validateOnly i r body request).run w).1 = .ok ()) :
    Service.Ends env' w'.store (create i r body request) (fun _ _ => True)
      (fun e _ => ∃ text, (¬ IsBulk body ∧ e = .conflict text) ∨
        IsBulk body ∧ ∃ index, e = .item index (.conflict text)) := by
  rw [hsame]
  cases hbody : Batch.ofBody body with
  | error bad =>
    simp only [validateOnly, onBody, hbody] at hpass
    cases hpass
  | ok batch =>
    cases batch with
    | one item =>
      have hends : Service.Ends env w.store (validateOnly i r body request) _ _ :=
        ends_validateOnly_one henv hbody
      have hdry := hends w rfl
      rw [hpass] at hdry
      have hitem := ends_createItem_passed hlists henv' hs hdry
      simp only [create, onBody, hbody, eachOf]
      refine Service.ends_bind (Service.ends_mono hitem (fun _ _ h => h) fun e _ he => ?_)
        fun _ _ _ => Service.ends_pure trivial
      obtain ⟨text, rfl⟩ := he
      exact ⟨text, .inl ⟨not_isBulk_of_one hbody, rfl⟩⟩
    | many items =>
      have hends : Service.Ends env w.store (validateOnly i r body request) _ _ :=
        ends_validateOnly_many hbody
      have hdry := hends w rfl
      rw [hpass] at hdry
      have hitems := ends_createItems_passed hlists henv' hs hdry 0
      simp only [create, onBody, hbody, eachOf]
      refine Service.ends_bind (Service.ends_mono hitems (fun _ _ h => h) fun e _ he => ?_)
        fun _ _ _ => Service.ends_pure trivial
      obtain ⟨index, text, rfl⟩ := he
      exact ⟨text, .inr ⟨isBulk_of_many hbody, index, rfl⟩⟩

theorem ends_create_stopped (henv : env.Accepts) (hone : ¬ IsBulk body) {e : ServiceError}
    (hstop : (run env (validateOnly i r body request).run w).1 = .error e) :
    Service.Ends env' w'.store (create i r body request) (fun _ _ => False)
      (fun err t => err = e ∧ t = w'.store) := by
  cases hbody : Batch.ofBody body with
  | error bad =>
    simp only [validateOnly, onBody, hbody] at hstop
    cases hstop
    simp only [create, onBody, hbody]
    exact Service.ends_fail ⟨rfl, rfl⟩
  | ok batch =>
    cases batch with
    | one item =>
      have hends : Service.Ends env w'.store (validateOnly i r body request) _ _ :=
        ends_validateOnly_one henv hbody
      have hdry := hends w hsame.symm
      rw [hstop] at hdry
      simp only [create, onBody, hbody, eachOf]
      exact Service.ends_bind (ends_createItem_stopped hlists henv' hdry) fun _ _ h => h.elim
    | many items => exact absurd (isBulk_of_many hbody) hone

end

/-- A dry run leaves the store. If it passes, a create of the same body and query from the same store makes
its records or meets an identity that is in use, under the record's place if there are several. If it fails
for a single record, the create fails in the same way and leaves the store. -/
theorem dry_run_tells_the_truth {ds : List Schema.ResourceDeclaration} {i : Interface}
    (hresolve : Schema.resolve ds = .ok i.registry) {r : Resource} (hr : r ∈ i.registry.resources)
    {h : History} (hon : h.On i.registry) {env env' : Environment} (henv : env.Accepts)
    (henv' : env'.Accepts) {w w' : World} (hw : w.store = h.after i Store.empty)
    (hsame : w'.store = w.store) (body : Value) (request : Request) :
    (run env (validateOnly i r body request).run w).2.store = w.store ∧
      ((run env (validateOnly i r body request).run w).1 = .ok () →
        (∃ made, (run env' (create i r body request).run w').1 = .ok made) ∨
          ∃ e, (run env' (create i r body request).run w').1 = .error e ∧
            ∃ text, (¬ IsBulk body ∧ e = .conflict text) ∨
              IsBulk body ∧ ∃ index, e = .item index (.conflict text)) ∧
      (¬ IsBulk body → ∀ e, (run env (validateOnly i r body request).run w).1 = .error e →
        (run env' (create i r body request).run w').1 = .error e ∧
          (run env' (create i r body request).run w').2.store = w'.store) := by
  have hg : i.registry.Consistent := Schema.consistent_of_resolve hresolve
  have hlists : r.ListsFree := hg.listsFree hr
  have hnamed : w.store.Named := hw ▸ History.named hg hon
  refine ⟨Service.store_of_keeps (P := (· = w.store)) (keeps_validateOnly body request) rfl, fun hpass => ?_,
    fun hone e hstop => ?_⟩
  · rcases Service.answer_of_ends (ends_create_passed hlists henv' hsame henv hnamed hpass) with
      ⟨made, hmade, -⟩ | ⟨e, he, hconflict⟩
    · exact .inl ⟨made, hmade⟩
    · exact .inr ⟨e, he, hconflict⟩
  · obtain ⟨err, herr, rfl, hstore⟩ :=
      Service.failure_of_ends (ends_create_stopped hlists henv' hsame henv hone hstop)
    exact ⟨herr, hstore⟩

/-! ### People for one group -/

/-- Ann twice. Each of the two passes the checks. -/
def twins : Value :=
  .object [("items", .array [.object [("name", .string "ann"), ("group", .string "ops")],
    .object [("name", .string "Ann")]])]

/-- A person of a group that is not there. -/
def stray : Value := .object [("name", .string "bob"), ("group", .string "dev")]

def dryRun (body : Value) : Except ServiceError Unit × World :=
  run (Groups.refusing none) (validateOnly Groups.interface Groups.person body (Groups.values [])).run
    { store := withOps }

def realRun (body : Value) : Except ServiceError (Batch Created) × World :=
  run (Groups.refusing none) (create Groups.interface Groups.person body (Groups.values [])).run
    { store := withOps }

theorem dry_run_tells_the_truth_groups :
    (dryRun twins).1 = .ok () ∧
      (∃ index text, (realRun twins).1 = .error (.item index (.conflict text))) ∧
      (dryRun stray).1 =
        .error (.relatedMissing "group" "Specified ID (dev) does not exist in group") ∧
      (realRun stray).1 =
        .error (.relatedMissing "group" "Specified ID (dev) does not exist in group") ∧
      (realRun stray).2.store = withOps := by
  have hr : Groups.person ∈ Groups.interface.registry.resources := by simp [Groups.interface]
  have hon : History.On Groups.interface.registry [Groups.newGroup "Ops"] := by
    simp [History.On, Groups.newGroup, Groups.interface]
  have hreached : (World.mk withOps 0 0 0).store =
      History.after Groups.interface [Groups.newGroup "Ops"] Store.empty := rfl
  have hsame : (World.mk withOps 0 0 0).store = (World.mk withOps 0 0 0).store := rfl
  have hpass : (dryRun twins).1 = .ok () := rfl
  have hstop : (dryRun stray).1 =
      .error (.relatedMissing "group" "Specified ID (dev) does not exist in group") := rfl
  have hfails : (realRun twins).1.toOption.isNone = true := by decide +kernel
  have hbulk : IsBulk twins := ⟨_, _, rfl, rfl⟩
  have hone : ¬ IsBulk stray := by
    rintro ⟨ms, items, he, hitems⟩
    cases he
    simp [Members.get?] at hitems
  have hall := dry_run_tells_the_truth Groups.resolve_declarations hr hon Groups.accepts Groups.accepts
    hreached hsame
  obtain ⟨-, htwins, -⟩ := hall twins (Groups.values [])
  obtain ⟨-, -, hstray⟩ := hall stray (Groups.values [])
  refine ⟨hpass, ?_, hstop, hstray hone _ hstop⟩
  rcases htwins hpass with ⟨made, hmade⟩ | ⟨e, he, text, ⟨hnot, -⟩ | ⟨-, index, rfl⟩⟩
  · rw [realRun, hmade] at hfails
    cases hfails
  · exact absurd hbulk hnot
  · exact ⟨index, text, he⟩

end Hypermedia.Operation
