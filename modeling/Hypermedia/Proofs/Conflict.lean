import Hypermedia.Proofs.History

/-!
# Creates never overwrite

The identity of a new record is a function of the normalized forms of its unique values, no operation
but a delete takes a record's identity out of its collection, and a create stops at an identity that is
in use. So as long as a record is there, a second create for the same unique values is a conflict. What
any create does to the records that were there is the bookkeeping of their lists.
-/

namespace Hypermedia.Operation

open Store (Document)
open Program (Environment World run)
open Hypermedia.Filter (Request)

/-- After each of its deletes, a history still finds a record of this identity in the collection. -/
def History.Spares (i : Interface) (collection id : String) : History → Store → Prop
  | [], _ => True
  | x :: rest, s => (x.command.isDeletion = true → (x.after i s).Holds collection id) ∧
      Spares i collection id rest (x.after i s)

/-- A store has the records of another one at the same places, changed by listing new records of `r` with
their owners only. What it has beside them stands at the end of the collection of `r`. -/
def Extends (r : Resource) (s t : Store) : Prop :=
  ∀ collection, ∃ kept added, t.documents collection = kept ++ added ∧
    List.Forall₂
      (Bookkept r (fun values child => ∃ params id, NewRecord r params id values child) collection)
      (s.documents collection) kept ∧
    (collection ≠ r.name → added = [])

section
variable {env : Environment} {i : Interface} {r : Resource} {s t u : Store} {collection id : String}

/-! ### Identities stay in use -/

theorem Entered.holds (hlists : r.ListsFree) {params : Members} {rid now : String}
    (h : Entered r params rid now s t) (hs : s.Holds collection id) : t.Holds collection id := by
  obtain ⟨u, hsu, -, rfl⟩ := h
  obtain ⟨d, hd, hid⟩ := Store.holds_of_bookkept hlists hsu hs
  exact ⟨d, Store.mem_documents_append.mpr (.inl hd), hid⟩

theorem Entered.holds_new {params : Members} {now : String} (h : Entered r params id now s t) :
    t.Holds r.name id := by
  obtain ⟨u, -, -, rfl⟩ := h
  refine ⟨Record.new r params id now, ?_, Record.id?_new r params id now⟩
  exact Store.mem_documents_append.mpr (.inr ⟨rfl, rfl⟩)

theorem keeps_holds_createItem (hlists : r.ListsFree) (collection id : String) (request : Request) :
    Service.Keeps env (fun s => s.Holds collection id) (createItem i r request) :=
  keeps_createItem hlists (fun _ _ _ _ _ hs _ hent => hent.holds hlists hs)
    (fun _ _ _ _ hs hst => Store.holds_of_bookkept hlists hst hs) request

theorem keeps_holds {g : Registry} (hg : g.Consistent) (hr : r ∈ g.resources) {c : Command}
    (hc : c.isDeletion = false) : Service.Keeps env (fun s => s.Holds collection id) (c.service i r) := by
  have hlists : r.ListsFree := hg.listsFree hr
  have hnames : r.NamesFree := hg.namesFree hr
  refine keeps_service c (fun request => ?_) (fun pid request => ?_) (fun hd => ?_)
  · exact keeps_holds_createItem hlists collection id request
  · exact keeps_update hlists (fun s u params patch hs hpatched => hpatched.holds hnames hs)
      (fun u t listed hu hut => Store.holds_of_bookkept hlists hut hu) request
  · rw [hc] at hd
    cases hd

theorem History.holds {h : History} (hg : i.registry.Consistent) (hon : h.On i.registry)
    (hspares : h.Spares i collection id s) (hs : s.Holds collection id) :
    (h.after i s).Holds collection id := by
  induction h generalizing s with
  | nil => exact hs
  | cons x h ih =>
    have hx : (x.after i s).Holds collection id := by
      cases hc : x.command.isDeletion with
      | true => exact hspares.1 hc
      | false =>
        exact Step.after_of_keeps (P := fun s => s.Holds collection id)
          (keeps_holds hg (hon x (List.mem_cons_self ..)) hc) hs
    exact ih (fun y hy => hon y (List.mem_cons_of_mem _ hy)) hspares.2 hx

/-! ### A second create -/

theorem ends_createItem_held (hlists : r.ListsFree) (hu : r.uniqueFields ≠ []) {request : Request}
    (hid : Identity.derived? r.uniqueFields (request.params r.attributes) = some id)
    (hs : s.Holds r.name id) :
    Service.Ends env s (createItem i r request) (fun _ _ => False)
      (fun e t => t = s ∧ (objection? i r (request.params r.attributes) s = some e ∨
        e = .conflict ("duplicate id '" ++ id ++ "' exists in " ++ r.name) ∨ env.Refused e)) := by
  have hno : ∀ rid, ¬ Admitted i r (request.params r.attributes) rid s := by
    intro rid hadm
    have he := hadm.identity.derived hu
    rw [hid] at he
    cases he
    exact Store.not_holds_of_called hadm.fresh hs
  refine Service.ends_mono (ends_createItem hlists) (fun c t ht => hno c.id ht.1) (fun e t ht => ?_)
  rcases ht with ⟨rfl, hobjection | ⟨-, rid, hname, rfl⟩ | hrefused⟩ | ⟨rid, hadm, -⟩
  · exact ⟨rfl, .inl hobjection⟩
  · have he := hname.derived hu
    rw [hid] at he
    cases he
    exact ⟨rfl, .inr (.inl rfl)⟩
  · exact ⟨rfl, .inr (.inr hrefused)⟩
  · exact absurd hadm (hno rid)

/-! ### What a create leaves of the records before -/

theorem extends_refl (s : Store) : Extends r s s := by
  intro c
  refine ⟨s.documents c, [], (List.append_nil _).symm, ?_, fun _ => rfl⟩
  exact Store.bookkept_refl s c

theorem Extends.trans (h : Extends r s t) (h' : Extends r t u) : Extends r s u := by
  intro c
  obtain ⟨kept, added, ht, hkept, hadded⟩ := h c
  obtain ⟨kept', added', hu, hkept', hadded'⟩ := h' c
  rw [ht] at hkept'
  obtain ⟨front, rest, rfl, hfront, hrest⟩ := forall₂_append_left hkept'
  refine ⟨front, rest ++ added', by rw [hu, List.append_assoc], ?_, fun hc => ?_⟩
  · exact forall₂_trans (R := Bookkept r _ c) (fun _ _ _ hd he => hd.trans he) hkept hfront
  · have hnil := hadded hc
    subst hnil
    cases hrest
    exact hadded' hc

theorem extends_of_bookkept {params : Members} {rid : String}
    (h : s.Related (Bookkept r (NewRecord r params rid)) t) : Extends r s t := by
  intro c
  refine ⟨t.documents c, [], (List.append_nil _).symm, ?_, fun _ => rfl⟩
  exact (h c).imp fun _ _ hb => hb.mono fun values child hn => ⟨params, rid, hn⟩

theorem Entered.extends {params : Members} {rid now : String} (h : Entered r params rid now s t) :
    Extends r s t := by
  obtain ⟨u, hsu, -, rfl⟩ := h
  refine (extends_of_bookkept hsu).trans fun c => ?_
  rw [Store.documents_withDocuments]
  split
  · rename_i hname
    subst hname
    exact ⟨u.documents r.name, [_], rfl, Store.bookkept_refl u r.name, fun hc => absurd rfl hc⟩
  · exact ⟨u.documents c, [], (List.append_nil _).symm, Store.bookkept_refl u c, fun _ => rfl⟩

theorem keeps_extends (hlists : r.ListsFree) (s : Store) (request : Request) :
    Service.Keeps env (Extends r s) (createItem i r request) := by
  refine keeps_createItem hlists (fun t u params rid now ht _ hent => ?_)
    (fun t u params rid ht htu => ?_) request
  · exact ht.trans hent.extends
  · exact ht.trans (extends_of_bookkept htu)

end

/-- As long as a history spares a created record, every further create for unique values of the same
normalized forms fails and changes nothing, and if its checks pass then it fails with the conflict. No
create, of one record or of several, does more to the records before it than listing new ones with their
owners. -/
theorem create_never_overwrites {ds : List Schema.ResourceDeclaration} {i : Interface}
    (hresolve : Schema.resolve ds = .ok i.registry) {r : Resource} (hr : r ∈ i.registry.resources) :
    (∀ (env : Environment) (w : World) (first : Request) (c : Created), r.uniqueFields ≠ [] →
      (run env (createItem i r first).run w).1 = .ok c →
      ∀ between : History, between.On i.registry →
        between.Spares i r.name c.id (run env (createItem i r first).run w).2.store →
      ∀ (env' : Environment) (w' : World) (further : Request),
        w'.store = between.after i (run env (createItem i r first).run w).2.store →
        (∀ f ∈ r.uniqueFields, Identity.normalized (Members.get? (further.params r.attributes) f) =
          Identity.normalized (Members.get? (first.params r.attributes) f)) →
        (∃ e, (run env' (createItem i r further).run w').1 = .error e) ∧
          (run env' (createItem i r further).run w').2.store = w'.store ∧
          (env'.Accepts → (run env' (checkItem i r further).run w').1 = .ok () →
            (run env' (createItem i r further).run w').1 =
              .error (.conflict ("duplicate id '" ++ c.id ++ "' exists in " ++ r.name)))) ∧
      ∀ (env : Environment) (w : World) (body : Value) (request : Request),
        Extends r w.store (run env (create i r body request).run w).2.store := by
  have hg : i.registry.Consistent := Schema.consistent_of_resolve hresolve
  have hlists : r.ListsFree := hg.listsFree hr
  constructor
  · intro env w first c hu hmade between hon hspares env' w' further hw' hsame
    have hfirst : Service.Ends env w.store (createItem i r first) _ _ := ends_createItem hlists
    have hok := hfirst w rfl
    rw [hmade] at hok
    obtain ⟨hadm, now, hent⟩ := hok
    have hid : Identity.derived? r.uniqueFields (further.params r.attributes) = some c.id :=
      (Identity.derived?_congr hsame).trans (hadm.identity.derived hu)
    have hheld : w'.store.Holds r.name c.id := by
      rw [hw']
      exact History.holds hg hon hspares hent.holds_new
    have hend : Service.Ends env' w'.store (createItem i r further) _ _ :=
      ends_createItem_held hlists hu hid hheld
    obtain ⟨e, he, hstore, hwhy⟩ := Service.failure_of_ends hend
    refine ⟨⟨e, he⟩, hstore, fun henv hcheck => ?_⟩
    have hpassed : objection? i r (further.params r.attributes) w'.store = none := by
      have hend : Service.Ends env' w'.store (checkItem i r further) _ _ := ends_checkItem
      have hok := hend w' rfl
      rw [hcheck] at hok
      exact objection?_eq_none_iff.mpr hok.2
    rw [hpassed] at hwhy
    rcases hwhy with hobjection | rfl | hrefused
    · cases hobjection
    · exact he
    · exact absurd hrefused (not_refused henv e)
  · intro env w body request
    have hkeeps : Service.Keeps env (Extends r w.store) (create i r body request) :=
      keeps_create (keeps_extends hlists w.store) body request
    exact Service.store_of_keeps hkeeps (extends_refl w.store)

/-! ### A group that is created twice -/

/-- The create of a group of this name. -/
def groupNamed (name : String) : Service Created :=
  createItem Groups.interface Groups.group (Groups.values [("name", .string name)])

/-- The store after the first create. -/
def withOps : Store :=
  (run (Groups.refusing none) (groupNamed "Ops").run { store := Store.empty }).2.store

/-- A person joins the group, another group is created and deleted, the group gets an update. -/
def meanwhile : History :=
  [⟨Groups.refusing none, Groups.person,
      .createItem (Groups.values [("name", .string "ann"), ("group", .string "ops")])⟩,
    Groups.newGroup "dev",
    ⟨Groups.refusing none, Groups.group, .deleteInstance "dev"⟩,
    ⟨Groups.refusing none, Groups.group, .update "ops" (Groups.values [])⟩]

theorem meanwhile_spares : meanwhile.Spares Groups.interface "group" "ops" withOps := by
  have hheld : ((History.after Groups.interface (meanwhile.take 3) withOps).documents "group").any
      (fun d => Document.id? d == some "ops") = true := by decide +kernel
  obtain ⟨d, hd, hid⟩ := List.any_eq_true.mp hheld
  have hholds : (History.after Groups.interface (meanwhile.take 3) withOps).Holds "group" "ops" :=
    ⟨d, hd, by simpa using hid⟩
  refine ⟨fun h => ?_, fun h => ?_, fun _ => hholds, fun h => ?_, trivial⟩
  · cases h
  · cases h
  · cases h

theorem create_never_overwrites_groups :
    (run (Groups.refusing none) (groupNamed "Ops").run { store := Store.empty }).1 =
        .ok ⟨"ops", "/groups/ops"⟩ ∧
      (run (Groups.refusing none) (groupNamed "OPS").run
        { store := meanwhile.after Groups.interface withOps }).1 =
          .error (.conflict "duplicate id 'ops' exists in group") ∧
      (run (Groups.refusing none) (groupNamed "OPS").run
        { store := meanwhile.after Groups.interface withOps }).2.store =
          meanwhile.after Groups.interface withOps ∧
      Extends Groups.group withOps (run (Groups.refusing none)
        (create Groups.interface Groups.group (.object [("name", .string "dev")]) (Groups.values [])).run
          { store := withOps }).2.store := by
  have hmade : (run (Groups.refusing none) (groupNamed "Ops").run { store := Store.empty }).1 =
      .ok ⟨"ops", "/groups/ops"⟩ := rfl
  have hon : meanwhile.On Groups.interface.registry := by
    simp [History.On, meanwhile, Groups.newGroup, Groups.interface]
  have hunique : Groups.group.uniqueFields ≠ [] := by decide
  have hsame : ∀ f ∈ Groups.group.uniqueFields,
      Identity.normalized (Members.get?
        ((Groups.values [("name", .string "OPS")]).params Groups.group.attributes) f) =
      Identity.normalized (Members.get?
        ((Groups.values [("name", .string "Ops")]).params Groups.group.attributes) f) := by
    decide +kernel
  have hcheck : (run (Groups.refusing none) (checkItem Groups.interface Groups.group
      (Groups.values [("name", .string "OPS")])).run
        { store := meanwhile.after Groups.interface withOps }).1 = .ok () := rfl
  obtain ⟨hagain, hextends⟩ := create_never_overwrites (i := Groups.interface) (r := Groups.group)
    Groups.resolve_declarations (List.mem_cons_self ..)
  obtain ⟨-, hstore, hconflict⟩ := hagain _ _ _ _ hunique hmade meanwhile hon meanwhile_spares
    (Groups.refusing none) { store := meanwhile.after Groups.interface withOps }
    (Groups.values [("name", .string "OPS")]) rfl hsame
  exact ⟨hmade, hconflict Groups.accepts hcheck, hstore, hextends _ { store := withOps } _ _⟩

end Hypermedia.Operation
