import Hypermedia.Proofs.Delete
import Hypermedia.Proofs.Read
import Hypermedia.Proofs.Update

/-!
# Histories of operations

A history is a list of operations, each on a resource and in an environment of its own, which decides
what the clock shows and which calls of the store are refused. What every operation keeps holds after
every history.
-/

namespace Hypermedia.Operation

open Hypermedia.Filter (Request)

/-- An operation on a resource. -/
inductive Command where
  | list (request : Request)
  | listChildren (id field : String) (request : Request)
  | read (id : String) (request : Request)
  | create (body : Value) (request : Request)
  /-- One record; a body of several is worked off as such creates one after another. -/
  | createItem (request : Request)
  | validateOnly (body : Value) (request : Request)
  | update (id : String) (request : Request)
  | deleteCollection (request : Request)
  | deleteInstance (id : String)

namespace Command

def isDeletion : Command → Bool
  | deleteCollection _ => true
  | deleteInstance _ => true
  | _ => false

def service (i : Interface) (r : Resource) : Command → Service Unit
  | list request => do
    let _ ← Operation.list i r request
    pure ()
  | listChildren id field request => do
    let _ ← Operation.listChildren i r id field request
    pure ()
  | read id request => do
    let _ ← Operation.read i r id request
    pure ()
  | create body request => do
    let _ ← Operation.create i r body request
    pure ()
  | createItem request => do
    let _ ← Operation.createItem i r request
    pure ()
  | validateOnly body request => Operation.validateOnly i r body request
  | update id request => Operation.update i r id request
  | deleteCollection request => do
    let _ ← Operation.deleteCollection r request
    pure ()
  | deleteInstance id => Operation.deleteInstance r id

end Command

/-- One operation of a history. -/
structure Step where
  env : Program.Environment
  resource : Resource
  command : Command

/-- The store after an operation, whether it succeeds or fails. -/
def Step.after (i : Interface) (x : Step) (s : Store) : Store :=
  (Program.run x.env (x.command.service i x.resource).run { store := s }).2.store

/-- Operations in order. -/
abbrev History := List Step

namespace History

/-- The store after all operations. -/
def after (i : Interface) (h : History) (s : Store) : Store := h.foldl (fun s x => x.after i s) s

/-- All operations are on registered resources. -/
def On (g : Registry) (h : History) : Prop := ∀ x ∈ h, x.resource ∈ g.resources

end History

/-! ### What histories keep -/

section
variable {env : Program.Environment} {i : Interface} {r : Resource} {P : Store → Prop}

theorem keeps_create (h : ∀ request, Service.Keeps env P (createItem i r request)) (body : Value)
    (request : Request) : Service.Keeps env P (create i r body request) :=
  keeps_onBody (fun item => h (request.withBody item)) body

theorem keeps_deletion {c : Command} (hc : c.isDeletion = true)
    (h : ∀ s t : Store, t.Within s → P s → P t) : Service.Keeps env P (c.service i r) := by
  cases c with
  | deleteCollection request =>
    refine Service.keeps_bind (fun s hs => ?_) fun _ => Service.keeps_pure
    exact Service.ends_mono ends_deleteCollection (fun _ t ht => h s t ht hs)
      (fun _ t ht => h s t ht.1 hs)
  | deleteInstance id =>
    intro s hs
    exact Service.ends_mono ends_deleteInstance (fun _ t ht => h s t ht hs) (fun _ t ht => ht ▸ hs)
  | _ => cases hc

/-- An operation keeps what a create of one record keeps and an update keeps, and, if it deletes, what
holds of every part of a store. -/
theorem keeps_service (c : Command) (hcreate : ∀ request, Service.Keeps env P (createItem i r request))
    (hupdate : ∀ id request, Service.Keeps env P (update i r id request))
    (hdelete : c.isDeletion = true → ∀ s t : Store, t.Within s → P s → P t) :
    Service.Keeps env P (c.service i r) := by
  cases c with
  | list request => exact Service.keeps_bind keeps_list fun _ => Service.keeps_pure
  | listChildren id field request => exact Service.keeps_bind keeps_listChildren fun _ => Service.keeps_pure
  | read id request => exact Service.keeps_bind keeps_read fun _ => Service.keeps_pure
  | create body request =>
    exact Service.keeps_bind (keeps_create hcreate body request) fun _ => Service.keeps_pure
  | createItem request => exact Service.keeps_bind (hcreate request) fun _ => Service.keeps_pure
  | validateOnly body request => exact keeps_validateOnly body request
  | update id request => exact hupdate id request
  | deleteCollection request => exact keeps_deletion rfl (hdelete rfl)
  | deleteInstance id => exact keeps_deletion rfl (hdelete rfl)

/-- What entering a record, patching one with values that passed the check, listing records with their
owners and dropping records keep, every operation keeps. -/
theorem keeps_of_checked_writes (hlists : r.ListsFree)
    (hentered : ∀ s t params id now, P s → Admitted i r params id s → Entered r params id now s t → P t)
    (hpatched : ∀ s u id params patch, P s → i.validator r params true = [] →
      Patched r params id patch s u → P u)
    (hbookkept : ∀ s t listed, P s → s.Related (Bookkept r listed) t → P t)
    (hwithin : ∀ s t : Store, t.Within s → P s → P t) (c : Command) :
    Service.Keeps env P (c.service i r) := by
  refine keeps_service c (fun request => ?_) (fun id request => ?_) fun _ => hwithin
  · exact keeps_createItem hlists hentered (fun s t params id hs hst => hbookkept s t _ hs hst) request
  · exact keeps_checked_update hlists (fun s u params patch => hpatched s u id params patch) hbookkept
      request

theorem keeps_of_writes (hlists : r.ListsFree)
    (hentered : ∀ s t params id now, P s → Admitted i r params id s → Entered r params id now s t → P t)
    (hpatched : ∀ s u id params patch, P s → Patched r params id patch s u → P u)
    (hbookkept : ∀ s t listed, P s → s.Related (Bookkept r listed) t → P t)
    (hwithin : ∀ s t : Store, t.Within s → P s → P t) (c : Command) :
    Service.Keeps env P (c.service i r) :=
  keeps_of_checked_writes hlists hentered (fun s u id params patch hs _ => hpatched s u id params patch hs)
    hbookkept hwithin c

theorem Step.after_of_keeps {x : Step} (h : Service.Keeps x.env P (x.command.service i x.resource))
    {s : Store} (hs : P s) : P (x.after i s) := Service.store_of_keeps h hs

theorem History.after_of_keeps {h : History}
    (hstep : ∀ x ∈ h, Service.Keeps x.env P (x.command.service i x.resource)) {s : Store} (hs : P s) :
    P (h.after i s) := by
  induction h generalizing s with
  | nil => exact hs
  | cons x h ih =>
    have hx : P (x.after i s) := Step.after_of_keeps (hstep x (List.mem_cons_self ..)) hs
    exact ih (fun y hy => hstep y (List.mem_cons_of_mem _ hy)) hx

end

/-! ### A body of several records -/

theorem Step.after_eq (i : Interface) (r : Resource) (c : Command) (env : Program.Environment)
    (w : Program.World) : (Step.mk (env.later w) r c).after i w.store =
      (Program.run env (c.service i r).run w).2.store := by
  have hrun := Program.run_later env (c.service i r).run w { store := w.store }
  exact (congrArg (fun x => x.2.store) hrun).symm

section
variable (i : Interface) (r : Resource) (request : Request) (env : Program.Environment)

theorem createItem_after (item : Members) (w : Program.World) :
    (Step.mk (env.later w) r (.createItem (request.withBody item))).after i w.store =
      (Program.run env (createItem i r (request.withBody item)).run w).2.store := by
  rw [Step.after_eq]
  exact congrArg Program.World.store (Service.run_bind_pure _ _ w)

theorem eachItem_after (items : List Members) (index : Nat) (w : Program.World) :
    ∃ h : History, (∀ x ∈ h, x.resource = r ∧ ∃ item, x.command = .createItem (request.withBody item)) ∧
      h.after i w.store = (Program.run env
        (eachItem (fun item => createItem i r (request.withBody item)) index items).run w).2.store := by
  induction items generalizing index w with
  | nil => exact ⟨[], by simp, rfl⟩
  | cons item rest ih =>
    let x : Step := ⟨env.later w, r, .createItem (request.withBody item)⟩
    have hx : x.after i w.store = _ := createItem_after i r request env item w
    have hmap := @Service.run_mapError _ env (createItem i r (request.withBody item)) (.item index) w
    have hw : (Program.run env (Service.mapError (.item index)
        (createItem i r (request.withBody item))).run w).2.store = x.after i w.store := by
      rw [hmap, hx]
    have hcommand : ∃ item', x.command = .createItem (request.withBody item') := ⟨item, rfl⟩
    simp only [eachItem]
    cases hr : (Program.run env (Service.mapError (.item index)
        (createItem i r (request.withBody item))).run w).1 with
    | error e =>
      refine ⟨[x], fun y hy => ?_, ?_⟩
      · rw [List.mem_singleton.mp hy]
        exact ⟨rfl, hcommand⟩
      · rw [Service.run_bind_of_error hr, hw]
        rfl
    | ok c =>
      obtain ⟨h, hh, hstore⟩ := ih (index + 1) (Program.run env (Service.mapError (.item index)
        (createItem i r (request.withBody item))).run w).2
      refine ⟨x :: h, fun y hy => ?_, ?_⟩
      · rcases List.mem_cons.mp hy with rfl | hy
        · exact ⟨rfl, hcommand⟩
        · exact hh y hy
      · rw [Service.run_bind_of_ok hr, Service.run_bind_pure, ← hstore, hw]
        rfl

theorem create_after (body : Value) (w : Program.World) :
    ∃ h : History, (∀ x ∈ h, x.resource = r ∧ ∃ item, x.command = .createItem (request.withBody item)) ∧
      h.after i w.store = (Program.run env (create i r body request).run w).2.store := by
  unfold create onBody
  cases Batch.ofBody body with
  | error e => exact ⟨[], by simp, rfl⟩
  | ok batch =>
    cases batch with
    | one item =>
      refine ⟨[⟨env.later w, r, .createItem (request.withBody item)⟩], fun y hy => ?_, ?_⟩
      · rw [List.mem_singleton.mp hy]
        exact ⟨rfl, item, rfl⟩
      · refine (createItem_after i r request env item w).trans ?_
        exact congrArg Program.World.store (Service.run_bind_pure _ _ w).symm
    | many items =>
      obtain ⟨h, hh, hstore⟩ := eachItem_after i r request env items 0 w
      refine ⟨h, hh, hstore.trans ?_⟩
      exact congrArg Program.World.store (Service.run_bind_pure _ _ w).symm

end

/-! ### Stores of named documents -/

section
variable {env : Program.Environment} {i : Interface} {r : Resource}

theorem named_of_within {s t : Store} (h : t.Within s) (hs : s.Named) : t.Named :=
  fun c d hd => hs c d ((h c).subset hd)

theorem Entered.named (hlists : r.ListsFree) {params : Members} {id now : String} {s t : Store}
    (h : Entered r params id now s t) (hs : s.Named) : t.Named := by
  obtain ⟨u, hsu, -, rfl⟩ := h
  have hu : u.Named := Store.named_of_bookkept hlists hsu hs
  intro c d hd
  rcases Store.mem_documents_append.mp hd with hd | ⟨-, rfl⟩
  · exact hu c d hd
  · rw [Record.id?_new]
    rfl

theorem Patched.named (hnames : r.NamesFree) {params : Members} {id : String} {patch : Store.Document}
    {s u : Store} (h : Patched r params id patch s u) (hs : s.Named) : u.Named := by
  intro c e he
  obtain ⟨d, hd, hde⟩ := forall₂_mem_right (h.related c) he
  rcases hde with rfl | ⟨-, -, rfl⟩
  · exact hs c e hd
  · rw [h.id?_eq hnames]
    exact hs c d hd

theorem keeps_named_createItem (hlists : r.ListsFree) (request : Request) :
    Service.Keeps env Store.Named (createItem i r request) := by
  refine keeps_createItem hlists (fun s t params id now hs _ hent => ?_)
    (fun s t params id hs hst => ?_) request
  · exact hent.named hlists hs
  · exact Store.named_of_bookkept hlists hst hs

theorem keeps_named_update (hlists : r.ListsFree) (hnames : r.NamesFree) (id : String)
    (request : Request) : Service.Keeps env Store.Named (update i r id request) := by
  refine keeps_update hlists (fun s u params patch hs hpatched => ?_)
    (fun u t listed hu hut => ?_) request
  · exact hpatched.named hnames hs
  · exact Store.named_of_bookkept hlists hut hu

theorem keeps_named {g : Registry} (hg : g.Consistent) (hr : r ∈ g.resources) (c : Command) :
    Service.Keeps env Store.Named (c.service i r) :=
  keeps_service c (keeps_named_createItem (hg.listsFree hr))
    (keeps_named_update (hg.listsFree hr) (hg.namesFree hr)) fun _ _ _ => named_of_within

theorem named_empty : Store.empty.Named := by
  intro c d hd
  cases hd

theorem History.named {h : History} (hg : i.registry.Consistent) (hon : h.On i.registry) :
    (h.after i Store.empty).Named :=
  History.after_of_keeps (fun x hx => keeps_named hg (hon x hx) x.command) named_empty

end

end Hypermedia.Operation

/-! ### Groups of people

Declarations that later theorems are used at: a person belongs to a group and to another person. -/

namespace Hypermedia.Groups

open Operation (Step)

def declared (kind : Schema.Kind) (relation : Option String) (unique : Bool) :
    Schema.AttributeDeclaration :=
  ⟨kind, relation, none, false, unique, false, none, {}⟩

def declarations : List Schema.ResourceDeclaration :=
  [("group", [("name", declared .string none true),
      ("members", declared .children (some "person") false)]),
    ("person", [("name", declared .string none true),
      ("group", declared .parent (some "group.members") false),
      ("boss", declared .parent (some "person.staff") false),
      ("staff", declared .children (some "person") false)])]

def group : Resource :=
  ⟨"group", "groups", [{ name := "name", type := .string, unique := true },
    { name := "members", type := .relation (.children "person") }]⟩

def person : Resource :=
  ⟨"person", "people", [{ name := "name", type := .string, unique := true },
    { name := "group", type := .relation (.parent "group" "members") },
    { name := "boss", type := .relation (.parent "person" "staff") },
    { name := "staff", type := .relation (.children "person") }]⟩

def interface : Interface := { registry := ⟨[group, person]⟩, settings := {} }

theorem distinct_declarations : Schema.Distinct declarations := by
  simp [Schema.Distinct, declarations]

set_option maxRecDepth 10000 in
theorem resolve_declarations : Schema.resolve declarations = .ok interface.registry := rfl

/-- An environment that refuses one call of the store at most. -/
def refusing (call : Option Nat) : Program.Environment where
  refusal n _ := if some n = call then some "down" else none
  clock _ := ⟨0, 0⟩
  random _ := 0

/-- A request that supplies values in its body only. -/
def values (ms : Members) : Filter.Request := ⟨some ms, [], []⟩

/-- A group of this name is created. -/
def newGroup (name : String) : Step :=
  ⟨refusing none, group, .createItem (values [("name", .string name)])⟩

theorem accepts : (refusing none).Accepts := fun _ _ => rfl

end Hypermedia.Groups
