import Hypermedia.Proofs.Conflict

/-!
# Bodies of several records

A create of several records is a create of each of them in order, every one in the world that the one
before it has left: the same references come out, and the same store. Where one fails the others are not
begun, and the failure gets the number of the records before it. A list with an item that is no object is
refused before anything is created.
-/

namespace Hypermedia.Operation

open Program (Environment World run)
open Hypermedia.Filter (Request)

def Batch.toList {α : Type} : Batch α → List α
  | one a => [a]
  | many as => as

/-- How far creates one after another have come: what they made, the failure that stopped them, and the
world that they left. -/
structure Progress where
  made : List Created
  failure : Option ServiceError
  world : World

/-- A create for each body, in the world that the one before it has left, up to the first failure. -/
def createEach (env : Environment) (i : Interface) (r : Resource) (request : Request) :
    List Value → World → Progress
  | [], w => ⟨[], none, w⟩
  | body :: bodies, w =>
    match run env (create i r body request).run w with
    | (.error e, v) => ⟨[], some e, v⟩
    | (.ok batch, v) =>
      let rest := createEach env i r request bodies v
      { rest with made := batch.toList ++ rest.made }

/-- What the creates sum up to if the first of them has this number: their references, or the failure
under the number of the record that it stopped. -/
def Progress.references (p : Progress) (index : Nat) : Except ServiceError (List Created) :=
  match p.failure with
  | none => .ok p.made
  | some e => .error (.item (index + p.made.length) e)

/-! ### The items of a body -/

theorem itemBodies_objects (bodies : List Members) (index : Nat) :
    itemBodies index (bodies.map .object) = .ok bodies := by
  induction bodies generalizing index with
  | nil => rfl
  | cons ms bodies ih => simp only [List.map_cons, itemBodies, ih, Except.map]

theorem itemBodies_not_object (before : List Members) {v : Value} (after : List Value)
    (hv : ∀ ms, v ≠ .object ms) (index : Nat) :
    itemBodies index (before.map .object ++ v :: after) =
      .error (.item (index + before.length) (.badRequest "item must be a JSON object")) := by
  induction before generalizing index with
  | nil =>
    cases v with
    | object ms => exact absurd rfl (hv ms)
    | _ => rfl
  | cons ms before ih =>
    have hindex : index + 1 + before.length = index + (before.length + 1) := by omega
    simp only [List.map_cons, List.cons_append, itemBodies, ih, Except.map, List.length_cons, hindex]

theorem ofBody_items {ms : Members} {items : List Value}
    (h : Members.get? ms "items" = some (.array items)) :
    Batch.ofBody (.object ms) = (itemBodies 0 items).map .many := by
  simp only [Batch.ofBody, h]

theorem ofBody_one {ms : Members} (h : ¬ IsBulk (.object ms)) : Batch.ofBody (.object ms) = .ok (.one ms) := by
  simp only [Batch.ofBody]
  split
  · rename_i items hitems
    exact absurd ⟨ms, items, rfl, hitems⟩ h
  · rfl

/-! ### Creates in order -/

section
variable (env : Environment) (i : Interface) (r : Resource) (request : Request)

theorem run_create_one {ms : Members} (h : ¬ IsBulk (.object ms)) (w : World) :
    run env (create i r (.object ms) request).run w =
      ((run env (createItem i r (request.withBody ms)).run w).1.map .one,
        (run env (createItem i r (request.withBody ms)).run w).2) := by
  simp only [create, onBody, ofBody_one h, eachOf]
  cases hr : (run env (createItem i r (request.withBody ms)).run w).1 with
  | ok c =>
    rw [Service.run_bind_of_ok hr]
    rfl
  | error e =>
    rw [Service.run_bind_of_error hr]
    rfl

/-- Working off items from an index on is creating each of them. -/
theorem run_eachItem {bodies : List Members} (h : ∀ ms ∈ bodies, ¬ IsBulk (.object ms)) (index : Nat)
    (w : World) :
    run env (eachItem (fun ms => createItem i r (request.withBody ms)) index bodies).run w =
      ((createEach env i r request (bodies.map .object) w).references index,
        (createEach env i r request (bodies.map .object) w).world) := by
  induction bodies generalizing index w with
  | nil => rfl
  | cons ms bodies ih =>
    have hone := run_create_one env i r request (h ms (List.mem_cons_self ..)) w
    have hitem := @Service.run_mapError _ env (createItem i r (request.withBody ms)) (.item index) w
    simp only [eachItem, List.map_cons, createEach, hone]
    cases hr : run env (createItem i r (request.withBody ms)).run w with
    | mk answer v =>
      rw [hr] at hitem
      cases answer with
      | error e =>
        rw [Service.run_bind_of_error (congrArg Prod.fst hitem), hitem]
        rfl
      | ok c =>
        rw [Service.run_bind_of_ok (congrArg Prod.fst hitem), hitem]
        have hrest := ih (fun x hx => h x (List.mem_cons_of_mem _ hx)) (index + 1) v
        simp only [Except.map]
        cases hf : (createEach env i r request (bodies.map .object) v).failure with
        | none =>
          have hok := congrArg Prod.fst hrest
          simp only [Progress.references, hf] at hok ⊢
          rw [Service.run_bind_of_ok hok, hrest]
          rfl
        | some e =>
          have herror := congrArg Prod.fst hrest
          simp only [Progress.references, hf] at herror ⊢
          rw [Service.run_bind_of_error herror, hrest]
          simp only [Batch.toList, List.length_append, List.length_singleton]
          rw [← Nat.add_assoc]

variable {env i r request}

/-- A failure stops the creates at the body that has as many before it as there are records made, and
nothing after it has a part in what was done. -/
theorem createEach_stopped {bodies : List Members} (h : ∀ ms ∈ bodies, ¬ IsBulk (.object ms)) {w : World}
    {e : ServiceError}
    (hf : (createEach env i r request (bodies.map .object) w).failure = some e) :
    ∃ before body after u, bodies = before ++ body :: after ∧
      before.length = (createEach env i r request (bodies.map .object) w).made.length ∧
      createEach env i r request (before.map .object) w =
        ⟨(createEach env i r request (bodies.map .object) w).made, none, u⟩ ∧
      run env (create i r (.object body) request).run u =
        (.error e, (createEach env i r request (bodies.map .object) w).world) := by
  induction bodies generalizing w with
  | nil => cases hf
  | cons ms bodies ih =>
    have hone := run_create_one env i r request (h ms (List.mem_cons_self ..)) w
    simp only [List.map_cons, createEach, hone] at hf ⊢
    cases hr : run env (createItem i r (request.withBody ms)).run w with
    | mk answer v =>
      rw [hr] at hone
      cases answer with
      | error e' =>
        simp only [hr, Except.map, Option.some.injEq] at hf
        subst hf
        exact ⟨[], ms, bodies, w, rfl, rfl, rfl, hone⟩
      | ok c =>
        simp only [hr, Except.map] at hf
        obtain ⟨before, body, after, u, hbodies, hlength, hbefore, hstop⟩ :=
          ih (fun x hx => h x (List.mem_cons_of_mem _ hx)) hf
        refine ⟨ms :: before, body, after, u, by rw [hbodies]; rfl, ?_, ?_, hstop⟩
        · simp only [Except.map, Batch.toList, List.length_append, List.length_cons, List.length_nil,
            hlength]
          omega
        · simp only [List.map_cons, createEach, hone, Except.map, hbefore]

/-! ### What is made stays -/

section
variable (hlists : r.ListsFree)

include hlists

theorem keeps_holds_create (collection id : String) (body : Value) :
    Service.Keeps env (fun s => s.Holds collection id) (create i r body request) := by
  exact keeps_create (keeps_holds_createItem hlists collection id) body request

theorem createEach_keeps {collection id : String} (bodies : List Value) {w : World}
    (hw : w.store.Holds collection id) :
    (createEach env i r request bodies w).world.store.Holds collection id := by
  induction bodies generalizing w with
  | nil => exact hw
  | cons body bodies ih =>
    have hkeeps : Service.Keeps env (fun s => s.Holds collection id) (create i r body request) :=
      keeps_holds_create hlists collection id body
    have hv := Service.store_of_keeps hkeeps hw
    simp only [createEach]
    cases hr : run env (create i r body request).run w with
    | mk answer v =>
      rw [hr] at hv
      cases answer with
      | error e => exact hv
      | ok batch => exact ih hv

theorem createEach_holds {bodies : List Members} (h : ∀ ms ∈ bodies, ¬ IsBulk (.object ms)) {w : World} :
    ∀ c ∈ (createEach env i r request (bodies.map .object) w).made,
      (createEach env i r request (bodies.map .object) w).world.store.Holds r.name c.id := by
  induction bodies generalizing w with
  | nil =>
    intro c hc
    cases hc
  | cons ms bodies ih =>
    have hone := run_create_one env i r request (h ms (List.mem_cons_self ..)) w
    have hend : Service.Ends env w.store (createItem i r (request.withBody ms)) _ _ :=
      ends_createItem hlists
    have hend := hend w rfl
    simp only [List.map_cons, createEach, hone]
    cases hr : run env (createItem i r (request.withBody ms)).run w with
    | mk answer v =>
      rw [hr] at hend
      cases answer with
      | error e =>
        intro c hc
        cases hc
      | ok c =>
        obtain ⟨-, now, hent⟩ := hend
        intro x hx
        rcases List.mem_cons.mp hx with rfl | hx
        · exact createEach_keeps hlists _ hent.holds_new
        · exact ih (fun y hy => h y (List.mem_cons_of_mem _ hy)) x hx

end

end

/-- A create of several records makes what creates of one make in order, each in the world that the one
before has left, and stops where they stop, with the failure under its place. What was made before stays.
A list with an item that is no object makes nothing, and the first such item is named. -/
theorem bulk_create_in_order {ds : List Schema.ResourceDeclaration} {i : Interface}
    (hresolve : Schema.resolve ds = .ok i.registry) {r : Resource} (hr : r ∈ i.registry.resources)
    (env : Environment) (w : World) (request : Request) {ms : Members} {items : List Value}
    (hitems : Members.get? ms "items" = some (.array items)) :
    (∀ bodies : List Members, items = bodies.map .object → (∀ b ∈ bodies, ¬ IsBulk (.object b)) →
      ∃ made failure v, createEach env i r request items w = ⟨made, failure, v⟩ ∧
        run env (create i r (.object ms) request).run w =
          (match failure with
            | none => .ok (.many made)
            | some e => .error (.item made.length e), v) ∧
        (∀ c ∈ made, v.store.Holds r.name c.id) ∧
        ∀ e, failure = some e → ∃ before body after u, bodies = before ++ body :: after ∧
          before.length = made.length ∧
          createEach env i r request (before.map .object) w = ⟨made, none, u⟩ ∧
          run env (create i r (.object body) request).run u = (.error e, v)) ∧
      ∀ (before : List Members) (v : Value) (after : List Value),
        items = before.map .object ++ v :: after → (∀ b, v ≠ .object b) →
        run env (create i r (.object ms) request).run w =
          (.error (.item before.length (.badRequest "item must be a JSON object")), w) := by
  have hlists : r.ListsFree := (Schema.consistent_of_resolve hresolve).listsFree hr
  constructor
  · rintro bodies rfl hone
    refine ⟨_, _, _, rfl, ?_, createEach_holds hlists hone, fun e he => createEach_stopped hone he⟩
    have hall := run_eachItem env i r request hone 0 w
    simp only [create, onBody, ofBody_items hitems, itemBodies_objects, Except.map, eachOf]
    cases hf : (createEach env i r request (bodies.map .object) w).failure with
    | none =>
      simp only [Progress.references, hf] at hall
      rw [Service.run_bind_of_ok (congrArg Prod.fst hall), hall]
      rfl
    | some e =>
      simp only [Progress.references, hf, Nat.zero_add] at hall
      rw [Service.run_bind_of_error (congrArg Prod.fst hall), hall]
  · rintro before v after rfl hv
    have hbad := itemBodies_not_object before after hv 0
    simp only [create, onBody, ofBody_items hitems, hbad, Except.map, Nat.zero_add]
    rfl

/-! ### Three people at once -/

/-- Ann, who is asked for twice, and Bob, who names her as his boss. -/
def people : List Members :=
  [[("name", .string "ann"), ("group", .string "ops")],
    [("name", .string "bob"), ("group", .string "ops"), ("boss", .string "ann")],
    [("name", .string "ann")], [("name", .string "cat")]]

/-- What the create of these people answers in a store where the group is. -/
def hired (items : List Value) : Except ServiceError (Batch Created) × World :=
  run (Groups.refusing none)
    (create Groups.interface Groups.person (.object [("items", .array items)]) (Groups.values [])).run
    { store := withOps }

theorem bulk_create_in_order_groups :
    (∀ b ∈ people, ¬ IsBulk (.object b)) ∧
      (∃ (made : List Created) (e : ServiceError) (v : World),
        hired (people.map .object) = (.error (.item made.length e), v) ∧
        made.map (·.id) = ["ann", "bob"] ∧
        e.message = "conflict: duplicate id 'ann' exists in person" ∧
        v.store.Holds "person" "ann" ∧ v.store.Holds "person" "bob") ∧
      hired [.object [("name", .string "ann")], .null] =
        (.error (.item 1 (.badRequest "item must be a JSON object")), { store := withOps }) := by
  have hone : ∀ b ∈ people, ¬ IsBulk (.object b) := by
    rintro b hb ⟨ms, items, he, hitems⟩
    cases he
    simp only [people, List.mem_cons, List.not_mem_nil, or_false] at hb
    rcases hb with rfl | rfl | rfl | rfl <;> cases hitems
  have hr : Groups.person ∈ Groups.interface.registry.resources := by simp [Groups.interface]
  have hids : (createEach (Groups.refusing none) Groups.interface Groups.person (Groups.values [])
      (people.map .object) { store := withOps }).made.map (·.id) = ["ann", "bob"] := by
    decide +kernel
  have hstop : (createEach (Groups.refusing none) Groups.interface Groups.person (Groups.values [])
      (people.map .object) { store := withOps }).failure.map (·.message) =
        some "conflict: duplicate id 'ann' exists in person" := by
    decide +kernel
  refine ⟨hone, ?_, ?_⟩
  · have hitems : Members.get? [("items", .array (people.map .object))] "items" =
        some (.array (people.map .object)) := rfl
    obtain ⟨hall, -⟩ := bulk_create_in_order Groups.resolve_declarations hr (Groups.refusing none)
      { store := withOps } (Groups.values []) hitems
    obtain ⟨made, failure, v, heach, hrun, hholds, -⟩ := hall people rfl hone
    rw [heach] at hids hstop
    obtain ⟨e, rfl, he⟩ := Option.map_eq_some_iff.mp hstop
    have hmember : ∀ id ∈ ["ann", "bob"], v.store.Holds "person" id := by
      intro id hid
      rw [← hids] at hid
      obtain ⟨c, hc, rfl⟩ := List.mem_map.mp hid
      exact hholds c hc
    exact ⟨made, e, v, hrun, hids, he, hmember "ann" (by decide), hmember "bob" (by decide)⟩
  · have hitems : Members.get? [("items", .array [.object [("name", .string "ann")], .null])] "items" =
        some (.array [.object [("name", .string "ann")], .null]) := rfl
    obtain ⟨-, hbad⟩ := bulk_create_in_order Groups.resolve_declarations hr (Groups.refusing none)
      { store := withOps } (Groups.values []) hitems
    exact hbad [[("name", .string "ann")]] .null [] rfl fun b hb => by cases hb

end Hypermedia.Operation
