import Hypermedia.Proofs.Read

/-!
# Records as answers show them

All records of an answer get their links before the first expansion is looked up, and every value that
was found goes back to the record and the field it came from. So each record is shown as it would be
alone, one level deep, and an answer fails at the first lookup that is refused.
-/

namespace Hypermedia.Link

open Program (Environment World run answer)
open Store (Document)

variable {env : Environment} {s : Store} {p : Place} {r : Resource} {collection id : String}
variable {expands : List String} {fields : Option (List String)}

/-- The value of an expansion, by the records of a store. -/
def expanded (s : Store) (p : Place) (e : Expansion) : Value :=
  match s.called e.target.name e.id with
  | some d => .object (linked p e.target e.target.plural
      (Document.materialize (Document.project d (some e.target.fieldNames))))
  | none => referenceLink p e.target.plural (.string e.id)

/-- A record as answers show it, by the records of a store. -/
def shown (s : Store) (p : Place) (r : Resource) (collection : String) (expands : List String)
    (fields : Option (List String)) (d : Document) : Document :=
  let (d, expansions) := linkRecord p r collection expands fields 0 (Document.materialize d)
  expansions.foldl (fun d e => Members.set d e.field (expanded s p e)) d

/-! ### Values put in their places -/

def Expansion.at (index : Nat) (e : Expansion) : Expansion := { e with record := index }

def Expansion.filled (s : Store) (p : Place) (e : Expansion) : Nat × String × Value :=
  (e.record, e.field, expanded s p e)

theorem linkField_at (index : Nat) (d : Document) (field : String) (relation : Relation) :
    linkField p collection id expands fields index d field relation =
      ((linkField p collection id expands fields 0 d field relation).1,
        (linkField p collection id expands fields 0 d field relation).2.map (Expansion.at index)) := by
  unfold linkField
  repeat' split
  all_goals rfl

theorem linkFields_at (index : Nat) (relations : List (String × Relation)) (d : Document) :
    linkFields p collection id expands fields index relations d =
      ((linkFields p collection id expands fields 0 relations d).1,
        (linkFields p collection id expands fields 0 relations d).2.map (Expansion.at index)) := by
  induction relations generalizing d with
  | nil => rfl
  | cons x relations ih =>
    obtain ⟨field, relation⟩ := x
    simp only [linkFields]
    rw [linkField_at index, ih]
    cases (linkField p collection id expands fields 0 d field relation).2 <;> rfl

theorem put_at (before : List Document) (d : Document) (after : List Document) (field : String)
    (v : Value) :
    put (before ++ d :: after) (before.length, field, v) = before ++ Members.set d field v :: after := by
  induction before with
  | nil => rfl
  | cons e before ih => exact congrArg (e :: ·) ih

theorem foldl_put_at (before after : List Document) (es : List Expansion) (d : Document) :
    ((es.map (Expansion.at before.length)).map (Expansion.filled s p)).foldl put (before ++ d :: after) =
      before ++ es.foldl (fun d e => Members.set d e.field (expanded s p e)) d :: after := by
  induction es generalizing d with
  | nil => rfl
  | cons e es ih =>
    rw [List.map_cons, List.map_cons, List.foldl_cons, List.foldl_cons]
    show List.foldl put (put (before ++ d :: after) (before.length, e.field, expanded s p e)) _ = _
    rw [put_at]
    exact ih _

/-- Every value reaches the record it belongs to, whatever the other records ask for. -/
theorem foldl_put_linkRecords (before ds : List Document) :
    ((linkRecords p r collection expands fields before.length ds).2.map (Expansion.filled s p)).foldl put
        (before ++ (linkRecords p r collection expands fields before.length ds).1) =
      before ++ ds.map (shown s p r collection expands fields) := by
  -- `before` are the records that are done, so their number is the number of the next one.
  induction ds generalizing before with
  | nil => rfl
  | cons d ds ih =>
    have hnext := ih (before ++ [shown s p r collection expands fields d])
    rw [List.length_append, List.length_singleton, List.append_assoc, List.append_assoc] at hnext
    simp only [linkRecords, linkRecord]
    rw [linkFields_at before.length, List.map_append, List.foldl_append, foldl_put_at]
    exact hnext

/-! ### Lookups -/

/-- The call that looks up the target of an expansion. -/
def Expansion.lookup (e : Expansion) : Call := .first e.target.name (.byId e.id) (some e.target.fieldNames)

/-- Why the first of some calls is refused that is refused, if they are made one after another. -/
def firstRefusal (env : Environment) : Nat → List Call → Option String
  | _, [] => none
  | n, c :: cs =>
    match env.refusal n c with
    | some reason => some reason
    | none => firstRefusal env (n + 1) cs

theorem firstRefusal_eq_some_iff {n : Nat} {cs : List Call} {reason : String} :
    firstRefusal env n cs = some reason ↔ ∃ k c, cs[k]? = some c ∧ env.refusal (n + k) c = some reason ∧
      ∀ j < k, ∀ c, cs[j]? = some c → env.refusal (n + j) c = none := by
  induction cs generalizing n with
  | nil => simp [firstRefusal]
  | cons c cs ih =>
    rw [firstRefusal]
    cases hc : env.refusal n c with
    | some first =>
      -- Nothing after this call is made, and a later place is ruled out by what stands before it.
      constructor
      · rintro ⟨⟩
        exact ⟨0, c, rfl, hc, fun j hj => absurd hj (Nat.not_lt_zero j)⟩
      · rintro ⟨k, c', hk, hreason, hbefore⟩
        cases k with
        | zero =>
          cases hk
          exact hc.symm.trans hreason
        | succ k => exact absurd (hbefore 0 k.succ_pos c rfl) (by rw [Nat.add_zero, hc]; exact nofun)
    | none =>
      -- The call is made, so every place among the rest is one further on.
      rw [ih]
      constructor
      · rintro ⟨k, c', hk, hreason, hbefore⟩
        refine ⟨k + 1, c', hk, by rwa [Nat.add_right_comm] at hreason, fun j hj c'' hj' => ?_⟩
        cases j with
        | zero =>
          cases hj'
          exact hc
        | succ j =>
          have h := hbefore j (Nat.lt_of_succ_lt_succ hj) c'' hj'
          rwa [Nat.add_right_comm] at h
      · rintro ⟨k, c', hk, hreason, hbefore⟩
        cases k with
        | zero =>
          cases hk
          exact absurd hreason (by rw [Nat.add_zero, hc]; exact nofun)
        | succ k =>
          refine ⟨k, c', hk, by rwa [Nat.add_right_comm], fun j hj c'' hj' => ?_⟩
          have h := hbefore (j + 1) (Nat.succ_lt_succ hj) c'' hj'
          rwa [Nat.add_right_comm]

theorem run_expand (e : Expansion) (w : World) :
    run env (expand p e).run w =
      (match env.refusal w.calls e.lookup with
        | some reason => .error (.store (.unavailable reason))
        | none => .ok (expanded w.store p e), { w with calls := w.calls + 1 }) := by
  have hfound : run env (Service.byId e.target.name e.id (some e.target.fieldNames)).run w = _ :=
    Service.run_byId ..
  rw [Expansion.lookup]
  unfold expand
  cases hr : env.refusal w.calls (.first e.target.name (.byId e.id) (some e.target.fieldNames)) with
  | some reason =>
    rw [hr] at hfound
    rw [Service.run_bind_of_error (congrArg Prod.fst hfound), hfound]
  | none =>
    rw [hr] at hfound
    rw [Service.run_bind_of_ok (congrArg Prod.fst hfound), hfound, expanded]
    cases w.store.called e.target.name e.id <;> rfl

theorem run_expandAll (es : List Expansion) (w : World) :
    (run env (expandAll p es).run w).1 =
      match firstRefusal env w.calls (es.map Expansion.lookup) with
      | some reason => .error (.store (.unavailable reason))
      | none => .ok (es.map (Expansion.filled w.store p)) := by
  induction es generalizing w with
  | nil => rfl
  | cons e es ih =>
    have hfirst : run env (expand p e).run w = _ := run_expand e w
    have hrest := ih { w with calls := w.calls + 1 }
    rw [List.map_cons, firstRefusal]
    unfold expandAll
    cases hr : env.refusal w.calls e.lookup with
    | some reason =>
      rw [hr] at hfirst
      rw [Service.run_bind_of_error (congrArg Prod.fst hfirst)]
    | none =>
      rw [hr] at hfirst
      rw [Service.run_bind_of_ok (congrArg Prod.fst hfirst), hfirst]
      dsimp only
      cases hall : firstRefusal env (w.calls + 1) (es.map Expansion.lookup) with
      | some reason =>
        rw [hall] at hrest
        rw [Service.run_bind_of_error hrest]
      | none =>
        rw [hall] at hrest
        rw [Service.run_bind_of_ok hrest]
        rfl

theorem run_resolve (ds : List Document) (w : World) :
    (run env (resolve p r collection expands fields ds).run w).1 =
      match firstRefusal env w.calls
          ((linkRecords p r collection expands fields 0 ds).2.map Expansion.lookup) with
      | some reason => .error (.store (.unavailable reason))
      | none => .ok (ds.map (shown w.store p r collection expands fields)) := by
  have hvalues : (run env (expandAll p (linkRecords p r collection expands fields 0 ds).2).run w).1 = _ :=
    run_expandAll ..
  unfold resolve
  cases hall : firstRefusal env w.calls
      ((linkRecords p r collection expands fields 0 ds).2.map Expansion.lookup) with
  | some reason =>
    rw [hall] at hvalues
    exact congrArg Prod.fst (Service.run_bind_of_error hvalues)
  | none =>
    rw [hall] at hvalues
    exact (congrArg Prod.fst (Service.run_bind_of_ok hvalues)).trans
      (congrArg Except.ok (foldl_put_linkRecords [] ds))

theorem ends_resolve (ds : List Document) :
    Service.Ends env s (resolve p r collection expands fields ds)
      (fun items t => t = s ∧ items = ds.map (shown s p r collection expands fields))
      (fun e _ => env.Refused e) := by
  rintro w rfl
  have hkept : (run env (resolve p r collection expands fields ds).run w).2.store = w.store :=
    Service.store_of_keeps (P := (· = w.store)) (keeps_resolve ds) rfl
  rw [run_resolve ds w]
  cases hall : firstRefusal env w.calls
      ((linkRecords p r collection expands fields 0 ds).2.map Expansion.lookup) with
  | some reason =>
    obtain ⟨k, c, -, hreason, -⟩ := firstRefusal_eq_some_iff.mp hall
    exact ⟨_, c, reason, hreason, rfl⟩
  | none => exact ⟨hkept, rfl⟩

end Hypermedia.Link
