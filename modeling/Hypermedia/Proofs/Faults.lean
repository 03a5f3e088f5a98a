import Hypermedia.Proofs.Catalog
import Hypermedia.Proofs.Statements

/-!
# Circles that are not written in numbers

A condition keeps the circles that it asks for as they were written. Making it ready resolves them one after
another, and so does the layout of every statement that asks for it, in the same order. If all its patterns
can be read, the first circle that is not written in numbers therefore ends all of them, with the same
message; and a statement that puts the nearest first resolves one of the same circles again.
-/

namespace Hypermedia

/-- What a result failed with. -/
def Store.failure? {α : Type} : Except Error α → Option Error
  | .ok _ => none
  | .error e => some e

theorem Store.failure?_eq_none_iff {α : Type} {x : Except Error α} :
    failure? x = none ↔ ∃ a, x = .ok a := by
  cases x <;> simp [failure?]

theorem Store.failure?_eq_some_iff {α : Type} {x : Except Error α} {e : Error} :
    failure? x = some e ↔ x = .error e := by
  cases x <;> simp [failure?]

namespace Filter

open Store (failure?)

/-! ### Faults of conditions -/

/-- A predicate's pattern, if it has one, can be read. -/
def Predicate.Readable : Predicate → Prop
  | .pattern source => (Regex.ofString? source).isSome
  | _ => True

/-- What the circle of a predicate cannot be resolved for. -/
def Predicate.fault? : Predicate → Option Store.Error
  | .near n => failure? n.resolve
  | _ => none

/-- The fault of the first predicate that has one. -/
def Condition.fault? (c : Condition) : Option Store.Error := c.findSome? (·.2.fault?)

theorem Condition.fault?_cons (x : String × Predicate) (c : Condition) :
    Condition.fault? (x :: c) = x.2.fault?.or (Condition.fault? c) := by
  rw [fault?, List.findSome?_cons]
  cases x.2.fault? <;> rfl

theorem Condition.fault?_eq_none_iff (c : Condition) :
    c.fault? = none ↔ ∀ field n, (field, .near n) ∈ c → ∃ circle, n.resolve = .ok circle := by
  rw [fault?, List.findSome?_eq_none_iff]
  constructor
  · exact fun h field n hn => Store.failure?_eq_none_iff.mp (h _ hn)
  · rintro h ⟨field, p⟩ hp
    cases p with
    | near n => exact Store.failure?_eq_none_iff.mpr (h field n hp)
    | _ => rfl

/-- The fault of a condition is the one of its first circle that cannot be resolved. -/
theorem Condition.exists_of_fault? {c : Condition} {e : Store.Error} (h : c.fault? = some e) :
    ∃ before field n after, c = before ++ (field, .near n) :: after ∧ n.resolve = .error e ∧
      Condition.fault? before = none := by
  rw [fault?, List.findSome?_eq_some_iff] at h
  obtain ⟨before, ⟨field, p⟩, after, hc, hp, hbefore⟩ := h
  cases p with
  | near n =>
    exact ⟨before, field, n, after, hc, Store.failure?_eq_some_iff.mp hp,
      List.findSome?_eq_none_iff.mpr hbefore⟩
  | _ => cases hp

theorem Predicate.failure?_prepare {p : Predicate} (h : p.Readable) : failure? p.prepare = p.fault? := by
  cases p with
  | pattern source =>
    obtain ⟨r, hr⟩ := Option.isSome_iff_exists.mp h
    rw [prepare, hr]
    rfl
  | near n =>
    rw [prepare, fault?]
    cases n.resolve <;> rfl
  | _ => rfl

/-- A condition is made ready predicate by predicate, until one of them is at fault. -/
theorem Condition.failure?_prepare {c : Condition} (h : ∀ x ∈ c, x.2.Readable) :
    failure? (Condition.prepare c) = c.fault? := by
  induction c with
  | nil => rfl
  | cons x c ih =>
    obtain ⟨field, p⟩ := x
    obtain ⟨hp, hc⟩ := List.forall_mem_cons.mp h
    rw [fault?_cons, ← Predicate.failure?_prepare hp, ← ih hc, prepare]
    cases p.prepare with
    | error => rfl
    | ok => cases Condition.prepare c <;> rfl

/-- No predicate before the first circle has a fault. -/
theorem Condition.fault?_of_near? {c : Condition} {field : String} {n : Near}
    (h : Condition.near? c = some (field, n)) {e : Store.Error} (he : n.resolve = .error e) :
    c.fault? = some e := by
  fun_induction Condition.near? c with
  | case1 => cases h
  | case2 field' n' c =>
    cases h
    rw [fault?_cons, Predicate.fault?, he]
    rfl
  | case3 x c hx ih =>
    obtain ⟨field', p⟩ := x
    have hp : p.fault? = none := by
      cases p with
      | near n' => exact (hx field' n' rfl).elim
      | _ => rfl
    rw [fault?_cons, hp, Option.none_or, ih h]

/-! ### What a circle cannot be resolved for -/

theorem Near.number_eq_error {part s : String} {e : Store.Error} (h : Near.number part s = .error e) :
    e = .invalidQuery ("geo " ++ part ++ " '" ++ s ++ "' is not a number") := by
  unfold Near.number at h
  split at h <;> cases h
  rfl

/-- A circle is refused for the query, and the message names a part of it. -/
theorem Near.resolve_eq_error {n : Near} {e : Store.Error} (h : n.resolve = .error e) :
    ∃ part s, e = .invalidQuery ("geo " ++ part ++ " '" ++ s ++ "' is not a number") := by
  unfold Near.resolve at h
  split at h
  · rename_i hlng
    cases h
    exact ⟨_, _, number_eq_error hlng⟩
  split at h
  · rename_i hlat
    cases h
    exact ⟨_, _, number_eq_error hlat⟩
  split at h
  · rename_i hdistance
    cases h
    exact ⟨_, _, number_eq_error hdistance⟩
  · cases h

end Filter

/-! ### Failures of drafts -/

namespace Sql

open Store (failure?)
open Hypermedia.Filter (Predicate Condition)

namespace Draft

variable {d e : Draft} {f g : Option Store.Error}

/-- Whatever is bound already, a draft fails with `f`, or succeeds if that is none. -/
def Raises (d : Draft) (f : Option Store.Error) : Prop := ∀ ps, failure? (d ps) = f

theorem raises_pieces (parts : List Piece) : Raises (.pieces parts) none := fun _ => rfl

theorem raises_refuse (x : Store.Error) : Raises (.refuse x) (some x) := fun _ => rfl

theorem raises_bound {p : Param} {use : Piece → Draft} (h : ∀ k, Raises (use k) f) :
    Raises (.bound p use) f := fun _ => h _ _

theorem Raises.append (hd : Raises d f) (he : Raises e g) : Raises (d ++ e) (f.or g) := by
  intro ps
  change failure? (Draft.append d e ps) = _
  rw [← hd ps, Draft.append]
  cases d ps with
  | error => rfl
  | ok first =>
    obtain ⟨left, mid⟩ := first
    dsimp only
    rw [← he mid]
    cases e mid <;> rfl

theorem Raises.after_words (h : Raises d f) (parts : List Piece) : Raises (.pieces parts ++ d) f :=
  (raises_pieces parts).append h

theorem Raises.before_words (h : Raises d f) (parts : List Piece) : Raises (d ++ .pieces parts) f := by
  have hwords := h.append (raises_pieces parts)
  rwa [Option.or_none] at hwords

theorem Raises.statement (h : Raises d f) : failure? d.statement = f := by
  rw [← h [], Draft.statement]
  cases d [] <;> rfl

end Draft

open Draft (Raises raises_pieces raises_refuse raises_bound)

theorem distance_raises {use : List Piece → Draft} {f : Option Store.Error}
    (h : ∀ parts, Raises (use parts) f) (name : String) (circle : Filter.Circle) :
    Raises (distance name circle use) f :=
  raises_bound fun _ => raises_bound fun _ => raises_bound fun _ => h _

theorem predicate_raises (name : String) (p : Predicate) : Raises (predicate name p) p.fault? := by
  fun_cases predicate name p with
  | case1 | case2 | case5 => exact raises_bound fun _ => raises_bound fun _ => raises_pieces _
  | case3 => exact raises_bound fun _ => raises_bound fun _ => raises_bound fun _ => raises_bound fun _ =>
      raises_pieces _
  | case4 => exact raises_bound fun _ => raises_bound fun _ => raises_bound fun _ => raises_pieces _
  | case6 n e h =>
    rw [Predicate.fault?, h]
    exact raises_refuse e
  | case7 n circle h =>
    rw [Predicate.fault?, h]
    exact distance_raises (fun _ => raises_bound fun _ => raises_pieces _) name circle

theorem predicates_raises (c : Condition) : Raises (predicates c) c.fault? := by
  induction c with
  | nil => exact raises_pieces _
  | cons x c ih =>
    rw [Condition.fault?_cons]
    exact ((predicate_raises x.1 x.2).after_words _).append ih

theorem matching_raises (collection : String) (c : Condition) : Raises (matching collection c) c.fault? :=
  Raises.append (f := none) (raises_bound fun _ => raises_pieces _) (predicates_raises c)

theorem firstId_raises (collection : String) (c : Condition) : Raises (firstId collection c) c.fault? :=
  ((matching_raises collection c).after_words _).before_words _

theorem orderKeys_raises (ks : List (String × Filter.Direction)) : Raises (orderKeys ks) none := by
  induction ks with
  | nil => exact raises_pieces _
  | cons x ks ih => exact Raises.append (f := none) (raises_bound fun _ => raises_pieces _) ih

/-- An order adds no failure to those of the condition: the circle that it resolves is one of them. -/
theorem ordered_raises (c : Condition) (ks : List (String × Filter.Direction)) :
    ∃ f, Raises (ordered c ks) f ∧ c.fault?.or f = c.fault? := by
  cases ks with
  | cons x ks =>
    refine ⟨none, ?_, Option.or_none⟩
    rw [ordered_cons]
    exact ((orderKeys_raises (x :: ks)).after_words _).before_words _
  | nil =>
    rw [ordered_nil]
    suffices h : ∃ f, Raises (nearest c) f ∧ c.fault?.or f = c.fault? by
      obtain ⟨f, hf, hsame⟩ := h
      exact ⟨f, (hf.after_words _).before_words _, hsame⟩
    rw [nearest]
    cases hnear : Condition.near? c with
    | none => exact ⟨none, raises_pieces _, Option.or_none⟩
    | some x =>
      obtain ⟨field, n⟩ := x
      dsimp only
      cases hr : n.resolve with
      | error e =>
        refine ⟨some e, raises_refuse e, ?_⟩
        rw [Condition.fault?_of_near? hnear hr]
        rfl
      | ok circle => exact ⟨none, distance_raises (fun _ => raises_pieces _) field circle, Option.or_none⟩

theorem select_raises (collection : String) (c : Condition) (o : Store.Options) :
    Raises (.pieces [.text "SELECT doc FROM ", .table] ++ matching collection c ++ ordered c o.sort ++
      window o) c.fault? := by
  obtain ⟨f, hordered, hsame⟩ := ordered_raises c o.sort
  have hwhere := (matching_raises collection c).after_words [.text "SELECT doc FROM ", .table]
  rw [← hsame]
  exact (hwhere.append hordered).before_words _

end Sql

/-! ### All ways to ask for a condition -/

namespace Filter

open Store (failure?)
open Sql.Draft (Raises raises_bound)

/-- Making a condition ready, and each statement that asks for it, fails with `f`, or succeeds if that is
none. -/
structure Condition.Raises (c : Condition) (f : Option Store.Error) : Prop where
  prepare : failure? (Condition.prepare c) = f
  select : ∀ collection o, failure? (Sql.select collection c o) = f
  count : ∀ collection, failure? (Sql.count collection c) = f
  updateFirst : ∀ collection patch, failure? (Sql.updateFirst collection c patch) = f
  deleteFirst : ∀ collection, failure? (Sql.deleteFirst collection c) = f

theorem Condition.raises_fault? {c : Condition} (h : ∀ x ∈ c, x.2.Readable) : c.Raises c.fault? where
  prepare := Condition.failure?_prepare h
  select collection o := (Sql.select_raises collection c o).statement
  count collection := ((Sql.matching_raises collection c).after_words _).statement
  updateFirst collection patch := by
    refine Raises.statement (raises_bound fun _ => raises_bound fun _ => ?_)
    exact ((Sql.firstId_raises collection c).after_words _).before_words _
  deleteFirst collection := by
    refine Raises.statement (raises_bound fun _ => ?_)
    exact ((Sql.firstId_raises collection c).after_words _).before_words _

end Filter

end Hypermedia
