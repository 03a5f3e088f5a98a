import Hypermedia.Proofs.Delete
import Hypermedia.Proofs.Faults
import Hypermedia.Proofs.Filters
import Hypermedia.Proofs.Listing

/-!
# Requests whose conditions can be run

Whatever a request supplies, its condition can be run, as long as it gives no text for a geometry: texts with
stars and the free text become patterns that can be read, and nothing else that is asked for can fail.
A listing and a deletion by such a condition fail only if the store refuses a call.
-/

namespace Hypermedia

open Hypermedia.Filter (Request condition conditionAttributes)

/-! ### Conditions -/

namespace Filter

/-- The value of no geometry that a condition may ask for is a text. -/
def Request.GivesNoPlace (q : Request) (r : Resource) : Prop :=
  ∀ a ∈ conditionAttributes r, a.type = .geometry → ∀ s, q.value? a ≠ some (.string s)

theorem Condition.mem_set {c : Condition} {field : String} {p : Predicate} {x : String × Predicate}
    (h : x ∈ c.set field p) : x ∈ c ∨ x = (field, p) := by
  fun_induction Condition.set c field p with
  | case1 => exact .inr (List.mem_singleton.mp h)
  | case2 =>
    rcases List.mem_cons.mp h with h | h
    · exact .inr h
    · exact .inl (List.mem_cons_of_mem _ h)
  | case3 _ _ _ _ _ _ ih =>
    rcases List.mem_cons.mp h with rfl | h
    · exact .inl (List.mem_cons_self ..)
    · exact (ih h).imp_left (List.mem_cons_of_mem _)

theorem Request.mem_params {q : Request} {as : List Attribute} {name s : String}
    (h : (name, .string s) ∈ q.params as) : ∃ b ∈ as, b.name = name ∧ q.value? b = some (.string s) := by
  induction as with
  | nil => cases h
  | cons a as ih =>
    have hrest : (name, .string s) ∈ q.params as →
        ∃ b ∈ a :: as, b.name = name ∧ q.value? b = some (.string s) := by
      intro hm
      obtain ⟨b, hb, hname, hv⟩ := ih hm
      exact ⟨b, List.mem_cons_of_mem _ hb, hname, hv⟩
    rw [params] at h
    split at h
    · rename_i v hv
      rcases List.mem_cons.mp h with hsame | hm
      · cases hsame
        exact ⟨a, List.mem_cons_self .., rfl, hv⟩
      · exact hrest hm
    · split at h
      · exact hrest ((List.mem_cons.mp h).resolve_left (by simp))
      · exact hrest h

/-- What is a text for an attribute is a text for a geometry of the same name. -/
theorem Request.value?_geometry {q : Request} {a b : Attribute} (hname : b.name = a.name)
    (htype : a.type = .geometry) {s : String} (h : q.value? b = some (.string s)) :
    ∃ t, q.value? a = some (.string t) := by
  have hcoerce : ∀ t, coerce a.type t = .string t := fun t => htype ▸ rfl
  simp only [value?, hname] at h ⊢
  cases hbody : q.body.bind fun m => Members.get? m a.name with
  | some v =>
    rw [hbody] at h
    exact ⟨s, h⟩
  | none =>
    rw [hbody] at h
    cases hpath : q.path.get? a.name with
    | some t => exact ⟨t, congrArg some (hcoerce t)⟩
    | none =>
      rw [hpath] at h
      obtain ⟨t, ht, -⟩ := Option.map_eq_some_iff.mp h
      exact ⟨t, by rw [ht, Option.map_some, hcoerce]⟩

theorem predicate_geometry (s : String) : predicate .geometry (.string s) = .near (Near.ofText s) := by
  rw [predicate, textPredicate, if_pos rfl]

/-- Only a text for a geometry asks for nearness. -/
theorem predicate_ne_near {type : FieldType} (htype : type ≠ .geometry) (v : Value) (n : Near) :
    predicate type v ≠ .near n := by
  cases v with
  | string s =>
    have hplain : plainPredicate type s ≠ .near n := by
      unfold plainPredicate
      split
      · simp
      · split <;> simp
    simp only [predicate, textPredicate, if_neg htype]
    split
    · split
      · simp
      · exact hplain
    · exact hplain
  | _ => simp [predicate]

theorem predicate_eq_near {type : FieldType} {v : Value} {n : Near} (h : predicate type v = .near n) :
    type = .geometry ∧ ∃ s, v = .string s ∧ n = Near.ofText s := by
  obtain rfl : type = .geometry := Decidable.not_not.mp fun htype => predicate_ne_near htype v n h
  cases v with
  | string s =>
    rw [predicate_geometry] at h
    exact ⟨rfl, s, rfl, (Predicate.near.inj h).symm⟩
  | _ => cases h

theorem Predicate.readable_of_sensible {p : Predicate} (h : ¬ p.Senseless) : p.Readable := by
  cases p with
  | pattern source => exact Option.isSome_iff_ne_none.mpr h
  | _ => trivial

theorem readable_predicate (type : FieldType) (v : Value) : (predicate type v).Readable := by
  by_cases htype : type = .geometry
  · subst htype
    cases v with
    | string s =>
      rw [predicate_geometry]
      trivial
    | _ => trivial
  · exact Predicate.readable_of_sensible (sensible_predicate htype v)

/-- A condition asks for what was supplied under the names of its attributes, and for the free text. -/
theorem mem_condition_supplied {r : Resource} {q : Request} {x : String × Predicate} (hx : x ∈ condition r q) :
    (∃ a ∈ conditionAttributes r, ∃ v, Members.get? (q.params (conditionAttributes r)) a.name = some v ∧
      (a.name, predicate a.type v) = x) ∨ ∃ text, x = (searchField, .pattern (Regex.escape text)) := by
  have hsupplied : x ∈ predicates (q.params (conditionAttributes r)) (conditionAttributes r) →
      ∃ a ∈ conditionAttributes r, ∃ v, Members.get? (q.params (conditionAttributes r)) a.name = some v ∧
        (a.name, predicate a.type v) = x := by
    rw [predicates_eq, List.mem_filterMap]
    simp only [Option.map_eq_some_iff, imp_self]
  unfold condition at hx
  dsimp only at hx
  split at hx
  · rename_i text _
    exact (Condition.mem_set hx).imp hsupplied fun h => ⟨text, h⟩
  · exact .inl (hsupplied hx)

theorem readable_condition (r : Resource) (q : Request) : ∀ x ∈ condition r q, x.2.Readable := by
  intro x hx
  rcases mem_condition_supplied hx with ⟨a, -, v, -, rfl⟩ | ⟨text, rfl⟩
  · exact readable_predicate a.type v
  · simp [Predicate.Readable, Regex.ofString?_escape]

theorem raises_none_of_no_place {r : Resource} {q : Request} (h : q.GivesNoPlace r) :
    (condition r q).Raises none := by
  have hfault : (condition r q).fault? = none := by
    rw [Condition.fault?_eq_none_iff]
    intro field n hn
    rcases mem_condition_supplied hn with ⟨a, ha, v, hv, hp⟩ | ⟨text, hp⟩
    · obtain ⟨htype, s, rfl, -⟩ := predicate_eq_near (Prod.ext_iff.mp hp).2
      -- The text may be meant for another attribute of the name, but the geometry has it too.
      obtain ⟨b, -, hname, hb⟩ := Request.mem_params (Members.mem_of_get? hv)
      obtain ⟨t, ht⟩ := Request.value?_geometry hname htype hb
      exact absurd ht (h a ha htype t)
    · cases hp
  exact hfault ▸ Condition.raises_fault? (readable_condition r q)

end Filter

/-- A trip has no other geometry than its place. -/
theorem Trips.eq_place_of_geometry {a : Attribute} (ha : a ∈ conditionAttributes trip)
    (htype : a.type = .geometry) : a = place := by
  have hall : ∀ a ∈ trip.allAttributes, a.type = .geometry → a = place := by
    simp [Resource.allAttributes, trip, day]
  exact hall a (List.mem_filter.mp ha).1 htype

/-! ### Listings and deletions -/

namespace Operation

open Program (World run)

section
variable {env : Program.Environment} {r : Resource} {q : Request}

theorem exists_matching (h : (condition r q).Raises none) (s : Store) :
    ∃ ds, s.matching r.name (condition r q) = .ok ds := by
  obtain ⟨m, hm⟩ := Store.failure?_eq_none_iff.mp h.prepare
  exact ⟨_, congrArg (Except.map _) hm⟩

theorem ends_list (h : (condition r q).Raises none) (i : Interface) (s : Store) :
    Service.Ends env s (list i r q) (fun _ _ => True) (fun e _ => env.Refused e) := by
  obtain ⟨ds, hds⟩ := exists_matching h s
  obtain ⟨found, hfound⟩ := Store.find_ok hds (wholeRead q)
  exact Service.ends_mono (ends_listWhere hds hfound) (fun _ _ _ => trivial) fun _ _ he => he

theorem ends_deleteCollection_accepted (h : (condition r q).Raises none) (s : Store) :
    Service.Ends env s (deleteCollection r q) (fun _ _ => True) (fun e _ => env.Refused e) := by
  obtain ⟨ds, hds⟩ := exists_matching h s
  obtain ⟨found, hfound⟩ := Store.find_ok hds { fields := some [idField] }
  unfold deleteCollection
  refine Service.ends_bind (R := fun _ _ => True) (Service.ends_ask (fun _ he => he) ?_) fun _ _ _ => ?_
  · simp only [Call.perform, hfound]
    trivial
  · exact Service.ends_mono ends_removeEach (fun _ _ _ => trivial) fun _ _ he => he.2

end

/-- Conditions can always be run. As long as no geometry that a request may ask for is given a text, the
condition of the request is accepted by all that ask for it, whatever the resource and whatever else the
request holds. A listing and a deletion by it are never refused for the query, on any store; if the store
takes all calls they succeed. -/
theorem conditions_always_run (r : Resource) (q : Request) (hplaces : q.GivesNoPlace r) :
    (condition r q).Raises none ∧
      (∀ env i w text, (run env (list i r q).run w).1 ≠ .error (.store (.invalidQuery text)) ∧
        (run env (deleteCollection r q).run w).1 ≠ .error (.store (.invalidQuery text))) ∧
      ∀ env, env.Accepts → ∀ i w, (∃ page, (run env (list i r q).run w).1 = .ok page) ∧
        ∃ n, (run env (deleteCollection r q).run w).1 = .ok n := by
  have hraises := Filter.raises_none_of_no_place hplaces
  refine ⟨hraises, fun env i w text => ?_, fun env henv i w => ?_⟩
  · have hrefused : ¬ env.Refused (.store (.invalidQuery text)) := by
      rintro ⟨n, c, reason, -, he⟩
      cases he
    exact ⟨fun he => hrefused (Service.error_of_ends (ends_list hraises i w.store) he),
      fun he => hrefused (Service.error_of_ends (ends_deleteCollection_accepted hraises w.store) he)⟩
  · have hnever : ∀ (e : ServiceError) (t : Store), env.Refused e → False :=
      fun e _ he => not_refused henv e he
    have hlist := Service.ends_mono (ends_list hraises i w.store) (fun _ _ h => h) hnever
    have hdelete := Service.ends_mono (ends_deleteCollection_accepted hraises w.store) (fun _ _ h => h) hnever
    obtain ⟨page, hpage, -⟩ := Service.success_of_ends hlist
    obtain ⟨n, hn, -⟩ := Service.success_of_ends hdelete
    exact ⟨⟨page, hpage⟩, n, hn⟩

/-- Trips asked for by texts full of signs of patterns, by a range of days that are none, by a point that is
no text, and by a free text that would open a class of characters. -/
theorem conditions_always_run_trips :
    let q : Request := ⟨some [("place", .array [.number (.int 139), .number (.int 35)])],
      [("name", "a*(\\")], [("day", "[2024-1-1,?]"), ("q", "[x")]⟩
    let w : World := { store := Trips.history.after Trips.interface Store.empty }
    q.GivesNoPlace Trips.trip ∧ (condition Trips.trip q).length = 4 ∧
      (condition Trips.trip q).Raises none ∧
      (∃ page, (run (Groups.refusing none) (list Trips.interface Trips.trip q).run w).1 = .ok page) ∧
      ∃ n, (run (Groups.refusing none) (deleteCollection Trips.trip q).run w).1 = .ok n := by
  intro q w
  have hplaces : q.GivesNoPlace Trips.trip := by
    intro a ha htype s hs
    obtain rfl := Trips.eq_place_of_geometry ha htype
    cases hs
  obtain ⟨hraises, -, hrun⟩ := conditions_always_run Trips.trip q hplaces
  obtain ⟨hlist, hdelete⟩ := hrun _ Groups.accepts Trips.interface w
  exact ⟨hplaces, by decide +kernel, hraises, hlist, hdelete⟩

end Operation

end Hypermedia
