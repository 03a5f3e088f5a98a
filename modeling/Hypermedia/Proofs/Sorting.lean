import Mathlib.Data.List.Induction
import Hypermedia.Proofs.Catalog
import Hypermedia.Proofs.Ordering

/-!
# Sorted reads

A sort by insertion is stable, and by a comparison that is total and transitive its result is in order.
The comparison of documents by several keys is so as far as that of each key is, which needs the field's
texts to be timestamps all, or none of them. A read by such keys answers a window of one sorted list.
-/

namespace Hypermedia.Store

open Hypermedia.Filter (Condition Direction Matcher)

/-! ### Sorting by insertion -/

section
variable {α β : Type} (less : β → β → Bool) (f : α → β)

theorem insertBack_map (x : α) (ys : List α) :
    insertBack less (f x) (ys.map f) = (insertBack (fun a b => less (f a) (f b)) x ys).map f := by
  induction ys with
  | nil => rfl
  | cons y ys ih =>
    simp only [List.map_cons, insertBack, ih]
    split <;> rfl

theorem sorted_concat (less : β → β → Bool) (xs : List β) (x : β) :
    (sorted less (xs ++ [x])).reverse = insertBack less x (sorted less xs).reverse := by
  simp [sorted]

theorem sorted_map (xs : List α) :
    sorted less (xs.map f) = (sorted (fun a b => less (f a) (f b)) xs).map f := by
  apply List.reverse_injective
  rw [← List.map_reverse]
  induction xs using List.reverseRecOn with
  | nil => rfl
  | append_singleton xs x ih =>
    rw [List.map_append, List.map_singleton, sorted_concat, sorted_concat, ih, insertBack_map]

end

/-- An element is put behind none of the elements that pass a test with it. -/
theorem filter_insertBack {α : Type} {less : α → α → Bool} {test : α → Bool} {x : α} {done : List α}
    (h : test x = true → ∀ y ∈ done, test y = true → less x y = false) :
    (insertBack less x done).filter test = (x :: done).filter test := by
  induction done with
  | nil => rfl
  | cons y done ih =>
    have htail := ih fun hx z hz => h hx z (List.mem_cons_of_mem y hz)
    simp only [insertBack]
    split
    · rename_i hless
      rw [List.filter_cons, htail, List.filter_cons, List.filter_cons, List.filter_cons]
      by_cases hx : test x = true
      · have hy : test y = false := by
          cases hy : test y with
          | false => rfl
          | true => cases hless.symm.trans (h hx y (List.mem_cons_self ..) hy)
        simp [hx, hy]
      · simp [hx]
    · rfl

section
variable {α : Type} (cmp : α → α → Ordering) [Std.TransCmp cmp]

/-- A list read from its end stays in order. -/
theorem pairwise_insertBack (x : α) {done : List α} (h : done.Pairwise fun a b => (cmp b a).isLE = true) :
    (insertBack (fun a b => cmp a b == .lt) x done).Pairwise fun a b => (cmp b a).isLE = true := by
  induction done with
  | nil => simp [insertBack]
  | cons y done ih =>
    rw [List.pairwise_cons] at h
    simp only [insertBack]
    split
    · rename_i hless
      have hxy : (cmp x y).isLE = true := by
        rw [beq_iff_eq.mp hless]
        rfl
      refine List.pairwise_cons.mpr ⟨fun z hz => ?_, ih h.2⟩
      rcases List.mem_cons.mp ((insertBack_perm ..).mem_iff.mp hz) with rfl | hz
      · exact hxy
      · exact h.1 z hz
    · rename_i hless
      have hswap : cmp y x = (cmp x y).swap := Std.OrientedCmp.eq_swap
      have hyx : (cmp y x).isLE = true := by
        rw [hswap]
        cases hcmp : cmp x y with
        | lt => exact absurd (beq_iff_eq.mpr hcmp) hless
        | _ => rfl
      refine List.pairwise_cons.mpr ⟨fun z hz => ?_, List.pairwise_cons.mpr h⟩
      rcases List.mem_cons.mp hz with rfl | hz
      · exact hyx
      · exact Std.TransCmp.isLE_trans (h.1 z hz) hyx

theorem pairwise_sorted (xs : List α) :
    (sorted (fun a b => cmp a b == .lt) xs).Pairwise fun a b => (cmp a b).isLE = true := by
  rw [← List.reverse_reverse (sorted ..), List.pairwise_reverse]
  induction xs using List.reverseRecOn with
  | nil => exact .nil
  | append_singleton xs x ih =>
    rw [sorted_concat]
    exact pairwise_insertBack cmp x ih

/-- Elements that the comparison does not tell from a given one keep their order. -/
theorem filter_sorted (e : α) (xs : List α) :
    (sorted (fun a b => cmp a b == .lt) xs).filter (fun a => cmp e a == .eq) =
      xs.filter fun a => cmp e a == .eq := by
  apply List.reverse_injective
  rw [← List.filter_reverse, ← List.filter_reverse]
  induction xs using List.reverseRecOn with
  | nil => rfl
  | append_singleton xs x ih =>
    have htied : (cmp e x == .eq) = true → ∀ y ∈ (sorted (fun a b => cmp a b == .lt) xs).reverse,
        (cmp e y == .eq) = true → (cmp x y == .lt) = false := by
      intro hx y _ hy
      have hxy : cmp x y = .eq :=
        Std.TransCmp.eq_trans (Std.OrientedCmp.eq_symm (beq_iff_eq.mp hx)) (beq_iff_eq.mp hy)
      simp [hxy]
    rw [sorted_concat, filter_insertBack htied, List.reverse_concat, List.filter_cons, List.filter_cons, ih]

end

/-! ### Comparisons by keys -/

/-- What a document is sorted by; a missing field counts as null. -/
def sortValue (field : String) (d : Document) : Value := (Members.get? d field).getD .null

theorem compareBy_eq (key : String × Direction) (a b : Document) : compareBy key a b =
    match key.2 with
    | .ascending => Filter.sortOrder (sortValue key.1 a) (sortValue key.1 b)
    | .descending => Filter.sortOrder (sortValue key.1 b) (sortValue key.1 a) := by
  rw [Filter.sortOrder_swap (sortValue key.1 a) (sortValue key.1 b)]
  rfl

/-- Documents of which one field is in a total order: its texts are timestamps all, or none of them is, and its
numbers are numbers, as all of JSON are. -/
structure Sortable (ds : List Document) (field : String) : Prop where
  numbers : ∀ d ∈ ds, Filter.Comparable (sortValue field d)
  texts : (∀ d ∈ ds, ∀ s, Members.get? d field = some (.string s) → (Time.instant? s).isSome = true) ∨
    ∀ d ∈ ds, ∀ s, Members.get? d field = some (.string s) → Time.instant? s = none

section
variable {ds : List Document} {field : String} {a b c : Document}

theorem Sortable.not_disturbed (h : Sortable ds field) (ha : a ∈ ds) (hb : b ∈ ds) (hc : c ∈ ds) :
    ¬ Filter.Disturbed (sortValue field a) (sortValue field b) (sortValue field c) := by
  rintro ⟨s, t, x, ⟨i, j, hs, -, -⟩, hx, hperm⟩
  have hheld : ∀ y, Value.string y ∈ [Value.string s, .string t, .string x] →
      ∃ d ∈ ds, Members.get? d field = some (.string y) := by
    intro y hy
    have hget : ∀ {d : Document}, Value.string y = sortValue field d →
        Members.get? d field = some (.string y) := by
      intro d hd
      cases hm : Members.get? d field with
      | none => simp [sortValue, hm] at hd
      | some v => simp [sortValue, hm, hd]
    have hmem := hperm.mem_iff.mpr hy
    simp only [List.mem_cons, List.not_mem_nil, or_false] at hmem
    rcases hmem with hy | hy | hy
    · exact ⟨a, ha, hget hy⟩
    · exact ⟨b, hb, hget hy⟩
    · exact ⟨c, hc, hget hy⟩
  rcases h.texts with hall | hnone
  · obtain ⟨d, hd, hdx⟩ := hheld x (by simp)
    have hsome := hall d hd x hdx
    rw [hx] at hsome
    cases hsome
  · obtain ⟨d, hd, hds⟩ := hheld s (by simp)
    cases (hnone d hd s hds).symm.trans hs

theorem Sortable.trans (h : Sortable ds field) (ha : a ∈ ds) (hb : b ∈ ds) (hc : c ∈ ds)
    (hab : (Filter.sortOrder (sortValue field a) (sortValue field b)).isLE = true)
    (hbc : (Filter.sortOrder (sortValue field b) (sortValue field c)).isLE = true) :
    (Filter.sortOrder (sortValue field a) (sortValue field c)).isLE = true := by
  rw [Ordering.isLE_iff_ne_gt] at *
  exact Filter.sortOrder_trans (h.numbers a ha) (h.numbers b hb) (h.numbers c hc)
    (h.not_disturbed ha hb hc) hab hbc

end

theorem transCmp_compareBy {ds : List Document} {key : String × Direction} (h : Sortable ds key.1) :
    Std.TransCmp fun a b : { d // d ∈ ds } => compareBy key a.1 b.1 := by
  obtain ⟨field, direction⟩ := key
  have hswap : ∀ {a b : { d // d ∈ ds }}, compareBy (field, direction) a.1 b.1 =
      (compareBy (field, direction) b.1 a.1).swap := by
    intro a b
    rw [compareBy_eq, compareBy_eq]
    cases direction <;> exact Filter.sortOrder_swap ..
  refine { eq_swap := hswap, isLE_trans := fun {a b c} hab hbc => ?_ }
  rw [compareBy_eq] at *
  cases direction with
  | ascending => exact h.trans a.2 b.2 c.2 hab hbc
  | descending => exact h.trans c.2 b.2 a.2 hbc hab

/-- The first key comes first: a comparison by several keys is the lexicographic one. -/
theorem transCmp_compareByAll {ds : List Document} {keys : List (String × Direction)}
    (h : ∀ key ∈ keys, Sortable ds key.1) :
    Std.TransCmp fun a b : { d // d ∈ ds } => compareByAll keys a.1 b.1 := by
  induction keys with
  | nil => exact { eq_swap := rfl, isLE_trans := fun _ _ => rfl }
  | cons key keys ih =>
    rw [List.forall_mem_cons] at h
    have hfirst := transCmp_compareBy h.1
    have hrest := ih h.2
    have hlex : (fun a b : { d // d ∈ ds } => compareByAll (key :: keys) a.1 b.1) =
        compareLex (fun a b => compareBy key a.1 b.1) fun a b => compareByAll keys a.1 b.1 := by
      funext a b
      simp only [compareByAll, compareLex]
      cases compareBy key a.1 b.1 <;> rfl
    rw [hlex]
    infer_instance

/-! ### Documents in order -/

/-- The first key that tells two documents apart puts the first of them first. -/
inductive InOrder : List (String × Direction) → Document → Document → Prop
  | nil {a b : Document} : InOrder [] a b
  | first {key : String × Direction} {keys : List (String × Direction)} {a b : Document}
      (h : compareBy key a b = .lt) : InOrder (key :: keys) a b
  | next {key : String × Direction} {keys : List (String × Direction)} {a b : Document}
      (h : compareBy key a b = .eq) (rest : InOrder keys a b) : InOrder (key :: keys) a b

/-- No key tells two documents apart. -/
def tied (keys : List (String × Direction)) (a b : Document) : Bool :=
  keys.all fun key => compareBy key a b == .eq

section
variable {keys : List (String × Direction)}

theorem inOrder_of_isLE {a b : Document} (h : (compareByAll keys a b).isLE = true) : InOrder keys a b := by
  induction keys with
  | nil => exact .nil
  | cons key keys ih =>
    simp only [compareByAll] at h
    cases hkey : compareBy key a b with
    | lt => exact .first hkey
    | eq =>
      rw [hkey] at h
      exact .next hkey (ih h)
    | gt =>
      rw [hkey] at h
      cases h

theorem compareByAll_beq_eq (keys : List (String × Direction)) (a b : Document) :
    (compareByAll keys a b == .eq) = tied keys a b := by
  induction keys with
  | nil => rfl
  | cons key keys ih =>
    simp only [compareByAll, tied, List.all_cons]
    cases hkey : compareBy key a b
    · rfl
    · exact ih
    · rfl

theorem sorted_inOrder {ds : List Document} (h : ∀ key ∈ keys, Sortable ds key.1) :
    (sorted (fun a b => compareByAll keys a b == .lt) ds).Pairwise (InOrder keys) ∧
      ∀ d ∈ ds, (sorted (fun a b => compareByAll keys a b == .lt) ds).filter (tied keys d) =
        ds.filter (tied keys d) := by
  have htrans := transCmp_compareByAll h
  let cmp (a b : { d // d ∈ ds }) : Ordering := compareByAll keys a.1 b.1
  -- Inside the list the comparison is total and transitive; outside of it nothing is known.
  have hattach : ds.attach.map Subtype.val = ds := List.attach_map_subtype_val ds
  have hsorted : sorted (fun a b => compareByAll keys a b == .lt) ds =
      (sorted (fun a b => cmp a b == .lt) ds.attach).map Subtype.val := by
    rw [← sorted_map (fun a b => compareByAll keys a b == .lt), hattach]
  have htied : ∀ d : { d // d ∈ ds }, tied keys d.1 ∘ Subtype.val = fun e => cmp d e == .eq := by
    intro d
    funext e
    exact (compareByAll_beq_eq ..).symm
  rw [hsorted]
  constructor
  · rw [List.pairwise_map]
    exact (pairwise_sorted cmp ds.attach).imp inOrder_of_isLE
  · intro d hd
    have hstable := congrArg (List.map Subtype.val) (filter_sorted cmp ⟨d, hd⟩ ds.attach)
    rw [← htied, ← List.filter_map, ← List.filter_map, hattach] at hstable
    exact hstable

end

/-! ### Reads by keys -/

theorem find_by_keys {s : Store} {collection : String} {c : Condition} {ds : List Document}
    (hds : s.matching collection c = .ok ds) {o : Options} (hsort : o.sort ≠ []) :
    s.find collection c o = .ok
      ((o.window (sorted (fun a b => compareByAll o.sort a b == .lt) ds)).map
        (Document.project · o.fields)) := by
  have hordered : ordered o.sort c ds = .ok (sorted (fun a b => compareByAll o.sort a b == .lt) ds) := by
    simp [ordered, hsort]
  simp only [find, hds, hordered, bind, Except.bind]
  rfl

theorem find_succeeds_iff (s : Store) (collection : String) (c : Condition) (o : Options) :
    (∃ found, s.find collection c o = .ok found) ↔ ¬ ∃ x ∈ c, x.2.Senseless := by
  constructor
  · rintro ⟨found, hfound⟩ hsense
    obtain ⟨e, he⟩ := (condition_prepare_eq_error_iff c).mpr hsense
    simp only [find, matching, he, bind, Except.bind, Except.map] at hfound
    cases hfound
  · intro hsense
    obtain ⟨m, hm⟩ := exists_prepare hsense
    exact find_ok (matching_of_prepare hm s collection) o

/-- A read succeeds exactly when all predicates of its condition make sense. Let the documents that meet the
condition have, for every key, a field of texts that are timestamps all or none. Then there is one
list of them, in order by the keys and with tied documents as they came, of which every read by
these keys answers its window, projected. -/
theorem sorted_reads_are_stable_windows {s : Store} {collection : String} {c : Condition}
    {keys : List (String × Direction)} (hkeys : keys ≠ [])
    (hsortable : ∀ ds, s.matching collection c = .ok ds → ∀ key ∈ keys, Sortable ds key.1) :
    (∀ o : Options, (∃ found, s.find collection c o = .ok found) ↔ ¬ ∃ x ∈ c, x.2.Senseless) ∧
      ∀ ds, s.matching collection c = .ok ds → ∃ xs : List Document, xs.Perm ds ∧
        xs.Pairwise (InOrder keys) ∧ (∀ d ∈ ds, xs.filter (tied keys d) = ds.filter (tied keys d)) ∧
        ∀ o : Options, o.sort = keys →
          s.find collection c o = .ok ((o.window xs).map (Document.project · o.fields)) := by
  refine ⟨find_succeeds_iff s collection c, fun ds hds => ?_⟩
  obtain ⟨horder, hstable⟩ := sorted_inOrder (hsortable ds hds)
  refine ⟨_, sorted_perm _ ds, horder, hstable, fun o ho => ?_⟩
  have hsort : o.sort ≠ [] := ho ▸ hkeys
  have hfind := find_by_keys hds hsort
  rwa [ho] at hfind

/-! ### Sightings by size and time -/

namespace Sightings

def keys : List (String × Direction) := [("size", .descending), ("at", .ascending)]

/-- The first two are of one moment, written in Tokyo and in Greenwich; the third has no time. -/
def documents : List Document :=
  [[("id", .string "a"), ("at", .string "2024-01-01T10:00:00+09:00"), ("size", .number (.int 2))],
    [("id", .string "b"), ("at", .string "2024-01-01T01:00:00Z"), ("size", .number (.int 2))],
    [("id", .string "c"), ("size", .number (.int 2))],
    [("id", .string "d"), ("at", .string "2024-01-01T00:30:00Z"), ("size", .number (.int 3))]]

def store : Store := ⟨[("sighting", documents)]⟩

theorem sortable : ∀ key ∈ keys, Sortable documents key.1 := by
  have hint : ∀ n : Int, n ∈ [2, 3] → Filter.Comparable (.number (.int n)) := by
    intro n hn m hm
    cases hm
    revert n
    decide +kernel
  have htext : ∀ s, Filter.Comparable (.string s) := fun s n hn => by cases hn
  have hnull : Filter.Comparable .null := fun n hn => by cases hn
  simp only [keys, List.forall_mem_cons, List.not_mem_nil, false_implies, implies_true, and_true]
  constructor
  · refine ⟨?_, .inr ?_⟩
    · simp only [documents, List.forall_mem_cons, List.not_mem_nil, false_implies, implies_true, and_true]
      exact ⟨hint 2 (by simp), hint 2 (by simp), hint 2 (by simp), hint 3 (by simp)⟩
    · simp [documents, Members.get?]
  · refine ⟨?_, .inl ?_⟩
    · simp only [documents, List.forall_mem_cons, List.not_mem_nil, false_implies, implies_true, and_true]
      exact ⟨htext _, htext _, hnull, htext _⟩
    · simp [documents, Members.get?]
      decide +kernel

end Sightings

/-- The greatest comes first, and the one without time before the two of one moment, which stay as they
came. -/
theorem sorted_reads_are_stable_windows_sightings :
    Sightings.keys ≠ [] ∧
      (∀ ds, Sightings.store.matching "sighting" [] = .ok ds → ∀ key ∈ Sightings.keys, Sortable ds key.1) ∧
      ∃ xs : List Document, xs.Perm Sightings.documents ∧ xs.Pairwise (InOrder Sightings.keys) ∧
        Sightings.store.find "sighting" [] { sort := Sightings.keys, skip := 1, limit := some 2 } =
          .ok ((xs.drop 1).take 2) ∧
        Sightings.store.find "sighting" []
          { sort := Sightings.keys, skip := 2, fields := some ["id"] } =
            .ok [[("id", .string "a")], [("id", .string "b")]] := by
  have hkeys : Sightings.keys ≠ [] := by simp [Sightings.keys]
  have hmatching : Sightings.store.matching "sighting" [] = .ok Sightings.documents := rfl
  have hsortable : ∀ ds, Sightings.store.matching "sighting" [] = .ok ds →
      ∀ key ∈ Sightings.keys, Sortable ds key.1 := by
    intro ds hds
    cases hmatching.symm.trans hds
    exact Sightings.sortable
  obtain ⟨-, hreads⟩ := sorted_reads_are_stable_windows hkeys hsortable
  obtain ⟨xs, hperm, horder, -, hfind⟩ := hreads _ hmatching
  refine ⟨hkeys, hsortable, xs, hperm, horder, ?_, ?_⟩
  · have hwindow := hfind { sort := Sightings.keys, skip := 1, limit := some 2 } rfl
    simpa [Options.window, Document.project] using hwindow
  · rfl

end Hypermedia.Store
