import Mathlib.Data.List.Induction
import Hypermedia.Proofs.Conditions
import Hypermedia.Proofs.Faults

/-!
# Conditions made by edits

A condition is made by setting predicates, by removing them and by starting anew with an identity. Whatever
the edits were, it has its fields in the order since when they have been asked for without a break, and a
predicate set again stays in its place. All ways to ask for the condition report its first fault in that order.
-/

namespace Hypermedia.Filter

inductive Edit where
  | set (field : String) (p : Predicate)
  | remove (field : String)
  /-- A new condition, which asks for one identity. -/
  | byId (id : String)

def Edit.apply (c : Condition) : Edit → Condition
  | set field p => c.set field p
  | remove field => c.remove field
  | byId id => Condition.byId id

namespace Condition

def ofEdits (edits : List Edit) : Condition := edits.foldl Edit.apply []

def fields (c : Condition) : List String := c.map (·.1)

theorem ofEdits_concat (edits : List Edit) (e : Edit) : ofEdits (edits ++ [e]) = e.apply (ofEdits edits) :=
  List.foldl_concat ..

theorem fields_set_of_mem {c : Condition} {field : String} (h : field ∈ fields c) (p : Predicate) :
    fields (c.set field p) = fields c := by
  induction c with
  | nil => cases h
  | cons x c ih =>
    obtain ⟨f, q⟩ := x
    by_cases hf : f = field
    · simp only [set, if_pos hf, fields, List.map_cons]
    · have hrest : field ∈ fields c := (List.mem_cons.mp h).resolve_left (Ne.symm hf)
      simp only [set, if_neg hf, fields, List.map_cons, List.cons.injEq, true_and]
      exact ih hrest

theorem fields_remove_sublist (c : Condition) (field : String) : (fields (c.remove field)).Sublist (fields c) :=
  List.filter_sublist.map _

/-! ### Since when a field is asked for -/

/-- The edit with this number asks for the field, which nothing asked for before it, and all edits after it
leave the field asked for. -/
structure AskedSince (edits : List Edit) (field : String) (k : Nat) : Prop where
  within : k < edits.length
  absent : field ∉ fields (ofEdits (edits.take k))
  present : ∀ j, k < j → j ≤ edits.length → field ∈ fields (ofEdits (edits.take j))

section
variable {edits : List Edit} {e : Edit} {field : String} {k l : Nat}

theorem AskedSince.unique (hk : AskedSince edits field k) (hl : AskedSince edits field l) : k = l := by
  rcases Nat.lt_trichotomy k l with hlt | heq | hgt
  · exact absurd (hk.present l hlt (Nat.le_of_lt hl.within)) hl.absent
  · exact heq
  · exact absurd (hl.present k hgt (Nat.le_of_lt hk.within)) hk.absent

theorem AskedSince.concat (h : AskedSince edits field k) (hfield : field ∈ fields (ofEdits (edits ++ [e]))) :
    AskedSince (edits ++ [e]) field k where
  within := by
    have := h.within
    simp only [List.length_append, List.length_singleton]
    omega
  absent := by
    rw [List.take_append_of_le_length (Nat.le_of_lt h.within)]
    exact h.absent
  present j hj hlast := by
    rcases Nat.lt_or_ge edits.length j with hnew | hold
    · rwa [List.take_of_length_le (by simpa using Nat.succ_le_of_lt hnew)]
    · rw [List.take_append_of_le_length hold]
      exact h.present j hj hold

theorem askedSince_last (h : field ∉ fields (ofEdits edits))
    (hfield : field ∈ fields (ofEdits (edits ++ [e]))) : AskedSince (edits ++ [e]) field edits.length where
  within := by simp
  absent := by rwa [List.take_left]
  present j hj hlast := by rwa [List.take_of_length_le (by simpa using Nat.succ_le_of_lt hj)]

/-- One field has been asked for since an earlier edit than another. -/
def Earlier (edits : List Edit) (f g : String) : Prop :=
  ∃ k l, AskedSince edits f k ∧ AskedSince edits g l ∧ k < l

theorem exists_askedSince (edits : List Edit) :
    ∀ field ∈ fields (ofEdits edits), ∃ k, AskedSince edits field k := by
  induction edits using List.reverseRecOn with
  | nil => exact fun _ h => nomatch h
  | append_singleton edits e ih =>
    intro field hfield
    by_cases hold : field ∈ fields (ofEdits edits)
    · obtain ⟨k, hk⟩ := ih field hold
      exact ⟨k, hk.concat hfield⟩
    · exact ⟨_, askedSince_last hold hfield⟩

/-- The fields that an edit leaves keep their order. -/
theorem pairwise_concat {left : List String} (h : (fields (ofEdits edits)).Pairwise (Earlier edits))
    (hsub : left.Sublist (fields (ofEdits edits)))
    (hleft : ∀ f ∈ left, f ∈ fields (ofEdits (edits ++ [e]))) : left.Pairwise (Earlier (edits ++ [e])) := by
  refine (h.sublist hsub).imp_of_mem fun {f g} hf hg hearlier => ?_
  obtain ⟨k, l, hk, hl, hlt⟩ := hearlier
  exact ⟨k, l, hk.concat (hleft f hf), hl.concat (hleft g hg), hlt⟩

/-- A field that nothing asked for before comes last. -/
theorem pairwise_concat_new (h : (fields (ofEdits edits)).Pairwise (Earlier edits))
    (hnew : field ∉ fields (ofEdits edits))
    (hfields : fields (ofEdits (edits ++ [e])) = fields (ofEdits edits) ++ [field]) :
    (fields (ofEdits (edits ++ [e]))).Pairwise (Earlier (edits ++ [e])) := by
  have hold : ∀ f ∈ fields (ofEdits edits), f ∈ fields (ofEdits (edits ++ [e])) :=
    fun f hf => hfields ▸ List.mem_append_left _ hf
  have hlast : AskedSince (edits ++ [e]) field edits.length :=
    askedSince_last hnew (hfields ▸ List.mem_append_right _ (List.mem_singleton_self _))
  have hbefore : ∀ f ∈ fields (ofEdits edits), ∀ g ∈ [field], Earlier (edits ++ [e]) f g := by
    intro f hf g hg
    obtain rfl := List.mem_singleton.mp hg
    obtain ⟨k, hk⟩ := exists_askedSince edits f hf
    exact ⟨k, _, hk.concat (hold f hf), hlast, hk.within⟩
  rw [hfields]
  exact List.pairwise_append.mpr ⟨pairwise_concat h (.refl _) hold, List.pairwise_singleton _ _, hbefore⟩

/-- A condition has its fields in the order since when they are asked for. -/
theorem pairwise_earlier (edits : List Edit) : (fields (ofEdits edits)).Pairwise (Earlier edits) := by
  induction edits using List.reverseRecOn with
  | nil => exact .nil
  | append_singleton edits e ih =>
    have hlast := ofEdits_concat edits e
    cases e with
    | set field p =>
      by_cases hold : field ∈ fields (ofEdits edits)
      · have hsame : fields (ofEdits (edits ++ [.set field p])) = fields (ofEdits edits) := by
          rw [hlast]
          exact fields_set_of_mem hold p
        exact pairwise_concat ih (hsame ▸ .refl _) fun f hf => hf
      · refine pairwise_concat_new ih hold ?_
        rw [hlast, Edit.apply, set_of_notMem hold]
        exact List.map_append
    | remove field =>
      have hsub : (fields (ofEdits (edits ++ [.remove field]))).Sublist (fields (ofEdits edits)) := by
        rw [hlast]
        exact fields_remove_sublist _ field
      exact pairwise_concat ih hsub fun f hf => hf
    | byId id =>
      rw [hlast]
      exact List.pairwise_singleton _ _

end

/-! ### Which fault is reported -/

/-- Stores reject the same conditions alike. Whatever edits made a condition, if its patterns can be read: either
each of its circles can be resolved, and all ways to ask for it succeed, or one cannot, every other circle
that has been asked for since an earlier edit can, and all ways to ask for it fail with what is wrong about
that circle. -/
theorem stores_reject_alike (edits : List Edit) (hpatterns : ∀ x ∈ ofEdits edits, x.2.Readable) :
    ((∀ field n, (field, .near n) ∈ ofEdits edits → ∃ circle, n.resolve = .ok circle) ∧
        Raises (ofEdits edits) none) ∨
      ∃ field n k text, (field, .near n) ∈ ofEdits edits ∧ AskedSince edits field k ∧
        n.resolve = .error (.invalidQuery text) ∧
        (∀ field' n' l, (field', .near n') ∈ ofEdits edits → AskedSince edits field' l → l < k →
          ∃ circle, n'.resolve = .ok circle) ∧
        Raises (ofEdits edits) (some (.invalidQuery text)) := by
  have hraises := raises_fault? hpatterns
  cases hf : fault? (ofEdits edits) with
  | none =>
    rw [hf] at hraises
    exact .inl ⟨(fault?_eq_none_iff _).mp hf, hraises⟩
  | some err =>
    rw [hf] at hraises
    obtain ⟨before, field, n, after, hc, hn, hbefore⟩ := exists_of_fault? hf
    obtain ⟨part, s, rfl⟩ := Near.resolve_eq_error hn
    have hmem : (field, .near n) ∈ ofEdits edits := hc ▸ List.mem_append_right _ (List.mem_cons_self ..)
    obtain ⟨k, hk⟩ := exists_askedSince edits field (List.mem_map_of_mem hmem)
    refine .inr ⟨field, n, k, _, hmem, hk, hn, fun field' n' l hn' hl hlt => ?_, hraises⟩
    have horder := pairwise_earlier edits
    rw [hc, fields, List.map_append, List.map_cons, List.pairwise_append, List.pairwise_cons] at horder
    obtain ⟨-, ⟨hafter, -⟩, -⟩ := horder
    -- A circle asked for since earlier stands before the one that is reported.
    rw [hc, List.mem_append, List.mem_cons] at hn'
    rcases hn' with hn' | hsame | hn'
    · exact (fault?_eq_none_iff before).mp hbefore field' n' hn'
    · cases hsame
      exact absurd (hl.unique hk) (Nat.ne_of_lt hlt)
    · obtain ⟨k', l', hk', hl', hlater⟩ := hafter field' (List.mem_map_of_mem hn')
      obtain rfl := hk.unique hk'
      obtain rfl := hl.unique hl'
      exact absurd hlt (Nat.lt_asymm hlater)

namespace Moved

def home : Near := ⟨"1", "x", ""⟩

def office : Near := ⟨"y", "1", "1"⟩

/-- The office is asked for again after the home. -/
def edits : List Edit :=
  [.set "office" (.near ⟨"1", "1", "1"⟩), .set "home" (.near home), .remove "office",
    .set "office" (.near office)]

theorem home_since : AskedSince edits "home" 1 where
  within := by decide
  absent := by decide
  present j hj hlast := by
    have hall : ∀ j ≤ 4, 1 < j → "home" ∈ fields (ofEdits (edits.take j)) := by decide
    exact hall j hlast hj

theorem office_since : AskedSince edits "office" 3 where
  within := by decide
  absent := by decide
  present j hj hlast := by
    have hall : ∀ j ≤ 4, 3 < j → "office" ∈ fields (ofEdits (edits.take j)) := by decide
    exact hall j hlast hj

end Moved

/-- Neither the home nor the office is written in numbers; the home has been asked for since earlier, and the
first of its parts that is read is the longitude. -/
theorem stores_reject_alike_moved :
    (∀ x ∈ ofEdits Moved.edits, x.2.Readable) ∧
      Raises (ofEdits Moved.edits) (some (.invalidQuery "geo longitude 'x' is not a number")) := by
  have hpatterns : ∀ x ∈ ofEdits Moved.edits, x.2.Readable :=
    List.forall_mem_cons.mpr ⟨trivial, List.forall_mem_singleton.mpr trivial⟩
  have hmem : ("home", .near Moved.home) ∈ ofEdits Moved.edits := List.mem_cons_self ..
  have hhome : Moved.home.resolve = .error (.invalidQuery "geo longitude 'x' is not a number") := rfl
  refine ⟨hpatterns, ?_⟩
  rcases stores_reject_alike Moved.edits hpatterns with
    ⟨hall, -⟩ | ⟨field, n, k, text, hn, hk, htext, hearlier, hraises⟩
  · obtain ⟨circle, hcircle⟩ := hall _ _ hmem
    cases hhome.symm.trans hcircle
  · change (field, Predicate.near n) ∈
      [("home", Predicate.near Moved.home), ("office", Predicate.near Moved.office)] at hn
    rcases List.mem_pair.mp hn with h | h
    · cases h
      cases hhome.symm.trans htext
      exact hraises
    · cases h
      obtain rfl := hk.unique Moved.office_since
      obtain ⟨circle, hcircle⟩ := hearlier _ _ _ hmem Moved.home_since (by decide)
      cases hhome.symm.trans hcircle

end Condition

end Hypermedia.Filter
