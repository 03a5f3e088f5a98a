import Mathlib.Data.List.Forall2
import Mathlib.Data.List.Nodup
import Hypermedia.Store.Collections

/-!
# Lists changed at one place

What changing or dropping the first element that passes a test does to a list, lists related element by
element, lists of named elements, and what two tests of which one is narrower count in a list.
-/

namespace Hypermedia

variable {α β : Type}

/-! ### Lists related element by element -/

theorem forall₂_mem_left {R : α → β → Prop} {xs : List α} {ys : List β} (h : List.Forall₂ R xs ys)
    {x : α} (hx : x ∈ xs) : ∃ y ∈ ys, R x y := by
  induction h with
  | nil => cases hx
  | cons hxy _ ih =>
    rcases List.mem_cons.mp hx with rfl | hx
    · exact ⟨_, List.mem_cons_self .., hxy⟩
    · obtain ⟨y, hy, hr⟩ := ih hx
      exact ⟨y, List.mem_cons_of_mem _ hy, hr⟩

theorem forall₂_mem_right {R : α → β → Prop} {xs : List α} {ys : List β} (h : List.Forall₂ R xs ys)
    {y : β} (hy : y ∈ ys) : ∃ x ∈ xs, R x y :=
  forall₂_mem_left h.flip hy

theorem forall₂_trans {R : α → α → Prop} (hR : ∀ x y z, R x y → R y z → R x z) {xs ys zs : List α}
    (h : List.Forall₂ R xs ys) (h' : List.Forall₂ R ys zs) : List.Forall₂ R xs zs := by
  induction h generalizing zs with
  | nil => exact h'
  | cons hxy _ ih =>
    cases h' with
    | cons hyz ht => exact .cons (hR _ _ _ hxy hyz) (ih ht)

/-- What is related to a joined list is itself joined of lists that are related to the parts. -/
theorem forall₂_append_left {R : α → β → Prop} {xs xs' : List α} {ys : List β}
    (h : List.Forall₂ R (xs ++ xs') ys) :
    ∃ zs zs', ys = zs ++ zs' ∧ List.Forall₂ R xs zs ∧ List.Forall₂ R xs' zs' := by
  induction xs generalizing ys with
  | nil => exact ⟨[], ys, rfl, .nil, h⟩
  | cons x xs ih =>
    cases h with
    | cons hxy ht =>
      obtain ⟨zs, zs', rfl, hz, hz'⟩ := ih ht
      exact ⟨_ :: zs, zs', rfl, .cons hxy hz, hz'⟩

theorem forall₂_map_eq {γ : Type} {R : α → β → Prop} {f : α → γ} {g : β → γ}
    (hf : ∀ x y, R x y → g y = f x) {xs : List α} {ys : List β} (h : List.Forall₂ R xs ys) :
    ys.map g = xs.map f := by
  induction h with
  | nil => rfl
  | cons hxy _ ih => simp [hf _ _ hxy, ih]

/-! ### Lists of named elements -/

/-- Where each name stands once, the element found by a name is the one with that name. -/
theorem find?_name_eq_some_iff {name : α → String} {xs : List α} (hnodup : (xs.map name).Nodup) {key : String}
    {x : α} : xs.find? (name · == key) = some x ↔ x ∈ xs ∧ name x = key := by
  constructor
  · intro h
    exact ⟨List.mem_of_find?_eq_some h, by simpa using List.find?_some h⟩
  · rintro ⟨hx, rfl⟩
    cases hfound : xs.find? (name · == name x) with
    | none => exact absurd (List.find?_eq_none.mp hfound x hx) (by simp)
    | some y =>
      have hname : name y = name x := by simpa using List.find?_some hfound
      rw [List.inj_on_of_nodup_map hnodup (List.mem_of_find?_eq_some hfound) hx hname]

theorem find?_name_eq_none_iff {name : α → String} {xs : List α} {key : String} :
    xs.find? (name · == key) = none ↔ key ∉ xs.map name := by
  simp

theorem find?_key_eq_some_iff {xs : List (String × β)} (hnodup : (xs.map (·.1)).Nodup) {key : String}
    {y : β} : (xs.find? (·.1 == key)).map (·.2) = some y ↔ (key, y) ∈ xs := by
  rw [Option.map_eq_some_iff]
  constructor
  · rintro ⟨x, hfound, rfl⟩
    obtain ⟨hx, rfl⟩ := (find?_name_eq_some_iff hnodup).mp hfound
    exact hx
  · exact fun hy => ⟨(key, y), (find?_name_eq_some_iff hnodup).mpr ⟨hy, rfl⟩, rfl⟩

/-- Of elements that are left out where they have no value, the names of the others stand in their order. -/
theorem map_fst_filterMap_sublist (name : α → String) (f? : α → Option β) (as : List α) :
    ((as.filterMap fun a => (f? a).map fun y => (name a, y)).map (·.1)).Sublist (as.map name) := by
  induction as with
  | nil => exact List.Sublist.slnil
  | cons a as ih =>
    cases hy : f? a with
    | none =>
      have hs := ih.cons (name a)
      simpa [hy] using hs
    | some y =>
      have hs := ih.cons_cons (name a)
      simpa [hy] using hs

/-! ### Counting by two tests -/

section
variable {narrow wide : α → Bool} {xs : List α}
variable (h : ∀ x ∈ xs, narrow x = true → wide x = true)

include h

theorem countP_add_countP :
    xs.countP narrow + xs.countP (fun x => wide x && !narrow x) = xs.countP wide := by
  induction xs with
  | nil => rfl
  | cons x xs ih =>
    have hrest := ih fun y hy => h y (List.mem_cons_of_mem _ hy)
    simp only [List.countP_cons]
    cases hn : narrow x with
    | true =>
      have hw : wide x = true := h x (List.mem_cons_self ..) hn
      simp only [hw, Bool.not_true, Bool.and_false, Bool.false_eq_true, if_true, if_false]
      omega
    | false =>
      simp only [Bool.not_false, Bool.and_true, Bool.false_eq_true, if_false]
      omega

/-- A narrower test counts as many only where it tells nothing apart. -/
theorem countP_eq_countP_iff :
    xs.countP narrow = xs.countP wide ↔ ∀ x ∈ xs, wide x = true → narrow x = true := by
  have hsum := countP_add_countP h
  have hzero : xs.countP narrow = xs.countP wide ↔ xs.countP (fun x => wide x && !narrow x) = 0 := by
    omega
  rw [hzero, List.countP_eq_zero]
  refine forall₂_congr fun x _ => ?_
  cases wide x <;> cases narrow x <;> decide

end

/-! ### The first element that passes a test -/

namespace Store

variable {test : α → Bool} {change : α → α}

theorem find?_of_narrower {narrow : α → Bool} {xs : List α} {x : α} (h : xs.find? test = some x)
    (hx : narrow x = true) (hn : ∀ y, narrow y = true → test y = true) : xs.find? narrow = some x := by
  induction xs with
  | nil => cases h
  | cons y ys ih =>
    by_cases hy : test y = true
    · have he : y = x := by simpa [hy] using h
      subst he
      simp [hx]
    · have hny : narrow y = false := by
        by_contra hc
        exact hy (hn y (by simpa using hc))
      have ht : ys.find? test = some x := by simpa [hy] using h
      simpa [hny] using ih ht

theorem forall₂_changeFirst {R : α → α → Prop} (hR : ∀ x, R x x) {xs : List α} {x : α}
    (h : xs.find? test = some x) (hx : R x (change x)) :
    List.Forall₂ R xs (changeFirst test change xs) := by
  induction xs with
  | nil => cases h
  | cons y ys ih =>
    by_cases hy : test y = true
    · have he : y = x := by simpa [hy] using h
      subst he
      simp only [changeFirst, hy, if_true]
      exact .cons hx (List.forall₂_same.mpr fun z _ => hR z)
    · have ht : ys.find? test = some x := by simpa [hy] using h
      simp only [changeFirst, hy, Bool.false_eq_true, if_false]
      exact .cons (hR y) (ih ht)

theorem mem_changeFirst_of_find? {xs : List α} {x : α} (h : xs.find? test = some x) :
    change x ∈ changeFirst test change xs := by
  induction xs with
  | nil => cases h
  | cons y ys ih =>
    by_cases hy : test y = true
    · have he : y = x := by simpa [hy] using h
      subst he
      simp [changeFirst, hy]
    · have ht : ys.find? test = some x := by simpa [hy] using h
      simp only [changeFirst, hy, Bool.false_eq_true, if_false]
      exact List.mem_cons_of_mem _ (ih ht)

theorem dropFirst_sublist (xs : List α) : (dropFirst test xs).Sublist xs := by
  induction xs with
  | nil => exact List.Sublist.slnil
  | cons x xs ih =>
    simp only [dropFirst]
    split
    · exact List.sublist_cons_self x xs
    · exact ih.cons_cons x

end Store

end Hypermedia
