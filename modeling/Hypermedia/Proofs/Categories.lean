import Hypermedia.Decimal.Power
import Hypermedia.Text.Category

/-!
# Characters of a category

The table of categories is searched by halving. The search finds the run that a character lies in, so the
characters of a category are the numbers in its runs. Sets of numbers are compared as bits of one number.
-/

namespace Hypermedia.Text

/-! ### Halving -/

section
variable {runs : Array (Nat × Category)} {n place : Nat}

/-- The runs up to this place begin at or before a number, and no later run does. -/
def LiesAt (runs : Array (Nat × Category)) (n place : Nat) : Prop :=
  ∀ j < runs.size, ((runs[j]?).map (·.1)).getD 0 ≤ n ↔ j ≤ place

/-- The place stays between the bounds, and the distance of the bounds is halved. -/
theorem categorySearch_eq (hplace : LiesAt runs n place) {fuel lo hi : Nat} (hlo : lo ≤ place)
    (hhi : place < hi) (hsize : hi ≤ runs.size) (hfuel : hi - lo ≤ Decimal.twoTo fuel) :
    categorySearch runs n fuel lo hi = ((runs[place]?).map (·.2)).getD .cn := by
  induction fuel generalizing lo hi with
  | zero =>
    have hone : hi - lo ≤ 1 := hfuel
    obtain rfl : lo = place := by omega
    rfl
  | succ fuel ih =>
    have hdouble : Decimal.twoTo (fuel + 1) = Decimal.twoTo fuel * 2 := rfl
    unfold categorySearch
    split
    · obtain rfl : lo = place := by omega
      rfl
    · dsimp only
      split
      · rename_i hmid
        exact ih ((hplace _ (by omega)).mp hmid) hhi hsize (by omega)
      · rename_i hmid
        have hgt := mt (hplace _ (by omega)).mpr hmid
        exact ih hlo (by omega) (by omega) (by omega)

end

/-! ### Runs -/

/-- Each run begins after the one before it, the first at `start` or after. -/
def increasing (start : Nat) : List (Nat × Category) → Bool
  | [] => true
  | run :: runs => if Nat.ble start run.1 then increasing (run.1 + 1) runs else false

/-- The numbers in the runs of a category. -/
def pointsOf (category : Category) : List (Nat × Category) → List Nat
  | (start, c) :: (next, c') :: runs =>
    (if c = category then List.range' start (next - start) else []) ++
      pointsOf category ((next, c') :: runs)
  | _ => []

section
variable {runs before after : List (Nat × Category)} {run next : Nat × Category} {start n : Nat}

theorem increasing_cons : increasing start (run :: runs) = true ↔
    start ≤ run.1 ∧ increasing (run.1 + 1) runs = true := by
  simp [increasing, Nat.ble_eq]

theorem pairwise_of_increasing (h : increasing start runs = true) :
    (∀ run ∈ runs, start ≤ run.1) ∧ runs.Pairwise (·.1 < ·.1) := by
  induction runs generalizing start with
  | nil => exact ⟨by simp, .nil⟩
  | cons run runs ih =>
    obtain ⟨hstart, hrest⟩ := increasing_cons.mp h
    obtain ⟨hall, hpairwise⟩ := ih hrest
    refine ⟨fun x hx => ?_, List.pairwise_cons.mpr ⟨fun x hx => hall x hx, hpairwise⟩⟩
    rcases List.mem_cons.mp hx with rfl | hx
    · exact hstart
    · have := hall x hx
      omega

/-- A number between the first and the last run lies in one of the runs. -/
theorem exists_run (hfirst : ∀ run ∈ runs.head?, run.1 ≤ n) (hlast : ∃ run ∈ runs, n < run.1) :
    ∃ before run next after, runs = before ++ run :: next :: after ∧ run.1 ≤ n ∧ n < next.1 := by
  induction runs with
  | nil => simp at hlast
  | cons run runs ih =>
    have hrun : run.1 ≤ n := hfirst run rfl
    cases runs with
    | nil =>
      obtain ⟨x, hx, hlt⟩ := hlast
      rw [List.mem_singleton.mp hx] at hlt
      omega
    | cons next runs =>
      by_cases hnext : n < next.1
      · exact ⟨[], run, next, runs, rfl, hrun, hnext⟩
      · obtain ⟨x, hx, hlt⟩ := hlast
        have hx' : x ∈ next :: runs := by
          rcases List.mem_cons.mp hx with rfl | hx
          · omega
          · exact hx
        obtain ⟨before, y, z, after, hsplit, hy, hz⟩ :=
          ih (fun y hy => by cases hy; omega) ⟨x, hx', hlt⟩
        exact ⟨run :: before, y, z, after, by rw [hsplit, List.cons_append], hy, hz⟩

theorem mem_pointsOf (hrun : run.1 ≤ n) (hnext : n < next.1) :
    n ∈ pointsOf run.2 (before ++ run :: next :: after) := by
  induction before with
  | nil =>
    have hmem : n ∈ List.range' run.1 (next.1 - run.1) := List.mem_range'_1.mpr ⟨hrun, by omega⟩
    simp [pointsOf, hmem]
  | cons x before ih =>
    cases before with
    | nil => exact List.mem_append_right _ ih
    | cons y before => exact List.mem_append_right _ ih

theorem liesAt_length (hsorted : (before ++ run :: next :: after).Pairwise (·.1 < ·.1))
    (hrun : run.1 ≤ n) (hnext : n < next.1) :
    LiesAt (before ++ run :: next :: after).toArray n before.length := by
  intro j hj
  rw [List.size_toArray] at hj
  have hlt := List.pairwise_iff_getElem.mp hsorted
  have hplace : (before ++ run :: next :: after)[before.length]? = some run := by simp
  have hplace' : (before ++ run :: next :: after)[before.length + 1]? = some next := by simp
  rw [List.getElem?_eq_some_iff] at hplace hplace'
  obtain ⟨hi, hplace⟩ := hplace
  obtain ⟨hi', hplace'⟩ := hplace'
  rw [List.getElem?_toArray, List.getElem?_eq_getElem hj, Option.map_some, Option.getD_some]
  constructor
  · intro hle
    refine Nat.le_of_not_lt fun hgt => ?_
    rcases Nat.lt_or_eq_of_le (Nat.succ_le_of_lt hgt) with hlater | rfl
    · have := hlt _ _ hi' hj hlater
      rw [hplace'] at this
      omega
    · rw [hplace'] at hle
      omega
  · intro hle
    rcases Nat.lt_or_eq_of_le hle with hearlier | rfl
    · have := hlt _ _ hj hi hearlier
      rw [hplace] at this
      omega
    · rwa [hplace]

end

/-! ### The table -/

theorem categoryList_increasing : increasing 0 categoryList = true ∧ categoryList.length ≤ Decimal.twoTo 32 := by
  decide +kernel

theorem toNat_lt (c : Char) : c.toNat < 0x110000 := by
  rcases c.valid with h | h
  · exact Nat.lt_trans h (by decide)
  · exact h.2

/-- A character's number lies in a run of the character's category. -/
theorem toNat_mem_pointsOf (c : Char) : c.toNat ∈ pointsOf (category c) categoryList := by
  have hfirst : ∀ run ∈ categoryList.head?, run.1 ≤ c.toNat := by
    rintro run ⟨⟩
    exact Nat.zero_le _
  have hlast : ∃ run ∈ categoryList, c.toNat < run.1 := by
    refine ⟨(0x110000, .cn), ?_, toNat_lt c⟩
    exact List.mem_flatten_of_mem (l := categoriesFrom1EE00) (by simp) (by decide)
  obtain ⟨before, run, next, after, hsplit, hrun, hnext⟩ := exists_run hfirst hlast
  obtain ⟨hincreasing, hsize⟩ := categoryList_increasing
  have hsorted := (pairwise_of_increasing hincreasing).2
  rw [hsplit] at hsorted hsize
  have hruns : categoryRuns = (before ++ run :: next :: after).toArray := by
    rw [categoryRuns, hsplit]
  have hcategory : category c = run.2 := by
    rw [category, hruns, categorySearch_eq (liesAt_length hsorted hrun hnext) (Nat.zero_le _)
      (by simp) (Nat.le_refl _) hsize]
    simp
  rw [hcategory, hsplit]
  exact mem_pointsOf hrun hnext

end Hypermedia.Text
