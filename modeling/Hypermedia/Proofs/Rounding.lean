import Mathlib
import Hypermedia.Decimal.Layout

/-!
# Rounding to 53 bits

The mantissa of a binary64 float has 53 bits. An integer of more bits is rounded to the nearest one that
has no more of them before the zeros at its end, a tie to the one whose mantissa is even. Rounding keeps the
order of integers, though it may make two of them equal, and it changes none up to two to the 53.
-/

namespace Hypermedia.Decimal

/-! ### Rounded quotients -/

section
variable {m n den : Nat}

theorem roundDiv_mem (n den : Nat) : roundDiv n den = n / den ∨ roundDiv n den = n / den + 1 := by
  simp only [roundDiv]
  split
  · exact .inl rfl
  · exact .inr rfl

theorem roundDiv_mul_self (hden : 0 < den) : roundDiv (n * den) den = n := by
  rw [roundDiv, Nat.mul_mod_left, Nat.mul_div_cancel n hden, if_pos (.inl hden)]

theorem roundDiv_mul_mul {k : Nat} (hk : 0 < k) : roundDiv (n * k) (den * k) = roundDiv n den := by
  have hlt : 2 * (n % den * k) < den * k ↔ 2 * (n % den) < den := by
    rw [← Nat.mul_assoc]
    exact Nat.mul_lt_mul_right hk
  have heq : 2 * (n % den * k) = den * k ↔ 2 * (n % den) = den := by
    rw [← Nat.mul_assoc]
    exact Nat.mul_left_inj (Nat.ne_of_gt hk)
  rw [roundDiv, roundDiv, Nat.mul_div_mul_right n den hk, Nat.mul_mod_mul_right]
  simp only [hlt, heq]

theorem roundDiv_mono (h : m ≤ n) (den : Nat) : roundDiv m den ≤ roundDiv n den := by
  have hle : m / den ≤ n / den := Nat.div_le_div_right h
  rcases Nat.lt_or_eq_of_le hle with hlt | heq
  · have hm := roundDiv_mem m den
    have hn := roundDiv_mem n den
    omega
  · -- The two differ in their remainders only.
    have hrest : m % den ≤ n % den := by
      have hdm := Nat.div_add_mod m den
      have hdn := Nat.div_add_mod n den
      rw [heq] at hdm
      omega
    simp only [roundDiv, heq]
    split <;> split <;> omega

end

/-! ### Rounded integers -/

/-- How many bits of a number are behind the first 53. -/
def surplus (n : Nat) : Nat := n.log2 - 52

/-- A number rounded to 53 bits. -/
def rounded (n : Nat) : Nat := roundDiv n (2 ^ surplus n) * 2 ^ surplus n

/-- An integer rounded to 53 bits. -/
def nearest : Int → Int
  | .ofNat n => rounded n
  | .negSucc n => -(rounded (n + 1) : Int)

section
variable {m n : Nat}

theorem rounded_of_log2_le (h : n.log2 ≤ 52) : rounded n = n := by
  have hone : roundDiv (n * 1) 1 = n := roundDiv_mul_self Nat.one_pos
  rw [rounded, surplus, Nat.sub_eq_zero_of_le h, Nat.pow_zero, Nat.mul_one]
  rwa [Nat.mul_one] at hone

theorem rounded_of_le (h : n ≤ 2 ^ 53) : rounded n = n := by
  rcases Nat.lt_or_eq_of_le h with hlt | rfl
  · rcases Nat.eq_zero_or_pos n with rfl | hpos
    · decide
    · exact rounded_of_log2_le (Nat.le_of_lt_succ ((Nat.log2_lt (Nat.ne_of_gt hpos)).mpr hlt))
  · decide +kernel

/-- The mantissa of a number of at least 53 bits. -/
theorem roundDiv_surplus (hn : n ≠ 0) (h : 52 ≤ n.log2) :
    2 ^ 52 ≤ roundDiv n (2 ^ surplus n) ∧ roundDiv n (2 ^ surplus n) ≤ 2 ^ 53 := by
  have hsplit : 52 + surplus n = n.log2 := Nat.add_sub_cancel' h
  have hnext : 53 + surplus n = n.log2 + 1 := by omega
  have hlow : 2 ^ 52 ≤ n / 2 ^ surplus n := by
    rw [Nat.le_div_iff_mul_le (Nat.two_pow_pos _), ← Nat.pow_add, hsplit]
    exact Nat.log2_self_le hn
  have hhigh : n / 2 ^ surplus n < 2 ^ 53 := by
    rw [Nat.div_lt_iff_lt_mul (Nat.two_pow_pos _), ← Nat.pow_add, hnext]
    exact Nat.lt_log2_self
  have hmem := roundDiv_mem n (2 ^ surplus n)
  omega

/-- Rounding stays within the powers of two around a number. -/
theorem rounded_bounds (hn : n ≠ 0) : 2 ^ n.log2 ≤ rounded n ∧ rounded n ≤ 2 ^ (n.log2 + 1) := by
  rcases Nat.le_total n.log2 52 with h | h
  · rw [rounded_of_log2_le h]
    exact ⟨Nat.log2_self_le hn, Nat.le_of_lt Nat.lt_log2_self⟩
  · obtain ⟨hlow, hhigh⟩ := roundDiv_surplus hn h
    have hsplit : n.log2 = 52 + surplus n := (Nat.add_sub_cancel' h).symm
    have hnext : n.log2 + 1 = 53 + surplus n := by omega
    constructor
    · calc 2 ^ n.log2 = 2 ^ 52 * 2 ^ surplus n := by rw [← Nat.pow_add, ← hsplit]
        _ ≤ rounded n := Nat.mul_le_mul_right _ hlow
    · calc rounded n ≤ 2 ^ 53 * 2 ^ surplus n := Nat.mul_le_mul_right _ hhigh
        _ = 2 ^ (n.log2 + 1) := by rw [← Nat.pow_add, ← hnext]

theorem log2_mono (h : m ≤ n) : m.log2 ≤ n.log2 := by
  rcases Nat.eq_zero_or_pos m with rfl | hm
  · simp
  · have hn : n ≠ 0 := Nat.ne_of_gt (Nat.lt_of_lt_of_le hm h)
    exact (Nat.le_log2 hn).mpr (Nat.le_trans (Nat.log2_self_le (Nat.ne_of_gt hm)) h)

theorem rounded_mono (h : m ≤ n) : rounded m ≤ rounded n := by
  rcases Nat.eq_zero_or_pos m with rfl | hm
  · exact Nat.zero_le _
  · have hn : n ≠ 0 := Nat.ne_of_gt (Nat.lt_of_lt_of_le hm h)
    rcases Nat.lt_or_eq_of_le (log2_mono h) with hlt | heq
    · calc rounded m ≤ 2 ^ (m.log2 + 1) := (rounded_bounds (Nat.ne_of_gt hm)).2
        _ ≤ 2 ^ n.log2 := Nat.pow_le_pow_right Nat.two_pos hlt
        _ ≤ rounded n := (rounded_bounds hn).1
    · have hsame : surplus m = surplus n := congrArg (· - 52) heq
      rw [rounded, rounded, hsame]
      exact Nat.mul_le_mul_right _ (roundDiv_mono h _)

end

section
variable {m n : Int}

theorem nearest_of_natAbs_le (h : n.natAbs ≤ 2 ^ 53) : nearest n = n := by
  cases n with
  | ofNat n => exact congrArg Int.ofNat (rounded_of_le h)
  | negSucc n => exact congrArg Int.negOfNat (rounded_of_le h)

/-- Rounding keeps the order. -/
theorem nearest_mono (h : m ≤ n) : nearest m ≤ nearest n := by
  cases m with
  | ofNat m =>
    cases n with
    | ofNat n => exact Int.ofNat_le.mpr (rounded_mono (Int.ofNat_le.mp h))
    | negSucc n =>
      have hlt : Int.negSucc n < Int.ofNat m :=
        Int.lt_of_lt_of_le (Int.negSucc_lt_zero n) (Int.natCast_nonneg m)
      exact absurd h (Int.not_le.mpr hlt)
  | negSucc m =>
    cases n with
    | ofNat n => exact Int.le_trans (Int.neg_nonpos_of_nonneg (Int.natCast_nonneg _)) (Int.natCast_nonneg _)
    | negSucc n =>
      have hle : n + 1 ≤ m + 1 := by omega
      exact Int.neg_le_neg (Int.ofNat_le.mpr (rounded_mono hle))

end

end Hypermedia.Decimal
