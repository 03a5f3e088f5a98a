import Mathlib
import Hypermedia.Proofs.Ordering
import Hypermedia.Proofs.Rounding

/-!
# Integers as floats

An integer becomes a float by a product, which is worked out with all of its bits, shifted to 53 of them,
rounded and packed. So the float of an integer stands for the integer rounded to 53 bits, and the order of
floats that stand for integers is the order of these.
-/

namespace Hypermedia.Number

open Float.Model (UnpackedFloat Format)
open Float.Model.UnpackedFloat
open Decimal (roundDiv rounded nearest surplus)

/-! ### Shifted mantissas -/

/-- A quotient as a mantissa. What is left of the division is told by two bits: whether it is at least half a
unit, and whether it is anything else than half a unit or nothing. -/
def quotient (n den : Nat) : ExtendedMantissa :=
  ⟨n / den, decide (den ≤ 2 * (n % den)), decide (2 * (n % den) % den ≠ 0)⟩

section
variable {n den : Nat} (hden : 0 < den)

include hden

theorem shiftRightOne_quotient : (quotient n den).shiftRightOne = quotient n (den * 2) := by
  have hless : n % den < den := Nat.mod_lt n hden
  have hrest : n % (den * 2) = n % den + den * (n / den % 2) := Nat.mod_mul
  have hround : (n / den % 2 != 0) = decide (den * 2 ≤ 2 * (n % (den * 2))) := by
    rw [hrest, Bool.eq_iff_iff, bne_iff_ne, decide_eq_true_iff]
    rcases Nat.mod_two_eq_zero_or_one (n / den) with h | h <;> rw [h] <;> omega
  have hsticky : (decide (den ≤ 2 * (n % den)) || decide (2 * (n % den) % den ≠ 0)) =
      decide (2 * (n % (den * 2)) % (den * 2) ≠ 0) := by
    have hall : 2 * (n % (den * 2)) % (den * 2) = 2 * (n % den) := by
      rw [Nat.mul_comm den 2, Nat.mul_mod_mul_left, Nat.mul_comm 2 den, Nat.mod_mul_right_mod]
    rw [hall, Bool.eq_iff_iff, Bool.or_eq_true, decide_eq_true_iff, decide_eq_true_iff, decide_eq_true_iff]
    rcases Nat.lt_or_ge (2 * (n % den)) den with h | h
    · rw [Nat.mod_eq_of_lt h]
      omega
    · omega
  simp only [ExtendedMantissa.shiftRightOne, quotient, hround, hsticky, Nat.div_div_eq_div_mul]

theorem roundedMantissa_quotient : (quotient n den).roundedMantissa = roundDiv n den := by
  have hless : n % den < den := Nat.mod_lt n hden
  have hparity := Nat.mod_two_eq_zero_or_one (n / den)
  simp only [ExtendedMantissa.roundedMantissa, quotient, roundDiv]
  rcases Nat.lt_trichotomy (2 * (n % den)) den with h | h | h
  · rw [decide_eq_false (by omega), Nat.mod_eq_of_lt h, if_pos (.inl h)]
    cases decide (2 * (n % den) ≠ 0) <;> rfl
  · rw [h, Nat.mod_self, decide_eq_true (Nat.le_refl den), decide_eq_false (fun h => h rfl)]
    simp only [ExtendedMantissa.accuracy, Accuracy.roundToNearestEven, Nat.lt_irrefl, false_or, true_and]
    split <;> omega
  · have hleft : 2 * (n % den) % den ≠ 0 := by
      rw [Nat.mod_eq_sub_mod (Nat.le_of_lt h), Nat.mod_eq_of_lt (by omega)]
      omega
    rw [decide_eq_true (Nat.le_of_lt h), decide_eq_true hleft, if_neg (by omega)]
    rfl

end

theorem shiftRight_quotient (n t : Nat) : quotient n 1 >>> t = quotient n (2 ^ t) := by
  change t.repeat ExtendedMantissa.shiftRightOne (quotient n 1) = _
  induction t with
  | zero => rfl
  | succ t ih => rw [Nat.repeat, ih, shiftRightOne_quotient (Nat.two_pow_pos t), Nat.pow_succ]

theorem ofMantissaAndAccuracy_exact (n : Nat) :
    ExtendedMantissa.ofMantissaAndAccuracy n .exact = quotient n 1 := by
  simp [ExtendedMantissa.ofMantissaAndAccuracy, quotient, Nat.mod_one]

/-- A number of at least 53 bits is shifted to 53. -/
theorem shiftToTargetExponent_eq {m : Nat} {e : Int} (hlog : 52 ≤ m.log2) (he : -1074 ≤ e + surplus m) :
    shiftToTargetExponent Format.binary64 m e .exact = (quotient m (2 ^ surplus m), e + surplus m) := by
  have htarget : Format.binary64.targetExponent (Float.Model.totalExponent m e) = e + surplus m := by
    simp only [Format.targetExponent, Float.Model.totalExponent, Format.mantissaBits, Format.minExponent]
    unfold surplus at *
    norm_num
    omega
  have hshift : (e + surplus m - e).toNat = surplus m := by omega
  rw [shiftToTargetExponent, htarget, shiftToExponent, hshift, ofMantissaAndAccuracy_exact, shiftRight_quotient]

theorem log2_of_full {m : Nat} (hlow : 2 ^ 52 ≤ m) (hhigh : m < 2 ^ 53) : m.log2 = 52 :=
  (Nat.log2_eq_iff (by omega)).mpr ⟨hlow, hhigh⟩

theorem surplus_of_full {m : Nat} (hlow : 2 ^ 52 ≤ m) (hhigh : m < 2 ^ 53) : surplus m = 0 := by
  rw [surplus, log2_of_full hlow hhigh]

/-- A rounded mantissa has 53 bits, or it is two to the 53, which loses one more bit. -/
theorem carried_bounds {r : Nat} (hlow : 2 ^ 52 ≤ r) (hhigh : r ≤ 2 ^ 53) :
    surplus r ≤ 1 ∧ 2 ^ 52 ≤ r / 2 ^ surplus r ∧ r / 2 ^ surplus r < 2 ^ 53 ∧
      r / 2 ^ surplus r * 2 ^ surplus r = r := by
  rcases Nat.lt_or_eq_of_le hhigh with hlt | rfl
  · rw [surplus_of_full hlow hlt, Nat.pow_zero, Nat.div_one, Nat.mul_one]
    exact ⟨Nat.zero_le _, hlow, hlt, rfl⟩
  · decide +kernel

/-- A number of at least 53 bits is rounded to a mantissa, whose last bit is dropped if a carry has made it one
bit longer. -/
theorem roundWithAccuracy_eq (s : Sign) {m : Nat} {e : Int} (hlog : 52 ≤ m.log2) (he : -1074 ≤ e + surplus m) :
    ∃ hpos, roundWithAccuracy Format.binary64 s m e .exact =
      .finite s (roundDiv m (2 ^ surplus m) / 2 ^ surplus (roundDiv m (2 ^ surplus m)))
        (e + surplus m + surplus (roundDiv m (2 ^ surplus m))) hpos := by
  have hm : m ≠ 0 := by
    rintro rfl
    exact absurd hlog (by decide)
  obtain ⟨hlow, hhigh⟩ := Decimal.roundDiv_surplus hm hlog
  have hfirst := shiftToTargetExponent_eq hlog he
  have hsecond := shiftToTargetExponent_eq (m := roundDiv m (2 ^ surplus m)) (e := e + surplus m)
    ((Nat.le_log2 (by omega)).mpr hlow) (by omega)
  have hpos : 0 < roundDiv m (2 ^ surplus m) / 2 ^ surplus (roundDiv m (2 ^ surplus m)) :=
    Nat.lt_of_lt_of_le (Nat.two_pow_pos 52) (carried_bounds hlow hhigh).2.1
  refine ⟨hpos, ?_⟩
  rw [roundWithAccuracy]
  simp only [hfirst, roundedMantissa_quotient (Nat.two_pow_pos _), hsecond]
  exact dif_neg (Nat.ne_of_gt hpos)

/-! ### Floats of integers -/

/-- A float with a full mantissa and the value of an integer. -/
inductive Denotes : UnpackedFloat → Int → Prop
  | zero (s : Sign) : Denotes (.zero s) 0
  | finite (s : Sign) {m k n : Nat} {e : Int} (hpos : 0 < m) (hlow : 2 ^ 52 ≤ m) (hhigh : m < 2 ^ 53)
      (hexp : e = k - 52) (hk : k ≤ 1023) (hvalue : m * 2 ^ k = n * 2 ^ 52) :
      Denotes (.finite s m e hpos) (s.apply n)

theorem log2_mul_two_pow {n : Nat} (hn : n ≠ 0) (j : Nat) : (n * 2 ^ j).log2 = n.log2 + j := by
  have hpos : n * 2 ^ j ≠ 0 := Nat.ne_of_gt (Nat.mul_pos (Nat.pos_of_ne_zero hn) (Nat.two_pow_pos j))
  rw [Nat.log2_eq_iff hpos, Nat.add_right_comm, Nat.pow_add, Nat.pow_add _ (n.log2 + 1)]
  exact ⟨Nat.mul_le_mul_right _ (Nat.log2_self_le hn),
    Nat.mul_lt_mul_of_pos_right Nat.lt_log2_self (Nat.two_pow_pos j)⟩

/-- Zeros after a number do not change its mantissa. -/
theorem roundDiv_shifted {n j : Nat} (hn : n ≠ 0) (hj : 52 ≤ n.log2 + j) :
    roundDiv (n * 2 ^ j) (2 ^ surplus (n * 2 ^ j)) * 2 ^ n.log2 = rounded n * 2 ^ 52 := by
  have hsurplus : surplus (n * 2 ^ j) = n.log2 + j - 52 := by rw [surplus, log2_mul_two_pow hn]
  rcases Nat.le_total n.log2 52 with h | h
  · have hzeros : n * 2 ^ j = n * 2 ^ (52 - n.log2) * 2 ^ surplus (n * 2 ^ j) := by
      rw [hsurplus, Nat.mul_assoc, ← Nat.pow_add]
      congr 2
      omega
    have hexact : roundDiv (n * 2 ^ j) (2 ^ surplus (n * 2 ^ j)) = n * 2 ^ (52 - n.log2) :=
      (congrArg (roundDiv · _) hzeros).trans (Decimal.roundDiv_mul_self (Nat.two_pow_pos _))
    rw [hexact, Decimal.rounded_of_log2_le h, Nat.mul_assoc, ← Nat.pow_add, Nat.sub_add_cancel h]
  · have hsplit : surplus n + 52 = n.log2 := Nat.sub_add_cancel h
    have hmore : surplus (n * 2 ^ j) = surplus n + j := by omega
    rw [hmore, Nat.pow_add, Decimal.roundDiv_mul_mul (Nat.two_pow_pos j), rounded, Nat.mul_assoc,
      ← Nat.pow_add, hsplit]

/-- A product that is an integer followed by zeros is rounded to the float of the integer. -/
theorem denotes_roundWithAccuracy (s : Sign) {n j : Nat} (hn : n ≠ 0) (hj : 52 ≤ n.log2 + j)
    (hsmall : n.log2 < 1023) :
    Denotes (roundWithAccuracy Format.binary64 s (n * 2 ^ j) (-j) .exact) (s.apply (rounded n)) := by
  have hlog : (n * 2 ^ j).log2 = n.log2 + j := log2_mul_two_pow hn j
  have hsurplus : surplus (n * 2 ^ j) = n.log2 + j - 52 := by rw [surplus, hlog]
  have hproduct : n * 2 ^ j ≠ 0 := Nat.ne_of_gt (Nat.mul_pos (Nat.pos_of_ne_zero hn) (Nat.two_pow_pos j))
  obtain ⟨hlow, hhigh⟩ := Decimal.roundDiv_surplus hproduct (hlog ▸ hj)
  obtain ⟨hcarry, hfull, hless, hwhole⟩ := carried_bounds hlow hhigh
  obtain ⟨hpos, heq⟩ := roundWithAccuracy_eq s (m := n * 2 ^ j) (e := -j) (hlog ▸ hj) (by omega)
  rw [heq]
  refine .finite s (k := n.log2 + surplus (roundDiv (n * 2 ^ j) (2 ^ surplus (n * 2 ^ j)))) hpos hfull hless
    (by omega) (by omega) ?_
  rw [Nat.add_comm, Nat.pow_add, ← Nat.mul_assoc, hwhole, roundDiv_shifted hn hj]

section
variable {s : Sign} {m k : Nat} {e : Int} (hpos : 0 < m) (hlow : 2 ^ 52 ≤ m) (hhigh : m < 2 ^ 53)
variable (hexp : e = k - 52) (hk : k ≤ 1023)

include hlow hhigh hexp hk

/-- The first bit of a full mantissa is not packed. -/
theorem pack_full : UnpackedFloat.pack Format.binary64 (.finite s m e hpos) =
    packComponents Format.binary64 s (BitVec.ofNat 11 (k + 1023)) (BitVec.ofNat 52 m) := by
  have hbiased : (e + 1023 + 52).toNat = k + 1023 := by omega
  have hfits : ¬ 2 ^ 11 ≤ (e + 1023 + 52).toNat + 1 := by omega
  have hnormal : m.log2 + 1 = 53 := by rw [log2_of_full hlow hhigh]
  rw [← hbiased]
  exact (if_neg hfits).trans (if_pos hnormal)

/-- It is put in front again where a float is read. -/
theorem unpack_full : UnpackedFloat.unpack Format.binary64
    (packComponents Format.binary64 s (BitVec.ofNat 11 (k + 1023)) (BitVec.ofNat 52 m)) = .finite s m e hpos := by
  have hexponent : (BitVec.ofNat 11 (k + 1023)).toNat = k + 1023 := by
    rw [BitVec.toNat_ofNat, Nat.mod_eq_of_lt (by omega)]
  have hne : ∀ b : BitVec 11, b.toNat ≠ k + 1023 → BitVec.ofNat 11 (k + 1023) ≠ b := by
    rintro _ hb rfl
    exact hb hexponent
  have hones : BitVec.ofNat 11 (k + 1023) ≠ -1#11 := hne _ (by rw [show (-1#11).toNat = 2047 from rfl]; omega)
  have hzeros : BitVec.ofNat 11 (k + 1023) ≠ 0#11 := hne _ (by rw [BitVec.toNat_zero]; omega)
  have hmantissa : (1#1 ++ BitVec.ofNat 52 m).toNat = m := by
    rw [BitVec.toNat_append, BitVec.toNat_ofNat, BitVec.toNat_ofNat, Nat.shiftLeft_eq, Nat.mul_comm,
      ← Nat.two_pow_add_eq_or_of_lt (Nat.mod_lt m (Nat.two_pow_pos 52))]
    omega
  have hback : ((k + 1023 : Nat) : Int) - (Format.binary64.exponentBias + 52) = e := by
    rw [show Format.binary64.exponentBias = 1023 from rfl]
    omega
  rw [UnpackedFloat.unpack]
  simp only [unpackMantissa_packComponents, unpackExponent_packComponents, unpackSign_packComponents,
    Sign.ofBitVec_toBitVec, hones, hzeros, if_false, hexponent, hmantissa]
  exact (UnpackedFloat.finite.injEq ..).mpr ⟨rfl, rfl, hback⟩

end

/-- Such a float is read again as it was packed. -/
theorem unpack_pack {x : UnpackedFloat} {n : Int} (h : Denotes x n) : (Float.Model.pack x).unpack = x := by
  cases h with
  | zero s => exact unpack_packedZero
  | finite s hpos hlow hhigh hexp hk hvalue =>
    exact (congrArg _ (pack_full hpos hlow hhigh hexp hk)).trans (unpack_full hpos hlow hhigh hexp hk)

/-! ### Order -/

section
variable {m k n m' k' n' : Nat} (hvalue : m * 2 ^ k = n * 2 ^ 52) (hvalue' : m' * 2 ^ k' = n' * 2 ^ 52)

include hvalue hvalue'

theorem lt_of_exponent_lt (hhigh : m < 2 ^ 53) (hlow : 2 ^ 52 ≤ m') (h : k < k') : n < n' := by
  refine Nat.lt_of_mul_lt_mul_right (a := 2 ^ 52) ?_
  calc n * 2 ^ 52 = m * 2 ^ k := hvalue.symm
    _ < 2 ^ 53 * 2 ^ k := Nat.mul_lt_mul_of_pos_right hhigh (Nat.two_pow_pos k)
    _ = 2 ^ 52 * 2 ^ (k + 1) := by rw [← Nat.pow_add, ← Nat.pow_add]; congr 1; omega
    _ ≤ 2 ^ 52 * 2 ^ k' := Nat.mul_le_mul_left _ (Nat.pow_le_pow_right Nat.two_pos h)
    _ ≤ m' * 2 ^ k' := Nat.mul_le_mul_right _ hlow
    _ = n' * 2 ^ 52 := hvalue'

theorem compare_of_exponent_eq (h : k = k') : compare m m' = compare n n' := by
  subst h
  have hlt : m < m' ↔ n < n' := by
    rw [← Nat.mul_lt_mul_right (Nat.two_pow_pos k), hvalue, hvalue', Nat.mul_lt_mul_right (Nat.two_pow_pos 52)]
  have heq : m = m' ↔ n = n' := by
    rw [← Nat.mul_left_inj (Nat.ne_of_gt (Nat.two_pow_pos k)), hvalue, hvalue',
      Nat.mul_left_inj (Nat.ne_of_gt (Nat.two_pow_pos 52))]
  simp only [compare, compareOfLessAndEq, hlt, heq]

end

/-- Full mantissas are compared by their exponents first. -/
theorem compare_full {m k n m' k' n' : Nat} {e e' : Int} (hlow : 2 ^ 52 ≤ m) (hhigh : m < 2 ^ 53)
    (hlow' : 2 ^ 52 ≤ m') (hhigh' : m' < 2 ^ 53) (hexp : e = k - 52) (hexp' : e' = k' - 52)
    (hvalue : m * 2 ^ k = n * 2 ^ 52) (hvalue' : m' * 2 ^ k' = n' * 2 ^ 52) :
    (compare e e').then (compare m m') = compare n n' := by
  rcases Nat.lt_trichotomy k k' with h | h | h
  · have hless : e < e' := by omega
    rw [compare_lt_iff_lt.mpr hless, compare_lt_iff_lt.mpr (lt_of_exponent_lt hvalue hvalue' hhigh hlow' h)]
    rfl
  · have hsame : e = e' := by omega
    rw [compare_eq_iff_eq.mpr hsame]
    exact compare_of_exponent_eq hvalue hvalue' h
  · have hmore : e' < e := by omega
    rw [compare_gt_iff_gt.mpr hmore, compare_gt_iff_gt.mpr (lt_of_exponent_lt hvalue' hvalue hhigh' hlow h)]
    rfl

theorem compare_denotes {x y : UnpackedFloat} {m n : Int} (hx : Denotes x m) (hy : Denotes y n) :
    x.compare y = some (compare m n) := by
  have hnat : ∀ {m k n : Nat}, 0 < m → m * 2 ^ k = n * 2 ^ 52 → 0 < (n : Int) := by
    intro m k n hm hvalue
    have hproduct : 0 < n * 2 ^ 52 := hvalue ▸ Nat.mul_pos hm (Nat.two_pow_pos k)
    omega
  cases hx with
  | zero s =>
    cases hy with
    | zero t => rfl
    | finite t hpos' hlow' hhigh' hexp' hk' hvalue' =>
      have hn := hnat hpos' hvalue'
      cases t with
      | negative => exact congrArg some (compare_gt_iff_gt.mpr (Int.neg_neg_of_pos hn)).symm
      | positive => exact congrArg some (compare_lt_iff_lt.mpr hn).symm
  | finite s hpos hlow hhigh hexp hk hvalue =>
    have hm := hnat hpos hvalue
    cases hy with
    | zero t =>
      cases s with
      | negative => exact congrArg some (compare_lt_iff_lt.mpr (Int.neg_neg_of_pos hm)).symm
      | positive => exact congrArg some (compare_gt_iff_gt.mpr hm).symm
    | finite t hpos' hlow' hhigh' hexp' hk' hvalue' =>
      have hn := hnat hpos' hvalue'
      have hfull := compare_full hlow hhigh hlow' hhigh' hexp hexp' hvalue hvalue'
      cases s <;> cases t
      · refine congrArg some ?_
        rw [hfull]
        exact (compare_natCast .. ▸ compare_neg ..).symm
      · exact congrArg some (compare_lt_iff_lt.mpr (by simp only [Sign.apply]; omega)).symm
      · exact congrArg some (compare_gt_iff_gt.mpr (by simp only [Sign.apply]; omega)).symm
      · refine congrArg some ?_
        rw [hfull]
        exact (compare_natCast ..).symm

/-! ### Conversion -/

theorem Denotes.neg {x : UnpackedFloat} {n : Int} (h : Denotes x n) : Denotes x.neg (-n) := by
  cases h with
  | zero s => exact .zero (-s)
  | finite s hpos hlow hhigh hexp hk hvalue =>
    cases s with
    | negative => exact Int.neg_neg _ ▸ .finite .positive hpos hlow hhigh hexp hk hvalue
    | positive => exact .finite .negative hpos hlow hhigh hexp hk hvalue

/-- One, with a full mantissa. -/
def fullOne : UnpackedFloat := .finite .positive (2 ^ 52) (-52) (Nat.two_pow_pos 52)

/-- A product with one is worked out and rounded, and changes nothing. -/
theorem mul_fullOne {x : UnpackedFloat} {n : Int} (h : Denotes x n) : mul Format.binary64 x fullOne = x := by
  cases h with
  | zero s => cases s <;> rfl
  | @finite s m k n e hpos hlow hhigh hexp hk hvalue =>
    have hlog : (m * 2 ^ 52).log2 = 104 := by
      rw [log2_mul_two_pow (Nat.ne_of_gt hpos), log2_of_full hlow hhigh]
    have hsurplus : surplus (m * 2 ^ 52) = 52 := by rw [surplus, hlog]
    have hsign : s * .positive = s := by cases s <;> rfl
    obtain ⟨hpos', heq⟩ := roundWithAccuracy_eq s (m := m * 2 ^ 52) (e := e + -52) (by omega) (by omega)
    have hmul : mul Format.binary64 (.finite s m e hpos) fullOne =
        roundWithAccuracy Format.binary64 (s * .positive) (m * 2 ^ 52) (e + -52) .exact := rfl
    rw [hmul, hsign, heq]
    refine (UnpackedFloat.finite.injEq ..).mpr ⟨rfl, ?_, ?_⟩
    · rw [hsurplus, Decimal.roundDiv_mul_self (Nat.two_pow_pos 52), surplus_of_full hlow hhigh, Nat.pow_zero,
        Nat.div_one]
    · rw [hsurplus, Decimal.roundDiv_mul_self (Nat.two_pow_pos 52), surplus_of_full hlow hhigh]
      omega

/-- A number is shifted to 53 bits and rounded, however few or many it has. -/
theorem denotes_round (s : Sign) {n : Nat} (hn : n ≠ 0) (hsmall : n.log2 < 1023) :
    Denotes (UnpackedFloat.round Format.binary64 s n 0) (s.apply (rounded n)) := by
  have hshift : (0 - Format.binary64.targetExponent (Float.Model.totalExponent n 0)).toNat = 52 - n.log2 := by
    simp only [Format.targetExponent, Float.Model.totalExponent, Format.mantissaBits, Format.minExponent]
    norm_num
    omega
  simp only [UnpackedFloat.round, decreaseExponent, hshift, Nat.shiftLeft_eq]
  rw [Int.zero_sub]
  exact denotes_roundWithAccuracy s hn (by omega) hsmall

/-- A number of at most 53 bits is converted as a word, and multiplied by one. -/
theorem denotes_word {n : Nat} (hn : n ≠ 0) (h : n < 2 ^ 53) : Denotes (Float.ofNat n).toModel.unpack n := by
  have hword : n.toUInt64.toNat = n := Nat.mod_eq_of_lt (by omega)
  have hlog : n.log2 < 53 := (Nat.log2_lt hn).mpr h
  have hsmall : n.log2 < 1023 := by omega
  have hconverted : Denotes (UnpackedFloat.ofUInt64 Format.binary64 n.toUInt64) (rounded n) := by
    have hgt : compare (n : Int) 0 = .gt := compare_gt_iff_gt.mpr (by omega)
    rw [UnpackedFloat.ofUInt64, hword, UnpackedFloat.ofNat, UnpackedFloat.ofInt, UnpackedFloat.normalize, hgt]
    exact denotes_round .positive hn hsmall
  have hone : Float.exactlyRepresentablePowersOfTen[0].toModel.unpack = fullOne := rfl
  have hmul : (Float.ofScientific n false 0).toModel = Float.Model.pack (mul Format.binary64
      (Float.Model.pack (UnpackedFloat.ofUInt64 Format.binary64 n.toUInt64)).unpack
      Float.exactlyRepresentablePowersOfTen[0].toModel.unpack) := by
    rw [Float.ofScientific, dif_pos ⟨h, Nat.zero_le 22⟩]
    rfl
  rw [show Float.ofNat n = Float.ofScientific n false 0 from rfl, hmul, hone, unpack_pack hconverted,
    mul_fullOne hconverted, unpack_pack hconverted]
  rwa [Decimal.rounded_of_le (Nat.le_of_lt h)] at hconverted

/-- A longer one is shifted by its own length first. -/
theorem denotes_long {n : Nat} (h : 2 ^ 53 ≤ n) (hsmall : n.log2 < 1023) :
    Denotes (Float.ofNat n).toModel.unpack (rounded n) := by
  have hn : n ≠ 0 := by omega
  have hscientific : UnpackedFloat.ofScientific Format.binary64 n 0 =
      roundWithAccuracy Format.binary64 .positive (n * 2 ^ 53) (-(53 : Nat)) .exact := by
    have hlarge : ¬ (0 : Int) > 2 ^ 11 := by decide
    have htiny : ¬ (0 : Int) < -((2 ^ 11 : Int) + n.log2) := by omega
    have hbits : Format.binary64.mantissaBits = 53 := rfl
    have hsign : Sign.positive * Sign.positive = Sign.positive := rfl
    rw [UnpackedFloat.ofScientific, dif_neg hn, if_neg hlarge, if_neg htiny, if_pos (Int.le_refl 0)]
    simp only [mul, hbits, hsign, Int.toNat_zero, Nat.pow_zero, Nat.mul_one, Int.add_zero, Nat.shiftLeft_eq]
  have hmodel : (Float.ofScientific n false 0).toModel =
      Float.Model.pack (UnpackedFloat.ofScientific Format.binary64 n 0) := by
    rw [Float.ofScientific, dif_neg fun hless => Nat.not_lt.mpr h hless.1]
    rfl
  have hdenotes := denotes_roundWithAccuracy .positive (j := 53) hn (by omega) hsmall
  rw [show Float.ofNat n = Float.ofScientific n false 0 from rfl, hmodel, hscientific, unpack_pack hdenotes]
  exact hdenotes

theorem denotes_ofNat {n : Nat} (hsmall : n.log2 < 1023) :
    Denotes (Float.ofNat n).toModel.unpack (rounded n) := by
  rcases Nat.eq_zero_or_pos n with rfl | hpos
  · exact .zero .positive
  · rcases Nat.lt_or_ge n (2 ^ 53) with h | h
    · exact (Decimal.rounded_of_le (Nat.le_of_lt h)).symm ▸ denotes_word (Nat.ne_of_gt hpos) h
    · exact denotes_long h hsmall

/-- The float of an integer stands for the rounded integer. -/
theorem denotes_ofInt {n : Int} (hsmall : n.natAbs.log2 < 1023) :
    Denotes (Float.ofInt n).toModel.unpack (nearest n) := by
  cases n with
  | ofNat n => exact denotes_ofNat hsmall
  | negSucc n =>
    have hdenotes : Denotes (Float.ofNat (n + 1)).toModel.unpack (rounded (n + 1)) := denotes_ofNat hsmall
    have hneg : (Float.ofInt (.negSucc n)).toModel =
        Float.Model.pack (Float.ofNat (n + 1)).toModel.unpack.neg := rfl
    rw [hneg, unpack_pack hdenotes.neg]
    exact hdenotes.neg

theorem isFinite_ofInt {n : Int} (hsmall : n.natAbs.log2 < 1023) : (Float.ofInt n).isFinite = true := by
  have hfinite : ∀ {x : UnpackedFloat} {z : Int}, Denotes x z → x.isFinite = true := by
    intro x z h
    cases h <;> rfl
  exact hfinite (denotes_ofInt hsmall)

theorem compareFloats_ofInt {m n : Int} (hm : m.natAbs.log2 < 1023) (hn : n.natAbs.log2 < 1023) :
    Filter.compareFloats (Float.ofInt m) (Float.ofInt n) = some (compare (nearest m) (nearest n)) := by
  have hmn := compare_denotes (denotes_ofInt hm) (denotes_ofInt hn)
  have hnm := compare_denotes (denotes_ofInt hn) (denotes_ofInt hm)
  simp only [Filter.compareFloats, Filter.float_lt_iff, Filter.float_beq_iff, hmn, hnm, Option.some.injEq,
    ← compare_swap (nearest m)]
  cases compare (nearest m) (nearest n) <;> rfl

/-! ### Numbers of JSON -/

/-- An integer that JSON keeps exactly: a word of 64 bits, with a sign or without. -/
def IsWord (n : Int) : Prop := -2 ^ 63 ≤ n ∧ n < 2 ^ 64

instance (n : Int) : Decidable (IsWord n) := inferInstanceAs (Decidable (_ ∧ _))

theorem log2_of_isWord {n : Int} (h : IsWord n) : n.natAbs.log2 < 1023 := by
  obtain ⟨hlow, hhigh⟩ := h
  rcases Nat.eq_zero_or_pos n.natAbs with hzero | hpos
  · rw [hzero]
    decide
  · have hlog : n.natAbs.log2 < 65 := (Nat.log2_lt (Nat.ne_of_gt hpos)).mpr (by omega)
    omega

/-- A number as JSON has it: such an integer, or a finite float. -/
def IsJson : Number → Prop
  | .int n => IsWord n
  | .float x => x.isFinite = true

theorem isFinite_toFloat {n : Number} (h : n.IsJson) : n.toFloat.isFinite = true := by
  cases n with
  | int n => exact isFinite_ofInt (log2_of_isWord h)
  | float x => exact h

end Hypermedia.Number
