import Hypermedia.Decimal.Numeral
import Hypermedia.Text.Blank

/-!
# Numbers written and read

The decimal digits of a number are read as that number, also from a text that is trimmed before.
-/

namespace Hypermedia

open Decimal (isDigit)

namespace Decimal

theorem toNat_of_isDigit {c : Char} (h : isDigit c = true) : 48 ≤ c.toNat ∧ c.toNat ≤ 57 := by
  simp only [isDigit, Bool.and_eq_true, decide_eq_true_eq, Char.le_def, UInt32.le_iff_toNat_le] at h
  exact h

theorem isDigit_of_mem_toDigits {n : Nat} {c : Char} (h : c ∈ Nat.toDigits 10 n) : isDigit c = true := by
  simpa [isDigit, Char.isDigit, Char.le_def] using Nat.isDigit_of_mem_toDigits (by decide) (by decide) h

theorem digitsValue_toDigits (n : Nat) : digitsValue (Nat.toDigits 10 n) = n :=
  Nat.ofDigitChars_toDigits (by decide) (by decide)

theorem digitsValue_lt {ds : List Char} (h : ∀ c ∈ ds, isDigit c = true) :
    digitsValue ds < tenTo ds.length := by
  have hfold : ∀ n, ds.foldl (fun n c => 10 * n + (c.toNat - 48)) n < (n + 1) * tenTo ds.length := by
    induction ds with
    | nil => exact fun n => by simp [tenTo]
    | cons c ds ih =>
      intro n
      have hc := toNat_of_isDigit (h c (List.mem_cons_self ..))
      have hle : 10 * n + (c.toNat - 48) + 1 ≤ (n + 1) * 10 := by omega
      rw [List.foldl_cons, List.length_cons, tenTo_succ, ← Nat.mul_assoc]
      refine Nat.lt_of_lt_of_le (ih (fun x hx => h x (List.mem_cons_of_mem _ hx)) _) ?_
      exact Nat.mul_le_mul_right _ hle
  simpa [digitsValue] using hfold 0

theorem natural?_toDigits (n : Nat) : natural? (Nat.toDigits 10 n) = some n := by
  have hdigits : (Nat.toDigits 10 n).all isDigit = true :=
    List.all_eq_true.mpr fun c hc => isDigit_of_mem_toDigits hc
  have hne : (Nat.toDigits 10 n).isEmpty = false :=
    List.isEmpty_eq_false_iff.mpr Nat.toDigits_ne_nil
  simp only [natural?, hdigits, hne, digitsValue_toDigits]
  rfl

end Decimal

namespace Text

theorem isBlank_of_isDigit {c : Char} (h : isDigit c = true) : isBlank c = false := by
  have hrange := Decimal.toNat_of_isDigit h
  simp only [isBlank, Bool.or_eq_false_iff, Bool.and_eq_false_iff, decide_eq_false_iff_not,
    beq_eq_false_iff_ne]
  omega

theorem dropBlanks_of_digits {cs : List Char} (h : ∀ c ∈ cs, isDigit c = true) :
    dropBlanks cs = cs := by
  cases cs with
  | nil => rfl
  | cons c cs =>
    exact dropBlanks_of_not_blank c cs (isBlank_of_isDigit (h c (List.mem_cons_self ..)))

theorem trim_toString (n : Nat) : trim (toString n) = toString n := by
  have hdigits : ∀ c ∈ Nat.toDigits 10 n, isDigit c = true := fun c => Decimal.isDigit_of_mem_toDigits
  have hback : dropBlanks (Nat.toDigits 10 n).reverse = (Nat.toDigits 10 n).reverse :=
    dropBlanks_of_digits fun c hc => hdigits c (List.mem_reverse.mp hc)
  have hchars : (toString n).toList = Nat.toDigits 10 n := Nat.toList_repr
  rw [trim, trimChars, hchars, dropBlanks_of_digits hdigits, hback, List.reverse_reverse]
  exact Nat.repr_eq_ofList_toDigits.symm

end Text

namespace Decimal

theorem uint64?_toString {n : Nat} (h : n < twoTo 64) : uint64? (toString n) = some n := by
  have hchars : (toString n).toList = Nat.toDigits 10 n := Nat.toList_repr
  have hplus : ∀ cs, Nat.toDigits 10 n ≠ '+' :: cs := by
    intro cs he
    have hplus : '+' ∈ Nat.toDigits 10 n := he ▸ List.mem_cons_self ..
    exact absurd (isDigit_of_mem_toDigits hplus) (by decide)
  unfold uint64?
  rw [hchars]
  split
  · rename_i cs he
    exact absurd he (hplus cs)
  · dsimp only
    rw [natural?_toDigits, Option.bind_some, if_pos h]

end Decimal

end Hypermedia
