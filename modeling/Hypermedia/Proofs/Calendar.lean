import Mathlib.Tactic.IntervalCases
import Hypermedia.Time.Calendar

/-!
# Days and dates

Every day is a day of a year of a cycle of 400 years, counted from March. So the date of a day exists,
and its number of days is that day again. Each month begins where the one before it ends, so a later date
is a later day.
-/

namespace Hypermedia.Time

/-! ### Years of a cycle -/

/-- The day of a cycle on which one of its years begins. -/
def firstDay (y : Int) : Int := 365 * y + y / 4 - y / 100

/-- One more in a year of the cycle that ends with a leap day. -/
def leapDay (y : Int) : Int := if isLeapYear (y + 1) then 1 else 0

theorem leapDay_le (y : Int) : leapDay y ≤ 1 := by
  unfold leapDay
  split <;> decide

/-- A day of a cycle without the leap days before it, so that each year has 365. -/
def evenDay (d : Int) : Int := d - d / 1460 + d / 36524 - d / 146096

theorem evenDay_mono {a b : Int} (h : a ≤ b) : evenDay a ≤ evenDay b := by
  unfold evenDay
  omega

theorem evenDay_firstDay : ∀ y : Nat, y < 400 →
    (y = 0 ∨ evenDay (firstDay y - 1) < 365 * y) ∧
      (y = 399 ∨ 365 * (y + 1) ≤ evenDay (firstDay y + 365 + leapDay y)) := by
  decide +kernel

theorem exists_yearOfCycle {d : Int} (h₀ : 0 ≤ d) (h₁ : d ≤ 146096) :
    ∃ y k : Nat, evenDay d / 365 = y ∧ y ≤ 399 ∧ d = firstDay y + k ∧ k ≤ 364 + leapDay y := by
  have hlow : 0 ≤ evenDay d / 365 := by
    unfold evenDay
    omega
  have hhigh : evenDay d / 365 ≤ 399 := by
    unfold evenDay
    omega
  obtain ⟨y, hy⟩ := Int.eq_ofNat_of_zero_le hlow
  obtain ⟨hstart, hstop⟩ := evenDay_firstDay y (by omega)
  have hfirst : firstDay y ≤ d := by
    rcases hstart with rfl | hstart
    · exact h₀
    · refine Int.not_lt.mp fun hlt => ?_
      have hmono := evenDay_mono (a := d) (b := firstDay y - 1) (by omega)
      omega
  have hlast : d ≤ firstDay y + 364 + leapDay y := by
    rcases hstop with rfl | hstop
    · exact h₁
    · refine Int.not_lt.mp fun hlt => ?_
      have hmono := evenDay_mono (a := firstDay y + 365 + leapDay y) (b := d) (by omega)
      omega
  exact ⟨y, (d - firstDay y).toNat, hy, by omega, by omega, by omega⟩

theorem isLeapYear_add_cycle (y c : Int) : isLeapYear (y + c * 400) = isLeapYear y := by
  have h4 : (y + c * 400) % 4 = y % 4 := by omega
  have h100 : (y + c * 400) % 100 = y % 100 := by omega
  have h400 : (y + c * 400) % 400 = y % 400 := by omega
  simp only [isLeapYear, h4, h100, h400]

/-! ### Months and days of a year -/

def monthFromMarch (k : Nat) : Nat := (5 * k + 2) / 153

def monthOf (k : Nat) : Nat :=
  if monthFromMarch k < 10 then monthFromMarch k + 3 else monthFromMarch k - 9

def dayOf (k : Nat) : Nat := k - (153 * monthFromMarch k + 2) / 5 + 1

theorem monthOf_dayOf : ∀ k : Nat, k ≤ 365 →
    1 ≤ monthOf k ∧ monthOf k ≤ 12 ∧ (monthOf k + 9) % 12 = monthFromMarch k ∧
      (153 * monthFromMarch k + 2) / 5 ≤ k ∧
      (k < 365 ∧ dayOf k ≤ monthLength 1 (monthOf k) ∨ k = 365 ∧ monthOf k = 2 ∧ dayOf k = 29) := by
  decide +kernel

theorem monthLength_le (y : Int) (m : Nat) : monthLength 1 m ≤ monthLength y m := by
  unfold monthLength
  split
  · split <;> split <;> first | omega | contradiction
  · exact Nat.le_refl _

/-! ### Days and dates -/

/-- The date of a day, by its cycle, the year of that and the day of the year. -/
theorem exists_ofDays_eq (n : Int) : ∃ (c : Int) (y k : Nat), y ≤ 399 ∧ k ≤ 364 + leapDay y ∧
    n = c * 146097 + (firstDay y + k) - 719468 ∧
    Date.ofDays n = ⟨y + c * 400 + (if monthOf k ≤ 2 then 1 else 0), monthOf k, dayOf k⟩ := by
  have hd₀ : 0 ≤ (n + 719468) % 146097 := Int.emod_nonneg _ (by decide)
  have hd₁ : (n + 719468) % 146097 ≤ 146096 := by omega
  obtain ⟨y, k, hy, hy', hd, hk⟩ := exists_yearOfCycle hd₀ hd₁
  refine ⟨(n + 719468) / 146097, y, k, hy', hk, by omega, ?_⟩
  unfold Date.ofDays
  dsimp only
  generalize (n + 719468) % 146097 = d at *
  have hyear : (d - d / 1460 + d / 36524 - d / 146096) / 365 = (y : Int) := hy
  have hday : d - (365 * (y : Int) + y / 4 - y / 100) = (k : Int) := by
    unfold firstDay at hd
    omega
  have hmonth : (5 * (k : Int) + 2) / 153 = (monthFromMarch k : Nat) := by
    unfold monthFromMarch
    omega
  rw [hyear, hday, hmonth]
  have hleap := leapDay_le y
  obtain ⟨-, -, -, hmarch, -⟩ := monthOf_dayOf k (by omega)
  have hof : (if (monthFromMarch k : Int) < 10 then (monthFromMarch k : Int) + 3
      else (monthFromMarch k : Int) - 9) = (monthOf k : Nat) := by
    unfold monthOf
    split <;> split <;> omega
  have hdayOf : ((k : Int) - (153 * (monthFromMarch k : Int) + 2) / 5 + 1) = (dayOf k : Nat) := by
    unfold dayOf
    omega
  rw [hof, hdayOf]
  have hearly : ((monthOf k : Nat) : Int) ≤ 2 ↔ monthOf k ≤ 2 := by omega
  simp only [hearly, Int.toNat_natCast]

theorem toDays_ofDays (n : Int) : (Date.ofDays n).toDays = n := by
  obtain ⟨c, y, k, hy, hk, hn, hdate⟩ := exists_ofDays_eq n
  have hleap := leapDay_le y
  obtain ⟨-, -, hmonth, hmarch, -⟩ := monthOf_dayOf k (by omega)
  have hyear : (if monthOf k ≤ 2 then (y : Int) + c * 400 + (if monthOf k ≤ 2 then 1 else 0) - 1
      else (y : Int) + c * 400 + (if monthOf k ≤ 2 then 1 else 0)) = y + c * 400 := by
    split <;> omega
  have hday : (153 * (monthFromMarch k : Int) + 2) / 5 + (dayOf k : Int) - 1 = k := by
    unfold dayOf
    omega
  have hcycle : ((y : Int) + c * 400) / 400 = c := by omega
  have hrest : ((y : Int) + c * 400) % 400 = y := by omega
  rw [hdate]
  simp only [Date.toDays, hyear, hmonth, hday, hcycle, hrest]
  unfold firstDay at hn
  omega

theorem isValid_ofDays {n : Int} (h₀ : 0 ≤ (Date.ofDays n).year) (h₁ : (Date.ofDays n).year ≤ 9999) :
    (Date.ofDays n).isValid = true := by
  obtain ⟨c, y, k, hy, hk, hn, hdate⟩ := exists_ofDays_eq n
  have hleap := leapDay_le y
  obtain ⟨hm₁, hm₂, -, -, hday⟩ := monthOf_dayOf k (by omega)
  rw [hdate] at h₀ h₁ ⊢
  have hlength : dayOf k ≤
      monthLength (y + c * 400 + (if monthOf k ≤ 2 then 1 else 0)) (monthOf k) := by
    rcases hday with ⟨-, hday⟩ | ⟨hlast, hfeb, hday⟩
    · exact Nat.le_trans hday (monthLength_le ..)
    · have hyear : isLeapYear (y + 1) = true := by
        unfold leapDay at hk
        by_cases h : isLeapYear (y + 1) = true
        · exact h
        · rw [if_neg h] at hk
          omega
      have hsum : (y : Int) + c * 400 + 1 = y + 1 + c * 400 := by omega
      simp only [hfeb, hday, Nat.le_refl, if_true, hsum, monthLength, isLeapYear_add_cycle, hyear]
  have hdayOf : 1 ≤ dayOf k := by
    unfold dayOf
    omega
  simp only [Date.isValid, Bool.and_eq_true, decide_eq_true_eq]
  dsimp only at h₀ h₁
  refine ⟨⟨⟨⟨⟨?_, ?_⟩, hm₁⟩, hm₂⟩, hdayOf⟩, hlength⟩
  · omega
  · omega

/-! ### Months in order -/

/-- A month ends where the next one begins, the last one of a year where the next year does. -/
theorem toDays_month (y : Int) {m : Nat} (hm : m < 12) :
    (⟨y, m + 1, 1⟩ : Date).toDays + monthLength y (m + 1) =
      if m < 11 then (⟨y, m + 2, 1⟩ : Date).toDays else (⟨y + 1, 1, 1⟩ : Date).toDays := by
  interval_cases m
  case «1» =>
    have hleap : isLeapYear y = true ↔ y % 4 = 0 ∧ (y % 100 ≠ 0 ∨ y % 400 = 0) := by simp [isLeapYear]
    by_cases hy : isLeapYear y = true
    · have hcase := hleap.mp hy
      simp [Date.toDays, monthLength, hy]
      omega
    · have hcase := mt hleap.mpr hy
      simp [Date.toDays, monthLength, hy]
      omega
  all_goals
    simp [Date.toDays, monthLength]
    omega

/-- The first day of a month, where months are counted from the year 0. -/
def monthStart (k : Int) : Int := Date.toDays ⟨k / 12, (k % 12).toNat + 1, 1⟩

theorem monthStart_succ (k : Int) :
    monthStart (k + 1) = monthStart k + monthLength (k / 12) ((k % 12).toNat + 1) := by
  have hm : (k % 12).toNat < 12 := by omega
  have hmonth := toDays_month (k / 12) hm
  rw [monthStart, monthStart, hmonth]
  split
  · have hyear : (k + 1) / 12 = k / 12 := by omega
    have hnext : ((k + 1) % 12).toNat = (k % 12).toNat + 1 := by omega
    rw [hyear, hnext]
  · have hyear : (k + 1) / 12 = k / 12 + 1 := by omega
    have hnext : ((k + 1) % 12).toNat = 0 := by omega
    rw [hyear, hnext]

theorem monthStart_mono {j k : Int} (h : j ≤ k) : monthStart j ≤ monthStart k := by
  obtain ⟨n, rfl⟩ := Int.le.dest h
  clear h
  induction n with
  | zero => simp
  | succ n ih =>
    have hsucc := monthStart_succ (j + n)
    rw [Int.natCast_succ, ← Int.add_assoc]
    omega

/-- The month of a date, counted from the year 0. -/
def Date.monthIndex (d : Date) : Int := 12 * d.year + d.month - 1

section
variable {d : Date} (h₁ : 1 ≤ d.month) (h₂ : d.month ≤ 12)

include h₁ h₂

theorem monthIndex_spec : d.monthIndex / 12 = d.year ∧ (d.monthIndex % 12).toNat + 1 = d.month := by
  unfold Date.monthIndex
  omega

theorem toDays_eq : d.toDays = monthStart d.monthIndex + d.day - 1 := by
  obtain ⟨hyear, hmonth⟩ := monthIndex_spec h₁ h₂
  rw [monthStart, hyear, hmonth]
  simp only [Date.toDays]
  omega

theorem monthStart_next :
    monthStart (d.monthIndex + 1) = monthStart d.monthIndex + monthLength d.year d.month := by
  obtain ⟨hyear, hmonth⟩ := monthIndex_spec h₁ h₂
  rw [monthStart_succ, hyear, hmonth]

end

theorem Date.eq_of_fields {a b : Date} (hyear : a.year = b.year) (hmonth : a.month = b.month)
    (hday : a.day = b.day) : a = b := by
  cases a
  cases b
  simp_all

theorem toDays_lt {a b : Date} (ha : a.isValid = true) (hb : b.isValid = true)
    (h : a.year < b.year ∨
      a.year = b.year ∧ (a.month < b.month ∨ a.month = b.month ∧ a.day < b.day)) :
    a.toDays < b.toDays := by
  simp only [Date.isValid, Bool.and_eq_true, decide_eq_true_eq] at ha hb
  obtain ⟨⟨⟨⟨-, hm₁⟩, hm₂⟩, -⟩, hday⟩ := ha
  obtain ⟨⟨⟨⟨-, hm₁'⟩, hm₂'⟩, hday'⟩, -⟩ := hb
  rw [toDays_eq hm₁ hm₂, toDays_eq hm₁' hm₂']
  by_cases hsame : a.monthIndex = b.monthIndex
  · rw [hsame]
    unfold Date.monthIndex at hsame
    omega
  · -- The day is within its month, and that ends before a later month begins.
    have hnext := monthStart_next hm₁ hm₂
    have hle : a.monthIndex + 1 ≤ b.monthIndex := by
      unfold Date.monthIndex at hsame ⊢
      omega
    have hmono := monthStart_mono hle
    omega

end Hypermedia.Time
