import Hypermedia.Proofs.Calendar
import Hypermedia.Proofs.Digits
import Hypermedia.Time.Reader

/-!
# Canonical timestamps

The canonical text of an instant of a year with four digits is a timestamp in UTC with three decimals,
and denotes that instant cut off to whole milliseconds.
-/

namespace Hypermedia.Time

open Decimal (isDigit digitsValue)

/-! ### Padded numbers -/

section
variable {width n : Nat}

theorem isDigit_of_mem_padded {c : Char} (h : c ∈ padded width n) : isDigit c = true := by
  rcases List.mem_append.mp h with h | h
  · rw [List.eq_of_mem_replicate h]
    decide
  · exact Decimal.isDigit_of_mem_toDigits h

theorem length_padded (hw : 0 < width) (h : n < Decimal.tenTo width) : (padded width n).length = width := by
  have hle := (Nat.length_toDigits_le_iff (by decide) hw).mpr h
  simp only [padded, List.length_append, List.length_replicate]
  omega

theorem digitsValue_padded : digitsValue (padded width n) = n := by
  have hzeros : ∀ k, (List.replicate k '0').foldl (fun n c => 10 * n + (c.toNat - 48)) 0 = 0 := by
    intro k
    induction k with
    | zero => rfl
    | succ k ih => exact ih
  rw [digitsValue, padded, List.foldl_append, hzeros]
  exact Decimal.digitsValue_toDigits n

/-- A padded number is read with all its digits, and what follows is left. -/
theorem digitsOf_padded (hw : 0 < width) (h : n < Decimal.tenTo width) (rest : List Char) :
    digitsOf width (padded width n ++ rest) = some (n, rest) := by
  have hlength := length_padded hw h
  have htake : (padded width n ++ rest).take width = padded width n := List.take_left' hlength
  have hdrop : (padded width n ++ rest).drop width = rest := List.drop_left' hlength
  have hdigits : (padded width n).all isDigit = true :=
    List.all_eq_true.mpr fun c hc => isDigit_of_mem_padded hc
  simp only [digitsOf, htake, hdrop, hlength, hdigits, digitsValue_padded, and_self, if_true]

end

/-! ### Canonical texts -/

/-- A timestamp of RFC 3339 in UTC with three decimals. -/
structure Canonical (s : String) : Prop where
  reads : (stamp? s.toList).isSome
  length : s.toList.length = 24
  separator : s.toList[10]? = some 'T'
  utc : s.toList[23]? = some 'Z'

/-- An instant that a clock may show in the years 0 to 9999. Only the last second of a minute may be
followed by a leap second. -/
structure Instant.Dated (t : Instant) : Prop where
  first : 0 ≤ (Date.ofDays (t.seconds / 86400)).year
  last : (Date.ofDays (t.seconds / 86400)).year ≤ 9999
  nanos : t.nanos < 1000000000 ∨ t.nanos < 2000000000 ∧ t.seconds % 60 = 59

/-- Cut off to whole milliseconds. -/
def Instant.truncated (t : Instant) : Instant := ⟨t.seconds, t.nanos / 1000000 * 1000000⟩

def canonicalChars (s : Stamp) : List Char :=
  padded 4 s.date.year.toNat ++ '-' :: padded 2 s.date.month ++ '-' :: padded 2 s.date.day ++
    'T' :: (padded 2 s.hour ++ ':' :: padded 2 s.minute ++ ':' :: padded 2 s.second ++
      '.' :: padded 3 (s.nanos / 1000000)) ++ ['Z']

theorem fraction_padded {n : Nat} (h : n < Decimal.tenTo 3) :
    fraction ('.' :: (padded 3 n ++ ['Z'])) = some (n * 1000000, ['Z']) := by
  have hlength : (padded 3 n).length = 3 := length_padded (by decide) h
  have hdigits : ∀ c ∈ padded 3 n, isDigit c = true := fun c hc => isDigit_of_mem_padded hc
  have htake : (padded 3 n ++ ['Z']).takeWhile isDigit = padded 3 n := by
    rw [List.takeWhile_append_of_pos hdigits]
    exact List.append_nil _
  have hdrop : (padded 3 n ++ ['Z']).dropWhile isDigit = ['Z'] := by
    rw [List.dropWhile_append_of_pos hdigits]
    rfl
  have hne : (padded 3 n).isEmpty = false := by
    cases hp : padded 3 n with
    | nil => simp [hp] at hlength
    | cons c cs => rfl
  have hkept : (padded 3 n).take 9 = padded 3 n := List.take_of_length_le (by omega)
  simp only [fraction, htake, hdrop, hne, fractionNanos, hkept, hlength, digitsValue_padded]
  rfl

/-- A timestamp in UTC of a year with four digits, in whole milliseconds. -/
structure Stamp.Plain (s : Stamp) : Prop where
  valid : s.isValid = true
  first : 0 ≤ s.date.year
  last : s.date.year ≤ 9999
  nanos : s.nanos < 1000000000
  whole : s.nanos % 1000000 = 0
  utc : s.offset = 0

theorem monthLength_le_31 (y : Int) (m : Nat) : monthLength y m ≤ 31 := by
  unfold monthLength
  split
  · split <;> decide
  · split <;> decide

theorem Stamp.Plain.fields {s : Stamp} (h : s.Plain) :
    s.date.year.toNat < Decimal.tenTo 4 ∧ s.date.month < Decimal.tenTo 2 ∧
      s.date.day < Decimal.tenTo 2 ∧ s.hour < Decimal.tenTo 2 ∧ s.minute < Decimal.tenTo 2 ∧
      s.second < Decimal.tenTo 2 ∧ s.nanos / 1000000 < Decimal.tenTo 3 := by
  have hvalid := h.valid
  simp only [Stamp.isValid, Date.isValid, Bool.and_eq_true, decide_eq_true_eq] at hvalid
  obtain ⟨⟨⟨⟨⟨⟨-, hmonth⟩, -⟩, hday⟩, hhour⟩, hminute⟩, hsecond⟩ := hvalid
  have hlength := monthLength_le_31 s.date.year s.date.month
  have hfirst := h.first
  have hlast := h.last
  have hnanos := h.nanos
  have htwo : Decimal.tenTo 2 = 100 := rfl
  have hthree : Decimal.tenTo 3 = 1000 := rfl
  have hfour : Decimal.tenTo 4 = 10000 := rfl
  refine ⟨?_, ?_, ?_, ?_, ?_, ?_, ?_⟩ <;> omega

/-- A reading of digits goes on behind a padded number. -/
theorem digitsOf_padded_bind {α : Type} {width n : Nat} (hw : 0 < width) (h : n < Decimal.tenTo width)
    (rest : List Char) (f : Nat × List Char → Option α) :
    (digitsOf width (padded width n ++ rest) >>= f) = f (n, rest) := by
  rw [digitsOf_padded hw h]
  rfl

theorem expect_bind {α : Type} (c : Char) (rest : List Char) (f : List Char → Option α) :
    (expect c (c :: rest) >>= f) = f rest := by
  rw [expect, if_pos rfl]
  rfl

theorem stamp?_canonicalChars {s : Stamp} (h : s.Plain) : stamp? (canonicalChars s) = some s := by
  obtain ⟨hy, hmonth, hday, hhour, hminute, hsecond, hms⟩ := h.fields
  have hyear : ((s.date.year.toNat : Nat) : Int) = s.date.year := Int.toNat_of_nonneg h.first
  have hnanos : s.nanos / 1000000 * 1000000 = s.nanos := by
    have hwhole := h.whole
    omega
  have hoffset : offset ['Z'] = some s.offset := by rw [h.utc]; rfl
  simp only [canonicalChars, List.append_assoc, List.cons_append]
  unfold stamp?
  -- The date, field by field.
  refine (digitsOf_padded_bind (by decide) hy _ _).trans ?_
  refine (expect_bind '-' _ _).trans ?_
  refine (digitsOf_padded_bind (by decide) hmonth _ _).trans ?_
  refine (expect_bind '-' _ _).trans ?_
  refine (digitsOf_padded_bind (by decide) hday _ _).trans ?_
  -- The time of day.
  refine (digitsOf_padded_bind (by decide) hhour _ _).trans ?_
  refine (expect_bind ':' _ _).trans ?_
  refine (digitsOf_padded_bind (by decide) hminute _ _).trans ?_
  refine (expect_bind ':' _ _).trans ?_
  refine (digitsOf_padded_bind (by decide) hsecond _ _).trans ?_
  simp only [fraction_padded hms, hoffset, hyear, hnanos, bind, Option.bind_some]
  exact if_pos h.valid

/-- A date of ten characters and a time of twelve, with their separators. -/
theorem canonical_of_lengths {date time : List Char} (hdate : date.length = 10)
    (htime : time.length = 12) (hreads : (stamp? (date ++ 'T' :: time ++ ['Z'])).isSome) :
    Canonical (String.ofList (date ++ 'T' :: time ++ ['Z'])) := by
  refine ⟨?_, ?_, ?_, ?_⟩ <;> rw [String.toList_ofList]
  · exact hreads
  · simp [hdate, htime]
  · simp [hdate]
  · simp [hdate, htime]

theorem canonical_canonicalChars {s : Stamp} (h : s.Plain) :
    Canonical (String.ofList (canonicalChars s)) := by
  obtain ⟨hy, hmonth, hday, hhour, hminute, hsecond, hms⟩ := h.fields
  have hdate : (padded 4 s.date.year.toNat ++ '-' :: padded 2 s.date.month ++
      '-' :: padded 2 s.date.day).length = 10 := by
    simp only [List.length_append, List.length_cons, length_padded (by decide : 0 < 4) hy,
      length_padded (by decide : 0 < 2) hmonth, length_padded (by decide : 0 < 2) hday]
  have htime : (padded 2 s.hour ++ ':' :: padded 2 s.minute ++ ':' :: padded 2 s.second ++
      '.' :: padded 3 (s.nanos / 1000000)).length = 12 := by
    simp only [List.length_append, List.length_cons, length_padded (by decide : 0 < 2) hhour,
      length_padded (by decide : 0 < 2) hminute, length_padded (by decide : 0 < 2) hsecond,
      length_padded (by decide : 0 < 3) hms]
  refine canonical_of_lengths hdate htime ?_
  exact Option.isSome_of_mem (stamp?_canonicalChars h)

/-- The fields of an instant's canonical text. -/
def Instant.stamp (t : Instant) : Stamp :=
  let secondOfDay := (t.seconds % 86400).toNat
  let leap := 1000000000 ≤ t.nanos
  let fraction := if leap then t.nanos - 1000000000 else t.nanos
  ⟨Date.ofDays (t.seconds / 86400), secondOfDay / 3600, secondOfDay / 60 % 60,
    secondOfDay % 60 + (if leap then 1 else 0), fraction / 1000000 * 1000000, 0⟩

theorem Instant.Dated.text_eq {t : Instant} (h : t.Dated) :
    t.text = String.ofList (canonicalChars t.stamp) := by
  have hyear : yearText (Date.ofDays (t.seconds / 86400)).year =
      padded 4 (Date.ofDays (t.seconds / 86400)).year.toNat := if_pos ⟨h.first, h.last⟩
  have hms : ∀ n, n / 1000000 * 1000000 / 1000000 = n / 1000000 := fun n => by omega
  simp only [Instant.text, Date.chars, clockChars, canonicalChars, Instant.stamp, hyear, hms,
    List.append_assoc, List.cons_append]

/-- The time of day: a leap second is written as second 60, and only that. -/
theorem Instant.Dated.time_stamp {t : Instant} (h : t.Dated) :
    t.stamp.hour ≤ 23 ∧ t.stamp.minute ≤ 59 ∧
      ((t.stamp.hour * 3600 + t.stamp.minute * 60 : Nat) : Int) + t.seconds % 60 = t.seconds % 86400 ∧
      (t.stamp.second = t.seconds % 60 ∧ t.stamp.nanos = t.truncated.nanos ∧ t.nanos < 1000000000 ∨
        t.stamp.second = 60 ∧ t.stamp.nanos + 1000000000 = t.truncated.nanos ∧ t.seconds % 60 = 59 ∧
          t.stamp.nanos < 1000000000) := by
  have hnanos := h.nanos
  have hday₀ : 0 ≤ t.seconds % 86400 := Int.emod_nonneg _ (by decide)
  have hday₁ : t.seconds % 86400 < 86400 := Int.emod_lt_of_pos _ (by decide)
  obtain ⟨n, hn⟩ := Int.eq_ofNat_of_zero_le hday₀
  simp only [Instant.stamp, Instant.truncated, hn, Int.toNat_natCast]
  refine ⟨by omega, by omega, by omega, ?_⟩
  by_cases hleap : 1000000000 ≤ t.nanos
  · simp only [if_pos hleap]
    right
    omega
  · simp only [if_neg hleap]
    exact .inl ⟨by omega, trivial, by omega⟩

theorem Instant.Dated.plain_stamp {t : Instant} (h : t.Dated) : t.stamp.Plain := by
  have hdate : t.stamp.date.isValid = true := isValid_ofDays h.first h.last
  obtain ⟨hhour, hminute, -, htime⟩ := h.time_stamp
  refine ⟨?_, h.first, h.last, ?_, Nat.mul_mod_left .., rfl⟩
  · simp only [Stamp.isValid, hdate, Bool.true_and, Bool.and_eq_true, decide_eq_true_eq]
    exact ⟨⟨hhour, hminute⟩, by omega⟩
  · simp only [Instant.truncated] at htime
    omega

theorem Instant.Dated.instant_stamp {t : Instant} (h : t.Dated) : t.stamp.instant = t.truncated := by
  have hdays : t.stamp.date.toDays = t.seconds / 86400 := toDays_ofDays _
  have hutc : t.stamp.offset = 0 := rfl
  obtain ⟨-, -, hday, htime⟩ := h.time_stamp
  rcases htime with ⟨hsecond, hnanos, -⟩ | ⟨hsecond, hnanos, hlast, -⟩
  · have hno : t.stamp.second ≠ 60 := by omega
    simp only [Stamp.instant, hdays, hutc, if_neg hno, hnanos, Instant.truncated, Instant.mk.injEq, and_true]
    omega
  · simp only [Stamp.instant, hdays, hutc, if_pos hsecond, hnanos, Instant.truncated, Instant.mk.injEq,
      and_true]
    omega

theorem Instant.Dated.instant?_text {t : Instant} (h : t.Dated) : instant? t.text = some t.truncated := by
  rw [h.text_eq, instant?, String.toList_ofList, stamp?_canonicalChars h.plain_stamp, Option.map_some,
    h.instant_stamp]

theorem Instant.Dated.canonical_text {t : Instant} (h : t.Dated) : Canonical t.text := by
  rw [h.text_eq]
  exact canonical_canonicalChars h.plain_stamp

/-! ### Instants in order -/

namespace Instant

/-- One instant is not after another. -/
instance : LE Instant := ⟨fun a b => a.seconds < b.seconds ∨ a.seconds = b.seconds ∧ a.nanos ≤ b.nanos⟩

theorem le_def {a b : Instant} :
    a ≤ b ↔ a.seconds < b.seconds ∨ a.seconds = b.seconds ∧ a.nanos ≤ b.nanos := Iff.rfl

theorem le_refl (a : Instant) : a ≤ a := .inr ⟨rfl, Nat.le_refl _⟩

theorem le_trans {a b c : Instant} (h : a ≤ b) (h' : b ≤ c) : a ≤ c := by
  rw [le_def] at *
  omega

theorem isAfter_iff {a b : Instant} : a.isAfter b = true ↔ ¬ a ≤ b := by
  simp only [isAfter, compare, le_def]
  split
  · simp only [beq_iff_eq, reduceCtorEq, false_iff]
    omega
  · split
    · simp only [beq_self_eq_true, true_iff]
      omega
    · rw [beq_iff_eq, Nat.compare_eq_gt]
      omega

theorem le_of_isAfter {a b : Instant} (h : a.isAfter b = true) : b ≤ a := by
  rw [isAfter_iff, le_def] at h
  rw [le_def]
  omega

theorem le_of_not_isAfter {a b : Instant} (h : ¬ a.isAfter b = true) : a ≤ b := by
  rw [isAfter_iff, le_def] at h
  rw [le_def]
  omega

/-- An instant of a canonical text: whole milliseconds of a year with four digits. -/
structure Whole (t : Instant) : Prop extends Dated t where
  whole : t.nanos % 1000000 = 0

theorem Dated.whole_truncated {t : Instant} (h : t.Dated) : t.truncated.Whole := by
  have hnanos := h.nanos
  refine ⟨⟨h.first, h.last, ?_⟩, Nat.mul_mod_left ..⟩
  simp only [truncated]
  omega

theorem text_truncated (t : Instant) : t.truncated.text = t.text := by
  have hleap : 1000000000 ≤ t.nanos / 1000000 * 1000000 ↔ 1000000000 ≤ t.nanos := by omega
  have hms : (if 1000000000 ≤ t.nanos then t.nanos / 1000000 * 1000000 - 1000000000
      else t.nanos / 1000000 * 1000000) / 1000000 =
      (if 1000000000 ≤ t.nanos then t.nanos - 1000000000 else t.nanos) / 1000000 := by
    split <;> omega
  simp only [text, truncated, clockChars, hleap, hms]

theorem Whole.instant?_text {t : Instant} (h : t.Whole) : instant? t.text = some t := by
  have hwhole : t.nanos / 1000000 * 1000000 = t.nanos := by
    have := h.whole
    omega
  rw [h.toDated.instant?_text, truncated, hwhole]

theorem truncated_le (t : Instant) : t.truncated ≤ t := .inr ⟨rfl, Nat.div_mul_le_self ..⟩

/-- What is not after an instant is not after it when that is cut off to milliseconds. -/
theorem Whole.le_truncated {a t : Instant} (ha : a.Whole) (h : a ≤ t) : a ≤ t.truncated := by
  have hwhole := ha.whole
  rw [le_def] at *
  simp only [truncated]
  omega

end Instant

end Hypermedia.Time
