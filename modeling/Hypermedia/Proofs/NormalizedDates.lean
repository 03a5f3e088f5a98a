import Hypermedia.Proofs.Ordering
import Hypermedia.Proofs.StorageForm
import Hypermedia.Sql.Query

/-!
# Dates in storage form

A canonical text writes the fields of its instant from the year down, each with a fixed number of digits.
So it comes before another one exactly when its instant does. A text in storage form is the canonical text
of whole milliseconds of a year with four digits, or no timestamp at all.
-/

namespace Hypermedia

/-! ### Digits in order -/

namespace Decimal

theorem digitsValue_cons (c : Char) (ds : List Char) :
    digitsValue (c :: ds) = (c.toNat - 48) * tenTo ds.length + digitsValue ds := by
  have hfold : digitsValue (c :: ds) = Nat.ofDigitChars 10 ds (c.toNat - 48) := by
    simp [digitsValue, Nat.ofDigitChars]
  rw [hfold, Nat.ofDigitChars_eq_ofDigitChars_zero, tenTo, Nat.mul_comm]
  rfl

/-- Of two numbers with as many digits, the smaller one comes first, whatever follows. -/
theorem append_lt_append {ds es : List Char} (hds : ∀ c ∈ ds, isDigit c = true)
    (hes : ∀ c ∈ es, isDigit c = true) (hlength : ds.length = es.length)
    (h : digitsValue ds < digitsValue es) (rest rest' : List Char) : ds ++ rest < es ++ rest' := by
  induction ds generalizing es with
  | nil =>
    cases es with
    | nil => exact absurd h (Nat.lt_irrefl _)
    | cons e es => simp at hlength
  | cons d ds ih =>
    cases es with
    | nil => simp at hlength
    | cons e es =>
      simp only [List.forall_mem_cons, List.length_cons] at hds hes hlength
      have htail : ds.length = es.length := by omega
      have hd := toNat_of_isDigit hds.1
      have he := toNat_of_isDigit hes.1
      have hlow := digitsValue_lt hds.2
      have hlow' := digitsValue_lt hes.2
      rw [digitsValue_cons, digitsValue_cons, htail] at h
      rw [htail] at hlow
      rw [List.cons_append, List.cons_append, List.cons_lt_cons_iff]
      rcases Nat.lt_trichotomy d.toNat e.toNat with hlt | heq | hgt
      · exact .inl (UInt32.lt_iff_toNat_lt.mpr hlt)
      · rw [heq] at h
        exact .inr ⟨Char.toNat_inj.mp heq, ih hds.2 hes.2 htail (by omega)⟩
      · -- A greater digit makes up for all that follow.
        have hstep : e.toNat - 48 + 1 ≤ d.toNat - 48 := by omega
        have hmul := Nat.mul_le_mul_right (tenTo es.length) hstep
        rw [Nat.succ_mul] at hmul
        omega

end Decimal

namespace Time

open Decimal (tenTo)

/-! ### Fields in order -/

/-- Numbers, each with its number of digits and the character after it. -/
def fields : List (Nat × Char) → List Nat → List Char
  | (width, mark) :: form, n :: ns => padded width n ++ mark :: fields form ns
  | _, _ => []

def Fits (f : Nat × Char) (n : Nat) : Prop := 0 < f.1 ∧ n < tenTo f.1

theorem fields_lt {form : List (Nat × Char)} {ms ns : List Nat} (hms : List.Forall₂ Fits form ms)
    (hns : List.Forall₂ Fits form ns) (h : ms < ns) : fields form ms < fields form ns := by
  induction hms generalizing ns with
  | nil =>
    cases hns
    exact absurd h (List.lt_irrefl [])
  | cons hm hms ih =>
    cases hns with
    | cons hn hns =>
      rcases List.cons_lt_cons_iff.mp h with hlt | ⟨rfl, hlt⟩
      · have hdigits : ∀ width n, ∀ c ∈ padded width n, Decimal.isDigit c = true :=
          fun _ _ _ => isDigit_of_mem_padded
        refine Decimal.append_lt_append (hdigits _ _) (hdigits _ _) ?_ ?_ _ _
        · rw [length_padded hm.1 hm.2, length_padded hn.1 hn.2]
        · rwa [digitsValue_padded, digitsValue_padded]
      · simp only [fields]
        exact List.append_left_lt (List.cons_lt_cons_iff.mpr (.inr ⟨rfl, ih hns hlt⟩))

def canonicalForm : List (Nat × Char) := [(4, '-'), (2, '-'), (2, 'T'), (2, ':'), (2, ':'), (2, '.'), (3, 'Z')]

namespace Stamp

/-- What a canonical text writes, from the year down. -/
def numbers (s : Stamp) : List Nat :=
  [s.date.year.toNat, s.date.month, s.date.day, s.hour, s.minute, s.second, s.nanos / 1000000]

theorem canonicalChars_eq (s : Stamp) : canonicalChars s = fields canonicalForm s.numbers := by
  simp [canonicalChars, canonicalForm, numbers, fields]

namespace Plain

variable {a b : Stamp} (ha : a.Plain) (hb : b.Plain)

include ha

theorem fits : List.Forall₂ Fits canonicalForm a.numbers := by
  simpa [canonicalForm, numbers, Fits] using ha.fields

theorem clock : a.date.isValid = true ∧ a.hour ≤ 23 ∧ a.minute ≤ 59 ∧ a.second ≤ 60 := by
  simpa [isValid, and_assoc] using ha.valid

include hb

theorem date_lt (h : a.numbers < b.numbers) (hdate : a.date ≠ b.date) : a.date.toDays < b.date.toDays := by
  have hfirst := ha.first
  have hfirst' := hb.first
  have hne : ¬ (a.date.year = b.date.year ∧ a.date.month = b.date.month ∧ a.date.day = b.date.day) :=
    fun ⟨hyear, hmonth, hday⟩ => hdate (Date.eq_of_fields hyear hmonth hday)
  apply toDays_lt ha.clock.1 hb.clock.1
  simp only [numbers, List.cons_lt_cons_iff] at h
  omega

theorem instant_lt (h : a.numbers < b.numbers) :
    toLex (a.instant.seconds, a.instant.nanos) < toLex (b.instant.seconds, b.instant.nanos) := by
  obtain ⟨-, hhour, hminute, hsecond⟩ := ha.clock
  obtain ⟨-, hhour', hminute', hsecond'⟩ := hb.clock
  have hnanos := ha.nanos
  have hnanos' := hb.nanos
  have hwhole := ha.whole
  have hwhole' := hb.whole
  rw [Prod.Lex.toLex_lt_toLex]
  simp only [instant, ha.utc, hb.utc]
  -- A leap second counts as the second before it, with a thousand million nanoseconds more.
  by_cases hdate : a.date = b.date
  · simp only [numbers, List.cons_lt_cons_iff, hdate, lt_self_iff_false, false_or, true_and, and_false,
      or_false] at h
    rw [hdate]
    split <;> split <;> omega
  · have hdays := ha.date_lt hb h hdate
    split <;> split <;> omega

end Plain

end Stamp

namespace Instant.Whole

variable {i j : Instant} (hi : i.Whole) (hj : j.Whole)

include hi

theorem instant_stamp : i.stamp.instant = i := by
  have hwhole := hi.whole
  rw [hi.toDated.instant_stamp, truncated]
  congr 1
  omega

theorem toList_text : i.text.toList = fields canonicalForm i.stamp.numbers := by
  rw [hi.toDated.text_eq, String.toList_ofList, Stamp.canonicalChars_eq]

include hj

theorem text_lt (h : i.stamp.numbers < j.stamp.numbers) : i.text < j.text := by
  rw [String.lt_iff_toList_lt, hi.toList_text, hj.toList_text]
  exact fields_lt hi.toDated.plain_stamp.fits hj.toDated.plain_stamp.fits h

theorem instant_lt (h : i.stamp.numbers < j.stamp.numbers) :
    toLex (i.seconds, i.nanos) < toLex (j.seconds, j.nanos) := by
  have hlt := hi.toDated.plain_stamp.instant_lt hj.toDated.plain_stamp h
  rwa [hi.instant_stamp, hj.instant_stamp] at hlt

theorem compare_eq_texts : i.compare j = Filter.compareTexts i.text j.text := by
  rw [Filter.Instant.compare_eq, Filter.compareTexts_eq]
  rcases lt_trichotomy i.stamp.numbers j.stamp.numbers with hlt | heq | hgt
  · rw [compare_lt_iff_lt.mpr (hi.instant_lt hj hlt), compare_lt_iff_lt.mpr (hi.text_lt hj hlt)]
  · have htext : i.text = j.text := by
      rw [← String.toList_inj, hi.toList_text, hj.toList_text, heq]
    have hsame : i = j := by
      have hread := hi.instant?_text
      rw [htext, hj.instant?_text] at hread
      exact (Option.some.inj hread).symm
    rw [hsame, compare_eq_iff_eq.mpr rfl, compare_eq_iff_eq.mpr rfl]
  · rw [compare_gt_iff_gt.mpr (hj.instant_lt hi hgt), compare_gt_iff_gt.mpr (hj.text_lt hi hgt)]

/-- Whole milliseconds follow one another as their canonical texts do. -/
theorem text_le_iff : i.text ≤ j.text ↔ i ≤ j := by
  have hafter := isAfter_iff (a := i) (b := j)
  rw [isAfter, hi.compare_eq_texts hj, Filter.compareTexts_eq, beq_iff_eq, compare_gt_iff_gt] at hafter
  rw [← not_lt, ← not_iff_not, not_not]
  exact hafter

end Instant.Whole

/-! ### Texts in storage form -/

theorem trimChars_of_stamp? {cs : List Char} {s : Stamp} (h : stamp? cs = some s) :
    Text.trimChars cs = cs := by
  apply Text.trimChars_eq_self
  · cases cs with
    | nil => simp
    | cons c cs =>
      cases hc : Decimal.isDigit c with
      | false => cases (stamp?_of_not_digit hc cs).symm.trans h
      | true => simpa using Text.isBlank_of_isDigit hc
  · obtain ⟨rest, ⟨front, rfl, -⟩, hoffset⟩ := offset_of_stamp? h
    have hne : rest ≠ [] := by
      rintro rfl
      cases hoffset
    intro c hc
    rw [List.getLast?_append_of_ne_nil _ hne] at hc
    have hchar := (leaves_offset hoffset).all c (List.mem_of_getLast? hc)
    simp only [isOffsetChar, Bool.and_eq_true, Bool.not_eq_true'] at hchar
    exact hchar.2

theorem denoted?_of_instant? {s : String} {t : Instant} (h : instant? s = some t) :
    denoted? s = some t := by
  obtain ⟨stamp, hs, rfl⟩ := Option.map_eq_some_iff.mp h
  simp only [denoted?, trimChars_of_stamp? hs, hs, Option.map_some, Option.some_or]

theorem instant?_text_eq_none {t : Instant} (ht : t.Ticked) (h : ¬ t.Dated) : instant? t.text = none := by
  obtain ⟨c, cs, htext, -, hyear⟩ := t.exists_text
  rcases hyear with hsign | ⟨hfirst, hlast⟩
  · rw [instant?, htext, List.cons_append, stamp?_of_not_digit hsign]
    rfl
  · exact absurd ⟨hfirst, hlast, ht⟩ h

/-- A timestamp in storage form is canonical. -/
theorem whole_of_normalized {s : String} {t : Instant} (h : instant? (normalized s) = some t) :
    t.Whole ∧ normalized s = t.text := by
  have hdenoted := denoted?_of_instant? h
  have htext : normalized s = t.text := by
    rw [← normalized_normalized s, normalized, hdenoted]
  rw [htext] at h
  have hdated : t.Dated := by
    by_contra hnot
    cases (instant?_text_eq_none (ticked_of_denoted? hdenoted) hnot).symm.trans h
  have hwhole : t.truncated = t := Option.some.inj (hdated.instant?_text.symm.trans h)
  exact ⟨hwhole ▸ hdated.whole_truncated, htext⟩

/-! ### Timestamps brought into storage form -/

/-- The year in UTC. -/
def Instant.year (t : Instant) : Int := (Date.ofDays (t.seconds / 86400)).year

/-- A text that is a timestamp once trimmed stays one in storage form, in UTC and of the same instant cut off to
milliseconds, as long as its year in UTC has four digits. In any other year the storage form is no
timestamp. Either way it is its own storage form. -/
theorem normalized_timestamp {s : String} {x : Stamp} (h : stamp? (Text.trimChars s.toList) = some x) :
    (0 ≤ x.instant.year ∧ x.instant.year ≤ 9999 → ∃ y, stamp? (normalized s).toList = some y ∧
        y.offset = 0 ∧ y.instant = x.instant.truncated) ∧
      (¬ (0 ≤ x.instant.year ∧ x.instant.year ≤ 9999) → stamp? (normalized s).toList = none) ∧
        normalized (normalized s) = normalized s := by
  have hdenoted : denoted? s = some x.instant := by
    simp only [denoted?, h, Option.map_some, Option.some_or]
  have htext : normalized s = x.instant.text := by rw [normalized, hdenoted]
  have hticked : x.instant.Ticked := Stamp.ticked_instant (stamp?_nanos h)
  refine ⟨fun hyear => ?_, fun hyear => ?_, normalized_normalized s⟩
  · have hdated : x.instant.Dated := ⟨hyear.1, hyear.2, hticked⟩
    refine ⟨x.instant.stamp, ?_, rfl, hdated.instant_stamp⟩
    rw [htext, hdated.text_eq, String.toList_ofList]
    exact stamp?_canonicalChars hdated.plain_stamp
  · have hnone := instant?_text_eq_none hticked fun hdated => hyear ⟨hdated.first, hdated.last⟩
    rw [htext]
    exact Option.map_eq_none_iff.mp hnone

/-- The last leap second so far, with its offset in Tokyo and more digits than are kept. -/
theorem normalized_timestamp_leap_second :
    stamp? (Text.trimChars " 2017-01-01T08:59:60.1239+09:00 ".toList) =
        some ⟨⟨2017, 1, 1⟩, 8, 59, 60, 123900000, 540⟩ ∧
      ∃ y, stamp? (normalized " 2017-01-01T08:59:60.1239+09:00 ").toList = some y ∧ y.offset = 0 ∧
        y.instant = ⟨1483228799, 1123000000⟩ := by
  have hreads : stamp? (Text.trimChars " 2017-01-01T08:59:60.1239+09:00 ".toList) =
      some ⟨⟨2017, 1, 1⟩, 8, 59, 60, 123900000, 540⟩ := by decide +kernel
  obtain ⟨hkept, -, -⟩ := normalized_timestamp hreads
  exact ⟨hreads, hkept (by decide +kernel)⟩

/-- Half past eleven at the end of the year 9999, an hour west of Greenwich: there the year 10000 has begun. -/
theorem normalized_timestamp_year_10000 :
    (stamp? (Text.trimChars "9999-12-31T23:30:00-01:00".toList)).isSome = true ∧
      normalized "9999-12-31T23:30:00-01:00" = "+10000-01-01T00:30:00.000Z" ∧
      stamp? (normalized "9999-12-31T23:30:00-01:00").toList = none := by
  decide +kernel

end Time

/-! ### Dates in storage form are ordered as texts -/

namespace Filter

open Time (normalized)

theorem not_conflict_normalized (s t : String) : ¬ Conflict (normalized s) (normalized t) := by
  rintro ⟨i, j, hi, hj, hne⟩
  obtain ⟨hwhole, htext⟩ := Time.whole_of_normalized hi
  obtain ⟨hwhole', htext'⟩ := Time.whole_of_normalized hj
  rw [htext, htext'] at hne
  exact hne (hwhole.compare_eq_texts hwhole')

theorem compare?_normalized (s t : String) : compare? (.string (normalized s)) (.string (normalized t)) =
    some (compareTexts (normalized s) (normalized t)) := by
  rw [compare?_string, textOrder_of_not_conflict (not_conflict_normalized s t), compareTexts_eq]

theorem holds_range_normalized (s t u : String) :
    (Test.range (.string (normalized s)) (.string (normalized t))).holds (.string (normalized u)) = true ↔
      normalized s ≤ normalized u ∧ normalized u ≤ normalized t := by
  simp only [Test.holds, Test.holdsOf, compare?_normalized, compareTexts_eq, Option.any_some,
    Bool.and_eq_true, bne_iff_ne, compare_ne_gt_iff]
  rw [Ne, compare_lt_iff_lt, not_lt]

/-- In storage form the order of dates is that of their texts, for timestamps and for all other texts.
So a range in memory holds the same of them as `BETWEEN` does of the texts of a table. -/
theorem normalized_dates_in_text_order (s t : String) :
    compare? (.string (normalized s)) (.string (normalized t)) =
        some (compareTexts (normalized s) (normalized t)) ∧
      (∀ u, (Test.range (.string (normalized s)) (.string (normalized t))).holds (.string (normalized u)) =
        true ↔ normalized s ≤ normalized u ∧ normalized u ≤ normalized t) ∧
      ∀ name ps, Sql.predicate name (.range (.string (normalized s)) (.string (normalized t))) ps =
        .ok (Sql.fieldText (.slot (ps.length + 1)) ++
            [.text " BETWEEN ", .slot (ps.length + 2), .text " AND ", .slot (ps.length + 3)],
          ps ++ [.text name, .text (normalized s), .text (normalized t)]) := by
  refine ⟨compare?_normalized s t, holds_range_normalized s t, fun name ps => ?_⟩
  simp [Sql.predicate, Sql.Draft.bound, Sql.Draft.pieces, Value.float?, Value.plainText]

end Filter

end Hypermedia
