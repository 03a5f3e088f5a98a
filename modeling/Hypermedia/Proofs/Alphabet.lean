import Mathlib.Data.List.TakeWhile
import Hypermedia.Filter.Request
import Hypermedia.Proofs.Timestamp

/-!
# The characters of times and numbers

A reader of timestamps, dates or numbers takes characters of a small alphabet off its text, and the text
has to be used up. So a text with any other character denotes no time and no number.
-/

namespace Hypermedia

/-! ### Readers -/

/-- What is left of a text after characters that pass a test. -/
def Text.Leaves (test : Char → Bool) (cs rest : List Char) : Prop :=
  ∃ front, cs = front ++ rest ∧ ∀ c ∈ front, test c = true

namespace Text

variable {test test' : Char → Bool} {cs rest rest' : List Char}

theorem Leaves.refl (test : Char → Bool) (cs : List Char) : Leaves test cs cs := ⟨[], rfl, by simp⟩

theorem Leaves.trans (h : Leaves test cs rest) (h' : Leaves test rest rest') : Leaves test cs rest' := by
  obtain ⟨front, rfl, hfront⟩ := h
  obtain ⟨middle, rfl, hmiddle⟩ := h'
  refine ⟨front ++ middle, by simp, fun c hc => ?_⟩
  exact (List.mem_append.mp hc).elim (hfront c) (hmiddle c)

theorem Leaves.mono (h : Leaves test cs rest) (htest : ∀ c, test c = true → test' c = true) :
    Leaves test' cs rest := by
  obtain ⟨front, hsplit, hfront⟩ := h
  exact ⟨front, hsplit, fun c hc => htest c (hfront c hc)⟩

theorem Leaves.cons {c : Char} (hc : test c = true) (h : Leaves test cs rest) : Leaves test (c :: cs) rest := by
  obtain ⟨front, rfl, hfront⟩ := h
  exact ⟨c :: front, rfl, by simpa [hc] using hfront⟩

theorem Leaves.all (h : Leaves test cs []) : ∀ c ∈ cs, test c = true := by
  obtain ⟨front, rfl, hfront⟩ := h
  simpa using hfront

theorem leaves_dropWhile (test : Char → Bool) (cs : List Char) : Leaves test cs (cs.dropWhile test) :=
  ⟨cs.takeWhile test, List.takeWhile_append_dropWhile.symm, List.all_eq_true.mp List.all_takeWhile⟩

/-! ### Trimmed texts -/

/-- A text is what is left of it when it is trimmed, between blanks. -/
theorem exists_trimChars (cs : List Char) : ∃ before after, cs = before ++ trimChars cs ++ after ∧
    (∀ c ∈ before, isBlank c = true) ∧ ∀ c ∈ after, isBlank c = true := by
  obtain ⟨before, hfront, hbefore⟩ := leaves_dropWhile isBlank cs
  obtain ⟨after, hback, hafter⟩ := leaves_dropWhile isBlank (dropBlanks cs).reverse
  refine ⟨before, after.reverse, ?_, hbefore, by simpa using hafter⟩
  calc cs = before ++ (dropBlanks cs).reverse.reverse := by rw [List.reverse_reverse]; exact hfront
    _ = before ++ trimChars cs ++ after.reverse := by
      rw [hback, List.reverse_append, ← List.append_assoc]
      rfl

theorem trimChars_pad {before after : List Char} (cs : List Char) (hbefore : ∀ c ∈ before, isBlank c = true)
    (hafter : ∀ c ∈ after, isBlank c = true) : trimChars (before ++ cs ++ after) = trimChars cs := by
  have hfront : dropBlanks (before ++ cs ++ after) = dropBlanks (cs ++ after) := by
    rw [dropBlanks, List.append_assoc, List.dropWhile_append_of_pos hbefore, dropBlanks]
  have hback : ∀ xs, dropBlanks (after.reverse ++ xs) = dropBlanks xs := fun xs =>
    List.dropWhile_append_of_pos (by simpa using hafter)
  rw [trimChars, trimChars, hfront]
  by_cases hempty : dropBlanks cs = []
  · have hall : dropBlanks (cs ++ after) = [] := by
      rw [dropBlanks, List.dropWhile_eq_nil_iff] at hempty ⊢
      intro c hc
      exact (List.mem_append.mp hc).elim (hempty c) (hafter c)
    rw [hall, hempty]
  · have hkept : dropBlanks (cs ++ after) = dropBlanks cs ++ after := by
      rw [dropBlanks, List.dropWhile_append, if_neg (by simpa [dropBlanks] using hempty), dropBlanks]
    rw [hkept, List.reverse_append, hback]

theorem trimChars_trimChars (cs : List Char) : trimChars (trimChars cs) = trimChars cs := by
  obtain ⟨before, after, hsplit, hbefore, hafter⟩ := exists_trimChars cs
  rw [← trimChars_pad (trimChars cs) hbefore hafter, ← hsplit]

theorem mem_trimChars {c : Char} (hc : isBlank c = false) (h : c ∈ cs) : c ∈ trimChars cs := by
  obtain ⟨before, after, hsplit, hbefore, hafter⟩ := exists_trimChars cs
  rw [hsplit, List.mem_append, List.mem_append] at h
  rcases h with (h | h) | h
  · exact absurd (hbefore c h) (by simp [hc])
  · exact h
  · exact absurd (hafter c h) (by simp [hc])

theorem trimChars_eq_self (hfirst : ∀ c ∈ cs.head?, isBlank c = false)
    (hlast : ∀ c ∈ cs.getLast?, isBlank c = false) : trimChars cs = cs := by
  have hdrop : ∀ {xs : List Char}, (∀ c ∈ xs.head?, isBlank c = false) → dropBlanks xs = xs := by
    intro xs hxs
    cases xs with
    | nil => rfl
    | cons c xs => exact dropBlanks_of_not_blank c xs (hxs c rfl)
  have hback : dropBlanks cs.reverse = cs.reverse := hdrop (by rwa [List.head?_reverse])
  rw [trimChars, hdrop hfirst, hback, List.reverse_reverse]

end Text

namespace Time

open Decimal (isDigit)
open Text (Leaves)

variable {cs rest : List Char}

/-! ### Timestamps -/

/-- The characters of timestamps: digits, separators, signs and letters, the true minus sign among them. -/
def isStampChar (c : Char) : Bool := isDigit c || "-:. +TtZz\u2212".toList.contains c

theorem leaves_digitsOf {n v : Nat} (h : digitsOf n cs = some (v, rest)) : Leaves isDigit cs rest := by
  unfold digitsOf at h
  dsimp only at h
  split at h
  · rename_i hdigits
    cases h
    exact ⟨cs.take n, (List.take_append_drop n cs).symm, List.all_eq_true.mp hdigits.2⟩
  · cases h

theorem leaves_expect {c : Char} (h : expect c cs = some rest) : Leaves (· == c) cs rest := by
  cases cs with
  | nil => cases h
  | cons d cs =>
    simp only [expect] at h
    split at h
    · rename_i hd
      cases h
      exact .cons (by simp [hd]) (.refl _ _)
    · cases h

theorem leaves_fraction {n : Nat} (h : fraction cs = some (n, rest)) : Leaves isStampChar cs rest := by
  unfold fraction at h
  split at h
  · dsimp only at h
    split at h
    · cases h
    · cases h
      exact .cons (by decide) ((Text.leaves_dropWhile isDigit _).mono fun c hc => by simp [isStampChar, hc])
  · cases h
    exact .refl _ _

theorem isStampChar_of_digit (c : Char) (h : isDigit c = true) : isStampChar c = true := by
  simp [isStampChar, h]

theorem isStampChar_of_eq {c : Char} (hc : isStampChar c = true) (d : Char) (h : (d == c) = true) :
    isStampChar d = true := by
  rw [beq_iff_eq.mp h]
  exact hc

/-- The characters of offsets: those of timestamps that are not blank. -/
def isOffsetChar (c : Char) : Bool := isStampChar c && !Text.isBlank c

theorem isOffsetChar_of_digit (c : Char) (h : isDigit c = true) : isOffsetChar c = true := by
  simp [isOffsetChar, isStampChar_of_digit c h, Text.isBlank_of_isDigit h]

theorem leaves_offsetMinutes {n : Nat} (h : offsetMinutes cs = some n) : Leaves isOffsetChar cs [] := by
  obtain ⟨⟨hours, cs₁⟩, hhours, h⟩ := Option.bind_eq_some_iff.mp h
  obtain ⟨cs₂, hcolon, h⟩ := Option.bind_eq_some_iff.mp h
  obtain ⟨⟨minutes, cs₃⟩, hminutes, h⟩ := Option.bind_eq_some_iff.mp h
  dsimp only at h
  split at h
  · rename_i hempty
    obtain rfl : cs₃ = [] := List.isEmpty_iff.mp hempty.1
    refine ((leaves_digitsOf hhours).mono isOffsetChar_of_digit).trans (.trans ?_
      ((leaves_digitsOf hminutes).mono isOffsetChar_of_digit))
    refine (leaves_expect hcolon).mono fun c hc => ?_
    rw [beq_iff_eq.mp hc]
    decide
  · cases h

theorem leaves_offset {n : Int} (h : offset cs = some n) : Leaves isOffsetChar cs [] := by
  unfold offset at h
  split at h
  · exact .cons (by decide) (.refl _ _)
  · exact .cons (by decide) (.refl _ _)
  · obtain ⟨m, hm, -⟩ := Option.map_eq_some_iff.mp h
    obtain ⟨k, hk, -⟩ := Option.bind_eq_some_iff.mp hm
    exact .cons (by decide) (leaves_offsetMinutes hk)
  · rename_i c cs _ _ _
    split at h
    · rename_i hc
      obtain ⟨m, hm, -⟩ := Option.map_eq_some_iff.mp h
      obtain ⟨k, hk, -⟩ := Option.bind_eq_some_iff.mp hm
      refine .cons ?_ (leaves_offsetMinutes hk)
      rcases hc with rfl | hc
      · decide
      · obtain rfl : c = '\u2212' := Char.toNat_inj.mp hc
        decide
    · cases h
  · cases h

/-- A timestamp ends with its fraction and its offset. -/
theorem stamp?_ends {s : Stamp} (h : stamp? cs = some s) : ∃ mid rest, Leaves isStampChar cs mid ∧
    fraction mid = some (s.nanos, rest) ∧ offset rest = some s.offset := by
  have hdigits : ∀ {n v : Nat} {cs rest : List Char}, digitsOf n cs = some (v, rest) →
      Leaves isStampChar cs rest := fun h => (leaves_digitsOf h).mono isStampChar_of_digit
  have hmark : ∀ {c : Char} {cs rest : List Char}, isStampChar c = true → expect c cs = some rest →
      Leaves isStampChar cs rest := fun hc h => (leaves_expect h).mono (isStampChar_of_eq hc)
  obtain ⟨⟨year, cs₁⟩, hyear, h⟩ := Option.bind_eq_some_iff.mp h
  obtain ⟨cs₂, hdash, h⟩ := Option.bind_eq_some_iff.mp h
  obtain ⟨⟨month, cs₃⟩, hmonth, h⟩ := Option.bind_eq_some_iff.mp h
  obtain ⟨cs₄, hdash', h⟩ := Option.bind_eq_some_iff.mp h
  obtain ⟨⟨day, cs₅⟩, hday, h⟩ := Option.bind_eq_some_iff.mp h
  have hdate : Leaves isStampChar cs cs₅ := (hdigits hyear).trans <| (hmark (by decide) hdash).trans <|
    (hdigits hmonth).trans <| (hmark (by decide) hdash').trans (hdigits hday)
  dsimp only at h
  split at h
  · split at h
    · rename_i c cs₆ hseparator
      obtain ⟨cs₇, hsome, h⟩ := Option.bind_eq_some_iff.mp h
      cases hsome
      obtain ⟨⟨hour, cs₈⟩, hhour, h⟩ := Option.bind_eq_some_iff.mp h
      obtain ⟨cs₉, hcolon, h⟩ := Option.bind_eq_some_iff.mp h
      obtain ⟨⟨minute, cs₁₀⟩, hminute, h⟩ := Option.bind_eq_some_iff.mp h
      obtain ⟨cs₁₁, hcolon', h⟩ := Option.bind_eq_some_iff.mp h
      obtain ⟨⟨second, cs₁₂⟩, hsecond, h⟩ := Option.bind_eq_some_iff.mp h
      obtain ⟨⟨nanos, cs₁₃⟩, hnanos, h⟩ := Option.bind_eq_some_iff.mp h
      obtain ⟨minutes, hoffset, h⟩ := Option.bind_eq_some_iff.mp h
      have htime : Leaves isStampChar cs₆ cs₁₂ := (hdigits hhour).trans <|
        (hmark (by decide) hcolon).trans <| (hdigits hminute).trans <|
          (hmark (by decide) hcolon').trans (hdigits hsecond)
      have hseparated : isStampChar c = true := by
        rcases hseparator with rfl | rfl | rfl <;> decide
      refine ⟨cs₁₂, cs₁₃, hdate.trans (.cons hseparated htime), ?_⟩
      dsimp only at h
      split at h
      · cases h
        exact ⟨hnanos, hoffset⟩
      · cases h
    · cases h
  · cases h

theorem offset_of_stamp? {s : Stamp} (h : stamp? cs = some s) :
    ∃ rest, Leaves isStampChar cs rest ∧ offset rest = some s.offset := by
  obtain ⟨mid, rest, hleaves, hfraction, hoffset⟩ := stamp?_ends h
  exact ⟨rest, hleaves.trans (leaves_fraction hfraction), hoffset⟩

/-- A timestamp is written with the characters of timestamps. -/
theorem isStampChar_of_stamp? {s : Stamp} (h : stamp? cs = some s) : ∀ c ∈ cs, isStampChar c = true := by
  obtain ⟨rest, hleaves, hoffset⟩ := offset_of_stamp? h
  have hrest : Leaves isStampChar rest [] := (leaves_offset hoffset).mono fun c hc => by
    simp only [isOffsetChar, Bool.and_eq_true] at hc
    exact hc.1
  exact (hleaves.trans hrest).all

/-! ### Plain dates -/

/-- The characters of plain dates. -/
def isDateChar (c : Char) : Bool := isDigit c || Text.isBlank c || c == '-' || c == '+'

theorem isDateChar_of_digit (c : Char) (h : isDigit c = true) : isDateChar c = true := by
  simp [isDateChar, h]

theorem leaves_dropBlanks (cs : List Char) : Leaves isDateChar cs (Text.dropBlanks cs) :=
  (Text.leaves_dropWhile Text.isBlank cs).mono fun c hc => by simp [isDateChar, hc]

theorem leaves_digitsUpTo {n k : Nat} (h : digitsUpTo k cs = some (n, rest)) : Leaves isDateChar cs rest := by
  unfold digitsUpTo at h
  dsimp only at h
  split at h
  · cases h
  · cases h
    have hprefix : (cs.take k).takeWhile isDigit <+: cs :=
      (List.takeWhile_prefix _).trans (List.take_prefix k cs)
    refine ⟨_, (List.prefix_iff_eq_append.mp hprefix).symm, fun c hc => isDateChar_of_digit c ?_⟩
    exact List.all_eq_true.mp List.all_takeWhile c hc

theorem leaves_year {y : Int} (h : year cs = some (y, rest)) : Leaves isDateChar cs rest := by
  refine (leaves_dropBlanks cs).trans ?_
  unfold year at h
  split at h
  · rename_i cs' hcs
    obtain ⟨⟨n, cs''⟩, hn, he⟩ := Option.map_eq_some_iff.mp h
    cases he
    rw [hcs]
    exact .cons (by decide) (leaves_digitsUpTo hn)
  · rename_i cs' hcs
    obtain ⟨⟨n, cs''⟩, hn, he⟩ := Option.map_eq_some_iff.mp h
    cases he
    rw [hcs]
    exact .cons (by decide) (leaves_digitsUpTo hn)
  · obtain ⟨⟨n, cs''⟩, hn, he⟩ := Option.map_eq_some_iff.mp h
    cases he
    exact leaves_digitsUpTo hn

theorem leaves_dash (h : expect '-' cs = some rest) : Leaves isDateChar cs rest :=
  (leaves_expect h).mono fun c hc => by
    rw [beq_iff_eq.mp hc]
    decide

theorem isDateChar_of_date? {d : Date} (h : date? cs = some d) : ∀ c ∈ cs, isDateChar c = true := by
  simp only [date?, bind, Option.bind_eq_some_iff] at h
  obtain ⟨⟨y, cs₁⟩, hy, cs₂, hdash, ⟨m, cs₃⟩, hm, cs₄, hdash', ⟨k, cs₅⟩, hk, h⟩ := h
  split at h
  · rename_i hempty
    obtain rfl : cs₅ = [] := List.isEmpty_iff.mp hempty.1
    exact Leaves.all <| (leaves_year hy).trans <| (leaves_dash hdash).trans <| (leaves_dropBlanks _).trans <|
      (leaves_digitsUpTo hm).trans <| (leaves_dash hdash').trans <| (leaves_dropBlanks _).trans
        (leaves_digitsUpTo hk)
  · cases h

/-! ### Texts that denote a time -/

/-- A character that no time is written with, in a text: the text denotes no time. -/
theorem denoted?_of_mem {s : String} {c : Char} (hc : c ∈ s.toList) (hstamp : isStampChar c = false)
    (hdate : isDateChar c = false) : denoted? s = none := by
  have hblank : Text.isBlank c = false := by
    cases hb : Text.isBlank c with
    | false => rfl
    | true => simp [isDateChar, hb] at hdate
  have hmem : c ∈ Text.trimChars s.toList := Text.mem_trimChars hblank hc
  have hnoStamp : stamp? (Text.trimChars s.toList) = none :=
    Option.eq_none_iff_forall_ne_some.mpr fun x hx => by
      rw [isStampChar_of_stamp? hx c hmem] at hstamp
      cases hstamp
  have hnoDate : date? (Text.trimChars s.toList) = none :=
    Option.eq_none_iff_forall_ne_some.mpr fun x hx => by
      rw [isDateChar_of_date? hx c hmem] at hdate
      cases hdate
  simp only [denoted?, hnoStamp, hnoDate, Option.map_none, Option.or_none]

theorem isStampChar_of_mem_padded {width n : Nat} {c : Char} (h : c ∈ padded width n) :
    isStampChar c = true := isStampChar_of_digit c (isDigit_of_mem_padded h)

/-- A canonical text is written with the characters of timestamps. -/
theorem isStampChar_of_mem_text (t : Instant) : ∀ c ∈ t.text.toList, isStampChar c = true := by
  have hyear : ∀ y, ∀ c ∈ yearText y, isStampChar c = true := by
    intro y c hc
    unfold yearText at hc
    split at hc
    · exact isStampChar_of_mem_padded hc
    · rcases List.mem_cons.mp hc with rfl | hc
      · split <;> decide
      · exact isStampChar_of_mem_padded hc
  intro c hc
  simp only [Instant.text, String.toList_ofList, Date.chars, clockChars, List.mem_append, List.mem_cons,
    List.not_mem_nil, or_false] at hc
  rcases hc with (((hc | rfl | hc) | rfl | hc) | rfl | ((hc | rfl | hc) | rfl | hc) | rfl | hc) | rfl
  all_goals first | decide | exact hyear _ c hc | exact isStampChar_of_mem_padded hc

end Time

namespace Decimal

open Text (Leaves)

/-! ### Numbers -/

/-- The characters of numerals, and the letters of the words for other numbers. -/
def isNumberChar (c : Char) : Bool := isDigit c || "+-.".toList.contains c || c.isAlpha

theorem isNumberChar_of_digit (c : Char) (h : isDigit c = true) : isNumberChar c = true := by
  simp [isNumberChar, h]

theorem leaves_signed (cs : List Char) : Leaves isNumberChar cs (signed cs).2 := by
  unfold signed
  split
  · exact .cons (by decide) (.refl _ _)
  · exact .cons (by decide) (.refl _ _)
  · exact .refl _ _

theorem leaves_natural? {cs : List Char} {n : Nat} (h : natural? cs = some n) :
    Leaves isNumberChar cs [] := by
  unfold natural? at h
  split at h
  · cases h
  · rename_i hdigits
    have hall : cs.all isDigit = true := Decidable.of_not_not fun hnot => hdigits (.inr hnot)
    exact ⟨cs, (List.append_nil cs).symm, fun c hc =>
      isNumberChar_of_digit c (List.all_eq_true.mp hall c hc)⟩

theorem leaves_digits (cs : List Char) : Leaves isNumberChar cs (cs.dropWhile isDigit) :=
  (Text.leaves_dropWhile isDigit cs).mono isNumberChar_of_digit

theorem isNumberChar_of_int64? {s : String} {n : Int} (h : int64? s = some n) :
    ∀ c ∈ s.toList, isNumberChar c = true := by
  unfold int64? at h
  obtain ⟨m, hm, -⟩ := Option.bind_eq_some_iff.mp h
  exact Leaves.all ((leaves_signed s.toList).trans (leaves_natural? hm))

theorem leaves_exponent? {cs : List Char} {e : Int} (h : exponent? cs = some e) :
    Leaves isNumberChar cs [] := by
  unfold exponent? at h
  obtain ⟨m, hm, -⟩ := Option.map_eq_some_iff.mp h
  obtain ⟨n, hn, -⟩ := Option.bind_eq_some_iff.mp hm
  exact (leaves_signed cs).trans (leaves_natural? hn)

theorem leaves_scale {cs : List Char} {whole : Option Numeral} {scaled : Int → Numeral} {n : Numeral}
    (h : (match cs with
      | [] => whole
      | c :: cs => if c = 'e' ∨ c = 'E' then (exponent? cs).map scaled else none) = some n) :
    Leaves isNumberChar cs [] := by
  split at h
  · exact .refl _ _
  · split at h
    · rename_i hmark
      obtain ⟨e, he, -⟩ := Option.map_eq_some_iff.mp h
      refine .cons ?_ (leaves_exponent? he)
      rcases hmark with rfl | rfl <;> decide
    · cases h

theorem isNumberChar_of_numeral? {cs : List Char} {n : Numeral} (h : numeral? cs = some n) :
    ∀ c ∈ cs, isNumberChar c = true := by
  refine Leaves.all ((leaves_signed cs).trans ((leaves_digits _).trans ?_))
  unfold numeral? at h
  dsimp only at h
  generalize ((signed cs).2).dropWhile isDigit = rest at h ⊢
  split at h
  · split at h
    · cases h
    · dsimp only at h
      exact .cons (by decide) ((leaves_digits _).trans (leaves_scale h))
  · split at h
    · cases h
    · dsimp only at h
      exact leaves_scale h

theorem isAlpha_of_toLower {c : Char} (h : c.toLower.isAlpha = true) : c.isAlpha = true := by
  unfold Char.toLower at h
  split at h
  · rename_i hupper
    have hletter : c.isUpper = true := decide_eq_true hupper
    have hor : (c.isUpper || c.isLower) = true := by rw [hletter, Bool.true_or]
    exact hor
  · exact h

theorem isNumberChar_of_float? {s : String} {x : Float} (h : float? s = some x) :
    ∀ c ∈ s.toList, isNumberChar c = true := by
  unfold float? at h
  split at h
  · rename_i n hn
    exact isNumberChar_of_numeral? hn
  · dsimp only at h
    obtain ⟨y, hy, -⟩ := Option.map_eq_some_iff.mp h
    -- A word: its letters are letters before they are folded.
    have hword : ∀ c ∈ folded (signed s.toList).2, c.isAlpha = true := by
      have hwords : ∀ w ∈ ["inf", "infinity", "nan"], ∀ c ∈ w.toList, c.isAlpha = true := by simp
      have hone : String.ofList (folded (signed s.toList).2) ∈ ["inf", "infinity", "nan"] := by
        split at hy
        · rename_i h
          rcases h with h | h <;> simp [h]
        · split at hy
          · rename_i h
            simp [h]
          · cases hy
      simpa using hwords _ hone
    refine Leaves.all ((leaves_signed s.toList).trans ⟨_, (List.append_nil _).symm, fun c hc => ?_⟩)
    have halpha : c.isAlpha = true := isAlpha_of_toLower (hword _ (List.mem_map_of_mem hc))
    simp [isNumberChar, halpha]

end Decimal

namespace Filter

open Decimal (isNumberChar)

/-- A character that no number is written with, in a text: the text is read as no number. -/
theorem number?_of_mem {s : String} {c : Char} (hc : c ∈ s.toList) (hblank : Text.isBlank c = false)
    (hnumber : isNumberChar c = false) : number? s = none := by
  have hmem : c ∈ (Text.trim s).toList := by
    rw [Text.trim, String.toList_ofList]
    exact Text.mem_trimChars hblank hc
  have hint : Decimal.int64? (Text.trim s) = none := Option.eq_none_iff_forall_ne_some.mpr fun n hn => by
    rw [Decimal.isNumberChar_of_int64? hn c hmem] at hnumber
    cases hnumber
  have hfloat : Decimal.float? (Text.trim s) = none := Option.eq_none_iff_forall_ne_some.mpr fun x hx => by
    rw [Decimal.isNumberChar_of_float? hx c hmem] at hnumber
    cases hnumber
  simp only [number?, hint, hfloat, Option.bind_none]

end Filter

end Hypermedia
