import Mathlib
import Hypermedia.Proofs.Links

/-!
# The offsets of a page

The numbers of a page are words of 64 bits, and so is every number that its links are computed from: no step
leaves the word, and none divides by zero. So the links are those of unbounded arithmetic, and the query that
a link carries is read as the window it was made for.
-/

namespace Hypermedia.Link

open Hypermedia.Filter (Window)

/-! ### Words -/

/-- A number as a word of 64 bits, none where it does not fit. -/
def word? (n : Int) : Option UInt64 := if 0 ≤ n ∧ n < 2 ^ 64 then some (UInt64.ofNat n.toNat) else none

section
variable (m n : UInt64)

/-! The plain operations fail where their result is no word. -/

def plus? : Option UInt64 := word? (m.toNat + n.toNat)

def minus? : Option UInt64 := word? (m.toNat - n.toNat)

def times? : Option UInt64 := word? (m.toNat * n.toNat)

def quotient? : Option UInt64 := if n = 0 then none else word? (m.toNat / n.toNat)

/-- A difference that stops at zero. -/
def lessAtMost : UInt64 := if n ≤ m then m - n else 0

end

theorem word?_eq_some_iff {n : Int} {w : UInt64} : word? n = some w ↔ n = w.toNat := by
  have hw : w.toNat < 2 ^ 64 := w.toNat_lt
  unfold word?
  constructor
  · intro h
    split at h
    · cases h
      rw [UInt64.toNat_ofNat', Nat.mod_eq_of_lt (by omega)]
      omega
    · cases h
  · rintro rfl
    rw [if_pos (by omega), Int.toNat_natCast, UInt64.ofNat_toNat]

section
variable {m n : UInt64}

theorem minus?_of_le (h : n ≤ m) : minus? m n = some (m - n) := by
  have hle : n.toNat ≤ m.toNat := h
  rw [minus?, word?_eq_some_iff, UInt64.toNat_sub_of_le m n h, Int.ofNat_sub hle]

theorem quotient?_of_pos (h : 0 < n.toNat) : quotient? m n = some (m / n) := by
  have hn : n ≠ 0 := fun hzero => by simp [hzero] at h
  rw [quotient?, if_neg hn, word?_eq_some_iff, UInt64.toNat_div, Int.natCast_ediv]

theorem times?_of_lt (h : m.toNat * n.toNat < 2 ^ 64) : times? m n = some (m * n) := by
  rw [times?, word?_eq_some_iff, UInt64.toNat_mul, Nat.mod_eq_of_lt h, Int.natCast_mul]

end

theorem toNat_lessAtMost (m n : UInt64) : (lessAtMost m n).toNat = m.toNat - n.toNat := by
  unfold lessAtMost
  split
  · rename_i hle
    exact UInt64.toNat_sub_of_le m n hle
  · rename_i hgt
    rw [UInt64.le_iff_toNat_le] at hgt
    rw [UInt64.toNat_zero]
    omega

theorem toNat_max_one (n : UInt64) : (max n 1).toNat = max n.toNat 1 := by
  rw [show max n 1 = if n ≤ 1 then 1 else n from rfl]
  split
  · rename_i hle
    rw [UInt64.le_iff_toNat_le, UInt64.toNat_one] at hle
    rw [UInt64.toNat_one]
    omega
  · rename_i hgt
    rw [UInt64.le_iff_toNat_le, UInt64.toNat_one] at hgt
    omega

/-! ### The offsets in words -/

/-- The limit of a page, and where its links begin. -/
structure Offsets where
  limit : UInt64
  first : Option UInt64
  last : Option UInt64
  prev : Option UInt64
  next : Option UInt64

/-- The offset of the last of the pages that hold so many records. -/
def lastOffset? (limit size : UInt64) : Option UInt64 := do
  let below ← minus? size 1
  let pages ← quotient? below limit
  times? pages limit

/-- The offsets around a window on so many records, computed in words. An end of the window that is no word
is no offset; no other operation may fail. -/
def offsets? (offset limit size : UInt64) : Option Offsets :=
  let limit := max limit 1
  let next := (plus? offset limit).filter (· < size)
  if size = 0 then some ⟨limit, none, none, none, next⟩
  else (lastOffset? limit size).map fun last =>
    ⟨limit, some 0, some last, if offset = 0 then none else some (lessAtMost offset limit), next⟩

section
variable {limit size : UInt64} (hlimit : 0 < limit.toNat) (hsize : 1 ≤ size)

include hsize

theorem last_le : ((size - 1) / limit).toNat * limit.toNat ≤ size.toNat - 1 := by
  rw [UInt64.toNat_div, UInt64.toNat_sub_of_le size 1 hsize]
  exact Nat.div_mul_le_self ..

theorem last_lt : ((size - 1) / limit).toNat * limit.toNat < 2 ^ 64 := by
  have hle : ((size - 1) / limit).toNat * limit.toNat ≤ size.toNat - 1 := last_le hsize
  have hword : size.toNat < 2 ^ 64 := size.toNat_lt
  omega

theorem toNat_last : ((size - 1) / limit * limit).toNat = (size.toNat - 1) / limit.toNat * limit.toNat := by
  rw [UInt64.toNat_mul, Nat.mod_eq_of_lt (last_lt hsize), UInt64.toNat_div,
    UInt64.toNat_sub_of_le size 1 hsize, UInt64.toNat_one]

include hlimit

theorem lastOffset?_eq : lastOffset? limit size = some ((size - 1) / limit * limit) := by
  rw [lastOffset?, minus?_of_le hsize, Option.bind_eq_bind, Option.bind_some, quotient?_of_pos hlimit,
    Option.bind_some, times?_of_lt (last_lt hsize)]

end

/-- No operation fails. -/
theorem offsets?_eq (offset limit size : UInt64) : offsets? offset limit size = some
    { limit := max limit 1
      first := if size = 0 then none else some 0
      last := if size = 0 then none else some ((size - 1) / max limit 1 * max limit 1)
      prev := if size = 0 ∨ offset = 0 then none else some (lessAtMost offset (max limit 1))
      next := (plus? offset (max limit 1)).filter (· < size) } := by
  by_cases hzero : size = 0
  · simp only [offsets?, hzero, if_true, true_or]
  · have hsize : 1 ≤ size := UInt64.le_iff_toNat_le.mpr
      (Nat.pos_of_ne_zero fun h => hzero (UInt64.toNat_inj.mp h))
    have hlimit : 0 < (max limit 1).toNat := by
      rw [toNat_max_one]
      omega
    simp only [offsets?, hzero, if_false, false_or, lastOffset?_eq hlimit hsize, Option.map_some]

/-! ### The links of a page -/

section
variable {α : Type}

/-- The links of a page, as far as it has them. -/
def Page.links (p : Page α) : List (Option String) := [p.first, p.last, p.prev, p.next]

/-- The links of a page begin at these offsets. -/
structure Page.ComputedBy (p : Page α) (base : String) (o : Offsets) : Prop where
  limit : p.limit = o.limit.toNat
  first : p.first = o.first.map fun n => windowLink base o.limit.toNat n.toNat
  last : p.last = o.last.map fun n => windowLink base o.limit.toNat n.toNat
  prev : p.prev = o.prev.map fun n => windowLink base o.limit.toNat n.toNat
  next : p.next = o.next.map fun n => windowLink base o.limit.toNat n.toNat

/-- The links of a page in unbounded arithmetic. -/
structure Page.Exact (p : Page α) (base : String) (offset limit size : Nat) : Prop where
  next : ∀ text, p.next = some text ↔
    offset + limit < size ∧ text = windowLink base limit (offset + limit)
  prev : ∀ text, p.prev = some text ↔
    0 < size ∧ 0 < offset ∧ text = windowLink base limit (max ((offset : Int) - limit) 0).toNat
  first : ∀ text, p.first = some text ↔ 0 < size ∧ text = windowLink base limit 0
  last : ∀ text, p.last = some text ↔ 0 < size ∧
    ∃ n, IsGreatest {n | limit ∣ n ∧ n < size} n ∧ text = windowLink base limit n

theorem map_next {β : Type} (f : Nat → β) (offset limit size : UInt64) :
    ((plus? offset limit).filter (· < size)).map (fun n => f n.toNat) =
      if offset.toNat + limit.toNat < Decimal.twoTo 64 ∧ offset.toNat + limit.toNat < size.toNat then
        some (f (offset.toNat + limit.toNat))
      else none := by
  have hword : Decimal.twoTo 64 = 2 ^ 64 := rfl
  cases hstop : plus? offset limit with
  | none =>
    have hno : ¬ offset.toNat + limit.toNat < Decimal.twoTo 64 := fun hlt => by
      rw [plus?, ← Int.natCast_add, word?, if_pos (by omega)] at hstop
      cases hstop
    rw [if_neg fun h => hno h.1]
    rfl
  | some stop =>
    have heq : offset.toNat + limit.toNat = stop.toNat := by
      have := word?_eq_some_iff.mp hstop
      omega
    have hlt : stop.toNat < Decimal.twoTo 64 := stop.toNat_lt
    rw [heq, Option.filter_some]
    by_cases hless : stop < size
    · rw [if_pos (decide_eq_true hless), if_pos ⟨hlt, hless⟩, Option.map_some]
    · rw [if_neg fun h => hless (of_decide_eq_true h), if_neg fun h => hless h.2, Option.map_none]

theorem computedBy_page (base : String) (offset limit size : UInt64) (items : List α) :
    ∃ o, offsets? offset limit size = some o ∧
      (page base ⟨offset.toNat, limit.toNat⟩ size.toNat items).ComputedBy base o := by
  have hne : ∀ n : UInt64, n.toNat ≠ 0 ↔ n ≠ 0 := fun n => by
    rw [ne_eq, ne_eq, ← UInt64.toNat_zero, UInt64.toNat_inj]
  refine ⟨_, offsets?_eq offset limit size, ?_, ?_, ?_, ?_, ?_⟩
  · exact (toNat_max_one limit).symm
  · by_cases hzero : size = 0
    · simp [page, hzero]
    · simp [page, hzero, Nat.pos_iff_ne_zero, hne, toNat_max_one]
  · by_cases hzero : size = 0
    · simp [page, hzero]
    · have hone : 1 ≤ size := UInt64.le_iff_toNat_le.mpr (Nat.pos_of_ne_zero ((hne size).mpr hzero))
      simp [page, hzero, Nat.pos_iff_ne_zero, hne, toNat_max_one, toNat_last hone]
  · by_cases hnone : size = 0 ∨ offset = 0
    · have hno : ¬ (0 < size.toNat ∧ offset.toNat ≠ 0) := by
        rw [Nat.pos_iff_ne_zero, hne, hne]
        exact fun h => hnone.elim h.1 h.2
      simp [page, hnone, hno]
    · obtain ⟨hsize, hoffset⟩ := not_or.mp hnone
      simp [page, hsize, hoffset, Nat.pos_iff_ne_zero, hne, toNat_max_one, toNat_lessAtMost]
  · rw [map_next, toNat_max_one]
    rfl

/-- The last page begins at the largest multiple of the limit that is less than the number of records. -/
theorem isGreatest_last {limit size : Nat} (hsize : 0 < size) :
    IsGreatest {n | limit ∣ n ∧ n < size} ((size - 1) / limit * limit) := by
  have hle : (size - 1) / limit * limit ≤ size - 1 := Nat.div_mul_le_self ..
  refine ⟨⟨Nat.dvd_mul_left .., by omega⟩, ?_⟩
  rintro _ ⟨⟨k, rfl⟩, hlt⟩
  rcases Nat.eq_zero_or_pos limit with rfl | hpos
  · simp
  · rw [Nat.mul_comm]
    exact Nat.mul_le_mul_right _ ((Nat.le_div_iff_mul_le hpos).mpr (by rw [Nat.mul_comm]; omega))

theorem exact_page (base : String) {offset limit size : Nat} (hsize : size < 2 ^ 64) (items : List α) :
    (page base ⟨offset, limit⟩ size items).Exact base offset (max limit 1) size where
  next text := by
    have hword : Decimal.twoTo 64 = 2 ^ 64 := rfl
    simp only [page, Option.ite_none_right_eq_some, Option.some.injEq, eq_comm (b := text)]
    exact and_congr_left' ⟨fun h => h.2, fun h => ⟨by omega, h⟩⟩
  prev text := by
    have hback : (max ((offset : Int) - (max limit 1 : Nat)) 0).toNat = offset - max limit 1 := by omega
    simp only [page, Option.ite_none_right_eq_some, Option.some.injEq, eq_comm (b := text), hback,
      Nat.pos_iff_ne_zero, and_assoc]
  first text := by
    simp only [page, Option.ite_none_right_eq_some, Option.some.injEq, eq_comm (b := text)]
  last text := by
    simp only [page, Option.ite_none_right_eq_some, Option.some.injEq, eq_comm (b := text)]
    refine and_congr_right fun hpos => ⟨fun h => ⟨_, isGreatest_last hpos, h⟩, ?_⟩
    rintro ⟨n, hn, h⟩
    rwa [hn.unique (isGreatest_last hpos)] at h

end

/-! ### The query of a link -/

/-- The query that a link carries, after its last question mark. -/
def carried (link : String) : String :=
  ((Text.cutLast '?' link.toList).map fun cut => String.ofList cut.2).getD ""

theorem carried_windowLink (base : String) (limit offset : Nat) : carried (windowLink base limit offset) =
    String.ofList ((windowLink base limit offset).toList.drop (base.length + 1)) := by
  have hdigits : ∀ n : Nat, '?' ∉ Nat.toDigits 10 n := fun n hm =>
    absurd (Decimal.isDigit_of_mem_toDigits hm) (by decide)
  have hplain : '?' ∉ ("offset".toList ++ '=' :: (toString offset).toList) ++
      '&' :: ("limit".toList ++ '=' :: (toString limit).toList) := by
    simp [hdigits]
  rw [carried, drop_windowLink, toList_windowLink, Text.cutLast_of_notMem hplain]
  rfl

/-- A link is read as the window that it was made for. -/
theorem ofQuery_carried (base : String) (defaultLimit : Nat) {offset limit : Nat}
    (h : Window.Fits ⟨offset, limit⟩) :
    Window.ofQuery (Web.decodeForm (carried (windowLink base limit offset))) defaultLimit =
      ⟨offset, limit⟩ := by
  rw [carried_windowLink]
  exact window_windowLink base defaultLimit h

/-- The links of a page are exact. They are computed in words of 64 bits without leaving the word and without
dividing by zero, and begin where unbounded arithmetic has them: the next one at the end of the window if there
are records behind it, the one before as far back as the limit or at zero, the last one at the largest multiple
of the limit below the size. The query that a link carries is read as its window, if its numbers are no larger
than the largest that can be asked for. -/
theorem page_arithmetic_exact {α : Type} (base : String) (offset limit size : UInt64) (items : List α) :
    (∃ o, offsets? offset limit size = some o ∧
        (page base ⟨offset.toNat, limit.toNat⟩ size.toNat items).ComputedBy base o) ∧
      (page base ⟨offset.toNat, limit.toNat⟩ size.toNat items).Exact base offset.toNat (max limit.toNat 1)
        size.toNat ∧
      ∀ link, some link ∈ (page base ⟨offset.toNat, limit.toNat⟩ size.toNat items).links →
        (∃ start, link = windowLink base (max limit.toNat 1) start) ∧
          ∀ start, link = windowLink base (max limit.toNat 1) start → start ≤ Window.largest →
            max limit.toNat 1 ≤ Window.largest → ∀ defaultLimit,
              Window.ofQuery (Web.decodeForm (carried link)) defaultLimit = ⟨start, max limit.toNat 1⟩ := by
  have hexact : (page base ⟨offset.toNat, limit.toNat⟩ size.toNat items).Exact base offset.toNat
      (max limit.toNat 1) size.toNat := exact_page base size.toNat_lt items
  have hpos : 0 < max limit.toNat 1 := Nat.lt_of_lt_of_le Nat.one_pos (Nat.le_max_right ..)
  refine ⟨computedBy_page base offset limit size items, hexact, fun link hlink => ⟨?_, ?_⟩⟩
  · simp only [Page.links, List.mem_cons, List.not_mem_nil, or_false] at hlink
    rcases hlink with h | h | h | h
    · exact ⟨_, ((hexact.first link).mp h.symm).2⟩
    · obtain ⟨-, start, -, hlast⟩ := (hexact.last link).mp h.symm
      exact ⟨start, hlast⟩
    · exact ⟨_, ((hexact.prev link).mp h.symm).2.2⟩
    · exact ⟨_, ((hexact.next link).mp h.symm).2⟩
  · rintro start rfl hoffset hlimit defaultLimit
    exact ofQuery_carried base defaultLimit ⟨hoffset, hlimit, hpos⟩

/-- A window in the middle of eleven people, and one at the very end of the words. -/
theorem page_arithmetic_exact_people :
    (page "/people" ⟨3, 5⟩ 11 [()]).last = some "/people?offset=10&limit=5" ∧
      10 ≤ Window.largest ∧ max 5 1 ≤ Window.largest ∧
      Window.ofQuery (Web.decodeForm (carried "/people?offset=10&limit=5")) 25 = ⟨10, 5⟩ ∧
      (page "/people" ⟨18446744073709551615, 25⟩ 3 [()]).next = none := by
  obtain ⟨-, -, hread⟩ := page_arithmetic_exact "/people" 3 5 11 [()]
  obtain ⟨-, hend, -⟩ := page_arithmetic_exact "/people" 18446744073709551615 25 3 [()]
  have hlast : (page "/people" ⟨3, 5⟩ 11 [()]).last = some "/people?offset=10&limit=5" := by decide +kernel
  have hlink : some "/people?offset=10&limit=5" ∈ (page "/people" ⟨3, 5⟩ 11 [()]).links := by
    simp [Page.links, hlast]
  have hten : 10 ≤ Window.largest := by decide
  have hfive : max 5 1 ≤ Window.largest := by decide
  have hwindow := (hread _ hlink).2 10 (by decide +kernel) hten hfive 25
  refine ⟨hlast, hten, hfive, hwindow, Option.eq_none_iff_forall_ne_some.mpr fun text hnext => ?_⟩
  exact absurd ((hend.next text).mp hnext).1 (by decide)

end Hypermedia.Link
