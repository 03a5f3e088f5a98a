import Mathlib.Data.Bool.Basic
import Mathlib.Data.Prod.Lex
import Mathlib.Data.String.Basic
import Mathlib.Order.Compare
import Hypermedia.Filter.Compare
import Hypermedia.Proofs.Alphabet

/-!
# The order of sorted reads

Values are sorted by their kinds, and within a kind by a linear order: floats by sign, exponent and
mantissa, timestamps by their instants, other texts by their characters. Two timestamps are compared in
time, but either of them with any other text by characters. Where two timestamps follow one another
differently in time and as texts, a text between them closes a cycle; everywhere else the order is total.
-/

namespace Hypermedia

open Float.Model (UnpackedFloat)

/-! ### Comparisons of keys -/

section
variable {α β : Type} [LinearOrder α] [LinearOrder β]

theorem compare_toLex (a c : α) (b d : β) :
    compare (toLex (a, b)) (toLex (c, d)) = (compare a c).then (compare b d) := by
  rw [Prod.Lex.compare_def]
  rfl

theorem compare_swap (a b : α) : (compare a b).swap = compare b a := by
  rw [← cmp_eq_compare, ← cmp_eq_compare, cmp_swap]

theorem compare_ne_gt_iff {a b : α} : compare a b ≠ .gt ↔ a ≤ b := by
  rw [Ne, compare_gt_iff_gt, not_lt]

end

theorem compare_natCast (m n : Nat) : compare (m : Int) (n : Int) = compare m n := by
  simp only [compare, compareOfLessAndEq, Int.ofNat_lt, Int.ofNat_inj]

theorem compare_neg (m n : Int) : compare (-m) (-n) = (compare m n).swap := by
  rw [compare_swap]
  simp only [compare, compareOfLessAndEq, Int.neg_lt_neg_iff, Int.neg_inj, eq_comm]

/-! ### Floats -/

namespace Filter

/-- Sign, exponent and mantissa, the last two with the sign. -/
def unpackedKey : UnpackedFloat → Int ×ₗ Int ×ₗ Int
  | .infinity .negative => toLex (-2, toLex (0, 0))
  | .finite .negative m e _ => toLex (-1, toLex (-e, -(m : Int)))
  | .zero _ => toLex (0, toLex (0, 0))
  | .finite .positive m e _ => toLex (1, toLex (e, (m : Int)))
  | .infinity .positive => toLex (2, toLex (0, 0))
  | .notANumber => toLex (3, toLex (0, 0))

theorem compare_unpackedKey {a b : UnpackedFloat} (ha : a ≠ .notANumber) (hb : b ≠ .notANumber) :
    a.compare b = some (compare (unpackedKey a) (unpackedKey b)) := by
  cases a with
  | notANumber => exact absurd rfl ha
  | infinity s =>
    cases b with
    | notANumber => exact absurd rfl hb
    | infinity t => cases s <;> cases t <;> rfl
    | zero t => cases s <;> rfl
    | finite t m e hm => cases s <;> cases t <;> rfl
  | zero s =>
    cases b with
    | notANumber => exact absurd rfl hb
    | infinity t => cases t <;> rfl
    | zero t => rfl
    | finite t m e hm => cases t <;> rfl
  | finite s m e hm =>
    cases b with
    | notANumber => exact absurd rfl hb
    | infinity t => cases s <;> cases t <;> rfl
    | zero t => cases s <;> rfl
    | finite t n f hn =>
      cases s <;> cases t
      · have hkey : compare (toLex ((-1 : Int), toLex (-e, -(m : Int)))) (toLex (-1, toLex (-f, -(n : Int)))) =
            ((compare e f).then (compare m n)).swap := by
          simp [compare_toLex, compare_natCast, compare_neg, Ordering.swap_then]
        exact congrArg some hkey.symm
      · rfl
      · rfl
      · have hkey : compare (toLex ((1 : Int), toLex (e, (m : Int)))) (toLex (1, toLex (f, (n : Int)))) =
            (compare e f).then (compare m n) := by
          simp [compare_toLex, compare_natCast]
        exact congrArg some hkey.symm

def floatKey (x : Float) : Int ×ₗ Int ×ₗ Int := unpackedKey x.toModel.unpack

section
variable {x y : Float}

theorem float_lt_iff : x < y ↔ x.toModel.unpack.compare y.toModel.unpack = some .lt := by
  have hlt : x < y ↔ x.lt y = true := Iff.rfl
  rw [hlt, Float.lt, decide_eq_true_iff]
  exact beq_iff_eq

theorem float_beq_iff : (x == y) = true ↔ x.toModel.unpack.compare y.toModel.unpack = some .eq := by
  have hbeq : (x == y) = (x.toModel.unpack.compare y.toModel.unpack == some .eq) := rfl
  rw [hbeq]
  exact beq_iff_eq

theorem unpack_ne {x : Float} (h : x.isNaN = false) : x.toModel.unpack ≠ .notANumber := by
  intro hnan
  have hx : x.toModel.unpack.isNaN = false := h
  rw [hnan] at hx
  cases hx

theorem compareFloats_eq (hx : x.isNaN = false) (hy : y.isNaN = false) :
    compareFloats x y = some (compare (floatKey x) (floatKey y)) := by
  have hxy : x.toModel.unpack.compare y.toModel.unpack = some (compare (floatKey x) (floatKey y)) :=
    compare_unpackedKey (unpack_ne hx) (unpack_ne hy)
  have hyx : y.toModel.unpack.compare x.toModel.unpack = some (compare (floatKey x) (floatKey y)).swap := by
    rw [compare_swap]
    exact compare_unpackedKey (unpack_ne hy) (unpack_ne hx)
  simp only [compareFloats, float_lt_iff, float_beq_iff, hxy, hyx, Option.some.injEq]
  cases compare (floatKey x) (floatKey y) <;> rfl

theorem compareFloats_nan (h : x.isNaN = true ∨ y.isNaN = true) : compareFloats x y = none := by
  have hnan : ∀ {z : Float}, z.isNaN = true → z.toModel.unpack = .notANumber := by
    intro z hz
    have hz : z.toModel.unpack.isNaN = true := hz
    revert hz
    cases z.toModel.unpack <;> intro hz <;> first | rfl | cases hz
  have hnone : ∀ {a b : UnpackedFloat}, a = .notANumber ∨ b = .notANumber → a.compare b = none := by
    rintro a b (rfl | rfl)
    · rfl
    · cases a <;> rfl
  have hxy : x.toModel.unpack.compare y.toModel.unpack = none := hnone (h.imp hnan hnan)
  have hyx : y.toModel.unpack.compare x.toModel.unpack = none := hnone (h.symm.imp hnan hnan)
  simp [compareFloats, float_lt_iff, float_beq_iff, hxy, hyx]

theorem compareFloats_swap (x y : Float) : compareFloats y x = (compareFloats x y).map Ordering.swap := by
  cases hx : x.isNaN with
  | true => rw [compareFloats_nan (.inl hx), compareFloats_nan (.inr hx), Option.map_none]
  | false =>
    cases hy : y.isNaN with
    | true => rw [compareFloats_nan (.inr hy), compareFloats_nan (.inl hy), Option.map_none]
    | false => rw [compareFloats_eq hx hy, compareFloats_eq hy hx, Option.map_some, compare_swap]

end

/-! ### Texts -/

theorem Instant.compare_eq (i j : Time.Instant) :
    i.compare j = compare (toLex (i.seconds, i.nanos)) (toLex (j.seconds, j.nanos)) := by
  rw [compare_toLex, Time.Instant.compare, ← cmp_eq_compare i.seconds]
  simp only [cmp, cmpUsing]
  split
  · rfl
  · split <;> rfl

theorem compareTexts_eq (s t : String) : compareTexts s t = compare s t := by
  rw [← cmp_eq_compare]
  rfl

/-- Timestamps in time, any other two texts by their characters. -/
def textOrder (s t : String) : Ordering :=
  match Time.instant? s, Time.instant? t with
  | some i, some j => i.compare j
  | _, _ => compareTexts s t

theorem compare?_string (s t : String) : compare? (.string s) (.string t) = some (textOrder s t) := by
  simp only [compare?, textOrder]
  cases Time.instant? s <;> cases Time.instant? t <;> rfl

theorem textOrder_times {s t : String} {i j : Time.Instant} (hs : Time.instant? s = some i)
    (ht : Time.instant? t = some j) : textOrder s t = i.compare j := by
  simp only [textOrder, hs, ht]

theorem textOrder_other {s t : String} (h : Time.instant? s = none ∨ Time.instant? t = none) :
    textOrder s t = compare s t := by
  rw [← compareTexts_eq]
  unfold textOrder
  split
  · rename_i hs ht
    rcases h with h | h
    · cases h.symm.trans hs
    · cases h.symm.trans ht
  · rfl

theorem textOrder_swap (s t : String) : textOrder t s = (textOrder s t).swap := by
  cases hs : Time.instant? s with
  | none => rw [textOrder_other (.inl hs), textOrder_other (.inr hs), compare_swap]
  | some i =>
    cases ht : Time.instant? t with
    | none => rw [textOrder_other (.inr ht), textOrder_other (.inl ht), compare_swap]
    | some j => rw [textOrder_times hs ht, textOrder_times ht hs, Instant.compare_eq, Instant.compare_eq,
        compare_swap]

/-- Two timestamps that follow one another differently in time and as texts. -/
def Conflict (s t : String) : Prop :=
  ∃ i j, Time.instant? s = some i ∧ Time.instant? t = some j ∧ i.compare j ≠ compareTexts s t

theorem textOrder_of_not_conflict {s t : String} (h : ¬ Conflict s t) : textOrder s t = compare s t := by
  cases hs : Time.instant? s with
  | none => exact textOrder_other (.inl hs)
  | some i =>
    cases ht : Time.instant? t with
    | none => exact textOrder_other (.inr ht)
    | some j =>
      rw [textOrder_times hs ht, ← compareTexts_eq]
      exact Decidable.of_not_not fun hne => h ⟨i, j, hs, ht, hne⟩

theorem textOrder_trans {s t x : String} (hst : textOrder s t ≠ .gt) (htx : textOrder t x ≠ .gt)
    (hclear : ∀ a b c, [s, t, x].Perm [a, b, c] → Time.instant? c = none → ¬ Conflict a b) :
    textOrder s x ≠ .gt := by
  by_cases htimes : ∀ y ∈ [s, t, x], (Time.instant? y).isSome
  · simp only [List.forall_mem_cons, Option.isSome_iff_exists, List.not_mem_nil, false_implies,
      implies_true, and_true] at htimes
    obtain ⟨⟨i, hi⟩, ⟨j, hj⟩, ⟨k, hk⟩⟩ := htimes
    rw [textOrder_times hi hj, Instant.compare_eq, compare_ne_gt_iff] at hst
    rw [textOrder_times hj hk, Instant.compare_eq, compare_ne_gt_iff] at htx
    rw [textOrder_times hi hk, Instant.compare_eq, compare_ne_gt_iff]
    exact hst.trans htx
  · -- One of the three is no timestamp, so all of them are compared by characters.
    have hlex : ∀ a b c, [s, t, x].Perm [a, b, c] → textOrder a b = compare a b := by
      intro a b c hperm
      cases hc : Time.instant? c with
      | none => exact textOrder_of_not_conflict (hclear a b c hperm hc)
      | some k =>
        refine textOrder_other ?_
        cases ha : Time.instant? a with
        | none => exact .inl rfl
        | some i =>
          refine .inr (Option.eq_none_iff_forall_ne_some.mpr fun j hb => htimes fun y hy => ?_)
          have hmem : y ∈ [a, b, c] := hperm.mem_iff.mp hy
          simp only [List.mem_cons, List.not_mem_nil, or_false] at hmem
          rcases hmem with rfl | rfl | rfl
          · simp [ha]
          · simp [hb]
          · simp [hc]
    rw [hlex s t x (List.Perm.refl _), compare_ne_gt_iff] at hst
    rw [hlex t x s (List.perm_append_singleton s [t, x]).symm, compare_ne_gt_iff] at htx
    rw [hlex s x t ((List.Perm.swap x t []).cons s), compare_ne_gt_iff]
    exact hst.trans htx

/-! ### Values -/

theorem compare?_swap (v w : Value) : compare? w v = (compare? v w).map Ordering.swap := by
  cases v with
  | number m =>
    cases w with
    | number n => exact compareFloats_swap m.toFloat n.toFloat
    | _ => rfl
  | string s =>
    cases w with
    | string t => rw [compare?_string, compare?_string, Option.map_some, textOrder_swap]
    | _ => rfl
  | bool a =>
    cases w with
    | bool b => cases a <;> cases b <;> rfl
    | _ => rfl
  | _ => cases w <;> rfl

/-- The order of two values, the other way round. -/
theorem sortOrder_swap (v w : Value) : sortOrder w v = (sortOrder v w).swap := by
  rw [sortOrder, sortOrder, compare?_swap]
  cases compare? v w with
  | none => exact (compare_swap (rank v) (rank w)).symm
  | some o => rfl

theorem sortOrder_of_rank_lt {v w : Value} (h : rank v < rank w) : sortOrder v w = .lt := by
  have hnone : compare? v w = none := by
    cases v <;> cases w <;> first | rfl | exact absurd h (Nat.lt_irrefl _)
  rw [sortOrder, hnone]
  exact compare_lt_iff_lt.mpr h

theorem rank_le_of_sortOrder {v w : Value} (h : sortOrder v w ≠ .gt) : rank v ≤ rank w := by
  refine Nat.not_lt.mp fun hlt => h ?_
  rw [sortOrder_swap w v, sortOrder_of_rank_lt hlt]
  rfl

/-- The value is no number, or a number that can be compared. JSON has no others. -/
def Comparable (v : Value) : Prop := ∀ n, v = .number n → n.toFloat.isNaN = false

/-- Two timestamps in conflict and a text that is no timestamp, in any order. -/
def Disturbed (u v w : Value) : Prop := ∃ s t x, Conflict s t ∧ Time.instant? x = none ∧
  [u, v, w].Perm [.string s, .string t, .string x]

theorem sortOrder_trans {u v w : Value} (hu : Comparable u) (hv : Comparable v) (hw : Comparable w)
    (hclear : ¬ Disturbed u v w) (huv : sortOrder u v ≠ .gt) (hvw : sortOrder v w ≠ .gt) :
    sortOrder u w ≠ .gt := by
  have hle := rank_le_of_sortOrder huv
  have hle' := rank_le_of_sortOrder hvw
  rcases Nat.lt_or_ge (rank u) (rank w) with hlt | hge
  · rw [sortOrder_of_rank_lt hlt]
    simp
  · have hsame : rank u = rank v ∧ rank v = rank w := by omega
    obtain ⟨huv', hvw'⟩ := hsame
    cases u with
    | number l =>
      obtain ⟨m, rfl⟩ : ∃ m, v = .number m := by cases v <;> first | exact ⟨_, rfl⟩ | cases huv'
      obtain ⟨n, rfl⟩ : ∃ n, w = .number n := by cases w <;> first | exact ⟨_, rfl⟩ | cases hvw'
      have hl := hu l rfl
      have hm := hv m rfl
      have hn := hw n rfl
      simp only [sortOrder, compare?, compareFloats_eq hl hm, compareFloats_eq hm hn, compareFloats_eq hl hn,
        Option.getD_some, compare_ne_gt_iff] at *
      exact huv.trans hvw
    | string s =>
      obtain ⟨t, rfl⟩ : ∃ t, v = .string t := by cases v <;> first | exact ⟨_, rfl⟩ | cases huv'
      obtain ⟨x, rfl⟩ : ∃ x, w = .string x := by cases w <;> first | exact ⟨_, rfl⟩ | cases hvw'
      simp only [sortOrder, compare?_string, Option.getD_some] at *
      refine textOrder_trans huv hvw fun a b c hperm hc hconflict => hclear ⟨a, b, c, hconflict, hc, ?_⟩
      exact hperm.map Value.string
    | bool a =>
      obtain ⟨b, rfl⟩ : ∃ b, v = .bool b := by cases v <;> first | exact ⟨_, rfl⟩ | cases huv'
      obtain ⟨c, rfl⟩ : ∃ c, w = .bool c := by cases w <;> first | exact ⟨_, rfl⟩ | cases hvw'
      revert huv hvw
      cases a <;> cases b <;> cases c <;> decide
    -- Two arrays are equal in this order, and so are two objects.
    | _ =>
      have hsame := huv'.trans hvw'
      cases w
      all_goals simp [rank] at hsame
      all_goals simp [sortOrder, compare?, rank]

/-! ### Cycles -/

/-- A text that comes before another one still does with a character added that is less than all of the
other's. -/
theorem concat_lt {cs ds : List Char} {c : Char} (hc : ∀ d ∈ ds, c < d) (h : cs < ds) : cs ++ [c] < ds := by
  induction cs generalizing ds with
  | nil =>
    cases ds with
    | nil => exact absurd h (List.lt_irrefl [])
    | cons d ds => exact List.cons_lt_cons_iff.mpr (.inl (hc d (List.mem_cons_self ..)))
  | cons e cs ih =>
    cases ds with
    | nil => exact absurd h (List.not_lt_nil _)
    | cons d ds =>
      rw [List.cons_append, List.cons_lt_cons_iff]
      rcases List.cons_lt_cons_iff.mp h with hlt | ⟨heq, hlt⟩
      · exact .inl hlt
      · exact .inr ⟨heq, ih (fun x hx => hc x (List.mem_cons_of_mem _ hx)) hlt⟩

theorem lt_concat (cs : List Char) (c : Char) : cs < cs ++ [c] := by
  induction cs with
  | nil => exact List.nil_lt_cons ..
  | cons d cs ih => exact List.cons_lt_cons_iff.mpr (.inr ⟨rfl, ih⟩)

/-- Between a timestamp and one that comes before it as a text there is a text that is no timestamp. -/
theorem exists_between {s t : String} {i : Time.Instant} (hs : Time.instant? s = some i) (h : t < s) :
    ∃ x, Time.instant? x = none ∧ t < x ∧ x < s := by
  refine ⟨t.push '\x00', ?_, ?_, ?_⟩
  · rw [Time.instant?, Option.map_eq_none_iff, Option.eq_none_iff_forall_ne_some]
    intro stamp hstamp
    have hzero := Time.isStampChar_of_stamp? hstamp '\x00' (by simp)
    exact absurd hzero (by decide)
  · rw [String.lt_iff_toList_lt, String.toList_push]
    exact lt_concat ..
  · rw [String.lt_iff_toList_lt] at h ⊢
    rw [String.toList_push]
    refine concat_lt (fun d hd => ?_) h
    obtain ⟨stamp, hstamp, -⟩ := Option.map_eq_some_iff.mp hs
    have hchar := Time.isStampChar_of_stamp? hstamp d hd
    have hne : d ≠ '\x00' := by
      rintro rfl
      exact absurd hchar (by decide)
    have hpos : 0 < d.toNat := Nat.pos_of_ne_zero fun hzero => hne (Char.toNat_inj.mp hzero)
    exact UInt32.lt_iff_toNat_lt.mpr hpos

/-- Wherever two timestamps are in conflict, a text that is no timestamp closes a cycle with them. -/
theorem Conflict.cycle {s t : String} (h : Conflict s t) : ∃ a b x, [a, b].Perm [s, t] ∧
    Time.instant? x = none ∧ sortOrder (.string a) (.string b) ≠ .gt ∧
    sortOrder (.string b) (.string x) ≠ .gt ∧ sortOrder (.string a) (.string x) = .gt := by
  obtain ⟨i, j, hs, ht, hne⟩ := h
  have hcycle : ∀ {a b : String} {k : Time.Instant}, Time.instant? a = some k → b < a →
      textOrder a b ≠ .gt → ∃ x, Time.instant? x = none ∧ sortOrder (.string a) (.string b) ≠ .gt ∧
        sortOrder (.string b) (.string x) ≠ .gt ∧ sortOrder (.string a) (.string x) = .gt := by
    intro a b k ha hlt hab
    obtain ⟨x, hx, hbx, hxa⟩ := exists_between ha hlt
    refine ⟨x, hx, ?_, ?_, ?_⟩ <;> simp only [sortOrder, compare?_string, Option.getD_some]
    · exact hab
    · rw [textOrder_other (.inr hx)]
      exact compare_ne_gt_iff.mpr hbx.le
    · rw [textOrder_other (.inr hx)]
      exact compare_gt_iff_gt.mpr hxa
  rw [← textOrder_times hs ht, compareTexts_eq] at hne
  rcases lt_trichotomy s t with hlt | rfl | hgt
  · rw [compare_lt_iff_lt.mpr hlt] at hne
    have hts : textOrder t s ≠ .gt := by
      rw [textOrder_swap]
      cases ho : textOrder s t <;> simp_all
    obtain ⟨x, hx⟩ := hcycle ht hlt hts
    exact ⟨t, s, x, List.Perm.swap s t [], hx⟩
  · cases hs.symm.trans ht
    refine absurd ?_ hne
    rw [textOrder_times hs hs, Instant.compare_eq, ← cmp_eq_compare, ← cmp_eq_compare, cmp_self_eq_eq,
      cmp_self_eq_eq]
  · rw [compare_gt_iff_gt.mpr hgt] at hne
    obtain ⟨x, hx⟩ := hcycle hs hgt hne
    exact ⟨s, t, x, List.Perm.refl _, hx⟩

/-- The order of sorted reads is total as far as timestamps go well with texts. Turned round it is the
reverse, for any two values. It is transitive on any three values that can be compared, unless they are
two timestamps in conflict and a text that is no timestamp. And for any two timestamps in conflict there
is a text on which it fails. -/
theorem sort_order_total_but_for_conflicts (u v w : Value) :
    sortOrder v u = (sortOrder u v).swap ∧
      (Comparable u → Comparable v → Comparable w → ¬ Disturbed u v w →
        sortOrder u v ≠ .gt → sortOrder v w ≠ .gt → sortOrder u w ≠ .gt) ∧
      ∀ s t, u = .string s → v = .string t → Conflict s t → ∃ a b x, [a, b].Perm [s, t] ∧
        Time.instant? x = none ∧ sortOrder (.string a) (.string b) ≠ .gt ∧
        sortOrder (.string b) (.string x) ≠ .gt ∧ sortOrder (.string a) (.string x) = .gt :=
  ⟨sortOrder_swap u v, fun hu hv hw hclear => sortOrder_trans hu hv hw hclear,
    fun _ _ _ _ hconflict => hconflict.cycle⟩

/-- Three numbers, and a timestamp of Tokyo that is earlier than one of Greenwich and a greater text. -/
theorem sort_order_total_but_for_conflicts_examples :
    sortOrder (.number (.int 1)) (.number (.float 2.5)) ≠ .gt ∧
      sortOrder (.number (.float 2.5)) (.number (.int 3)) ≠ .gt ∧
      sortOrder (.number (.int 1)) (.number (.int 3)) ≠ .gt ∧
      Conflict "2024-01-01T10:00:00+09:00" "2024-01-01T05:00:00Z" ∧
      ∃ a b x, [a, b].Perm ["2024-01-01T10:00:00+09:00", "2024-01-01T05:00:00Z"] ∧
        sortOrder (.string a) (.string b) ≠ .gt ∧ sortOrder (.string b) (.string x) ≠ .gt ∧
        sortOrder (.string a) (.string x) = .gt := by
  have hint : ∀ n : Int, n ∈ [1, 3] → Comparable (.number (.int n)) := by
    intro n hn m hm
    cases hm
    revert n
    decide +kernel
  have hfloat : Comparable (.number (.float 2.5)) := by
    intro m hm
    cases hm
    decide +kernel
  have hclear : ¬ Disturbed (.number (.int 1)) (.number (.float 2.5)) (.number (.int 3)) := by
    rintro ⟨s, t, x, -, -, hperm⟩
    have hmem := hperm.mem_iff.mpr (List.mem_cons_self ..)
    simp at hmem
  have hfirst : sortOrder (.number (.int 1)) (.number (.float 2.5)) ≠ .gt := by decide +kernel
  have hsecond : sortOrder (.number (.float 2.5)) (.number (.int 3)) ≠ .gt := by decide +kernel
  have hconflict : Conflict "2024-01-01T10:00:00+09:00" "2024-01-01T05:00:00Z" :=
    ⟨⟨1704070800, 0⟩, ⟨1704085200, 0⟩, by decide +kernel, by decide +kernel, by decide +kernel⟩
  obtain ⟨-, htrans, -⟩ := sort_order_total_but_for_conflicts (.number (.int 1)) (.number (.float 2.5))
    (.number (.int 3))
  obtain ⟨-, -, hcycle⟩ := sort_order_total_but_for_conflicts (.string "2024-01-01T10:00:00+09:00")
    (.string "2024-01-01T05:00:00Z") .null
  obtain ⟨a, b, x, hperm, -, hab, hbx, hax⟩ := hcycle _ _ rfl rfl hconflict
  exact ⟨hfirst, hsecond, htrans (hint 1 (by simp)) hfloat (hint 3 (by simp)) hclear hfirst hsecond,
    hconflict, a, b, x, hperm, hab, hbx, hax⟩

/-- One o'clock in Greenwich written in the time of Tokyo, five o'clock in Greenwich, and a text that is
no timestamp: each comes before the next one, and the last before the first. -/
theorem sort_order_runs_in_a_circle :
    sortOrder (.string "2024-01-01T10:00:00+09:00") (.string "2024-01-01T05:00:00Z") = .lt ∧
      sortOrder (.string "2024-01-01T05:00:00Z") (.string "2024-01-01T07") = .lt ∧
      sortOrder (.string "2024-01-01T07") (.string "2024-01-01T10:00:00+09:00") = .lt := by
  decide +kernel

end Filter

end Hypermedia
