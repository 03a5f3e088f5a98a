import Mathlib.Computability.Language
import Mathlib.Logic.Relation
import Hypermedia.Regex.Pattern

/-!
# The languages of patterns

A pattern without anchors has a language: a match leads from one position of a text to another over a
text of the language. Sequences multiply languages, and a repetition without bounds is the star of one,
although it is found by growing a set of positions for a bounded number of rounds.
-/

namespace Hypermedia.Regex

open scoped Computability

/-- A text of the language stands between two positions of a text. -/
def Over (text : Array Char) (L : Language Char) (i k : Nat) : Prop :=
  ∃ ts ∈ L, ts <+: text.toList.drop i ∧ k = i + ts.length

/-- In a text, the matches of a pattern are those over the texts of a language. -/
def Denotes (text : Array Char) (r : Regex) (L : Language Char) : Prop :=
  ∀ s k, k ∈ ends text r s ↔ ∃ i ∈ s, Over text L i k

variable {text : Array Char}

/-! ### Positions -/

theorem append_prefix_drop_iff (us vs ts : List Char) (i : Nat) :
    us ++ vs <+: ts.drop i ↔ us <+: ts.drop i ∧ vs <+: ts.drop (i + us.length) := by
  constructor
  · rintro ⟨after, h⟩
    refine ⟨⟨vs ++ after, by rw [← h, List.append_assoc]⟩, after, ?_⟩
    rw [← List.drop_drop, ← h, List.append_assoc, List.drop_left]
  · rintro ⟨⟨after, h⟩, hvs⟩
    rw [← List.drop_drop, ← h, List.drop_left] at hvs
    obtain ⟨rest, hrest⟩ := hvs
    exact ⟨rest, by rw [← h, ← hrest, List.append_assoc]⟩

theorem Over.eq_or_le {L : Language Char} {i k : Nat} (h : Over text L i k) : k = i ∨ k ≤ text.size := by
  obtain ⟨ts, -, hprefix, rfl⟩ := h
  have hlength := hprefix.length_le
  rw [List.length_drop] at hlength
  have hsize : text.toList.length = text.size := rfl
  omega

theorem over_one {i k : Nat} : Over text 1 i k ↔ k = i := by
  constructor
  · rintro ⟨ts, rfl, -, rfl⟩
    rfl
  · rintro rfl
    exact ⟨[], Language.nil_mem_one, List.nil_prefix, rfl⟩

theorem over_mul {L M : Language Char} {i k : Nat} :
    Over text (L * M) i k ↔ ∃ j, Over text L i j ∧ Over text M j k := by
  constructor
  · rintro ⟨ts, hts, hprefix, rfl⟩
    obtain ⟨us, hus, vs, hvs, rfl⟩ := Language.mem_mul.mp hts
    obtain ⟨h₁, h₂⟩ := (append_prefix_drop_iff ..).mp hprefix
    refine ⟨_, ⟨us, hus, h₁, rfl⟩, vs, hvs, h₂, ?_⟩
    rw [List.length_append, Nat.add_assoc]
  · rintro ⟨j, ⟨us, hus, h₁, rfl⟩, vs, hvs, h₂, rfl⟩
    refine ⟨us ++ vs, Language.append_mem_mul hus hvs, (append_prefix_drop_iff ..).mpr ⟨h₁, h₂⟩, ?_⟩
    rw [List.length_append, Nat.add_assoc]

/-- Steps over texts of a language, taken one after the other, lead over a text of its star. -/
theorem reflTransGen_over {L : Language Char} {i k : Nat} :
    Relation.ReflTransGen (Over text L) i k ↔ Over text L∗ i k := by
  constructor
  · intro h
    induction h using Relation.ReflTransGen.head_induction_on with
    | refl => exact ⟨[], Language.nil_mem_kstar L, List.nil_prefix, rfl⟩
    | head hstep _ ih =>
      have hmul : Over text (L * L∗) _ k := over_mul.mpr ⟨_, hstep, ih⟩
      rw [← Language.one_add_self_mul_kstar_eq_kstar L]
      obtain ⟨ts, hts, hprefix⟩ := hmul
      exact ⟨ts, Or.inr hts, hprefix⟩
  · rintro ⟨ts, hts, hprefix, rfl⟩
    obtain ⟨parts, rfl, hparts⟩ := Language.mem_kstar.mp hts
    clear hts
    induction parts generalizing i with
    | nil => exact .refl
    | cons part parts ih =>
      rw [List.forall_mem_cons] at hparts
      rw [List.flatten_cons, append_prefix_drop_iff] at hprefix
      rw [List.flatten_cons, List.length_append, ← Nat.add_assoc]
      exact .head ⟨part, hparts.1, hprefix.1, rfl⟩ (ih hparts.2 hprefix.2)

/-! ### Growing a set of positions -/

section
variable {step : Nat → Nat → Prop} {start seen fresh : List Nat}

/-- A set of positions on its way to being closed under steps: all of it is reached from `start`, and only
the steps from the fresh ones are still to be taken. -/
structure Growing (step : Nat → Nat → Prop) (start seen fresh : List Nat) : Prop where
  started : ∀ i ∈ start, i ∈ seen
  reached : ∀ k ∈ seen, ∃ i ∈ start, Relation.ReflTransGen step i k
  fresh_seen : ∀ i ∈ fresh, i ∈ seen
  closed : ∀ i ∈ seen, i ∉ fresh → ∀ k, step i k → k ∈ seen

theorem Growing.init (start : List Nat) : Growing step start start start where
  started _ h := h
  reached k h := ⟨k, h, .refl⟩
  fresh_seen _ h := h
  closed _ h hn := absurd h hn

/-- Once no step leaves it, the set is all that is reached. -/
theorem Growing.mem_iff (h : Growing step start seen fresh)
    (hclosed : ∀ i ∈ seen, ∀ k, step i k → k ∈ seen) (k : Nat) :
    k ∈ seen ↔ ∃ i ∈ start, Relation.ReflTransGen step i k := by
  constructor
  · exact h.reached k
  rintro ⟨i, hi, hreach⟩
  have hstart : i ∈ seen := h.started i hi
  clear hi
  induction hreach with
  | refl => exact hstart
  | tail _ hstep ih => exact hclosed _ ih _ hstep

/-- The number of positions up to a bound that are not seen. -/
def unseen (bound : Nat) (seen : List Nat) : Nat := (Finset.range (bound + 1) \ seen.toFinset).card

theorem unseen_le (bound : Nat) (seen : List Nat) : unseen bound seen ≤ bound + 1 :=
  (Finset.card_le_card Finset.sdiff_subset).trans (Finset.card_range _).le

theorem mem_of_unseen_eq_zero {bound k : Nat} (h : unseen bound seen = 0) (hk : k ≤ bound) : k ∈ seen := by
  have hall := Finset.sdiff_eq_empty_iff_subset.mp (Finset.card_eq_zero.mp h)
  exact List.mem_toFinset.mp (hall (Finset.mem_range.mpr (Nat.lt_succ_of_le hk)))

theorem unseen_join_lt {bound j : Nat} {next : List Nat} (hj : j ∈ next) (hnot : j ∉ seen)
    (hle : j ≤ bound) : unseen bound (join seen next) < unseen bound seen := by
  refine Finset.card_lt_card ((Finset.ssubset_iff_of_subset fun x => ?_).mpr ⟨j, ?_, ?_⟩)
  · simp only [Finset.mem_sdiff, List.mem_toFinset, mem_join]
    exact fun hx => ⟨hx.1, fun hs => hx.2 (.inl hs)⟩
  · simp only [Finset.mem_sdiff, Finset.mem_range, List.mem_toFinset]
    exact ⟨Nat.lt_succ_of_le hle, hnot⟩
  · simp only [Finset.mem_sdiff, List.mem_toFinset, mem_join]
    exact fun hx => hx.2 (.inr hj)

variable {f : List Nat → List Nat} (hf : ∀ s k, k ∈ f s ↔ ∃ i ∈ s, step i k)

include hf

theorem Growing.join (h : Growing step start seen fresh) {next : List Nat}
    (hnext : ∀ k, k ∈ next ↔ k ∈ f fresh ∧ k ∉ seen) :
    Growing step start (join seen next) next := by
  refine ⟨fun i hi => (mem_join ..).mpr (.inl (h.started i hi)), fun k hk => ?_,
    fun i hi => (mem_join ..).mpr (.inr hi), fun i hi hn k hk => (mem_join ..).mpr ?_⟩
  · rcases (mem_join ..).mp hk with hk | hk
    · exact h.reached k hk
    · obtain ⟨j, hj, hstep⟩ := (hf ..).mp ((hnext k).mp hk).1
      obtain ⟨i, hi, hreach⟩ := h.reached j (h.fresh_seen j hj)
      exact ⟨i, hi, hreach.tail hstep⟩
  · have hseen : i ∈ seen := ((mem_join ..).mp hi).resolve_right hn
    by_cases hfresh : i ∈ fresh
    · by_cases hk' : k ∈ seen
      · exact .inl hk'
      · exact .inr ((hnext k).mpr ⟨(hf ..).mpr ⟨i, hfresh, hk⟩, hk'⟩)
    · exact .inl (h.closed i hseen hfresh k hk)

/-- If steps stay below a bound and there are as many rounds as positions below it that are not seen yet,
growing ends with all positions that are reached. -/
theorem Growing.mem_grow {bound : Nat} (hbound : ∀ i k, step i k → k = i ∨ k ≤ bound) {n : Nat}
    (h : Growing step start seen fresh) (hn : unseen bound seen ≤ n) (k : Nat) :
    k ∈ grow f n seen fresh ↔ ∃ i ∈ start, Relation.ReflTransGen step i k := by
  induction n generalizing seen fresh with
  | zero =>
    refine h.mem_iff (fun i hi k hk => ?_) k
    rcases hbound i k hk with rfl | hle
    · exact hi
    · exact mem_of_unseen_eq_zero (Nat.le_zero.mp hn) hle
  | succ n ih =>
    rw [grow]
    generalize hdef : (f fresh).filter (fun i => !seen.contains i) = next
    have hnext : ∀ k, k ∈ next ↔ k ∈ f fresh ∧ k ∉ seen := by simp [← hdef]
    split
    · rename_i hnil
      rw [List.isEmpty_iff] at hnil
      refine h.mem_iff (fun i hi k hk => ?_) k
      by_contra hnot
      by_cases hfresh : i ∈ fresh
      · have hmem : k ∈ next := (hnext k).mpr ⟨(hf ..).mpr ⟨i, hfresh, hk⟩, hnot⟩
        rw [hnil] at hmem
        cases hmem
      · exact hnot (h.closed i hi hfresh k hk)
    · rename_i hcons
      obtain ⟨j, hj⟩ := List.exists_mem_of_ne_nil next (by simpa using hcons)
      obtain ⟨hstep, hnot⟩ := (hnext j).mp hj
      have hle : j ≤ bound := by
        obtain ⟨i, hi, hij⟩ := (hf ..).mp hstep
        exact (hbound i j hij).resolve_left fun he => hnot (he ▸ h.fresh_seen i hi)
      have hlt := unseen_join_lt hj hnot hle
      exact ih (h.join hf hnext) (by omega)

end

/-! ### The languages of compound patterns -/

theorem denotes_empty : Denotes text empty 1 := by
  intro s k
  simp [ends, over_one]

/-- The texts of one character that is accepted. -/
def oneOf (accepts : Char → Bool) : Language Char := {ts | ∃ c, accepts c = true ∧ ts = [c]}

theorem denotes_one (accepts : Char → Bool) : Denotes text (one accepts) (oneOf accepts) := by
  intro s k
  simp only [ends, List.mem_map, List.mem_filter]
  constructor
  · rintro ⟨i, ⟨hi, hany⟩, rfl⟩
    obtain ⟨c, hc, haccepts⟩ := Option.any_eq_true .. |>.mp hany
    refine ⟨i, hi, [c], ⟨c, haccepts, rfl⟩, ?_, rfl⟩
    rw [Array.getElem?_eq_some_iff] at hc
    obtain ⟨hlt, rfl⟩ := hc
    exact ⟨_, (List.drop_eq_getElem_cons (by simpa using hlt)).symm⟩
  · rintro ⟨i, hi, ts, ⟨c, haccepts, rfl⟩, ⟨after, hprefix⟩, rfl⟩
    have hc : text[i]? = some c := by
      rw [← Array.getElem?_toList, ← List.head?_drop, ← hprefix]
      rfl
    exact ⟨i, ⟨hi, by simpa [hc] using haccepts⟩, rfl⟩

theorem Denotes.seq {a b : Regex} {L M : Language Char} (ha : Denotes text a L) (hb : Denotes text b M) :
    Denotes text (seq a b) (L * M) := by
  intro s k
  rw [ends_seq, hb]
  simp only [over_mul]
  constructor
  · rintro ⟨j, hj, hjk⟩
    obtain ⟨i, hi, hij⟩ := (ha ..).mp hj
    exact ⟨i, hi, j, hij, hjk⟩
  · rintro ⟨i, hi, j, hij, hjk⟩
    exact ⟨j, (ha ..).mpr ⟨i, hi, hij⟩, hjk⟩

theorem Denotes.star {a : Regex} {L : Language Char} (h : Denotes text a L) :
    Denotes text (repeated a 0 none) L∗ := by
  intro s k
  have hgrow := (Growing.init s).mem_grow h (fun i k => Over.eq_or_le) (unseen_le text.size s) k
  simp only [reflTransGen_over] at hgrow
  simpa [ends, iterate] using hgrow

theorem ends_sequence_cons (r : Regex) (rs : List Regex) (s : List Nat) :
    ends text (sequence (r :: rs)) s = ends text (sequence rs) (ends text r s) := by
  cases rs with
  | nil => rfl
  | cons _ _ => exact ends_seq ..

theorem ends_sequence_append (rs : List Regex) (r : Regex) (s : List Nat) :
    ends text (sequence (rs ++ [r])) s = ends text r (ends text (sequence rs) s) := by
  induction rs generalizing s with
  | nil => rfl
  | cons q rs ih => rw [List.cons_append, ends_sequence_cons, ends_sequence_cons, ih]

theorem denotes_sequence {α : Type} {item : α → Regex} {L : α → Language Char}
    (h : ∀ x, Denotes text (item x) (L x)) (xs : List α) :
    Denotes text (sequence (xs.map item)) (xs.map L).prod := by
  induction xs with
  | nil => exact denotes_empty
  | cons x xs ih =>
    intro s k
    rw [List.map_cons, List.map_cons, List.prod_cons, ends_sequence_cons]
    exact (h x).seq ih s k

/-! ### Matches in a text -/

theorem matchesIn_iff (r : Regex) (t : String) :
    matchesIn r t = true ↔ ∃ k, k ∈ ends t.toList.toArray r (List.range (t.toList.length + 1)) := by
  simp [matchesIn, List.eq_nil_iff_forall_not_mem]

/-- A pattern with a language matches the texts with a part in it. -/
theorem matchesIn_iff_part {r : Regex} {L : Language Char} {t : String}
    (h : Denotes t.toList.toArray r L) : matchesIn r t = true ↔ ∃ ts ∈ L, ts <:+: t.toList := by
  rw [matchesIn_iff]
  constructor
  · rintro ⟨k, hk⟩
    obtain ⟨i, -, ts, hts, hprefix, -⟩ := (h ..).mp hk
    exact ⟨ts, hts, hprefix.isInfix.trans (List.drop_suffix i _).isInfix⟩
  · rintro ⟨ts, hts, before, after, ht⟩
    refine ⟨before.length + ts.length, (h ..).mpr ⟨before.length, ?_, ts, hts, ⟨after, ?_⟩, rfl⟩⟩
    · rw [List.mem_range, ← ht]
      simp only [List.length_append]
      omega
    · simp [← ht]

end Hypermedia.Regex
