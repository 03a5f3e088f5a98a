import Hypermedia.Proofs.Languages
import Hypermedia.Regex.Reader

/-!
# Escaped texts as patterns

An escaped text is a pattern: the sequence of its characters, each standing for itself. It matches the
texts of which the escaped one is a part, and no others.
-/

namespace Hypermedia.Regex

/-- The pattern of one character that stands for itself. -/
def literal (c : Char) : Regex := .one (CharClass.single c)

/-- A group with some more items at its end. -/
def Level.pushAll (l : Level) (rs : List Regex) : Level := rs.foldl (fun l r => l.push (some r)) l

theorem Level.branch_pushAll (l : Level) (rs : List Regex) :
    (l.pushAll rs).branch = sequence (l.items.reverse.filterMap id ++ rs) := by
  induction rs generalizing l with
  | nil => simp [pushAll, branch]
  | cons r rs ih =>
    have hpush : ((l.push (some r)).items.reverse).filterMap id = l.items.reverse.filterMap id ++ [r] := by
      simp [push]
    rw [show l.pushAll (r :: rs) = (l.push (some r)).pushAll rs from rfl, ih, hpush, List.append_assoc,
      List.singleton_append]

theorem Level.push_pushAll (l : Level) (rs : List Regex) (r : Regex) :
    (l.pushAll rs).push (some r) = l.pushAll (rs ++ [r]) := by
  simp [pushAll]

@[simp] theorem Level.branches_pushAll (l : Level) (rs : List Regex) :
    (l.pushAll rs).branches = l.branches := by
  induction rs generalizing l with
  | nil => rfl
  | cons r rs ih => exact ih (l.push (some r))

/-! ### Reading a text piece by piece -/

/-- A piece of a pattern is read as one item of the innermost open group, whatever comes after it; only the
mark of a lazy repetition may not follow, and the piece does not begin with one. -/
structure Reads (f : Flags) (source : List Char) (item : Regex) : Prop where
  head : ∀ rest : List Char, rest.head? ≠ some '?' → (source ++ rest).head? ≠ some '?'
  step : ∀ fuel names l enclosing rest, rest.head? ≠ some '?' → (source ++ rest).length < fuel →
    ∃ fuel', rest.length < fuel' ∧
      readPattern fuel f names l enclosing (source ++ rest) =
        readPattern fuel' f names (l.push (some item)) enclosing rest

/-- Pieces in a row are read as their items in a row. -/
theorem readPattern_flatMap {α : Type} {f : Flags} {source : α → List Char} {item : α → Regex}
    (h : ∀ x, Reads f (source x) (item x)) (xs : List α) {fuel : Nat} (names : List (List Char)) (l : Level)
    (enclosing : List Level) {rest : List Char} (hrest : rest.head? ≠ some '?')
    (hfuel : (xs.flatMap source ++ rest).length < fuel) :
    ∃ fuel', rest.length < fuel' ∧
      readPattern fuel f names l enclosing (xs.flatMap source ++ rest) =
        readPattern fuel' f names (l.pushAll (xs.map item)) enclosing rest := by
  have hheads : ∀ xs : List α, (xs.flatMap source ++ rest).head? ≠ some '?' := by
    intro xs
    induction xs with
    | nil => exact hrest
    | cons x xs ih =>
      rw [List.flatMap_cons, List.append_assoc]
      exact (h x).head _ ih
  induction xs generalizing fuel l with
  | nil => exact ⟨fuel, hfuel, rfl⟩
  | cons x xs ih =>
    rw [List.flatMap_cons, List.append_assoc] at hfuel ⊢
    obtain ⟨n, hn, hfirst⟩ := (h x).step fuel names l enclosing _ (hheads xs) hfuel
    obtain ⟨m, hm, hothers⟩ := ih (l.push (some (item x))) hn
    exact ⟨m, hm, hfirst.trans hothers⟩

theorem readPattern_nil {fuel : Nat} (hfuel : 0 < fuel) (f : Flags) (hspaced : f.spaced = false)
    (names : List (List Char)) (l : Level) : readPattern fuel f names l [] [] = some l.whole := by
  obtain ⟨n, rfl⟩ := Nat.exists_eq_add_of_lt hfuel
  rw [readPattern.eq_def]
  simp [Flags.settle, hspaced]

theorem Level.whole_of_branches {l : Level} (h : l.branches = []) : l.whole = l.branch := by
  simp [whole, h, choice]

/-! ### Reading an escaped character -/

theorem readEscape_meta (f : Flags) {c : Char} (h : c ∈ metaCharacters) (cs : List Char) :
    readEscape f (c :: cs) = some (.literal c, cs) := by
  simp only [metaCharacters, List.mem_cons, List.not_mem_nil, or_false] at h
  rcases h with rfl | rfl | rfl | rfl | rfl | rfl | rfl | rfl | rfl | rfl | rfl | rfl | rfl | rfl | rfl |
    rfl | rfl | rfl <;> rfl

theorem readPlain_of_notMem {f : Flags} (hcase : f.caseless = false) {c : Char} (h : c ∉ metaCharacters) :
    readPlain f c = some (literal c) := by
  have hdot : c ≠ '.' := fun he => h (he ▸ by decide)
  have hcaret : c ≠ '^' := fun he => h (he ▸ by decide)
  have hdollar : c ≠ '$' := fun he => h (he ▸ by decide)
  simp only [readPlain, if_neg hdot, if_neg hcaret, if_neg hdollar, Flags.close, hcase]
  rfl

theorem readPattern_escapeChar {f : Flags} (hcase : f.caseless = false) (hspaced : f.spaced = false)
    (fuel : Nat) (names : List (List Char)) (l : Level) (enclosing : List Level) (c : Char)
    (cs : List Char) :
    readPattern (fuel + 1) f names l enclosing (escapeChar c ++ cs) =
      readPattern fuel f names (l.push (some (literal c))) enclosing cs := by
  have hsettle : ∀ xs : List Char, f.settle xs = xs := fun _ => by simp [Flags.settle, hspaced]
  by_cases hc : c ∈ metaCharacters
  · have hescape : escapeChar c = ['\\', c] := by simp [escapeChar, hc]
    have hliteral : Escape.toRegex f (.literal c) = literal c := by
      simp [Escape.toRegex, Flags.close, hcase, literal]
    rw [hescape, List.cons_append, List.cons_append, List.nil_append]
    rw [readPattern.eq_def]
    simp only [hsettle, readEscape_meta f hc, hliteral]
  · have hescape : escapeChar c = [c] := by simp [escapeChar, hc]
    have hplain := readPlain_of_notMem hcase hc
    have hne : ∀ x ∈ metaCharacters, c ≠ x := fun x hx he => hc (he ▸ hx)
    rw [hescape, List.cons_append, List.nil_append]
    rw [readPattern.eq_def]
    simp only [hsettle]
    split
    case h_10 =>
      rename_i heq
      cases heq
      rw [if_neg (hne _ (by decide)), hplain]
    all_goals
      rename_i heq
      cases heq
      try exact absurd rfl (hne _ (by decide))

theorem head?_escapeChar_append (c : Char) (cs : List Char) :
    (escapeChar c ++ cs).head? ≠ some '?' := by
  unfold escapeChar
  split
  · simp
  · rename_i h
    simp only [List.cons_append, List.head?_cons, ne_eq, Option.some.injEq]
    rintro rfl
    exact h (by decide)

/-- Where case and blanks count, an escaped character is read as one that stands for itself. -/
theorem reads_escapeChar {f : Flags} (hcase : f.caseless = false) (hspaced : f.spaced = false) (c : Char) :
    Reads f (escapeChar c) (literal c) := by
  refine ⟨fun rest _ => head?_escapeChar_append c rest, fun fuel names l enclosing rest _ hfuel => ?_⟩
  have hchar : 1 ≤ (escapeChar c).length := by
    unfold escapeChar
    split <;> simp
  rw [List.length_append] at hfuel
  obtain ⟨n, rfl⟩ : ∃ n, fuel = n + 1 := ⟨fuel - 1, by omega⟩
  exact ⟨n, by omega, readPattern_escapeChar hcase hspaced ..⟩

/-- An escaped text is read as its characters, one after the other. -/
theorem ofString?_escape (s : String) :
    ofString? (escape s) = some (sequence (s.toList.map literal)) := by
  have hrest : ([] : List Char).head? ≠ some '?' := by simp
  obtain ⟨fuel, hfuel, hread⟩ := readPattern_flatMap (reads_escapeChar (f := {}) rfl rfl) s.toList []
    ⟨{}, [], []⟩ [] hrest (Nat.lt_succ_self _)
  rw [List.append_nil, readPattern_nil hfuel _ rfl, Level.whole_of_branches (by simp),
    Level.branch_pushAll] at hread
  unfold ofString? ofChars? escape
  rw [String.toList_ofList]
  exact hread

/-! ### Matching literals -/

theorem denotes_literal (text : Array Char) (c : Char) : Denotes text (literal c) {[c]} := by
  have hlanguage : oneOf (CharClass.single c) = {[c]} := by
    ext ts
    constructor
    · rintro ⟨d, hd, rfl⟩
      obtain rfl : d = c := by simpa [CharClass.single] using hd
      rfl
    · rintro rfl
      exact ⟨c, by simp [CharClass.single], rfl⟩
  exact hlanguage ▸ denotes_one (CharClass.single c)

theorem prod_singletons (cs : List Char) : (cs.map fun c => ({[c]} : Language Char)).prod = {cs} := by
  induction cs with
  | nil => rfl
  | cons c cs ih =>
    rw [List.map_cons, List.prod_cons, ih]
    ext ts
    rw [Language.mem_mul]
    constructor
    · rintro ⟨_, rfl, _, rfl, rfl⟩
      rfl
    · rintro rfl
      exact ⟨[c], rfl, cs, rfl, rfl⟩

/-- A text matches an escaped one if the escaped one is a part of it. -/
theorem matchesIn_literals (cs : List Char) (t : String) :
    matchesIn (sequence (cs.map literal)) t = true ↔ cs <:+: t.toList := by
  have hdenotes := denotes_sequence (denotes_literal t.toList.toArray) cs
  rw [prod_singletons] at hdenotes
  rw [matchesIn_iff_part hdenotes]
  exact ⟨fun ⟨ts, hts, h⟩ => hts ▸ h, fun h => ⟨cs, rfl, h⟩⟩

end Hypermedia.Regex
