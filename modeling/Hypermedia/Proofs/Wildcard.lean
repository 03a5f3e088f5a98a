import Hypermedia.Filter.Compile
import Hypermedia.Filter.Match
import Hypermedia.Proofs.Conditions
import Hypermedia.Proofs.Literal
import Hypermedia.Schema.Attribute

/-!
# Wildcards

A text with stars is turned into the source of a pattern, which is read again and run. It matches exactly
the texts that it spells: each star is replaced by some text, and all else stands for itself.
-/

namespace Hypermedia

open scoped Computability

/-! ### What a text with stars spells -/

/-- The second text is the first one with every star replaced by some text. -/
inductive Filter.Spells : List Char → List Char → Prop
  | nil : Spells [] []
  | star (fill : List Char) {cs ts : List Char} (h : Spells cs ts) : Spells ('*' :: cs) (fill ++ ts)
  | plain {c : Char} (hc : c ≠ '*') {cs ts : List Char} (h : Spells cs ts) : Spells (c :: cs) (c :: ts)

namespace Regex

/-- Any characters, line feeds too. -/
def anything : Regex := .repeated (.one fun _ => true) 0 none

def wildItem (c : Char) : Regex := if c = '*' then anything else literal c

/-- The source of a character of a text with stars. -/
def wildSource (c : Char) : List Char := if c = '*' then ['.', '*'] else escapeChar c

/-- The texts that a character of a text with stars stands for. -/
def wildLanguage (c : Char) : Language Char := if c = '*' then ⊤ else {[c]}

theorem spells_iff (cs ts : List Char) : Filter.Spells cs ts ↔ ts ∈ (cs.map wildLanguage).prod := by
  induction cs generalizing ts with
  | nil =>
    constructor
    · rintro ⟨⟩
      exact Language.nil_mem_one
    · rintro rfl
      exact .nil
  | cons c cs ih =>
    rw [List.map_cons, List.prod_cons, Language.mem_mul]
    constructor
    · rintro (_ | ⟨fill, h⟩ | ⟨hc, h⟩)
      · exact ⟨fill, trivial, _, (ih _).mp h, rfl⟩
      · refine ⟨[c], ?_, _, (ih _).mp h, rfl⟩
        rw [wildLanguage, if_neg hc]
        rfl
    · rintro ⟨us, hus, vs, hvs, rfl⟩
      by_cases hc : c = '*'
      · subst hc
        exact .star us ((ih vs).mpr hvs)
      · obtain rfl : us = [c] := by
          rw [wildLanguage, if_neg hc] at hus
          exact hus
        exact .plain hc ((ih vs).mpr hvs)

/-! ### Matching -/

theorem denotes_anything (text : Array Char) : Denotes text anything ⊤ := by
  have hstar : (oneOf fun _ => true)∗ = ⊤ := by
    refine Set.eq_univ_of_forall fun ts => Language.mem_kstar.mpr ⟨ts.map fun c => [c], ?_, ?_⟩
    · exact (List.flatMap_singleton' ts).symm
    · intro us hus
      obtain ⟨c, -, rfl⟩ := List.mem_map.mp hus
      exact ⟨c, rfl, rfl⟩
  exact hstar ▸ (denotes_one fun _ => true).star

theorem denotes_wildItem (text : Array Char) (c : Char) : Denotes text (wildItem c) (wildLanguage c) := by
  unfold wildItem wildLanguage
  split
  · exact denotes_anything text
  · exact denotes_literal text c

theorem mem_ends_textStart (text : Array Char) (k : Nat) :
    k ∈ ends text (.look Anchor.textStart) (List.range (text.size + 1)) ↔ k = 0 := by
  simp only [ends, Anchor.textStart, before, List.mem_filter, List.mem_range, Option.isNone_iff_eq_none]
  constructor
  · rintro ⟨hle, hnone⟩
    by_contra hne
    rw [if_neg hne, Array.getElem?_eq_none_iff] at hnone
    omega
  · rintro rfl
    exact ⟨Nat.succ_pos _, if_pos rfl⟩

theorem mem_ends_textEnd (text : Array Char) (s : List Nat) (k : Nat) :
    k ∈ ends text (.look Anchor.textEnd) s ↔ k ∈ s ∧ text.size ≤ k := by
  simp [ends, Anchor.textEnd]

/-- Between the anchors of the whole text, a pattern matches the texts of its language. -/
theorem matchesIn_anchored {rs : List Regex} {L : Language Char} {t : String}
    (h : Denotes t.toList.toArray (sequence rs) L) :
    matchesIn (sequence (.look Anchor.textStart :: rs ++ [.look Anchor.textEnd])) t = true ↔
      t.toList ∈ L := by
  rw [matchesIn_iff]
  have hends : ∀ k, k ∈ ends t.toList.toArray (sequence (.look Anchor.textStart :: rs ++ [.look Anchor.textEnd]))
      (List.range (t.toList.length + 1)) ↔ Over t.toList.toArray L 0 k ∧ t.toList.length ≤ k := by
    intro k
    rw [ends_sequence_append, mem_ends_textEnd, ends_sequence_cons, h]
    simp only [← List.size_toArray, mem_ends_textStart, exists_eq_left]
  simp only [hends]
  constructor
  · rintro ⟨k, ⟨ts, hts, hprefix, rfl⟩, hlength⟩
    have heq : ts = t.toList := by
      exact hprefix.eq_of_length_le (by simpa using hlength)
    exact heq ▸ hts
  · intro ht
    exact ⟨t.toList.length, ⟨t.toList, ht, by simp, by simp⟩, Nat.le_refl _⟩

/-! ### Reading the source -/

theorem reads_anything {f : Flags} (hwide : f.wide = true) (hdot : f.dotAll = true)
    (hspaced : f.spaced = false) : Reads f ['.', '*'] anything := by
  refine ⟨fun rest _ => by simp, fun fuel names l enclosing rest hrest hfuel => ?_⟩
  have hsettle : ∀ xs : List Char, f.settle xs = xs := fun _ => by simp [Flags.settle, hspaced]
  have hlazy : dropLazy rest = rest := by
    cases rest with
    | nil => rfl
    | cons c cs =>
      have hc : c ≠ '?' := by simpa using hrest
      simp [dropLazy, hc]
  rw [List.length_append] at hfuel
  obtain ⟨n, rfl⟩ : ∃ n, fuel = n + 2 := ⟨fuel - 2, by simp at hfuel; omega⟩
  refine ⟨n, by simp at hfuel; omega, ?_⟩
  calc readPattern (n + 2) f names l enclosing ('.' :: '*' :: rest)
      = readPattern (n + 1) f names (l.push (some (.one fun _ => true))) enclosing ('*' :: rest) := by
        rw [readPattern.eq_def]
        simp [hsettle, readPlain, hwide, hdot]
    _ = readPattern n f names (l.push (some anything)) enclosing rest := by
        rw [readPattern.eq_def]
        simp [hsettle, Level.repeatLast, Level.push, hlazy, anything]

theorem reads_wildSource {f : Flags} (hcase : f.caseless = false) (hwide : f.wide = true)
    (hdot : f.dotAll = true) (hspaced : f.spaced = false) (c : Char) :
    Reads f (wildSource c) (wildItem c) := by
  unfold wildSource wildItem
  split
  · exact reads_anything hwide hdot hspaced
  · exact reads_escapeChar hcase hspaced c

/-- The source of a text with stars: its characters one by one, between anchors that look at the whole text,
with a dot that matches line feeds. -/
theorem wildcardChars_eq (cs : List Char) :
    Filter.wildcardChars cs = "(?s)^".toList ++ (cs.flatMap wildSource ++ ['$']) := by
  have hpieces : ['.', '*'].intercalate ((Text.splitChars '*' cs).map escapeChars) =
      cs.flatMap wildSource := by
    induction cs with
    | nil => simp [Text.splitChars, escapeChars]
    | cons c cs ih =>
      rw [List.flatMap_cons, ← ih, wildSource, Text.splitChars]
      have hne := Text.splitChars_ne_nil '*' cs
      generalize Text.splitChars '*' cs = pieces at hne
      obtain ⟨piece, rest, rfl⟩ := List.exists_cons_of_ne_nil hne
      split
      · rfl
      · cases rest with
        | nil => simp [escapeChars]
        | cons => simp [escapeChars]
  unfold Filter.wildcardChars
  rw [hpieces, List.append_assoc]

theorem readPattern_opening (fuel : Nat) (cs : List Char) :
    readPattern (fuel + 2) {} [] ⟨{}, [], []⟩ [] ("(?s)^".toList ++ cs) =
      readPattern fuel { dotAll := true } [] ⟨{}, [], [some (.look Anchor.textStart), none]⟩ [] cs := by
  calc readPattern (fuel + 2) {} [] ⟨{}, [], []⟩ [] ('(' :: '?' :: 's' :: ')' :: '^' :: cs)
      = readPattern (fuel + 1) { dotAll := true } [] ⟨{}, [], [none]⟩ [] ('^' :: cs) := by
        rw [readPattern.eq_def]
        rfl
    _ = readPattern fuel { dotAll := true } [] ⟨{}, [], [some (.look Anchor.textStart), none]⟩ [] cs := by
        rw [readPattern.eq_def]
        rfl

theorem readPattern_closing (fuel : Nat) (f : Flags) (hspaced : f.spaced = false)
    (hlines : f.multiLine = false) (names : List (List Char)) (l : Level) :
    readPattern (fuel + 2) f names l [] ['$'] = some (l.push (some (.look Anchor.textEnd))).whole := by
  rw [readPattern.eq_def]
  simp [Flags.settle, hspaced, readPlain, hlines, readPattern_nil]

/-- The source of a text with stars is read as its characters between the two anchors. -/
theorem ofString?_wildcard (s : String) :
    ofString? (Filter.wildcard s) =
      some (sequence (.look Anchor.textStart :: s.toList.map wildItem ++ [.look Anchor.textEnd])) := by
  let f : Flags := { dotAll := true }
  let opened : Level := ⟨{}, [], [some (.look Anchor.textStart), none]⟩
  have hstart : ofString? (Filter.wildcard s) =
      readPattern ((s.toList.flatMap wildSource ++ ['$']).length + 4) f [] opened []
        (s.toList.flatMap wildSource ++ ['$']) := by
    unfold ofString? ofChars? Filter.wildcard
    rw [String.toList_ofList, wildcardChars_eq]
    exact readPattern_opening ..
  obtain ⟨fuel, hfuel, hbody⟩ := readPattern_flatMap (@reads_wildSource f rfl rfl rfl rfl) s.toList [] opened
    [] (by simp : ['$'].head? ≠ some '?') (Nat.lt_add_of_pos_right (Nat.succ_pos 3))
  obtain ⟨n, rfl⟩ : ∃ n, fuel = n + 2 := ⟨fuel - 2, by simp at hfuel; omega⟩
  have hbranch : ((opened.pushAll (s.toList.map wildItem)).push (some (.look Anchor.textEnd))).whole =
      sequence (.look Anchor.textStart :: s.toList.map wildItem ++ [.look Anchor.textEnd]) := by
    rw [Level.push_pushAll, Level.whole_of_branches (by simp [opened]), Level.branch_pushAll]
    rfl
  rw [hstart, hbody, readPattern_closing n f rfl rfl, hbranch]

end Regex

/-! ### Conditions with wildcards -/

namespace Filter

/-- Two bounds between brackets: neither is empty, and no line is broken. -/
def IsRange (cs : List Char) : Prop :=
  ∃ low high : List Char, low ≠ [] ∧ high ≠ [] ∧ '\n' ∉ low ∧ '\n' ∉ high ∧
    cs = '[' :: low ++ ',' :: high ++ [']']

theorem IsRange.of_bounds? {cs : List Char} (h : (bounds? cs).isSome = true) : IsRange cs := by
  unfold bounds? at h
  split at h
  case h_2 => cases h
  rename_i inner
  split at h
  case h_2 => cases h
  rename_i last before hinner
  split at h
  case isTrue => cases h
  rename_i hlines
  rw [not_or, Bool.not_eq_true, ← Bool.not_eq_true, List.contains_iff_mem] at hlines
  obtain ⟨hlast, hbefore⟩ := hlines
  split at h
  case h_1 => cases h
  case h_3 => cases h
  rename_i low high hlow hcut
  obtain ⟨hsplit, -⟩ := Text.cutLast_eq_some hcut
  have hlines : '\n' ∉ low ++ ',' :: high := by
    rw [← hsplit]
    simpa using hbefore
  simp only [List.mem_append, List.mem_cons, not_or] at hlines
  refine ⟨low, high ++ [last], fun he => hlow he, by simp, hlines.1, ?_, ?_⟩
  · simpa using ⟨hlines.2.2, fun he => hlast he.symm⟩
  · rw [← List.reverse_reverse inner, hinner]
    simp [hsplit]

/-- Two bounds between brackets are read as they are, if no other comma stands after the one between
them but as the last character. -/
theorem bounds?_of_cut {low high : List Char} {last : Char} (hlow : low ≠ [])
    (hlines : '\n' ∉ low ++ ',' :: high) (hlast : last ≠ '\n') (hcomma : ',' ∉ high) :
    bounds? ('[' :: low ++ ',' :: (high ++ [last]) ++ [']']) = some (low, high ++ [last]) := by
  have hreverse : (low ++ ',' :: (high ++ [last]) ++ [']']).reverse =
      ']' :: last :: (low ++ ',' :: high).reverse := by simp
  have hbroken : ¬ (last = '\n' ∨ (low ++ ',' :: high).reverse.contains '\n' = true) := by
    rw [List.contains_iff_mem, List.mem_reverse]
    exact fun h => h.elim hlast hlines
  simp only [bounds?, List.cons_append, hreverse]
  rw [if_neg hbroken, List.reverse_reverse, Text.cutLast_of_notMem hcomma]
  cases low with
  | nil => exact absurd rfl hlow
  | cons => rfl

theorem bounds?_isSome {cs : List Char} (h : IsRange cs) : (bounds? cs).isSome = true := by
  obtain ⟨low, high, hlow, hhigh, hlowLines, hhighLines, rfl⟩ := h
  obtain ⟨high, last, rfl⟩ := (List.eq_nil_or_concat' high).resolve_left hhigh
  obtain ⟨hhighLines, hlast⟩ : '\n' ∉ high ∧ last ≠ '\n' := by
    simpa [eq_comm] using hhighLines
  have hlines : '\n' ∉ low ++ ',' :: high := by simp [hlowLines, hhighLines]
  obtain ⟨before, after, hcut⟩ := Text.exists_cutLast (show ',' ∈ low ++ ',' :: high by simp)
  obtain ⟨hsplit, hnot⟩ := Text.cutLast_eq_some hcut
  -- Were nothing before the last comma, it would be the first character of the lower bound.
  have hbefore : before ≠ [] := by
    rintro rfl
    obtain ⟨c, rest, rfl⟩ := List.exists_cons_of_ne_nil hlow
    rw [List.nil_append, List.cons_append, List.cons.injEq] at hsplit
    exact hnot (hsplit.2 ▸ by simp)
  have hwhole : '[' :: low ++ ',' :: (high ++ [last]) ++ [']'] =
      '[' :: before ++ ',' :: (after ++ [last]) ++ [']'] := by
    have hsame := congrArg (· ++ [last, ']']) hsplit
    simpa using hsame
  rw [hwhole, bounds?_of_cut hbefore (hsplit ▸ hlines) hlast hnot]
  rfl

/-- A range is read as two bounds. -/
theorem bounds?_isSome_iff (cs : List Char) : (bounds? cs).isSome = true ↔ IsRange cs :=
  ⟨IsRange.of_bounds?, bounds?_isSome⟩

/-- A text with stars becomes the pattern of its wildcards, unless it is the range of a type that has
ranges. -/
theorem predicate_wildcard {type : FieldType} {s : String} (htype : type ≠ .geometry)
    (hstar : '*' ∈ s.toList) (hrange : isRanged type = true → ¬ IsRange s.toList) :
    predicate type (.string s) = .pattern (wildcard s) := by
  have hbounds : isRanged type = true → bounds? s.toList = none := by
    rw [← Option.not_isSome_iff_eq_none, bounds?_isSome_iff]
    exact hrange
  rw [predicate, textPredicate_plain htype hbounds]
  simp [plainPredicate, hstar]

/-- A condition that asks a field of any type but a geometry for a text with stars is always accepted,
unless the text is the range of a number or a date. A record whose field is a text meets it exactly when
the text is spelled: every star is replaced by some text, which may be empty and may hold line feeds, and
all other characters are the same, from the first to the last. -/
theorem wildcards_match_exactly {type : FieldType} {s : String} (htype : type ≠ .geometry)
    (hstar : '*' ∈ s.toList) (hrange : isRanged type = true → ¬ IsRange s.toList) (field : String) :
    ∃ m, Condition.prepare [(field, predicate type (.string s))] = .ok m ∧
      ∀ (d : Members) (t : String), Members.get? d field = some (.string t) →
        (Matcher.accepts m d = true ↔ Spells s.toList t.toList) := by
  let r := Regex.sequence
    (.look Regex.Anchor.textStart :: s.toList.map Regex.wildItem ++ [.look Regex.Anchor.textEnd])
  refine ⟨[(field, .pattern r)], ?_, fun d t ht => ?_⟩
  · rw [predicate_wildcard htype hstar hrange]
    simp only [Condition.prepare, Predicate.prepare, Regex.ofString?_wildcard]
    rfl
  · have hdenotes := Regex.denotes_sequence (Regex.denotes_wildItem t.toList.toArray) s.toList
    rw [Regex.spells_iff, ← Regex.matchesIn_anchored hdenotes]
    simp [Matcher.accepts, ht, Test.holds, Test.holdsOf, r]

/-- An open bracket, a dot and a star, asked of a number: the dot stands for itself only, and the star for a
line feed too. -/
theorem wildcards_match_exactly_number :
    FieldType.number ≠ .geometry ∧ '*' ∈ "[.*".toList ∧
      (isRanged .number = true → ¬ IsRange "[.*".toList) ∧
      ∃ m, Condition.prepare [("size", predicate .number (.string "[.*"))] = .ok m ∧
        Matcher.accepts m [("size", .string "[.\n")] = true ∧
        ¬ Matcher.accepts m [("size", .string "[1\n")] = true := by
  have hstar : '*' ∈ "[.*".toList := by decide
  have hrange : isRanged .number = true → ¬ IsRange "[.*".toList := by
    rw [← bounds?_isSome_iff]
    decide
  obtain ⟨m, hprepare, hspells⟩ := wildcards_match_exactly (by decide : FieldType.number ≠ .geometry)
    hstar hrange "size"
  have hdot : Spells "[.*".toList "[.\n".toList :=
    .plain (by decide) (.plain (by decide) (.star ['\n'] .nil))
  have hone : ¬ Spells "[.*".toList "[1\n".toList := by
    rintro (_ | _ | ⟨_, h⟩)
    cases h
  exact ⟨by decide, hstar, hrange, m, hprepare, (hspells _ _ rfl).mpr hdot,
    fun h => hone ((hspells _ _ rfl).mp h)⟩

end Filter

end Hypermedia
