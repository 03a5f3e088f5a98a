import Mathlib.Data.List.Forall2
import Hypermedia.Proofs.Plural

/-!
# Endings that rules leave

A rule looks at the end of a word only. Where an ending is long enough for every rule up to the first that
applies, all words with it are treated alike. So whether the rules leave every word with an ending can be
computed from the ending.
-/

namespace Hypermedia.Plural

variable {stem : Stem} {r : Rule} {word front mid rest out k : List Char}

theorem findSome?_congr {α β : Type} {f g : α → Option β} {xs : List α} (h : ∀ x ∈ xs, f x = g x) :
    xs.findSome? f = xs.findSome? g := by
  induction xs with
  | nil => rfl
  | cons x xs ih =>
    rw [List.findSome?_cons, List.findSome?_cons, h x (List.mem_cons_self ..),
      ih fun y hy => h y (List.mem_cons_of_mem _ hy)]

theorem any_congr {α : Type} {f g : α → Bool} {xs : List α} (h : ∀ x ∈ xs, f x = g x) :
    xs.any f = xs.any g := by
  induction xs with
  | nil => rfl
  | cons x xs ih =>
    rw [List.any_cons, List.any_cons, h x (List.mem_cons_self ..),
      ih fun y hy => h y (List.mem_cons_of_mem _ hy)]

/-! ### Stems -/

/-- The characters fulfil the conditions of a stem, one by one. -/
abbrev Matches (stem : Stem) (cs : List Char) : Prop := List.Forall₂ (fun p c => p c = true) stem cs

theorem before?_eq_some_iff {cs : List Char} :
    before? stem cs = some rest ↔ ∃ mid, cs = mid ++ rest ∧ Matches stem mid := by
  induction stem generalizing cs with
  | nil => simp [before?]
  | cons p stem ih =>
    cases cs with
    | nil => simp [before?]
    | cons c cs =>
      by_cases hp : p c = true
      · simp only [before?, if_pos hp, ih]
        constructor
        · rintro ⟨mid, rfl, hmid⟩
          exact ⟨c :: mid, rfl, .cons hp hmid⟩
        · rintro ⟨mid, hsplit, hmid⟩
          cases hmid with
          | cons _ hmid =>
            cases hsplit
            exact ⟨_, rfl, hmid⟩
      · simp only [before?, if_neg hp, reduceCtorEq, false_iff]
        rintro ⟨mid, hsplit, hmid⟩
        cases hmid with
        | cons hp' _ =>
          cases hsplit
          exact hp hp'

theorem before?_append {p q : Stem} {cs : List Char} :
    before? (p ++ q) cs = (before? p cs).bind (before? q) := by
  induction p generalizing cs with
  | nil => rfl
  | cons f p ih =>
    cases cs with
    | nil => rfl
    | cons c cs =>
      simp only [List.cons_append, before?]
      split
      · exact ih
      · rfl

theorem before?_reverse :
    before? stem.reverse word.reverse = some rest.reverse ↔ ∃ mid, word = rest ++ mid ∧ Matches stem mid := by
  rw [before?_eq_some_iff]
  constructor
  · rintro ⟨mid, hsplit, hmid⟩
    refine ⟨mid.reverse, ?_, ?_⟩
    · rw [← List.reverse_inj, hsplit]
      simp
    · exact List.forall₂_reverse_iff.mp (by rwa [List.reverse_reverse])
  · rintro ⟨mid, rfl, hmid⟩
    exact ⟨mid.reverse, by simp, List.forall₂_reverse_iff.mpr hmid⟩

theorem matches_literal {s : String} {cs : List Char} : Matches (literal s) cs ↔ cs = s.toList := by
  rw [literal, Matches, List.forall₂_map_left_iff]
  simp only [beq_iff_eq]
  constructor
  · intro h
    exact (List.forall₂_eq_eq_eq ▸ h.imp fun _ _ he => he.symm : s.toList = cs).symm
  · rintro rfl
    exact List.forall₂_same.mpr fun _ _ => rfl

/-! ### Rules -/

/-- What a rule reads at the end of a word, backwards. -/
def reading (stem : Stem) (ending : String) : Stem := (literal ending).reverse ++ stem.reverse

/-- A rule applies to a word in one way only: a stem and an ending are taken off a front. -/
theorem Rule.exists_of_exchange? (h : r.exchange? word = some out) :
    ∃ ending ∈ r.endings, ∃ stem ∈ r.stems, ∃ front mid, word = front ++ mid ++ ending.toList ∧
      out = front ++ mid ++ r.plural.toList ∧ Matches stem mid ∧
      (r.wordStart = true → front.getLast?.any Text.isWord = false) := by
  obtain ⟨ending, hending, h⟩ := List.exists_of_findSome?_eq_some h
  split at h
  · rename_i rest hrest
    split at h
    · rename_i hfits
      cases h
      obtain ⟨stem, hstem, hfits⟩ := List.any_eq_true.mp hfits
      split at hfits
      · rename_i front hfront
        rw [← List.reverse_reverse rest] at hrest hfront
        obtain ⟨tail, rfl, htail⟩ := before?_reverse.mp hrest
        rw [← List.reverse_reverse front] at hfront
        obtain ⟨mid, hsplit, hmid⟩ := before?_reverse.mp hfront
        rw [matches_literal] at htail
        refine ⟨ending, hending, stem, hstem, front.reverse, mid, ?_, ?_, hmid, fun hstart => ?_⟩
        · rw [htail, hsplit]
        · rw [hsplit]
        · rw [hstart] at hfits
          rw [List.getLast?_reverse]
          simpa using hfits
      · cases hfits
    · cases h
  · cases h

/-- Where a rule can take a stem and an ending off, it applies. -/
theorem Rule.exchange?_isSome {ending : String} (hending : ending ∈ r.endings) (hstem : stem ∈ r.stems)
    (hword : word = front ++ mid ++ ending.toList) (hmid : Matches stem mid)
    (hstart : r.wordStart = true → front.getLast?.any Text.isWord = false) :
    (r.exchange? word).isSome = true := by
  have hfront : before? stem.reverse (front ++ mid).reverse = some front.reverse :=
    before?_reverse.mpr ⟨mid, rfl, hmid⟩
  have hrest : before? (literal ending).reverse word.reverse = some (front ++ mid).reverse :=
    before?_reverse.mpr ⟨ending.toList, hword, matches_literal.mpr rfl⟩
  have hfits : r.fits (front ++ mid).reverse = true := by
    refine List.any_eq_true.mpr ⟨stem, hstem, ?_⟩
    rw [hfront]
    dsimp only
    rw [List.head?_reverse]
    cases hs : r.wordStart with
    | false => rfl
    | true => simp [hstart hs]
  refine List.findSome?_isSome_iff.mpr ⟨ending, hending, ?_⟩
  rw [hrest]
  dsimp only
  rw [if_pos hfits]
  rfl

/-! ### Endings that decide -/

/-- A condition of a stem fails on the character at its place. -/
def clashes : Stem → List Char → Bool
  | p :: stem, c :: cs => !p c || clashes stem cs
  | _, _ => false

theorem before?_of_clashes {cs : List Char} (h : clashes stem cs = true) (rest : List Char) :
    before? stem (cs ++ rest) = none := by
  induction stem generalizing cs with
  | nil => cases h
  | cons p stem ih =>
    cases cs with
    | nil => cases h
    | cons c cs =>
      simp only [List.cons_append, before?]
      split
      · rename_i hp
        refine ih ?_
        rwa [clashes, hp, Bool.not_true, Bool.false_or] at h
      · rfl

theorem before?_append_of_some {cs : List Char} (h : before? stem cs = some out) (rest : List Char) :
    before? stem (cs ++ rest) = some (out ++ rest) := by
  obtain ⟨mid, rfl, hmid⟩ := before?_eq_some_iff.mp h
  exact before?_eq_some_iff.mpr ⟨mid, by simp, hmid⟩

namespace Rule

/-- The rule applies to no word with this ending. -/
def excludes (r : Rule) (k : List Char) : Bool :=
  r.endings.all fun ending => r.stems.all fun stem => clashes (reading stem ending) k.reverse

/-- Whether and how the rule applies to a word shows in this ending of it. -/
def decides (r : Rule) (k : List Char) : Bool :=
  !r.wordStart && r.endings.all fun ending => r.stems.all fun stem =>
    clashes (reading stem ending) k.reverse || (before? (reading stem ending) k.reverse).isSome

/-- If the rule applies to a word with this ending, it leaves the word. -/
def harmless (r : Rule) (k : List Char) : Bool :=
  r.endings.all fun ending => ending == r.plural ||
    r.stems.all fun stem => clashes (reading stem ending) k.reverse

/-- The rule leaves a word, or does not apply to it. -/
def Keeps (r : Rule) (word : List Char) : Prop := ∀ out, r.exchange? word = some out → out = word

end Rule

/-- Each rule leaves the words with this ending, or comes after one that applies to them and does. -/
def leaves (k : List Char) : List Rule → Bool
  | [] => true
  | r :: rules => (r.decides k && r.exchange? k == some k) || (r.harmless k && leaves k rules)

theorem before?_reading {ending : String} (hword : word = front ++ mid ++ ending.toList)
    (hmid : Matches stem mid) : before? (reading stem ending) word.reverse = some front.reverse := by
  rw [reading, before?_append, before?_reverse.mpr ⟨_, hword, matches_literal.mpr rfl⟩]
  exact before?_reverse.mpr ⟨mid, rfl, hmid⟩

namespace Rule

theorem exchange?_of_excludes (h : r.excludes k = true) (front : List Char) :
    r.exchange? (front ++ k) = none := by
  refine Option.eq_none_iff_forall_ne_some.mpr fun out hout => ?_
  obtain ⟨ending, hending, stem, hstem, front', mid, hword, -, hmid, -⟩ := exists_of_exchange? hout
  have hclash := List.all_eq_true.mp (List.all_eq_true.mp h ending hending) stem hstem
  have hread := before?_reading hword hmid
  rw [List.reverse_append, before?_of_clashes hclash] at hread
  cases hread

theorem keeps_of_harmless (h : r.harmless k = true) (front : List Char) : r.Keeps (front ++ k) := by
  intro out hout
  obtain ⟨ending, hending, stem, hstem, front', mid, hword, rfl, hmid, -⟩ := exists_of_exchange? hout
  have hcase := List.all_eq_true.mp h ending hending
  rw [Bool.or_eq_true, beq_iff_eq] at hcase
  rcases hcase with rfl | hclash
  · exact hword.symm
  · have hread := before?_reading hword hmid
    rw [List.reverse_append, before?_of_clashes (List.all_eq_true.mp hclash stem hstem)] at hread
    cases hread

/-- The front of a word comes through a rule that an ending decides. -/
theorem exchange?_append (h : r.decides k = true) (front : List Char) :
    r.exchange? (front ++ k) = (r.exchange? k).map (front ++ ·) := by
  rw [decides, Bool.and_eq_true, Bool.not_eq_true'] at h
  obtain ⟨hstart, h⟩ := h
  rw [exchange?, exchange?, List.map_findSome?]
  refine findSome?_congr fun ending hending => ?_
  have hdecided := List.all_eq_true.mp (List.all_eq_true.mp h ending hending)
  rw [Function.comp_apply, List.reverse_append]
  cases hk : before? (literal ending).reverse k.reverse with
  | none =>
    -- The ending is longer than `k`, so every stem clashes before it.
    cases hword : before? (literal ending).reverse (k.reverse ++ front.reverse) with
    | none => rfl
    | some rest =>
      have hfits : r.fits rest = false := by
        refine List.any_eq_false.mpr fun stem hstem => ?_
        have hcase := hdecided stem hstem
        rw [reading, before?_append, hk, Option.bind_none, Option.isSome_none, Bool.or_false] at hcase
        have hread := before?_of_clashes hcase front.reverse
        rw [before?_append, hword, Option.bind_some] at hread
        rw [hread]
        exact Bool.false_ne_true
      dsimp only
      rw [hfits]
      rfl
  | some rest =>
    have hfits : r.fits (rest ++ front.reverse) = r.fits rest := by
      refine any_congr fun stem hstem => ?_
      have hcase := hdecided stem hstem
      rw [reading, Bool.or_eq_true, before?_append, hk, Option.bind_some] at hcase
      rcases hcase with hclash | hsome
      · have hlong := before?_of_clashes hclash front.reverse
        have hshort := before?_of_clashes hclash []
        rw [before?_append, before?_append_of_some hk, Option.bind_some] at hlong
        rw [List.append_nil, before?_append, hk, Option.bind_some] at hshort
        rw [hlong, hshort]
      · obtain ⟨out, hout⟩ := Option.isSome_iff_exists.mp hsome
        rw [before?_append_of_some hout, hout, hstart]
        rfl
    rw [before?_append_of_some hk]
    dsimp only
    rw [hfits]
    split
    · simp
    · rfl

end Rule

theorem regular_of_leaves (h : leaves k rules = true) (front : List Char) :
    regular (front ++ k) = front ++ k := by
  have hrules : ∀ rs : List Rule, leaves k rs = true →
      (rs.findSome? fun r => r.exchange? (front ++ k)).getD (front ++ k) = front ++ k := by
    intro rs hrs
    induction rs with
    | nil => rfl
    | cons r rs ih =>
      rw [List.findSome?_cons]
      rw [leaves, Bool.or_eq_true, Bool.and_eq_true, Bool.and_eq_true, beq_iff_eq] at hrs
      rcases hrs with ⟨hdecides, happlies⟩ | ⟨hharmless, hrest⟩
      · rw [r.exchange?_append hdecides, happlies]
        rfl
      · cases hout : r.exchange? (front ++ k) with
        | none => exact ih hrest
        | some out => exact r.keeps_of_harmless hharmless front out hout
  exact hrules rules h

end Hypermedia.Plural
