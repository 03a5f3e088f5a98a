import Mathlib.Data.List.Sections
import Hypermedia.Proofs.Endings

/-!
# Shapes of plurals

A rule makes a plural with an ending that all rules leave, or keeps a word in `s`, or adds an `s`. Only with
an `s` added a word may end like the singular that another rule changes.
-/

namespace Hypermedia.Plural

variable {word out front mid rest v t : List Char} {r : Rule} {stem : Stem} {endings : List String}
  {ending : String}

/-! ### How words end -/

def EndsIn (endings : List String) (word : List Char) : Prop :=
  ∃ ending ∈ endings, ending.toList <:+ word

instance (endings : List String) (word : List Char) : Decidable (EndsIn endings word) :=
  inferInstanceAs (Decidable (∃ ending ∈ endings, ending.toList <:+ word))

theorem EndsIn.append (h : EndsIn endings word) (front : List Char) : EndsIn endings (front ++ word) := by
  obtain ⟨ending, hending, hsuffix⟩ := h
  exact ⟨ending, hending, hsuffix.trans (List.suffix_append front word)⟩

/-- With an `s` behind them, words with these endings are changed. -/
def changedEndings : List String := ["s", "si", "alia", "tla", "tma", "ga", "ri", "axi", "testi"]

/-- With an `s` behind them, words in `u` are changed but for those with these endings. -/
def leftEndings : List String := ["au", "ou", "uu", "emu", "enu"]

/-- Words with these endings get no `s` more. -/
def bareEndings : List String := ["s", "alga", "viri", "uteri"]

/-- The rules change the word with an `s` behind it. -/
def Rereads (word : List Char) : Prop :=
  EndsIn changedEndings word ∨ EndsIn ["u"] word ∧ word ≠ ['u'] ∧ ¬ EndsIn leftEndings word

instance (word : List Char) : Decidable (Rereads word) :=
  inferInstanceAs (Decidable (_ ∨ _ ∧ _ ∧ _))

/-- The plural is the word with an `s`, and that has another plural. -/
def Unsettled (word : List Char) : Prop :=
  word ∈ ["canva".toList, "genu".toList] ∨
    Rereads word ∧ ¬ EndsIn bareEndings word ∧
      word ∉ ["manga".toList, "chassi".toList, "debri".toList]

instance (word : List Char) : Decidable (Unsettled word) :=
  inferInstanceAs (Decidable (_ ∨ _ ∧ _ ∧ _))

/-! ### Endings of plurals -/

/-- Every word with this ending is left by the rules, and is not one of the two irregular singulars that the
rules leave. -/
def closing (k : List Char) : Bool :=
  leaves k rules && !k.contains 'ß' && !k.isSuffixOf "canvas".toList && !k.isSuffixOf "genus".toList

/-- A plural that the rules leave, by its ending. -/
inductive Closed : List Char → Prop
  | ending {k : List Char} (front : List Char) (h : closing k = true) : Closed (front ++ k)
  | people (front : List Char) {c : Char} (h : noneOf "aeiou" c = true) :
      Closed (front ++ c :: "ese".toList)
  | mice (front : List Char) {stem : String} (h : stem ∈ ["titm", "m", "l"])
      (hstart : front.getLast?.any Text.isWord = false) : Closed (front ++ (stem ++ "ice").toList)
  | foreign (front : List Char) {c : Char} (h : 128 ≤ c.toNat) : Closed (front ++ [c])

/-- How the rules change a word. A word in `s` is changed exactly if it rereads without the `s`; of words in
`emus` and `enus` a single rule does not tell. -/
inductive Shape : List Char → List Char → Prop
  | closed {word out : List Char} (h : Closed out)
      (hs : ¬ Rereads word ∨ EndsIn bareEndings word)
      (hv : ∀ v, word = v ++ ['s'] → EndsIn ["emu", "enu"] v ∨ (out = word ↔ ¬ Rereads v)) :
      Shape word out
  | kept {v : List Char} (h : ¬ Rereads v) : Shape (v ++ ['s']) (v ++ ['s'])
  | added {word : List Char} (h : ¬ EndsIn bareEndings word) : Shape word (word ++ ['s'])

def Rule.Shapes (r : Rule) : Prop := ∀ word out, r.exchange? word = some out → Shape word out

/-! ### What a rule sees -/

/-- The rule reads the word with this stem and this ending. -/
def ReadBy (stem : Stem) (ending : String) (word : List Char) : Prop :=
  ∃ front mid, word = front ++ mid ++ ending.toList ∧ Matches stem mid

theorem not_endsIn (h : ReadBy stem ending (v ++ t))
    (hclash : endings.all (fun e => clashes (reading stem ending) (e.toList ++ t).reverse) = true) :
    ¬ EndsIn endings v := by
  rintro ⟨e, he, front', rfl⟩
  obtain ⟨front, mid, hword, hmid⟩ := h
  have hread := before?_reading hword hmid
  rw [List.append_assoc, List.reverse_append, before?_of_clashes (List.all_eq_true.mp hclash e he)] at hread
  cases hread

/-- No word that the stem and the ending read rereads with `t` taken off. -/
def spares (stem : Stem) (ending : String) (t : List Char) : Bool :=
  (changedEndings ++ ["u"]).all fun e => clashes (reading stem ending) (e.toList ++ t).reverse

theorem not_rereads (h : ReadBy stem ending (v ++ t)) (hspares : spares stem ending t = true) :
    ¬ Rereads v := by
  have hnot := not_endsIn h hspares
  rintro (⟨e, he, hsuffix⟩ | ⟨⟨e, he, hsuffix⟩, -⟩)
  · exact hnot ⟨e, List.mem_append_left _ he, hsuffix⟩
  · exact hnot ⟨e, List.mem_append_right _ he, hsuffix⟩

theorem not_rereads_of_endsIn (h : EndsIn leftEndings v) : ¬ Rereads v := by
  have hapart : ∀ x ∈ leftEndings, ∀ y ∈ changedEndings,
      ¬ x.toList <:+ y.toList ∧ ¬ y.toList <:+ x.toList := by
    decide
  rintro (⟨y, hy, hsuffix⟩ | ⟨-, -, hnot⟩)
  · obtain ⟨x, hx, hx'⟩ := h
    obtain ⟨hxy, hyx⟩ := hapart x hx y hy
    exact (List.suffix_or_suffix_of_suffix hx' hsuffix).elim hxy hyx
  · exact hnot h

/-! ### Literal rules -/

theorem Shape.of_closed (hread : ReadBy stem ending word) (hends : clashes (reading stem ending) ['s'] = true)
    (hs : spares stem ending [] = true ∨ EndsIn bareEndings word) (hout : Closed out) :
    Shape word out := by
  have hword : ReadBy stem ending (word ++ []) := by rwa [List.append_nil]
  refine .closed hout (hs.imp_left (not_rereads hword)) fun v hv => ?_
  have hnot : ¬ EndsIn ["s"] word := not_endsIn hword (by simpa using hends)
  exact absurd ⟨"s", List.mem_singleton_self _, v, hv.symm⟩ hnot

theorem Shape.of_changed {front : List Char} (hout : Closed out) (hne : out ≠ front ++ ['s'])
    (h : EndsIn ["emu", "enu"] front ∨ Rereads front) : Shape (front ++ ['s']) out := by
  refine .closed hout (.inr ⟨"s", List.mem_cons_self .., front, rfl⟩) fun v hv => ?_
  rw [List.append_left_inj] at hv
  exact h.imp (hv ▸ ·) fun h => iff_of_false hne (not_not_intro (hv ▸ h))

/-- With an `s` behind them, words with this ending, that the stem and the ending read, are changed. -/
def Forces (stem ending : String) (k : List Char) : Prop :=
  EndsIn changedEndings k ∨ EndsIn ["u"] k ∧ 1 < k.length ∧
    (leftEndings.all fun e => clashes (reading (literal stem) ending) (e.toList ++ ['s']).reverse) = true

instance (stem ending : String) (k : List Char) : Decidable (Forces stem ending k) :=
  inferInstanceAs (Decidable (_ ∨ _ ∧ _ ∧ _))

/-- A literal stem and ending give a closed plural, or keep an `s`, or change a word for its `s`. -/
def Sound (plural stem ending : String) : Prop :=
  let read := (stem ++ ending).toList
  (closing (stem ++ plural).toList = true ∧ clashes (reading (literal stem) ending) ['s'] = true ∧
    (spares (literal stem) ending [] = true ∨ EndsIn bareEndings read)) ∨
  (ending = plural ∧ ['s'] <:+ read ∧ (spares (literal stem) ending ['s'] = true ∨
    EndsIn leftEndings read.dropLast)) ∨
  (closing (stem ++ plural).toList = true ∧ ending ≠ plural ∧ ['s'] <:+ read ∧
    Forces stem ending read.dropLast)

instance (plural stem ending : String) : Decidable (Sound plural stem ending) :=
  inferInstanceAs (Decidable ((_ ∧ _ ∧ _) ∨ (_ ∧ _ ∧ _) ∨ (_ ∧ _ ∧ _ ∧ _)))

theorem rereads_of_forces {stem : String} {k : List Char} (h : Forces stem ending k)
    (hread : ReadBy (literal stem) ending (front ++ k ++ ['s'])) : Rereads (front ++ k) := by
  rcases h with htail | ⟨hu, hlong, hclash⟩
  · exact .inl (htail.append front)
  · refine .inr ⟨hu.append front, fun he => ?_, not_endsIn hread hclash⟩
    have hlength := congrArg List.length he
    rw [List.length_append, List.length_singleton] at hlength
    omega

theorem shape_of_sound {plural stem ending : String} (h : Sound plural stem ending) (front : List Char) :
    Shape (front ++ stem.toList ++ ending.toList) (front ++ stem.toList ++ plural.toList) := by
  have hread : ReadBy (literal stem) ending (front ++ stem.toList ++ ending.toList) :=
    ⟨front, stem.toList, rfl, matches_literal.mpr rfl⟩
  simp only [Sound, String.toList_append] at h
  rw [List.append_assoc front] at hread ⊢
  rw [List.append_assoc front]
  rcases h with ⟨hclosing, hends, hs⟩ | ⟨rfl, ⟨v, hv⟩, hs⟩ | ⟨hclosing, hne, ⟨v, hv⟩, hforces⟩
  · exact .of_closed hread hends (hs.imp_right (·.append front)) (.ending front hclosing)
  · rw [← hv, List.dropLast_concat] at hs
    rw [← hv, ← List.append_assoc] at hread ⊢
    exact .kept (hs.elim (not_rereads hread) fun h => not_rereads_of_endsIn (h.append front))
  · have hchanged : front ++ (stem.toList ++ plural.toList) ≠ front ++ (v ++ ['s']) := by
      rw [hv, Ne, List.append_right_inj, List.append_right_inj, String.toList_inj]
      exact hne.symm
    rw [← hv, List.dropLast_concat] at hforces
    rw [← hv, ← List.append_assoc _ v] at hread ⊢
    rw [← List.append_assoc _ v] at hchanged
    exact .of_changed (.ending front hclosing) hchanged (.inr (rereads_of_forces hforces hread))

theorem shapes_after {stems endings : List String} {plural : String}
    (h : ∀ stem ∈ stems, ∀ ending ∈ endings, Sound plural stem ending) :
    (Rule.after stems endings plural).Shapes := by
  intro word out hout
  obtain ⟨ending, hending, stem, hstem, front, mid, rfl, rfl, hmid, -⟩ := Rule.exists_of_exchange? hout
  obtain ⟨stem, hmem, rfl⟩ := List.mem_map.mp hstem
  rw [matches_literal.mp hmid]
  exact shape_of_sound (h stem hmem ending hending) front

/-- Rules for other words than those in `s`, with a plural that is closed whatever it follows. -/
theorem shapes_of_closing (hplural : closing r.plural.toList = true)
    (h : (r.endings.all fun ending => r.stems.all fun stem =>
      clashes (reading stem ending) ['s'] && spares stem ending []) = true) : r.Shapes := by
  intro word out hout
  obtain ⟨ending, hending, stem, hstem, front, mid, rfl, rfl, hmid, -⟩ := Rule.exists_of_exchange? hout
  have hsees := List.all_eq_true.mp (List.all_eq_true.mp h ending hending) stem hstem
  obtain ⟨hends, hs⟩ := Bool.and_eq_true_iff.mp hsees
  exact .of_closed ⟨front, mid, rfl, hmid⟩ hends (.inl hs) (.ending _ hplural)

theorem shapes_keep {stems : List Stem}
    (h : ∀ stem ∈ stems, ∀ front mid, Matches stem mid → Shape (front ++ mid) (front ++ mid)) :
    (Rule.keep stems).Shapes := by
  intro word out hout
  obtain ⟨ending, hending, stem, hstem, front, mid, rfl, rfl, hmid, -⟩ := Rule.exists_of_exchange? hout
  rw [List.mem_singleton.mp hending]
  have hshape := h stem hstem front mid hmid
  rwa [← List.append_nil (front ++ mid)] at hshape

/-! ### Stems of alternatives -/

theorem matches_cons {p : Char → Bool} {cs : List Char} :
    Matches (p :: stem) cs ↔ ∃ c mid, p c = true ∧ Matches stem mid ∧ cs = c :: mid :=
  List.forall₂_cons_left_iff.trans ⟨fun ⟨c, mid, hp, hmid, he⟩ => ⟨c, mid, hp, hmid, he⟩,
    fun ⟨c, mid, hp, hmid, he⟩ => ⟨c, mid, hp, hmid, he⟩⟩

theorem matches_oneOf {letters : String} {cs : List Char} :
    Matches (oneOf letters :: stem) cs ↔ ∃ c ∈ letters.toList, ∃ mid, Matches stem mid ∧ cs = c :: mid := by
  rw [matches_cons]
  simp only [oneOf, List.contains_eq_mem, decide_eq_true_eq]
  exact ⟨fun ⟨c, mid, hc, hmid, he⟩ => ⟨c, hc, mid, hmid, he⟩,
    fun ⟨c, hc, mid, hmid, he⟩ => ⟨c, mid, hc, hmid, he⟩⟩

theorem matches_nil {cs : List Char} : Matches [] cs ↔ cs = [] := List.forall₂_nil_left_iff

theorem matches_append {p q : Stem} {cs : List Char} (h : Matches (p ++ q) cs) :
    ∃ xs ys, cs = xs ++ ys ∧ Matches p xs ∧ Matches q ys := by
  induction p generalizing cs with
  | nil => exact ⟨[], cs, rfl, .nil, h⟩
  | cons f p ih =>
    obtain ⟨c, mid, hc, hmid, rfl⟩ := matches_cons.mp h
    obtain ⟨xs, ys, rfl, hxs, hys⟩ := ih hmid
    exact ⟨c :: xs, ys, rfl, .cons hc hxs, hys⟩

/-- A stem of alternatives reads one of finitely many texts. -/
theorem mem_sections {letters : List String} {cs : List Char} (h : Matches (letters.map oneOf) cs) :
    cs ∈ (letters.map String.toList).sections := by
  rw [Matches, List.forall₂_map_left_iff] at h
  rw [List.mem_sections, List.forall₂_map_right_iff]
  exact (h.imp fun _ _ hc => List.contains_iff_mem.mp hc).flip

/-! ### Rule by rule -/

/-- A stem that keeps words with an `s`. -/
theorem shape_of_kept (mid : List Char) (hmid : Matches stem (mid ++ ['s']))
    (hs : spares stem "" ['s'] = true) (front : List Char) :
    Shape (front ++ (mid ++ ['s'])) (front ++ (mid ++ ['s'])) := by
  have hread : ReadBy stem "" (front ++ mid ++ ['s']) :=
    ⟨front, mid ++ ['s'], by rw [← List.append_assoc]; exact (List.append_nil _).symm, hmid⟩
  rw [← List.append_assoc]
  exact .kept (not_rereads hread hs)

/-- A stem that keeps other words. -/
theorem shape_of_left (hmid : Matches stem mid) (hends : clashes (reading stem "") ['s'] = true)
    (hs : spares stem "" [] = true) (h : Closed (front ++ mid)) : Shape (front ++ mid) (front ++ mid) :=
  .of_closed ⟨front, mid, (List.append_nil _).symm, hmid⟩ hends (.inl hs) h

theorem shapes_literal {word : String} (h : Sound "" word "") : (Rule.keep [literal word]).Shapes := by
  refine shapes_keep fun stem hstem front mid hmid => ?_
  rw [List.mem_singleton.mp hstem] at hmid
  rw [matches_literal.mp hmid]
  have hshape := shape_of_sound h front
  rwa [String.toList_empty, List.append_nil] at hshape

theorem shapes_people : (Rule.keep [noneOf "aeiou" :: literal "ese"]).Shapes := by
  refine shapes_keep fun stem hstem front mid hmid => ?_
  rw [List.mem_singleton.mp hstem] at hmid
  refine shape_of_left hmid (by decide) (by decide) ?_
  obtain ⟨c, ese, hc, hese, rfl⟩ := matches_cons.mp hmid
  rw [matches_literal.mp hese]
  exact .people front hc

theorem shapes_foreign : (Rule.keep [[fun c => 128 ≤ c.toNat]]).Shapes := by
  refine shapes_keep fun stem hstem front mid hmid => ?_
  rw [List.mem_singleton.mp hstem] at hmid
  refine shape_of_left hmid (by decide) (by decide) ?_
  obtain ⟨c, none, hc, hnone, rfl⟩ := matches_cons.mp hmid
  rw [matches_nil.mp hnone]
  exact .foreign front (of_decide_eq_true hc)

theorem shapes_pokemon : (Rule.keep [literal "pok" ++ oneOf "eé" :: literal "mon"]).Shapes := by
  refine shapes_keep fun stem hstem front mid hmid => ?_
  rw [List.mem_singleton.mp hstem] at hmid
  refine shape_of_left hmid (by decide) (by decide) (.ending front ?_)
  have hall : ("eé".toList.all fun c => closing ("pok".toList ++ c :: "mon".toList)) = true := by
    decide
  obtain ⟨pok, rest, rfl, hpok, hrest⟩ := matches_append hmid
  obtain ⟨c, hc, mon, hmon, rfl⟩ := matches_oneOf.mp hrest
  rw [matches_literal.mp hpok, matches_literal.mp hmon]
  exact List.all_eq_true.mp hall c hc

theorem shapes_mice :
    { Rule.after ["titm", "m", "l"] ["ice", "ouse"] "ice" with wordStart := true }.Shapes := by
  intro word out hout
  obtain ⟨ending, hending, stem, hstem, front, mid, rfl, rfl, hmid, hstart⟩ := Rule.exists_of_exchange? hout
  obtain ⟨stem, hmem, rfl⟩ := List.mem_map.mp hstem
  have hsees : ∀ stem ∈ ["titm", "m", "l"], ∀ ending ∈ ["ice", "ouse"],
      clashes (reading (literal stem) ending) ['s'] = true ∧ spares (literal stem) ending [] = true := by
    decide
  obtain ⟨hends, hs⟩ := hsees stem hmem ending hending
  refine .of_closed ⟨front, mid, rfl, hmid⟩ hends (.inl hs) ?_
  have hout := Closed.mice front hmem (hstart rfl)
  rwa [String.toList_append, ← matches_literal.mp hmid, ← List.append_assoc] at hout

theorem shapes_radius : (Rule.keep [[oneOf "o", oneOf "iu", oneOf "s"]]).Shapes := by
  have hwords : ∀ mid ∈ (["o", "iu", "s"].map String.toList).sections, ∃ word ∈ ["ois", "ous"],
      mid = word.toList := by decide
  have hsound : ∀ word ∈ ["ois", "ous"], Sound "" word "" := by decide
  refine shapes_keep fun stem hstem front mid hmid => ?_
  rw [List.mem_singleton.mp hstem] at hmid
  obtain ⟨word, hword, rfl⟩ := hwords mid (mem_sections hmid)
  have hshape := shape_of_sound (hsound word hword) front
  rwa [String.toList_empty, List.append_nil] at hshape

theorem shapes_menu : Rule.Shapes ⟨[[oneOf "e", oneOf "mn", oneOf "u"]], ["s", ""], "s", false⟩ := by
  have hwords : ∀ mid ∈ (["e", "mn", "u"].map String.toList).sections, ∃ word ∈ ["emu", "enu"],
      mid = word.toList := by decide
  have hsound : ∀ word ∈ ["emu", "enu"], Sound "s" word "s" := by decide
  intro word out hout
  obtain ⟨ending, hending, stem, hstem, front, mid, rfl, rfl, hmid, -⟩ := Rule.exists_of_exchange? hout
  rw [List.mem_singleton.mp hstem] at hmid
  obtain ⟨word, hword, rfl⟩ := hwords mid (mem_sections hmid)
  simp only [List.mem_cons, List.not_mem_nil, or_false] at hending
  rcases hending with rfl | rfl
  · exact shape_of_sound (hsound word hword) front
  · have hread : ReadBy _ "" (front ++ word.toList ++ "".toList ++ []) :=
      ⟨front, word.toList, List.append_nil _, hmid⟩
    rw [String.toList_empty, List.append_nil] at hread ⊢
    exact .added (not_endsIn hread (by decide))

/-- A word in `us` is left after `a`, `o` or `u`, and where it is the plural of one in `emu` or `enu`. -/
theorem rereads_us {c : Char} (hc : noneOf "aou" c = true) (front : List Char) :
    EndsIn ["emu", "enu"] (front ++ [c, 'u']) ∨ Rereads (front ++ [c, 'u']) := by
  by_cases hmenu : EndsIn ["emu", "enu"] (front ++ [c, 'u'])
  · exact .inl hmenu
  have hread : ReadBy [noneOf "aou"] "u" (front ++ [c, 'u'] ++ []) :=
    ⟨front, [c], by simp, matches_cons.mpr ⟨c, [], hc, .nil, rfl⟩⟩
  have hvowel : ¬ EndsIn ["au", "ou", "uu"] (front ++ [c, 'u']) := not_endsIn hread (by decide)
  refine .inr (.inr ⟨?_, fun he => ?_, ?_⟩)
  · exact ⟨"u", List.mem_singleton_self _, front ++ [c], by simp⟩
  · have hlength := congrArg List.length he
    simp at hlength
  · rintro ⟨e, he, hsuffix⟩
    simp only [leftEndings, List.mem_cons, List.not_mem_nil, or_false] at he
    rcases he with rfl | rfl | rfl | rfl | rfl
    · exact hvowel ⟨"au", by decide, hsuffix⟩
    · exact hvowel ⟨"ou", by decide, hsuffix⟩
    · exact hvowel ⟨"uu", by decide, hsuffix⟩
    · exact hmenu ⟨"emu", by decide, hsuffix⟩
    · exact hmenu ⟨"enu", by decide, hsuffix⟩

theorem shapes_alias : Rule.Shapes ⟨[literal "alias", noneOf "aou" :: literal "us",
    [oneOf "t", oneOf "lm", oneOf "a", oneOf "s"], literal "gas", literal "ris"], [""], "es", false⟩ := by
  have hsound : ∀ word ∈ ["alias", "tlas", "tmas", "gas", "ris"], Sound "es" word "" := by decide
  have hwords : ∀ mid ∈ (["t", "lm", "a", "s"].map String.toList).sections, ∃ word ∈ ["tlas", "tmas"],
      mid = word.toList := by decide
  intro word out hout
  obtain ⟨ending, hending, stem, hstem, front, mid, rfl, rfl, hmid, -⟩ := Rule.exists_of_exchange? hout
  simp only [List.mem_cons, List.not_mem_nil, or_false] at hending hstem
  rw [hending]
  rcases hstem with rfl | rfl | rfl | rfl | rfl
  · rw [matches_literal.mp hmid]
    exact shape_of_sound (hsound "alias" (by decide)) front
  · obtain ⟨c, us, hc, hus, rfl⟩ := matches_cons.mp hmid
    rw [matches_literal.mp hus]
    have hclosed : Closed (front ++ [c, 'u'] ++ ['s'] ++ "es".toList) := .ending _ (by decide)
    have hshape := Shape.of_changed hclosed (by simp) (rereads_us hc front)
    simpa using hshape
  · obtain ⟨word, hword, rfl⟩ := hwords mid (mem_sections hmid)
    have hmem : ∀ word ∈ ["tlas", "tmas"], word ∈ ["alias", "tlas", "tmas", "gas", "ris"] := by decide
    exact shape_of_sound (hsound word (hmem word hword)) front
  · rw [matches_literal.mp hmid]
    exact shape_of_sound (hsound "gas" (by decide)) front
  · rw [matches_literal.mp hmid]
    exact shape_of_sound (hsound "ris" (by decide)) front

theorem shapes_bias : (Rule.keep [noneOf "l" :: literal "ias", oneOf "aeiou" :: literal "las",
    oneOf "ejzr" :: literal "as", oneOf "iu" :: literal "am"]).Shapes := by
  refine shapes_keep fun stem hstem front mid hmid => ?_
  simp only [List.mem_cons, List.not_mem_nil, or_false] at hstem
  rcases hstem with rfl | rfl | rfl | rfl
  · obtain ⟨c, ias, -, hias, rfl⟩ := matches_cons.mp hmid
    rw [matches_literal.mp hias] at hmid ⊢
    exact shape_of_kept [c, 'i', 'a'] hmid (by decide) front
  · obtain ⟨c, las, -, hlas, rfl⟩ := matches_cons.mp hmid
    rw [matches_literal.mp hlas] at hmid ⊢
    exact shape_of_kept [c, 'l', 'a'] hmid (by decide) front
  · obtain ⟨c, as, -, has, rfl⟩ := matches_cons.mp hmid
    rw [matches_literal.mp has] at hmid ⊢
    exact shape_of_kept [c, 'a'] hmid (by decide) front
  · refine shape_of_left hmid (by decide) (by decide) (.ending front ?_)
    have hall : ("iu".toList.all fun c => closing (c :: "am".toList)) = true := by decide
    obtain ⟨c, hc, am, ham, rfl⟩ := matches_oneOf.mp hmid
    rw [matches_literal.mp ham]
    exact List.all_eq_true.mp hall c hc

/-- Every rule but the last, which also adds the `s` that another rule changes. -/
theorem shapes_before_last : ∀ r ∈ rules.dropLast, r.Shapes := by
  simp only [rules, List.dropLast, List.forall_mem_cons]
  refine ⟨shapes_pokemon, shapes_people, shapes_literal ?_, shapes_literal ?_, shapes_literal ?_,
    shapes_radius, shapes_literal ?_, shapes_literal ?_, shapes_after ?_, shapes_literal ?_, shapes_after ?_,
    shapes_after ?_, shapes_mice, shapes_after ?_, shapes_after ?_, shapes_of_closing ?_ ?_,
    shapes_of_closing ?_ ?_, shapes_after ?_, shapes_after ?_, shapes_after ?_, shapes_after ?_,
    shapes_after ?_, shapes_after ?_, shapes_after ?_, shapes_after ?_, shapes_after ?_, shapes_bias,
    shapes_menu, shapes_alias, shapes_after ?_, shapes_foreign, List.forall_mem_nil _⟩ <;> decide +kernel

end Hypermedia.Plural
