import Hypermedia.Schema.Plural

/-!
# Plurals of plain names

The plural of a name of ASCII letters, digits and underscores is such a name too, so it can stand in a
path. A plural is the name itself, an irregular plural, or what a rule makes of the name by its ending.
-/

namespace Hypermedia

namespace Text

/-- A letter or digit of ASCII, or the underscore. -/
def isNameChar (c : Char) : Bool :=
  ('a' ≤ c && c ≤ 'z') || ('A' ≤ c && c ≤ 'Z') || ('0' ≤ c && c ≤ '9') || c == '_'

def isSmallLetter (c : Char) : Bool := 'a' ≤ c && c ≤ 'z'

/-- A text of such characters that is not empty. -/
structure IsName (s : String) : Prop where
  nonempty : s ≠ ""
  chars : ∀ c ∈ s.toList, isNameChar c = true

instance (s : String) : Decidable (IsName s) :=
  decidable_of_iff (s ≠ "" ∧ s.toList.all isNameChar = true)
    ⟨fun h => ⟨h.1, List.all_eq_true.mp h.2⟩, fun h => ⟨h.nonempty, List.all_eq_true.mpr h.chars⟩⟩

/-! ### ASCII characters one by one -/

theorem ascii_of_isNameChar {c : Char} (h : isNameChar c = true) : c.toNat < 128 := by
  simp only [isNameChar, Bool.or_eq_true, Bool.and_eq_true, decide_eq_true_eq, beq_iff_eq, Char.le_def,
    UInt32.le_iff_toNat_le] at h
  rcases h with ((h | h) | h) | rfl
  · exact Nat.lt_of_le_of_lt h.2 (by decide)
  · exact Nat.lt_of_le_of_lt h.2 (by decide)
  · exact Nat.lt_of_le_of_lt h.2 (by decide)
  · decide

/-- What holds of the first 128 characters holds of every character of a name. -/
theorem forall_nameChar {P : Char → Prop} (h : ∀ n < 128, isNameChar (Char.ofNat n) = true → P (Char.ofNat n))
    {c : Char} (hc : isNameChar c = true) : P c := by
  have hn := h c.toNat (ascii_of_isNameChar hc)
  rw [Char.ofNat_toNat] at hn
  exact hn hc

theorem lowerChar_of_isNameChar {c : Char} (h : isNameChar c = true) :
    c.toNat ≠ 0x3A3 ∧ ∀ x ∈ lowerChar c, isNameChar x = true := by
  have hall : c.toNat ≠ 0x3A3 ∧ (lowerChar c).all isNameChar = true :=
    forall_nameChar (P := fun c => c.toNat ≠ 0x3A3 ∧ (lowerChar c).all isNameChar = true)
      (by decide) h
  exact ⟨hall.1, List.all_eq_true.mp hall.2⟩

/-- The upper case of a character of a name is one that is no lower-case letter. -/
theorem upperChar_of_isNameChar {c : Char} (h : isNameChar c = true) :
    upperChar c ≠ [] ∧ ∀ x ∈ upperChar c, isNameChar x = true ∧ isSmallLetter x = false := by
  have hall : upperChar c ≠ [] ∧ (upperChar c).all (fun x => isNameChar x && !isSmallLetter x) = true :=
    forall_nameChar
      (P := fun c => upperChar c ≠ [] ∧ (upperChar c).all (fun x => isNameChar x && !isSmallLetter x) = true)
      (by decide) h
  refine ⟨hall.1, fun x hx => ?_⟩
  have hx := List.all_eq_true.mp hall.2 x hx
  rwa [Bool.and_eq_true, Bool.not_eq_true'] at hx

/-- Only a capital sigma has more than one lower case. -/
theorem lowerFrom_of_ne_sigma {cs : List Char} (h : ∀ c ∈ cs, c.toNat ≠ 0x3A3) (before : List Char) :
    lowerFrom before cs = cs.flatMap lowerChar := by
  induction cs generalizing before with
  | nil => rfl
  | cons c cs ih =>
    rw [lowerFrom, if_neg (h c (List.mem_cons_self ..)), ih (fun x hx => h x (List.mem_cons_of_mem _ hx)),
      List.flatMap_cons]

theorem isNameChar_lower {cs : List Char} (h : ∀ c ∈ cs, isNameChar c = true) :
    ∀ c ∈ (lower (String.ofList cs)).toList, isNameChar c = true := by
  intro c hc
  rw [lower, String.toList_ofList, String.toList_ofList,
    lowerFrom_of_ne_sigma fun c hc => (lowerChar_of_isNameChar (h c hc)).1] at hc
  obtain ⟨x, hx, hc⟩ := List.mem_flatMap.mp hc
  exact (lowerChar_of_isNameChar (h x hx)).2 c hc

end Text

namespace Plural

open Text (isNameChar isSmallLetter IsName)

/-! ### Rules -/

theorem before?_eq_some {stem : Stem} {cs rest : List Char} (h : before? stem cs = some rest) :
    rest <:+ cs := by
  induction stem generalizing cs with
  | nil =>
    cases h
    exact List.suffix_refl _
  | cons p stem ih =>
    cases cs with
    | nil => cases h
    | cons c cs =>
      simp only [before?] at h
      split at h
      · exact (ih h).trans (List.suffix_cons c cs)
      · cases h

/-- A rule exchanges the end of a word for its own ending. -/
theorem Rule.exchange?_eq_some {r : Rule} {word out : List Char} (h : r.exchange? word = some out) :
    ∃ ending ∈ r.endings, ∃ stem, stem <+: word ∧ out = stem ++ r.plural.toList ∧
      (ending = "" → stem = word) := by
  obtain ⟨ending, hending, h⟩ := List.exists_of_findSome?_eq_some h
  split at h
  · rename_i rest hrest
    split at h
    · cases h
      have hsuffix := List.reverse_prefix.mpr (before?_eq_some hrest)
      rw [List.reverse_reverse] at hsuffix
      refine ⟨ending, hending, rest.reverse, hsuffix, rfl, ?_⟩
      rintro rfl
      cases hrest
      exact List.reverse_reverse word
    · cases h
  · cases h

/-- Only the rules that keep a word have no ending of their own. -/
theorem keeps_of_no_ending : ∀ r ∈ rules, r.plural = "" → r.endings = [""] := by
  decide

theorem regular_eq (word : List Char) : regular word = word ∨ ∃ r ∈ rules, r.plural ≠ "" ∧
    ∃ stem, stem <+: word ∧ regular word = stem ++ r.plural.toList := by
  unfold regular
  cases h : rules.findSome? fun r => r.exchange? word with
  | none => exact .inl rfl
  | some out =>
    obtain ⟨r, hr, hout⟩ := List.exists_of_findSome?_eq_some h
    obtain ⟨ending, hending, stem, hstem, rfl, hwhole⟩ := Rule.exchange?_eq_some hout
    by_cases hplural : r.plural = ""
    · rw [keeps_of_no_ending r hr hplural, List.mem_singleton] at hending
      refine .inl ?_
      rw [Option.getD_some, hplural, hwhole hending]
      exact List.append_nil word
    · exact .inr ⟨r, hr, hplural, stem, hstem, rfl⟩

/-! ### Words -/

theorem isName_irregular : ∀ x ∈ irregular, x.2 ≠ "" ∧ x.2.toList.all isNameChar = true := by
  decide

theorem isNameChar_rules : ∀ r ∈ rules, r.plural.toList.all isNameChar = true := by
  decide

theorem isName_regular {word : List Char} (hne : word ≠ []) (h : ∀ c ∈ word, isNameChar c = true) :
    regular word ≠ [] ∧ ∀ c ∈ regular word, isNameChar c = true := by
  rcases regular_eq word with he | ⟨r, hr, hplural, stem, hstem, he⟩
  · rw [he]
    exact ⟨hne, h⟩
  · rw [he]
    refine ⟨fun hnil => hplural ?_, fun c hc => ?_⟩
    · exact String.toList_eq_nil_iff.mp (List.append_eq_nil_iff.mp hnil).2
    · rcases List.mem_append.mp hc with hc | hc
      · exact h c (hstem.subset hc)
      · exact List.all_eq_true.mp (isNameChar_rules r hr) c hc

/-- A plural is irregular, or follows the rules from a word that has one. -/
theorem ofWord?_eq_some {word plural : String} (h : ofWord? word = some plural) :
    (∃ x ∈ irregular, x.2 = plural) ∨
      word ≠ "" ∧ word ∉ uncountable ∧ plural = String.ofList (regular word.toList) := by
  unfold ofWord? at h
  split at h
  · cases h
  · rename_i hword
    simp only [not_or, Bool.not_eq_true, List.contains_eq_mem, decide_eq_false_iff_not] at hword
    split at h
    · rename_i x plural' hx
      cases h
      exact .inl ⟨_, List.mem_of_find?_eq_some hx, rfl⟩
    · cases h
      refine .inr ⟨?_, hword.2.1, rfl⟩
      rintro rfl
      exact absurd hword.1 (by decide)

theorem isName_ofWord? {word plural : String} (h : ofWord? word = some plural)
    (hword : ∀ c ∈ word.toList, isNameChar c = true) : IsName plural := by
  rcases ofWord?_eq_some h with ⟨x, hx, rfl⟩ | ⟨hne, -, rfl⟩
  · obtain ⟨hne, hchars⟩ := isName_irregular x hx
    exact ⟨hne, List.all_eq_true.mp hchars⟩
  · obtain ⟨hregular, hchars⟩ := isName_regular (fun hnil => hne (String.toList_eq_nil_iff.mp hnil)) hword
    refine ⟨fun he => hregular ?_, fun c hc => hchars c ?_⟩
    · exact (String.toList_ofList (l := regular word.toList)).symm.trans (congrArg String.toList he)
    · rwa [String.toList_ofList] at hc

/-! ### Names -/

/-- A word may begin at this place: at the front, after an underscore, or at a capital. -/
def BeginsWord (name : List Char) (start : Nat) : Prop :=
  start = 0 ∨ '_' ∈ name.take start ∨ (name.drop start).head?.any Text.isUpper = true

theorem beginsWord_lastWordFrom {before cs : List Char} {start : Nat}
    (h : BeginsWord (before ++ cs) start) :
    BeginsWord (before ++ cs) (lastWordFrom start before.length cs) := by
  induction cs generalizing before start with
  | nil => exact h
  | cons c cs ih =>
    have hnext : before ++ c :: cs = (before ++ [c]) ++ cs := by simp
    have hlength : before.length + 1 = (before ++ [c]).length := by simp
    rw [lastWordFrom, hlength, hnext]
    refine ih ?_
    rw [← hnext, ← hlength]
    split
    · exact h
    split
    · rename_i hc
      refine .inr (.inl ?_)
      rw [hnext, hlength, List.take_left, hc]
      simp
    split
    · rename_i hupper
      refine .inr (.inr ?_)
      rw [List.drop_left]
      exact hupper
    · exact h

theorem cutLastWord_spec (name : List Char) : ∃ head tail, cutLastWord name = (head, tail) ∧
    head ++ tail = name ∧ (head = [] ∨ '_' ∈ head ∨ tail.head?.any Text.isUpper = true) := by
  have hbegins : BeginsWord name (lastWordFrom 0 0 name) :=
    @beginsWord_lastWordFrom [] name 0 (.inl rfl)
  refine ⟨_, _, List.splitAt_eq .., List.take_append_drop .., hbegins.imp_left fun h => ?_⟩
  rw [h, List.take_zero]

section
variable {name : String} (h : IsName name)

include h

/-- The plural of a name is the name, or what comes before its last word with the plural of that. -/
theorem ofName_cases : ofName name = name ∨ ∃ head word plural,
    (∀ c ∈ head, isNameChar c = true) ∧ IsName plural ∧ ofWord? word = some plural ∧
      (ofName name = String.ofList (head ++ capitalized plural.toList) ∨
        (head = [] ∨ '_' ∈ head) ∧ ofName name = String.ofList (head ++ plural.toList)) := by
  obtain ⟨head, tail, hcut, hsplit, hwhere⟩ := cutLastWord_spec name.toList
  have hchars : ∀ c ∈ head ++ tail, isNameChar c = true := hsplit ▸ h.chars
  have htail := Text.isNameChar_lower fun c hc => hchars c (List.mem_append_right _ hc)
  unfold ofName
  rw [hcut]
  dsimp only
  cases hplural : ofWord? (Text.lower (String.ofList tail)) with
  | none => exact .inl rfl
  | some plural =>
    refine .inr ⟨head, _, plural, fun c hc => hchars c (List.mem_append_left _ hc),
      isName_ofWord? hplural htail, hplural, ?_⟩
    dsimp only
    split
    · exact .inl rfl
    · rename_i hupper
      exact .inr ⟨hwhere.imp_right fun h => h.resolve_right hupper, rfl⟩

end

theorem capitalized_of_isName {plural : String} (h : IsName plural) :
    (∀ c ∈ capitalized plural.toList, isNameChar c = true) ∧
      ∃ c ∈ capitalized plural.toList, isSmallLetter c = false := by
  cases hp : plural.toList with
  | nil => exact absurd (String.toList_eq_nil_iff.mp hp) h.nonempty
  | cons c cs =>
    have hchars : ∀ x ∈ c :: cs, isNameChar x = true := hp ▸ h.chars
    obtain ⟨hne, hupper⟩ := Text.upperChar_of_isNameChar (hchars c (List.mem_cons_self ..))
    refine ⟨fun x hx => ?_, ?_⟩
    · rcases List.mem_append.mp hx with hx | hx
      · exact (hupper x hx).1
      · exact hchars x (List.mem_cons_of_mem _ hx)
    · obtain ⟨x, hx⟩ := List.exists_mem_of_ne_nil _ hne
      exact ⟨x, List.mem_append_left _ hx, (hupper x hx).2⟩

theorem isName_append {head cs : List Char} (hhead : ∀ c ∈ head, isNameChar c = true) (hne : cs ≠ [])
    (hcs : ∀ c ∈ cs, isNameChar c = true) : IsName (String.ofList (head ++ cs)) := by
  refine ⟨fun he => hne ?_, fun c hc => ?_⟩
  · have hnil := congrArg String.toList he
    rw [String.toList_ofList] at hnil
    exact (List.append_eq_nil_iff.mp hnil).2
  · rw [String.toList_ofList] at hc
    exact (List.mem_append.mp hc).elim (hhead c) (hcs c)

theorem isName_ofName {name : String} (h : IsName name) : IsName (ofName name) := by
  rcases ofName_cases h with he | ⟨head, word, plural, hhead, hplural, -, he | ⟨-, he⟩⟩
  · rwa [he]
  · obtain ⟨hchars, c, hc, -⟩ := capitalized_of_isName hplural
    rw [he]
    exact isName_append hhead (List.ne_nil_of_mem hc) hchars
  · rw [he]
    refine isName_append hhead (fun hnil => hplural.nonempty ?_) hplural.chars
    exact String.toList_eq_nil_iff.mp hnil

/-- A text of lower-case letters that no exception and no rule ends in is the plural of itself at the
most. -/
theorem eq_of_ofName_eq {text : String} (hlower : ∀ c ∈ text.toList, isSmallLetter c = true)
    (hirregular : ∀ x ∈ irregular, x.2 ≠ text)
    (hrules : ∀ r ∈ rules, r.plural ≠ "" → ¬ r.plural.toList <:+ text.toList)
    (hregular : text ∈ uncountable ∨ regular text.toList ≠ text.toList) {name : String}
    (h : IsName name) (he : ofName name = text) : name = text := by
  rcases ofName_cases h with hname | ⟨head, word, plural, -, hplural, hword, hname | ⟨hhead, hname⟩⟩
  · rw [← hname, he]
  · -- A capital would be left in the text.
    obtain ⟨-, c, hc, hcapital⟩ := capitalized_of_isName hplural
    have hmem : c ∈ text.toList := by
      rw [← he, hname, String.toList_ofList]
      exact List.mem_append_right _ hc
    exact absurd (hlower c hmem) (Bool.not_eq_true _ ▸ hcapital)
  · have htext : text.toList = head ++ plural.toList := by
      rw [← he, hname, String.toList_ofList]
    have hnil : head = [] := by
      refine hhead.resolve_right fun hm => ?_
      exact absurd (hlower '_' (htext ▸ List.mem_append_left _ hm)) (by decide)
    rw [hnil, List.nil_append] at htext
    obtain rfl : text = plural := String.toList_injective htext
    rcases ofWord?_eq_some hword with ⟨x, hx, hx'⟩ | ⟨-, hcountable, hreg⟩
    · exact absurd hx' (hirregular x hx)
    · have hchars : text.toList = regular word.toList := by
        rw [hreg, String.toList_ofList]
      rcases regular_eq word.toList with hsame | ⟨r, hr, hr', stem, -, hout⟩
      · obtain rfl : text = word := String.toList_injective (hchars.trans hsame)
        rcases hregular with hm | hne
        · exact absurd hm hcountable
        · exact absurd hsame hne
      · exact absurd ⟨stem, (hchars.trans hout).symm⟩ (hrules r hr hr')

theorem eq_health_of_ofName {name : String} (h : IsName name) (he : ofName name = "health") :
    name = "health" :=
  eq_of_ofName_eq (List.all_eq_true.mp (by decide)) (by decide) (by decide) (.inl (by decide)) h he

theorem ofName_ne_version {name : String} (h : IsName name) : ofName name ≠ "version" := by
  intro he
  have hname := eq_of_ofName_eq (List.all_eq_true.mp (by decide)) (by decide) (by decide)
    (.inr (by decide)) h he
  rw [hname] at he
  exact absurd he (by decide)

end Plural

end Hypermedia
