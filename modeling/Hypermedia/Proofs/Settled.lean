import Hypermedia.Proofs.Shapes

/-!
# Plurals of plurals

A word in `s` is left by the rules exactly if what stands before the `s` does not reread. So the plural of a
word has another plural only where it is the word with an `s`: such words are unsettled, and all others settle.
-/

namespace Hypermedia.Plural

variable {word out front k v : List Char} {r : Rule}

/-! ### The last rule -/

theorem Rule.exchange?_isSome_append (hstart : r.wordStart = false) (h : (r.exchange? k).isSome = true)
    (front : List Char) : (r.exchange? (front ++ k)).isSome = true := by
  obtain ⟨out, hout⟩ := Option.isSome_iff_exists.mp h
  obtain ⟨ending, hending, stem, hstem, front', mid, rfl, -, hmid, -⟩ := Rule.exists_of_exchange? hout
  have hword : front ++ (front' ++ mid ++ ending.toList) = front ++ front' ++ mid ++ ending.toList := by simp
  rw [hword]
  refine Rule.exchange?_isSome hending hstem rfl hmid fun h => ?_
  rw [hstart] at h
  cases h

/-- Endings of words that the last rule does not come to. -/
def endingsBefore : List String :=
  ["ss", "sis", "alias", "tlas", "tmas", "gas", "ris", "axis", "testis", "alga", "viri", "uteri"]

theorem applies_before : ∀ k ∈ endingsBefore,
    ∃ r ∈ rules.dropLast, r.wordStart = false ∧ (r.exchange? k.toList).isSome = true := by
  decide

theorem exists_applies {ending : String} (h : ending ∈ endingsBefore) (front : List Char) :
    ∃ r ∈ rules.dropLast, (r.exchange? (front ++ ending.toList)).isSome = true := by
  obtain ⟨r, hr, hstart, happlies⟩ := applies_before ending h
  exact ⟨r, hr, Rule.exchange?_isSome_append hstart happlies front⟩

/-- A word that rereads is changed by another rule than the last. -/
theorem exists_applies_of_rereads (h : Rereads v) :
    ∃ r ∈ rules.dropLast, (r.exchange? (v ++ ['s'])).isSome = true := by
  rcases h with ⟨e, he, front, rfl⟩ | ⟨⟨e, he, front, rfl⟩, hlong, hvowel⟩
  · have hs : ∀ e ∈ changedEndings, ∃ k ∈ endingsBefore, k.toList = e.toList ++ ['s'] := by
      decide
    obtain ⟨k, hk, hks⟩ := hs e he
    rw [List.append_assoc, ← hks]
    exact exists_applies hk front
  · rw [List.mem_singleton.mp he] at hlong hvowel ⊢
    rcases List.eq_nil_or_concat front with rfl | ⟨front, c, rfl⟩
    · exact absurd rfl hlong
    have hc : noneOf "aou" c = true := by
      refine Bool.not_eq_true' _ |>.mpr (Bool.eq_false_iff.mpr fun hmem => hvowel ?_)
      have hall : ("aou".toList.all fun c => EndsIn leftEndings [c, 'u']) = true := by decide
      have hc := of_decide_eq_true (List.all_eq_true.mp hall c (List.contains_iff_mem.mp hmem))
      have hends := hc.append front
      rwa [List.concat_eq_append, List.append_assoc]
    have hword : front.concat c ++ "u".toList ++ ['s'] = front ++ [c, 'u', 's'] ++ "".toList := by simp
    have hus : Matches (noneOf "aou" :: literal "us") [c, 'u', 's'] :=
      matches_cons.mpr ⟨c, _, hc, matches_literal.mpr rfl, rfl⟩
    refine ⟨_, List.mem_of_getElem? (i := 28) rfl, ?_⟩
    exact Rule.exchange?_isSome (List.mem_singleton_self _) (List.mem_cons_of_mem _ (List.mem_cons_self ..))
      hword hus fun h => absurd h Bool.false_ne_true

theorem exchange?_last (word : List Char) : (Rule.after [""] ["s", ""] "s").exchange? word =
    some (if ['s'] <:+ word then word else word ++ ['s']) := by
  split
  · rename_i hs
    obtain ⟨v, rfl⟩ := hs
    have hread : before? (literal "s").reverse (v ++ ['s']).reverse = some v.reverse :=
      before?_reverse.mpr ⟨['s'], rfl, matches_literal.mpr rfl⟩
    simp only [Rule.exchange?, Rule.after, List.findSome?_cons, hread]
    rw [List.reverse_reverse]
    rfl
  · rename_i hs
    have hread : before? (literal "s").reverse word.reverse = none := by
      refine Option.eq_none_iff_forall_ne_some.mpr fun rest hrest => hs ?_
      rw [← List.reverse_reverse rest] at hrest
      obtain ⟨mid, hword, hmid⟩ := before?_reverse.mp hrest
      exact ⟨_, by rw [hword, matches_literal.mp hmid]; rfl⟩
    simp only [Rule.exchange?, Rule.after, List.findSome?_cons, hread]
    simp [Rule.fits, before?, literal]

theorem rules_eq : rules = rules.dropLast ++ [Rule.after [""] ["s", ""] "s"] := rfl

/-- Whatever the rules make of a word, it has one of the shapes. -/
theorem regular_shape (word : List Char) : Shape word (regular word) := by
  unfold regular
  rw [rules_eq, List.findSome?_append]
  cases h : rules.dropLast.findSome? fun r => r.exchange? word with
  | some out =>
    obtain ⟨r, hr, hout⟩ := List.exists_of_findSome?_eq_some h
    exact shapes_before_last r hr word out hout
  | none =>
    have hnone : ¬ ∃ r ∈ rules.dropLast, (r.exchange? word).isSome = true := by
      rintro ⟨r, hr, hsome⟩
      rw [List.findSome?_eq_none_iff.mp h r hr] at hsome
      cases hsome
    rw [Option.none_or, List.findSome?_cons, exchange?_last, Option.getD_some]
    split
    · rename_i hs
      obtain ⟨v, rfl⟩ := hs
      exact .kept fun hv => hnone (exists_applies_of_rereads hv)
    · rename_i hs
      refine .added ?_
      rintro ⟨e, he, front, rfl⟩
      rcases List.mem_cons.mp he with rfl | he
      · exact hs ⟨front, rfl⟩
      · have hbefore : ∀ e ∈ ["alga", "viri", "uteri"], e ∈ endingsBefore := by decide
        exact hnone (exists_applies (hbefore e he) front)

/-- A word in `s` is left but where the word before the `s` rereads. -/
theorem regular_eq_iff (v : List Char) : regular (v ++ ['s']) = v ++ ['s'] ↔ ¬ Rereads v := by
  have hmenu : ∀ e ∈ ["emu", "enu"], e ∈ leftEndings ∧ leaves (e.toList ++ ['s']) rules = true := by
    decide
  generalize hout : regular (v ++ ['s']) = out
  have hshape := regular_shape (v ++ ['s'])
  rw [hout] at hshape
  generalize hword : v ++ ['s'] = word at hshape
  cases hshape with
  | closed _ _ hv =>
    rcases hv v hword.symm with ⟨e, he, front, rfl⟩ | hiff
    · obtain ⟨hvowel, hleaves⟩ := hmenu e he
      refine iff_of_true ?_ (not_rereads_of_endsIn ⟨e, hvowel, front, rfl⟩)
      rw [← hout, ← hword, List.append_assoc]
      exact regular_of_leaves hleaves front
    · exact hiff
  | kept h =>
    obtain rfl := List.append_cancel_right hword
    exact iff_of_true rfl h
  | added h => exact absurd ⟨"s", List.mem_cons_self .., v, hword⟩ h

/-! ### Closed plurals -/

theorem Rule.keeps_keep (stems : List Stem) (word : List Char) : (Rule.keep stems).Keeps word := by
  intro out hout
  obtain ⟨ending, hending, -, -, front, mid, rfl, rfl, -, -⟩ := Rule.exists_of_exchange? hout
  rw [List.mem_singleton.mp hending]
  rfl

theorem Rule.keep_isSome {stem : Stem} {mid : List Char} (hmid : Matches stem mid) (front : List Char) :
    ((Rule.keep [stem]).exchange? (front ++ mid)).isSome = true :=
  Rule.exchange?_isSome (List.mem_singleton_self _) (List.mem_singleton_self _) (List.append_nil _).symm hmid
    fun h => absurd h Bool.false_ne_true

/-- A rule that leaves a word decides, if it applies and the rules before leave the word. -/
theorem regular_of_keeps_first (before : List Rule) {rest : List Rule} (hrules : rules = before ++ r :: rest)
    (hbefore : ∀ q ∈ before, q.Keeps word) (hr : r.Keeps word) (happlies : (r.exchange? word).isSome = true) :
    regular word = word := by
  unfold regular
  rw [hrules, List.findSome?_append]
  cases h : before.findSome? fun q => q.exchange? word with
  | some out =>
    obtain ⟨q, hq, hout⟩ := List.exists_of_findSome?_eq_some h
    exact hbefore q hq out hout
  | none =>
    obtain ⟨out, hout⟩ := Option.isSome_iff_exists.mp happlies
    rw [Option.none_or, List.findSome?_cons, hout]
    exact hr out hout

theorem Rule.excludes_of_endings {c : Char} (hc : 128 ≤ c.toNat)
    (h : (r.endings.all fun ending => ending.toList.getLast?.any (·.toNat < 128)) = true) :
    r.excludes [c] = true := by
  refine List.all_eq_true.mpr fun ending hending => List.all_eq_true.mpr fun stem _ => ?_
  have hlast := List.all_eq_true.mp h ending hending
  rcases List.eq_nil_or_concat ending.toList with hnil | ⟨front, x, hx⟩
  · rw [hnil] at hlast
    cases hlast
  · have hne : c ≠ x := by
      rintro rfl
      rw [hx, List.concat_eq_append, List.getLast?_concat] at hlast
      exact absurd hc (Nat.not_le_of_lt (of_decide_eq_true hlast))
    simp [reading, literal, hx, clashes, hne]

/-- The endings and stems before the rule for foreign words are in ASCII at their end. -/
theorem excludes_foreign {c : Char} (hc : 128 ≤ c.toNat) : ∀ r ∈ rules.take 30, r.excludes [c] = true := by
  have hne : ∀ x : Char, x.toNat < 128 → ¬ c = x := by
    rintro x hx rfl
    exact absurd hc (Nat.not_le_of_lt hx)
  simp only [rules, List.take, List.forall_mem_cons]
  and_intros <;> first
    | exact Rule.excludes_of_endings hc (by decide)
    | simp [Rule.excludes, Rule.keep, Rule.after, reading, literal, clashes, oneOf, hne]

theorem Closed.regular_eq (h : Closed out) : regular out = out := by
  cases h with
  | ending front h =>
    simp only [closing, Bool.and_eq_true] at h
    exact regular_of_leaves h.1.1.1 front
  | @people front c hc =>
    refine regular_of_keeps_first (rules.take 1) rfl ?_ (Rule.keeps_keep _ _) ?_
    · intro q hq
      rw [List.mem_singleton.mp hq]
      exact Rule.keeps_keep _ _
    · exact Rule.keep_isSome (matches_cons.mpr ⟨c, _, hc, matches_literal.mpr rfl, rfl⟩) front
  | @mice front stem hstem hstart =>
    have hleft : ∀ stem ∈ ["titm", "m", "l"], ∀ q ∈ rules.take 13,
        q.harmless (stem ++ "ice").toList = true := by
      decide
    have hkeeps : ∀ q ∈ rules.take 13, q.Keeps (front ++ (stem ++ "ice").toList) := fun q hq =>
      q.keeps_of_harmless (hleft stem hstem q hq) front
    refine regular_of_keeps_first (rules.take 12) rfl (fun q hq => hkeeps q ?_) (hkeeps _ ?_) ?_
    · exact (List.take_prefix_take_left (by decide : 12 ≤ 13)).subset hq
    · exact List.mem_of_getElem? (i := 12) rfl
    · rw [String.toList_append, ← List.append_assoc]
      exact Rule.exchange?_isSome (List.mem_cons_self ..) (List.mem_map_of_mem hstem) rfl
        (matches_literal.mpr rfl) fun _ => hstart
  | @foreign front c hc =>
    refine regular_of_keeps_first (rules.take 30) rfl ?_ (Rule.keeps_keep _ _) ?_
    · intro q hq out hout
      rw [q.exchange?_of_excludes (excludes_foreign hc q hq)] at hout
      cases hout
    · exact Rule.keep_isSome (matches_cons.mpr ⟨c, _, decide_eq_true hc, .nil, rfl⟩) front

theorem Closed.notMem (h : Closed out) : out ∉ ["canvas".toList, "genus".toList] := by
  intro hmem
  simp only [List.mem_cons, List.not_mem_nil, or_false] at hmem
  cases h with
  | ending front h =>
    simp only [closing, Bool.and_eq_true, Bool.not_eq_true', ← Bool.not_eq_true,
      List.isSuffixOf_iff_suffix] at h
    rcases hmem with hmem | hmem
    · exact h.1.2 ⟨front, hmem⟩
    · exact h.2 ⟨front, hmem⟩
  | @people front c hc => rcases hmem with hmem | hmem <;> simpa using congrArg List.getLast? hmem
  | @mice front stem hstem hstart => rcases hmem with hmem | hmem <;> simpa using congrArg List.getLast? hmem
  | @foreign front c hc =>
    have hs : c = 's' := by rcases hmem with hmem | hmem <;> simpa using congrArg List.getLast? hmem
    rw [hs] at hc
    exact absurd hc (by decide)

/-! ### Words and exceptions -/

/-- What has no plural, or is an irregular one. -/
def exceptions : List String := "" :: (uncountable ++ irregular.map (·.2))

/-- The plural of a single word in lower case. -/
def inflect (word : List Char) : List Char :=
  ((ofWord? (String.ofList word)).map String.toList).getD word

theorem ofWord?_eq_none_iff {word : String} : ofWord? word = none ↔ word ∈ exceptions := by
  simp only [exceptions, List.mem_cons, List.mem_append, ofWord?, String.isEmpty_iff, List.contains_iff_mem]
  split
  · rename_i h
    exact iff_of_true rfl h
  · rename_i h
    split <;> exact iff_of_false (Option.some_ne_none _) h

theorem inflect_of_mem (h : String.ofList word ∈ exceptions) : inflect word = word := by
  rw [inflect, ofWord?_eq_none_iff.mpr h]
  rfl

theorem inflect_of_notMem (h : String.ofList word ∉ exceptions) :
    (∃ x ∈ irregular, word = x.1.toList ∧ inflect word = x.2.toList) ∨
      (∀ x ∈ irregular, word ≠ x.1.toList) ∧ inflect word = regular word := by
  rw [← ofWord?_eq_none_iff] at h
  unfold inflect
  revert h
  unfold ofWord?
  split
  · exact fun h => absurd rfl h
  · intro _
    split
    · rename_i plural hx
      have hsingular := List.find?_some hx
      refine .inl ⟨_, List.mem_of_find?_eq_some hx, ?_, rfl⟩
      rw [beq_iff_eq.mp hsingular, String.toList_ofList]
    · rename_i hx
      refine .inr ⟨fun x hmem he => ?_, ?_⟩
      · refine List.find?_eq_none.mp hx x hmem (beq_iff_eq.mpr ?_)
        rw [he, String.ofList_toList]
      · rw [Option.map_some, Option.getD_some, String.toList_ofList, String.toList_ofList]

theorem inflect_exception {x : String} (h : x ∈ exceptions) : inflect x.toList = x.toList :=
  inflect_of_mem (by rwa [String.ofList_toList])

/-- What the irregular words keep to. Two of the singulars are left by the rules, and are the plurals of no
word that the rules settle. -/
structure IsIrregular (singular plural : List Char) : Prop where
  settled : ¬ Unsettled singular
  kept : regular singular = singular → singular ∈ ["canvas".toList, "genus".toList]
  added : ['s'] <:+ singular → Unsettled singular.dropLast ∧ plural ≠ singular
  notAdded_s : singular.head? = some 's' → ¬ ['s'] <:+ singular
  ne_sharp : singular.head? ≠ some 'ß'
  first : plural.head? = singular.head?
  small : plural.all Text.isSmallLetter = true

theorem isIrregular {x : String × String} (h : x ∈ irregular) : IsIrregular x.1.toList x.2.toList := by
  have hall : ∀ x ∈ irregular, ¬ Unsettled x.1.toList ∧
      (regular x.1.toList = x.1.toList → x.1.toList ∈ ["canvas".toList, "genus".toList]) ∧
      (['s'] <:+ x.1.toList → Unsettled x.1.toList.dropLast ∧ x.2.toList ≠ x.1.toList) ∧
      (x.1.toList.head? = some 's' → ¬ ['s'] <:+ x.1.toList) ∧
      x.1.toList.head? ≠ some 'ß' ∧ x.2.toList.head? = x.1.toList.head? ∧
      x.2.toList.all Text.isSmallLetter = true := by
    decide
  obtain ⟨hsettled, hkept, hadded, hs, hsharp, hfirst, hsmall⟩ := hall x h
  exact ⟨hsettled, hkept, hadded, hs, hsharp, hfirst, hsmall⟩

/-- What the words without another plural keep to. -/
structure IsException (word : List Char) : Prop where
  settled : ¬ Unsettled word
  added : ['s'] <:+ word → ¬ Unsettled word.dropLast
  added_s : word.head? = some 's' → ['s'] <:+ word → ¬ Rereads word.dropLast
  ne_sharp : word.head? ≠ some 'ß'

theorem isException (h : String.ofList word ∈ exceptions) : IsException word := by
  have hall : ∀ x ∈ exceptions, ¬ Unsettled x.toList ∧ (['s'] <:+ x.toList → ¬ Unsettled x.toList.dropLast) ∧
      (x.toList.head? = some 's' → ['s'] <:+ x.toList → ¬ Rereads x.toList.dropLast) ∧
      x.toList.head? ≠ some 'ß' := by
    decide +kernel
  obtain ⟨hsettled, hadded, hs, hsharp⟩ := hall _ h
  rw [String.toList_ofList] at hsettled hadded hs hsharp
  exact ⟨hsettled, hadded, hs, hsharp⟩

theorem Closed.inflect_eq (h : Closed out) : inflect out = out := by
  by_cases hmem : String.ofList out ∈ exceptions
  · exact inflect_of_mem hmem
  rcases inflect_of_notMem hmem with ⟨x, hx, rfl, -⟩ | ⟨-, he⟩
  · exact absurd ((isIrregular hx).kept h.regular_eq) h.notMem
  · rw [he, h.regular_eq]

theorem plurals_mem : ∀ x ∈ irregular, x.2 ∈ exceptions := fun _ hx =>
  List.mem_cons_of_mem _ (List.mem_append_right _ (List.mem_map_of_mem hx))

/-- Three words that reread, and two that do not, for what they are with an `s`. -/
theorem unsettled_exceptions :
    (∀ w ∈ ["manga".toList, "chassi".toList, "debri".toList],
      String.ofList w ∈ exceptions ∨ String.ofList (w ++ ['s']) ∈ exceptions) ∧
    ∀ w ∈ ["canva".toList, "genu".toList], (∃ x ∈ irregular, w ++ ['s'] = x.1.toList) ∧
      regular w ∈ ["canvas".toList, "genus".toList] := by
  decide

/-- A plural in `s` alone is left exactly if the word is settled. -/
theorem inflect_added_iff (hmem : String.ofList word ∉ exceptions) (h : ¬ EndsIn bareEndings word) :
    inflect (word ++ ['s']) = word ++ ['s'] ↔ ¬ Unsettled word := by
  by_cases hplural : String.ofList (word ++ ['s']) ∈ exceptions
  · have hsettled := (isException hplural).added ⟨word, rfl⟩
    rw [List.dropLast_concat] at hsettled
    exact iff_of_true (inflect_of_mem hplural) hsettled
  rcases inflect_of_notMem hplural with ⟨x, hx, he, hinflect⟩ | ⟨hnone, hinflect⟩
  · obtain ⟨hunsettled, hne⟩ := (isIrregular hx).added ⟨word, he⟩
    rw [← he, List.dropLast_concat] at hunsettled
    rw [hinflect, he]
    exact iff_of_false hne (not_not_intro hunsettled)
  · rw [hinflect, regular_eq_iff, not_iff_not]
    constructor
    · exact fun hr => .inr ⟨hr, h, fun hw => (unsettled_exceptions.1 word hw).elim hmem hplural⟩
    · rintro (hw | ⟨hr, -⟩)
      · obtain ⟨⟨x, hx, he⟩, -⟩ := unsettled_exceptions.2 word hw
        exact absurd he (hnone x hx)
      · exact hr

theorem not_unsettled_of_closed (hout : Closed (regular word))
    (hs : ¬ Rereads word ∨ EndsIn bareEndings word) : ¬ Unsettled word := by
  rintro (hw | ⟨hr, hends, -⟩)
  · exact hout.notMem (unsettled_exceptions.2 word hw).2
  · exact hs.elim (· hr) hends

theorem not_unsettled_of_s (v : List Char) : ¬ Unsettled (v ++ ['s']) := by
  rintro (hw | ⟨-, hends, -⟩)
  · simp only [List.mem_cons, List.not_mem_nil, or_false] at hw
    rcases hw with hw | hw <;> simpa using congrArg List.getLast? hw
  · exact hends ⟨"s", List.mem_cons_self .., v, rfl⟩

/-- The plural of a word is its own plural exactly if the word is settled. -/
theorem inflect_inflect_iff (word : List Char) :
    inflect (inflect word) = inflect word ↔ ¬ Unsettled word := by
  by_cases hmem : String.ofList word ∈ exceptions
  · rw [inflect_of_mem hmem]
    exact iff_of_true (inflect_of_mem hmem) (isException hmem).settled
  rcases inflect_of_notMem hmem with ⟨x, hx, rfl, hinflect⟩ | ⟨hnone, hinflect⟩
  · rw [hinflect]
    exact iff_of_true (inflect_exception (plurals_mem x hx)) (isIrregular hx).settled
  · rw [hinflect]
    have hshape := regular_shape word
    generalize hout : regular word = out at hshape
    cases hshape with
    | closed h hs => exact iff_of_true h.inflect_eq (not_unsettled_of_closed (hout ▸ h) hs)
    | kept h =>
      rw [hout] at hinflect
      exact iff_of_true hinflect (not_unsettled_of_s _)
    | added h => exact inflect_added_iff hmem h

end Hypermedia.Plural
