import Mathlib.Data.List.Induction
import Hypermedia.Proofs.Initials

/-!
# Plurals of names

A name is cut before its last capital, or after its last underscore. So the cut stays where it is when the
last word is exchanged for another one of small letters, up to its first. What settles the plural of a word
settles that of a name.
-/

namespace Hypermedia.Plural

open Text (isUpper lowerChar upperChar lowerFrom IsLowered)

variable {name head tail cs : List Char} {c : Char}

/-! ### The cut -/

theorem lastWordFrom_concat (start i : Nat) : lastWordFrom start i (cs ++ [c]) =
    if i + cs.length = 0 then lastWordFrom start i cs
    else if c = '_' then i + cs.length + 1
    else if isUpper c then i + cs.length
    else lastWordFrom start i cs := by
  induction cs generalizing start i with
  | nil => rfl
  | cons d cs ih =>
    rw [List.cons_append, lastWordFrom, ih, lastWordFrom, List.length_cons, Nat.add_assoc, Nat.add_comm 1]

theorem lastWordFrom_le (cs : List Char) {start i : Nat} (h : start ≤ i) :
    lastWordFrom start i cs ≤ i + cs.length := by
  induction cs using List.reverseRecOn with
  | nil => exact h
  | append_singleton cs c ih =>
    rw [lastWordFrom_concat, List.length_append, List.length_singleton]
    split
    · omega
    split
    · omega
    split <;> omega

/-- What one more character does to the cut. -/
theorem cutLastWord_concat (name : List Char) (c : Char) : cutLastWord (name ++ [c]) =
    if name = [] then ([], [c])
    else if c = '_' then (name ++ [c], [])
    else if isUpper c then (name, [c])
    else ((cutLastWord name).1, (cutLastWord name).2 ++ [c]) := by
  have hle : lastWordFrom 0 0 name ≤ name.length := by
    simpa using lastWordFrom_le name (Nat.le_refl 0)
  simp only [cutLastWord, lastWordFrom_concat, Nat.zero_add, List.length_eq_zero_iff, List.splitAt_eq]
  split
  · rename_i h
    rw [h]
    rfl
  split
  · simp [List.take_of_length_le]
  split
  · simp
  · rw [List.take_append_of_le_length hle, List.drop_append_of_le_length hle]

theorem cutLastWord_append (name : List Char) : (cutLastWord name).1 ++ (cutLastWord name).2 = name := by
  rw [cutLastWord, List.splitAt_eq]
  exact List.take_append_drop ..

/-- A character that no word begins at. -/
def IsInner (c : Char) : Prop := isUpper c = false ∧ c ≠ '_'

theorem isUpper_underscore : isUpper '_' = false := by decide

theorem cutLastWord_inner (h : IsInner c) (hname : name ≠ []) :
    cutLastWord (name ++ [c]) = ((cutLastWord name).1, (cutLastWord name).2 ++ [c]) := by
  rw [cutLastWord_concat, if_neg hname, if_neg h.2, if_neg (Bool.not_eq_true _ ▸ h.1)]

theorem cutLastWord_capital (h : isUpper c = true) (head : List Char) :
    cutLastWord (head ++ [c]) = (head, [c]) := by
  have hc : c ≠ '_' := by
    rintro rfl
    rw [isUpper_underscore] at h
    cases h
  rw [cutLastWord_concat, if_neg hc, if_pos h]
  split
  · rename_i hnil
    rw [hnil]
  · rfl

/-- Inner characters go to the last word. -/
theorem cutLastWord_append_inner (h : ∀ x ∈ cs, IsInner x) (hcut : cutLastWord name = (head, tail))
    (hname : name ≠ []) : cutLastWord (name ++ cs) = (head, tail ++ cs) := by
  induction cs using List.reverseRecOn with
  | nil => rw [List.append_nil, List.append_nil, hcut]
  | append_singleton cs c ih =>
    have hcs := ih fun x hx => h x (List.mem_append_left _ hx)
    have hne : name ++ cs ≠ [] := List.append_ne_nil_of_left_ne_nil hname cs
    rw [← List.append_assoc, cutLastWord_inner (h c (by simp)) hne, hcs, List.append_assoc]

/-- A last word begins where the cut would be after its first character alone. -/
theorem cutLastWord_cons (hcut : cutLastWord name = (head, c :: cs)) :
    cutLastWord (head ++ [c]) = (head, [c]) ∧ ∀ x ∈ cs, IsInner x := by
  induction name using List.reverseRecOn generalizing cs with
  | nil => cases hcut
  | append_singleton name d ih =>
    by_cases hname : name = []
    · rw [hname] at hcut
      cases hcut
      exact ⟨rfl, by simp⟩
    by_cases hupper : isUpper d = true
    · rw [cutLastWord_capital hupper] at hcut
      cases hcut
      exact ⟨cutLastWord_capital hupper _, by simp⟩
    by_cases hd : d = '_'
    · rw [cutLastWord_concat, if_neg hname, if_pos hd] at hcut
      cases hcut
    have hinner : IsInner d := ⟨Bool.eq_false_iff.mpr hupper, hd⟩
    have hname' := cutLastWord_append name
    rw [cutLastWord_inner hinner hname] at hcut
    obtain ⟨hhead, htail⟩ := Prod.mk.inj hcut
    cases hlast : (cutLastWord name).2 with
    | nil =>
      rw [hlast] at htail hname'
      cases htail
      rw [List.append_nil, hhead] at hname'
      subst hname'
      rw [cutLastWord_inner hinner hname, hhead, hlast]
      exact ⟨rfl, by simp⟩
    | cons c' cs' =>
      rw [hlast, List.cons_append] at htail
      obtain ⟨rfl, rfl⟩ := List.cons.inj htail
      obtain ⟨hfirst, hcs⟩ := ih (Prod.ext hhead hlast)
      refine ⟨hfirst, fun x hx => (List.mem_append.mp hx).elim (hcs x) fun hx => ?_⟩
      rwa [List.mem_singleton.mp hx]

/-- The first character of the last word may give way to one that is no capital either. -/
theorem cutLastWord_small {d : Char} (hcut : cutLastWord (head ++ [c]) = (head, [c])) (hc : isUpper c = false)
    (hd : isUpper d = false) (hunderscore : d = '_' → c = '_') : cutLastWord (head ++ [d]) = (head, [d]) := by
  by_cases hhead : head = []
  · rw [hhead]
    rfl
  by_cases hc' : c = '_'
  · rw [cutLastWord_concat, if_neg hhead, if_pos hc'] at hcut
    cases (Prod.mk.inj hcut).2
  have hend := cutLastWord_inner ⟨hc, hc'⟩ hhead
  rw [hcut] at hend
  obtain ⟨hfirst, hrest⟩ := Prod.mk.inj hend
  have hnil : (cutLastWord head).2 = [] := by simpa using hrest
  rw [cutLastWord_inner ⟨hd, fun h => hc' (hunderscore h)⟩ hhead, ← hfirst, hnil]
  rfl

/-! ### Lower case of a word -/

theorem ne_sigma_of_inner (h : IsInner c) : c.toNat ≠ 0x3A3 := by
  intro hc
  have hsigma : c = 'Σ' := Char.toNat_inj.mp hc
  rw [hsigma, IsInner, Text.lowerChar_sigma.1] at h
  cases h.1

/-- A sigma stands first in its word, so it is none that ends a word. -/
theorem lowerFrom_word (hcs : ∀ x ∈ cs, IsInner x) (c : Char) :
    lowerFrom [] (c :: cs) = lowerChar c ++ cs.flatMap lowerChar := by
  rw [lowerFrom, Text.lowerFrom_of_ne_sigma fun x hx => ne_sigma_of_inner (hcs x hx)]
  split
  · rename_i hc
    have hsigma : c = 'Σ' := Char.toNat_inj.mp hc
    rw [hsigma, Text.lowerChar_sigma.2]
    rfl
  · rfl

/-- Characters that a change to lower case leaves, and that no word begins at. -/
structure IsSmall (cs : List Char) : Prop where
  lowered : ∀ c ∈ cs, IsLowered c
  ne_underscore : ∀ c ∈ cs, c ≠ '_'

theorem IsSmall.isInner (h : IsSmall cs) : ∀ c ∈ cs, IsInner c := fun c hc =>
  ⟨(h.lowered c hc).notUpper, h.ne_underscore c hc⟩

theorem IsSmall.lower_eq (h : IsSmall cs) : cs.flatMap lowerChar = cs := by
  rw [List.flatMap_congr fun c hc => (h.lowered c hc).lower]
  exact List.flatMap_singleton' cs

theorem isSmall_lower (h : ∀ c ∈ cs, IsInner c) : IsSmall (cs.flatMap lowerChar) := by
  refine ⟨fun d hd => ?_, fun d hd he => ?_⟩
  all_goals obtain ⟨c, hc, hd⟩ := List.mem_flatMap.mp hd
  · exact (Text.isLowered_of_mem_lowerChar (h c hc).1 hd).1
  · exact (h c hc).2 ((Text.isLowered_of_mem_lowerChar (h c hc).1 hd).2 he)

theorem isSmall_letter {c : Char} (h : Text.isSmallLetter c = true) : IsLowered c ∧ c ≠ '_' := by
  have hascii : c.toNat < 128 := by
    simp only [Text.isSmallLetter, Bool.and_eq_true, decide_eq_true_eq, Char.le_def,
      UInt32.le_iff_toNat_le] at h
    exact Nat.lt_of_le_of_lt h.2 (by decide)
  have hall := Text.forall_ascii (P := fun c => Text.isSmallLetter c = true →
    isUpper c = false ∧ lowerChar c = [c] ∧ c ≠ '_') (by decide) hascii h
  exact ⟨⟨hall.1, hall.2.1⟩, hall.2.2⟩

/-- The plural of a word of small letters is one, behind the first letter. -/
theorem inflect_small (h : IsSmall cs) (c : Char) : ∃ cs', inflect (c :: cs) = c :: cs' ∧ IsSmall cs' := by
  obtain ⟨cs', hcs', hmem⟩ := inflect_cons c cs
  refine ⟨cs', hcs', fun x hx => ?_, fun x hx => ?_⟩
  · exact (hmem x hx).elim (h.lowered x) fun hx => (isSmall_letter hx).1
  · exact (hmem x hx).elim (h.ne_underscore x) fun hx => (isSmall_letter hx).2

/-! ### Plurals of names -/

theorem ofName_eq (hcut : cutLastWord name = (head, tail)) : ofName (String.ofList name) =
    if String.ofList (lowerFrom [] tail) ∈ exceptions then String.ofList name
    else String.ofList (head ++ if tail.head?.any isUpper = true
      then capitalized (inflect (lowerFrom [] tail)) else inflect (lowerFrom [] tail)) := by
  unfold ofName
  simp only [String.toList_ofList, hcut, Text.lower]
  cases hword : ofWord? (String.ofList (lowerFrom [] tail)) with
  | none => rw [if_pos (ofWord?_eq_none_iff.mp hword)]
  | some plural =>
    have hnot : String.ofList (lowerFrom [] tail) ∉ exceptions := by
      rw [← ofWord?_eq_none_iff, hword]
      exact Option.some_ne_none _
    rw [if_neg hnot, inflect, hword]
    rfl

/-- A name is its plural if its last word is, where the first letter comes back from its lower case. -/
theorem ofName_eq_self_iff (small : Char) (hcut : cutLastWord (head ++ [c]) = (head, [c]))
    (hlower : lowerChar c = [small]) (hupper : (if isUpper c = true then upperChar small else [small]) = [c])
    (hcs : IsSmall cs) : ofName (String.ofList (head ++ c :: cs)) = String.ofList (head ++ c :: cs) ↔
      inflect (small :: cs) = small :: cs := by
  have hcut' : cutLastWord (head ++ c :: cs) = (head, c :: cs) := by
    simpa using cutLastWord_append_inner hcs.isInner hcut (by simp)
  have hword : lowerFrom [] (c :: cs) = small :: cs := by
    rw [lowerFrom_word hcs.isInner, hlower, hcs.lower_eq]
    rfl
  rw [ofName_eq hcut', hword]
  split
  · rename_i hmem
    exact iff_of_true rfl (inflect_of_mem hmem)
  · obtain ⟨cs', hinflect, -⟩ := inflect_cons small cs
    have hshown : (if (c :: cs).head?.any isUpper = true then capitalized (small :: cs') else small :: cs') =
        c :: cs' := by
      rw [List.head?_cons, Option.any_some]
      split at hupper
      · rename_i h
        rw [if_pos h, capitalized, hupper]
        rfl
      · rename_i h
        rw [if_neg h, (List.cons.inj hupper).1]
    rw [hinflect, hshown, String.ofList_inj, List.append_right_inj, List.cons.injEq, List.cons.injEq]
    simp

/-- The last word of a name, in lower case. -/
def lastWord (name : String) : List Char := lowerFrom [] (cutLastWord name.toList).2

/-- The last word begins with a capital sharp s, and the second letter of its two begins a singular. -/
def SharpLast (name : String) : Prop :=
  (cutLastWord name.toList).2.head? = some 'ẞ' ∧ SharpSingular (lastWord name)

instance (name : String) : Decidable (SharpLast name) :=
  inferInstanceAs (Decidable (_ ∧ _))

/-- But for capitals, a character has one lower case. -/
theorem lowerChar_of_notUpper (h : isUpper c = false) :
    ∃ small, lowerChar c = [small] ∧ IsLowered small ∧ (small = '_' → c = '_') := by
  obtain ⟨small, hsmall⟩ : ∃ small, lowerChar c = [small] := by
    unfold lowerChar
    split
    · exact ⟨_, rfl⟩
    split
    · rename_i hdot
      have hc : c = 'İ' := Char.toNat_inj.mp hdot
      rw [hc, Text.dotted.2.1] at h
      cases h
    · exact ⟨_, rfl⟩
  refine ⟨small, hsmall, Text.isLowered_of_mem_lowerChar h ?_⟩
  rw [hsmall]
  exact List.mem_singleton_self _

section
variable (hcut : cutLastWord name = (head, c :: cs))

include hcut

theorem ofName_of_cut (hmem : String.ofList (lowerFrom [] (c :: cs)) ∉ exceptions) :
    ofName (String.ofList name) = String.ofList (head ++ if isUpper c = true
      then capitalized (inflect (lowerChar c ++ cs.flatMap lowerChar))
      else inflect (lowerChar c ++ cs.flatMap lowerChar)) := by
  have hname := (ofName_eq hcut).trans (if_neg hmem)
  rwa [lowerFrom_word (cutLastWord_cons hcut).2, List.head?_cons, Option.any_some] at hname

/-- After a small letter the plural has a small letter again. -/
theorem again_of_small (hmem : String.ofList (lowerFrom [] (c :: cs)) ∉ exceptions) (hc : isUpper c = false) :
    ofName (ofName (String.ofList name)) = ofName (String.ofList name) ↔
      ¬ Unsettled (lowerFrom [] (c :: cs)) := by
  obtain ⟨hfirst, hcs⟩ := cutLastWord_cons hcut
  obtain ⟨small, hlower, hlowered, hunderscore⟩ := lowerChar_of_notUpper hc
  obtain ⟨cs', hinflect, hcs'⟩ := inflect_small (isSmall_lower hcs) small
  have hnot : ¬ isUpper small = true := Bool.not_eq_true _ ▸ hlowered.notUpper
  rw [← inflect_inflect_iff, ofName_of_cut hcut hmem, lowerFrom_word hcs, hlower, List.singleton_append,
    hinflect, if_neg (Bool.not_eq_true _ ▸ hc)]
  exact ofName_eq_self_iff small (cutLastWord_small hfirst hc hlowered.notUpper hunderscore) hlowered.lower
    (if_neg hnot) hcs'

/-- After a capital the plural has the capital of its lower case, which has the same lower case. -/
theorem again_of_capital (hmem : String.ofList (lowerFrom [] (c :: cs)) ∉ exceptions) (hc : isUpper c = true)
    (hsharp : c ≠ 'ẞ') : ofName (ofName (String.ofList name)) = ofName (String.ofList name) ↔
      ¬ Unsettled (lowerFrom [] (c :: cs)) := by
  obtain ⟨-, hcs⟩ := cutLastWord_cons hcut
  obtain ⟨small, capital, rest, hcapital⟩ := Text.isCapital_of_isUpper hc hsharp
  have hsmall := isSmall_lower hcs
  have hrest : IsSmall (rest ++ cs.flatMap lowerChar) := by
    refine ⟨fun d hd => ?_, fun d hd => ?_⟩
    · exact (List.mem_append.mp hd).elim (fun hd => (hcapital.lowered d hd).1) (hsmall.lowered d)
    · exact (List.mem_append.mp hd).elim (fun hd => (hcapital.lowered d hd).2) (hsmall.ne_underscore d)
  obtain ⟨cs', hinflect, hcs'⟩ := inflect_small hrest small
  have hshown : head ++ capitalized (small :: cs') = head ++ capital :: cs' := by
    rw [capitalized, hcapital.upper]
    rfl
  rw [← inflect_inflect_iff, ofName_of_cut hcut hmem, lowerFrom_word hcs, hcapital.lower, List.cons_append,
    hinflect, if_pos hc, hshown]
  exact ofName_eq_self_iff small (cutLastWord_capital hcapital.isUpper head) hcapital.back
    (by rw [if_pos hcapital.isUpper, hcapital.upper]) hcs'

end

/-- After a sharp s the plural has two capitals, and the second one begins its last word. -/
theorem again_of_sharp (hcut : cutLastWord name = (head, 'ẞ' :: cs))
    (hmem : String.ofList (lowerFrom [] ('ẞ' :: cs)) ∉ exceptions) :
    ofName (ofName (String.ofList name)) = ofName (String.ofList name) ↔
      ¬ (Unsettled (lowerFrom [] ('ẞ' :: cs)) ∨ SharpSingular (lowerFrom [] ('ẞ' :: cs))) := by
  obtain ⟨-, hcs⟩ := cutLastWord_cons hcut
  obtain ⟨hupper, hlower, hletters, -⟩ := Text.sharp
  obtain ⟨cs', hinflect, hcs'⟩ := inflect_small (isSmall_lower hcs) 'ß'
  obtain ⟨cs'', hsame, hiff⟩ := inflect_sharp (cs.flatMap lowerChar)
  obtain rfl : cs' = cs'' := (List.cons.inj (hinflect.symm.trans hsame)).2
  have hshown : head ++ capitalized ('ß' :: cs') = (head ++ ['S']) ++ 'S' :: cs' := by
    rw [capitalized, hletters]
    simp
  have hcut' : cutLastWord (head ++ ['S'] ++ ['S']) = (head ++ ['S'], ['S']) :=
    cutLastWord_capital (by decide) _
  rw [ofName_of_cut hcut hmem, lowerFrom_word hcs, hlower, List.singleton_append, hinflect, if_pos hupper,
    hshown, ofName_eq_self_iff 's' hcut' (by decide) (by decide) hcs', hiff]

theorem ofName_exception {name : String} (h : String.ofList (lastWord name) ∈ exceptions) :
    ofName name = name := by
  have hname := ofName_eq (rfl : cutLastWord name.toList = (_, _))
  rw [String.ofList_toList] at hname
  exact hname.trans (if_pos h)

theorem exception_settled {name : String} (h : String.ofList (lastWord name) ∈ exceptions) :
    ¬ (Unsettled (lastWord name) ∨ SharpLast name) := by
  have hexception := isException h
  have hheads : ∀ word ∈ ["ßi".toList, "ßis".toList, "ßs".toList], word.head? = some 'ß' := by decide
  rintro (hunsettled | ⟨-, hsharp⟩)
  · exact hexception.settled hunsettled
  · exact hexception.ne_sharp (hheads _ hsharp)

/-- The plural of a name is its own plural, unless the last word is unsettled or begins with a sharp s that
leaves a singular; and then it is not. A name that ends in an exception is its own plural. -/
theorem plural_settles (name : String) :
    (ofName (ofName name) = ofName name ↔ ¬ (Unsettled (lastWord name) ∨ SharpLast name)) ∧
      (String.ofList (lastWord name) ∈ exceptions → ofName name = name) := by
  refine ⟨?_, ofName_exception⟩
  by_cases hmem : String.ofList (lastWord name) ∈ exceptions
  · rw [ofName_exception hmem, ofName_exception hmem]
    exact iff_of_true rfl (exception_settled hmem)
  obtain ⟨cs, rfl⟩ : ∃ cs, String.ofList cs = name := ⟨name.toList, String.ofList_toList⟩
  obtain ⟨head, tail, hcut⟩ : ∃ head tail, cutLastWord cs = (head, tail) := ⟨_, _, rfl⟩
  simp only [SharpLast, lastWord, String.toList_ofList, hcut] at hmem ⊢
  cases tail with
  | nil => exact absurd (List.mem_cons_self ..) hmem
  | cons c tail =>
    by_cases hsharp : c = 'ẞ'
    · subst hsharp
      rw [again_of_sharp hcut hmem, List.head?_cons]
      simp
    rw [or_iff_left fun h => hsharp (Option.some.inj h.1)]
    cases hc : isUpper c with
    | true => exact again_of_capital hcut hmem hc hsharp
    | false => exact again_of_small hcut hmem hc

theorem plural_settles_categories :
    ofName (ofName "shopCategory") = ofName "shopCategory" ∧ ofName "userNews" = "userNews" :=
  ⟨(plural_settles "shopCategory").1.mpr (by decide),
    (plural_settles "userNews").2 (by decide)⟩

/-- A plural in `us` is taken for a singular. -/
theorem gurus_change : ofName "guru" = "gurus" ∧ ofName "gurus" = "guruses" := by
  decide

end Hypermedia.Plural
