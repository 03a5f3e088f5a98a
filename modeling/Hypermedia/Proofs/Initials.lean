import Hypermedia.Proofs.Capitals
import Hypermedia.Proofs.Settled

/-!
# First letters of plurals

A plural begins as its word does. Where a capital sharp s becomes two letters, the second one is read with the
rest of the plural, as if an `s` had stood for the sharp s.
-/

namespace Hypermedia.Plural

variable {out cs : List Char} {r : Rule} {c : Char}

/-! ### First letters -/

/-- A rule without a stem exchanges an ending for one with the same first letter. -/
theorem rules_first : ∀ r ∈ rules, r.plural.toList.all Text.isSmallLetter = true ∧
    ((r.stems.all fun stem => !stem.isEmpty) = true ∨
      ∀ ending ∈ r.endings, ending = "" ∨ ending.toList.head? = r.plural.toList.head?) := by
  decide

theorem Rule.exchange?_cons (hr : r ∈ rules) (h : r.exchange? (c :: cs) = some out) :
    ∃ cs', out = c :: cs' ∧ ∀ x ∈ cs', x ∈ cs ∨ Text.isSmallLetter x = true := by
  obtain ⟨hsmall, hfirst⟩ := rules_first r hr
  have hsmall := List.all_eq_true.mp hsmall
  obtain ⟨ending, hending, stem, hstem, front, mid, hword, rfl, hmid, -⟩ := Rule.exists_of_exchange? h
  cases hkept : front ++ mid with
  | cons d kept =>
    rw [hkept] at hword
    obtain ⟨rfl, rfl⟩ := List.cons.inj hword
    refine ⟨_, rfl, fun x hx => ?_⟩
    exact (List.mem_append.mp hx).imp (List.mem_append_left _) (hsmall x)
  | nil =>
    have hnil : mid = [] := (List.append_eq_nil_iff.mp hkept).2
    rw [hkept, List.nil_append] at hword
    rcases hfirst with hstems | hheads
    · have hne := List.all_eq_true.mp hstems stem hstem
      rw [hnil, Matches, List.forall₂_nil_right_iff] at hmid
      rw [hmid] at hne
      cases hne
    · rcases hheads ending hending with he | hhead
      · rw [he] at hword
        cases hword
      · rw [← hword, List.head?_cons] at hhead
        obtain ⟨cs', hcs'⟩ := List.head?_eq_some_iff.mp hhead.symm
        refine ⟨cs', hcs', fun x hx => .inr (hsmall x ?_)⟩
        rw [hcs']
        exact List.mem_cons_of_mem _ hx

theorem regular_cons (c : Char) (cs : List Char) :
    ∃ cs', regular (c :: cs) = c :: cs' ∧ ∀ x ∈ cs', x ∈ cs ∨ Text.isSmallLetter x = true := by
  unfold regular
  cases h : rules.findSome? fun r => r.exchange? (c :: cs) with
  | none => exact ⟨cs, rfl, fun x hx => .inl hx⟩
  | some out =>
    obtain ⟨r, hr, hout⟩ := List.exists_of_findSome?_eq_some h
    exact Rule.exchange?_cons hr hout

/-- A plural has the first letter of the word, and others of the word or the alphabet. -/
theorem inflect_cons (c : Char) (cs : List Char) :
    ∃ cs', inflect (c :: cs) = c :: cs' ∧ ∀ x ∈ cs', x ∈ cs ∨ Text.isSmallLetter x = true := by
  by_cases hmem : String.ofList (c :: cs) ∈ exceptions
  · exact ⟨cs, inflect_of_mem hmem, fun x hx => .inl hx⟩
  rcases inflect_of_notMem hmem with ⟨x, hx, he, hinflect⟩ | ⟨-, hinflect⟩
  · have hsmall := (isIrregular hx).small
    have hfirst := (isIrregular hx).first
    rw [← he, List.head?_cons] at hfirst
    obtain ⟨cs', hcs'⟩ := List.head?_eq_some_iff.mp hfirst
    rw [hinflect, hcs']
    rw [hcs'] at hsmall
    exact ⟨cs', rfl, fun x hx => .inr (List.all_eq_true.mp hsmall x (List.mem_cons_of_mem _ hx))⟩
  · rw [hinflect]
    exact regular_cons c cs

/-! ### An `s` for a sharp s -/

theorem Closed.sharp (h : Closed ('ß' :: cs)) : cs = [] ∨ Closed ('s' :: cs) := by
  generalize hword : 'ß' :: cs = word at h
  cases h with
  | @ending k front h =>
    cases front with
    | nil =>
      rw [List.nil_append] at hword
      rw [← hword] at h
      simp [closing] at h
    | cons d front =>
      obtain ⟨-, rfl⟩ := List.cons.inj hword
      exact .inr (.ending ('s' :: front) h)
  | @people front c hc =>
    cases front with
    | nil =>
      obtain ⟨-, rfl⟩ := List.cons.inj hword
      exact .inr (.people [] (by decide))
    | cons d front =>
      obtain ⟨-, rfl⟩ := List.cons.inj hword
      exact .inr (.people ('s' :: front) hc)
  | @mice front stem hstem hstart =>
    cases front with
    | nil =>
      have hne : ∀ stem ∈ ["titm", "m", "l"], (stem ++ "ice").toList.head? ≠ some 'ß' := by decide
      exact absurd (by rw [← List.nil_append (stem ++ "ice").toList, ← hword]; rfl) (hne stem hstem)
    | cons d front =>
      obtain ⟨rfl, rfl⟩ := List.cons.inj hword
      refine .inr (.mice ('s' :: front) hstem ?_)
      cases front with
      | nil =>
        rw [List.getLast?_singleton, Option.any_some, Text.sharp.2.2.2.2] at hstart
        cases hstart
      | cons d front => exact hstart
  | @foreign front c hc =>
    cases front with
    | nil =>
      obtain ⟨-, rfl⟩ := List.cons.inj hword
      exact .inl rfl
    | cons d front =>
      obtain ⟨-, rfl⟩ := List.cons.inj hword
      exact .inr (.foreign ('s' :: front) hc)

theorem endsIn_cons_iff {endings : List String} : EndsIn endings (c :: cs) ↔
    (∃ ending ∈ endings, ending.toList = c :: cs) ∨ EndsIn endings cs := by
  simp only [EndsIn, List.suffix_cons_iff, and_or_left, exists_or]

/-- A first letter that begins no ending makes no difference. -/
theorem endsIn_cons {endings : List String} (h : ∀ ending ∈ endings, ending.toList.head? ≠ some c) :
    EndsIn endings (c :: cs) ↔ EndsIn endings cs := by
  rw [endsIn_cons_iff, or_iff_right]
  rintro ⟨ending, hending, he⟩
  exact h ending hending (by rw [he]; rfl)

theorem rereads_cons_s : Rereads ('s' :: cs) ↔ cs = [] ∨ cs = ['i'] ∨ Rereads ('ß' :: cs) := by
  have hshort : (∃ ending ∈ changedEndings, ending.toList = 's' :: cs) ↔ cs = [] ∨ cs = ['i'] := by
    simp [changedEndings, eq_comm]
  unfold Rereads
  rw [endsIn_cons_iff, hshort, endsIn_cons (c := 's') (by decide), endsIn_cons (c := 's') (by decide),
    endsIn_cons (c := 'ß') (by decide), endsIn_cons (c := 'ß') (by decide),
    endsIn_cons (c := 'ß') (by decide)]
  simp [or_assoc]

theorem inflect_s_iff : inflect ('s' :: (cs ++ ['s'])) = 's' :: (cs ++ ['s']) ↔ ¬ Rereads ('s' :: cs) := by
  by_cases hmem : String.ofList ('s' :: (cs ++ ['s'])) ∈ exceptions
  · have hne := (isException hmem).added_s rfl ⟨'s' :: cs, rfl⟩
    rw [← List.cons_append, List.dropLast_concat] at hne
    exact iff_of_true (inflect_of_mem hmem) hne
  rcases inflect_of_notMem hmem with ⟨x, hx, he, -⟩ | ⟨-, hinflect⟩
  · exact absurd ⟨'s' :: cs, he⟩ ((isIrregular hx).notAdded_s (by rw [← he]; rfl))
  · rw [hinflect, ← List.cons_append, regular_eq_iff]

/-- With an `s` for the sharp s, the plural of the word is a singular. -/
def SharpSingular (word : List Char) : Prop := word ∈ ["ßi".toList, "ßis".toList, "ßs".toList]

instance (word : List Char) : Decidable (SharpSingular word) :=
  inferInstanceAs (Decidable (word ∈ _))

theorem sharpSingular_iff : SharpSingular ('ß' :: cs) ↔ cs ∈ ["i".toList, "is".toList, "s".toList] := by
  simp [SharpSingular]

theorem regular_sharp : (regular ['s'] = ['s'] ∧ inflect ['s'] = ['s']) ∧ regular ['ß'] = ['ß'] ∧
    ∀ cs ∈ ["i".toList, "is".toList, "s".toList],
      regular ('s' :: (regular ('ß' :: cs)).tail) ≠ 's' :: (regular ('ß' :: cs)).tail := by
  decide

theorem inflect_sharp_eq (cs : List Char) : inflect ('ß' :: cs) = regular ('ß' :: cs) := by
  have hmem : String.ofList ('ß' :: cs) ∉ exceptions := fun hmem => (isException hmem).ne_sharp rfl
  rcases inflect_of_notMem hmem with ⟨x, hx, he, -⟩ | ⟨-, hinflect⟩
  · exact absurd (by rw [← he]; rfl) (isIrregular hx).ne_sharp
  · exact hinflect

/-- A closed plural stays closed with an `s` for the sharp s. -/
theorem inflect_sharp_closed {cs' : List Char} (hregular : regular ('ß' :: cs) = 'ß' :: cs')
    (h : Closed ('ß' :: cs')) (hs : ¬ Rereads ('ß' :: cs) ∨ EndsIn bareEndings ('ß' :: cs)) :
    inflect ('s' :: cs') = 's' :: cs' ↔ ¬ (Unsettled ('ß' :: cs) ∨ SharpSingular ('ß' :: cs)) := by
  have hclosed : regular ('s' :: cs') = 's' :: cs' ∧ inflect ('s' :: cs') = 's' :: cs' := by
    rcases h.sharp with rfl | h
    · exact regular_sharp.1
    · exact ⟨h.regular_eq, h.inflect_eq⟩
  refine iff_of_true hclosed.2 (not_or.mpr ⟨not_unsettled_of_closed (hregular ▸ h) hs, fun hmem => ?_⟩)
  have hne := regular_sharp.2.2 cs (sharpSingular_iff.mp hmem)
  rw [hregular] at hne
  exact hne hclosed.1

theorem inflect_sharp_kept (h : ¬ Rereads ('ß' :: cs)) :
    inflect ('s' :: (cs ++ ['s'])) = 's' :: (cs ++ ['s']) ↔
      ¬ (Unsettled ('ß' :: (cs ++ ['s'])) ∨ SharpSingular ('ß' :: (cs ++ ['s']))) := by
  have hshort : SharpSingular ('ß' :: (cs ++ ['s'])) ↔ cs = [] ∨ cs = ['i'] := by
    simp only [sharpSingular_iff, List.mem_cons, List.not_mem_nil, or_false]
    constructor
    · rintro (he | he | he)
      · exact absurd (congrArg List.getLast? he) (by simp)
      · exact .inr (List.append_cancel_right (show cs ++ ['s'] = ['i'] ++ ['s'] from he))
      · exact .inl (List.append_cancel_right (show cs ++ ['s'] = [] ++ ['s'] from he))
    · rintro (rfl | rfl)
      · exact .inr (.inr rfl)
      · exact .inr (.inl rfl)
  have hs : ¬ Unsettled ('ß' :: (cs ++ ['s'])) := not_unsettled_of_s ('ß' :: cs)
  rw [inflect_s_iff, rereads_cons_s, hshort]
  tauto

theorem inflect_sharp_added (h : ¬ EndsIn bareEndings ('ß' :: cs)) (hne : cs ≠ []) :
    inflect ('s' :: (cs ++ ['s'])) = 's' :: (cs ++ ['s']) ↔
      ¬ (Unsettled ('ß' :: cs) ∨ SharpSingular ('ß' :: cs)) := by
  have hunsettled : Unsettled ('ß' :: cs) ↔ Rereads ('ß' :: cs) := by simp [Unsettled, h]
  have hshort : SharpSingular ('ß' :: cs) ↔ cs = ['i'] := by
    rw [sharpSingular_iff]
    refine ⟨fun hmem => ?_, fun he => he ▸ List.mem_cons_self ..⟩
    simp only [List.mem_cons, List.not_mem_nil, or_false] at hmem
    rcases hmem with rfl | rfl | rfl
    · rfl
    · exact absurd (by decide) h
    · exact absurd (by decide) h
  rw [inflect_s_iff, rereads_cons_s, hshort, hunsettled]
  tauto

/-- Where the sharp s is written as two letters, the second one begins the last word. -/
theorem inflect_sharp (cs : List Char) : ∃ cs', inflect ('ß' :: cs) = 'ß' :: cs' ∧
    (inflect ('s' :: cs') = 's' :: cs' ↔ ¬ (Unsettled ('ß' :: cs) ∨ SharpSingular ('ß' :: cs))) := by
  obtain ⟨cs', hcs', -⟩ := regular_cons 'ß' cs
  refine ⟨cs', (inflect_sharp_eq cs).trans hcs', ?_⟩
  have hshape := regular_shape ('ß' :: cs)
  rw [hcs'] at hshape
  generalize hword : 'ß' :: cs = word at hshape
  generalize hout : 'ß' :: cs' = out at hshape
  cases hshape with
  | closed h hs =>
    rw [← hout] at h
    rw [← hword] at hs ⊢
    exact inflect_sharp_closed hcs' h hs
  | @kept v h =>
    cases v with
    | nil => cases hword
    | cons d v =>
      rw [List.cons_append] at hword hout ⊢
      obtain ⟨rfl, rfl⟩ := List.cons.inj hword
      obtain ⟨-, rfl⟩ := List.cons.inj hout
      exact inflect_sharp_kept h
  | added h =>
    rw [← hword, List.cons_append] at hout
    rw [← hword] at h ⊢
    obtain ⟨-, rfl⟩ := List.cons.inj hout
    refine inflect_sharp_added h ?_
    rintro rfl
    rw [regular_sharp.2.1] at hcs'
    cases hcs'

end Hypermedia.Plural
