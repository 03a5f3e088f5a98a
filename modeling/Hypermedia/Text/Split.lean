/-!
# Splitting a text at a character

`splitChars` cuts at every occurrence and keeps empty pieces, so joining the pieces with the
separator gives the text back. `cutFirst` and `cutLast` cut once.
-/

namespace Hypermedia.Text

/-- The pieces between the occurrences of `sep`; never empty. -/
def splitChars (sep : Char) : List Char → List (List Char)
  | [] => [[]]
  | c :: cs =>
    if c = sep then [] :: splitChars sep cs
    else match splitChars sep cs with
      | [] => [[c]]
      | piece :: rest => (c :: piece) :: rest

def split (sep : Char) (s : String) : List String :=
  (splitChars sep s.toList).map String.ofList

def cutFirst (sep : Char) : List Char → Option (List Char × List Char)
  | [] => none
  | c :: cs =>
    if c = sep then some ([], cs)
    else (cutFirst sep cs).map fun (before, after) => (c :: before, after)

def cutLast (sep : Char) (cs : List Char) : Option (List Char × List Char) :=
  (cutFirst sep cs.reverse).map fun (after, before) => (before.reverse, after.reverse)

def splitFirst (sep : Char) (s : String) : Option (String × String) :=
  (cutFirst sep s.toList).map fun (before, after) => (String.ofList before, String.ofList after)

theorem splitChars_ne_nil (sep : Char) (cs : List Char) : splitChars sep cs ≠ [] := by
  cases cs with
  | nil => simp [splitChars]
  | cons c cs =>
    by_cases h : c = sep
    · simp [splitChars, h]
    · simp only [splitChars, if_neg h]
      split <;> simp

theorem intercalate_splitChars (sep : Char) (cs : List Char) :
    [sep].intercalate (splitChars sep cs) = cs := by
  induction cs with
  | nil => simp [splitChars, List.intercalate]
  | cons c cs ih =>
    have hne := splitChars_ne_nil sep cs
    by_cases h : c = sep
    · subst h
      simp only [splitChars, if_true]
      cases hs : splitChars c cs with
      | nil => exact absurd hs hne
      | cons p ps =>
        rw [hs] at ih
        simpa [List.intercalate] using ih
    · simp only [splitChars, if_neg h]
      cases hs : splitChars sep cs with
      | nil => exact absurd hs hne
      | cons p ps =>
        rw [hs] at ih
        cases ps with
        | nil => simpa [List.intercalate] using ih
        | cons q qs => simpa [List.intercalate] using ih

/-- A piece is made of the other characters of the text. -/
theorem mem_of_mem_splitChars {sep : Char} {cs piece : List Char} (h : piece ∈ splitChars sep cs) :
    ∀ c ∈ piece, c ∈ cs ∧ c ≠ sep := by
  induction cs generalizing piece with
  | nil => simp_all [splitChars]
  | cons d cs ih =>
    intro c hc
    by_cases hd : d = sep
    · simp only [splitChars, if_pos hd, List.mem_cons] at h
      rcases h with rfl | h
      · cases hc
      · exact ⟨List.mem_cons_of_mem _ (ih h c hc).1, (ih h c hc).2⟩
    · simp only [splitChars, if_neg hd] at h
      cases hs : splitChars sep cs with
      | nil => exact absurd hs (splitChars_ne_nil sep cs)
      | cons first rest =>
        rw [hs] at h ih
        rcases List.mem_cons.mp h with rfl | h
        · rcases List.mem_cons.mp hc with rfl | hc
          · exact ⟨List.mem_cons_self .., hd⟩
          · have hfirst := ih (List.mem_cons_self ..) c hc
            exact ⟨List.mem_cons_of_mem _ hfirst.1, hfirst.2⟩
        · have hrest := ih (List.mem_cons_of_mem _ h) c hc
          exact ⟨List.mem_cons_of_mem _ hrest.1, hrest.2⟩

theorem splitChars_of_notMem {sep : Char} {cs : List Char} (h : sep ∉ cs) : splitChars sep cs = [cs] := by
  induction cs with
  | nil => rfl
  | cons c cs ih =>
    have hc : c ≠ sep := fun he => h (he ▸ List.mem_cons_self ..)
    have hcs : splitChars sep cs = [cs] := ih fun hm => h (List.mem_cons_of_mem c hm)
    simp only [splitChars, if_neg hc, hcs]

theorem splitChars_append (sep : Char) (before after : List Char) :
    splitChars sep (before ++ sep :: after) = splitChars sep before ++ splitChars sep after := by
  induction before with
  | nil => simp [splitChars]
  | cons c before ih =>
    by_cases hc : c = sep
    · subst hc
      simp [splitChars, ih]
    · rw [List.cons_append, splitChars, if_neg hc, ih, splitChars, if_neg hc]
      cases hb : splitChars sep before with
      | nil => exact absurd hb (splitChars_ne_nil sep before)
      | cons piece rest => rfl

/-- Cutting what was joined gives the pieces of the parts, one part after another. -/
theorem splitChars_intercalate (sep : Char) {parts : List (List Char)} (h : parts ≠ []) :
    splitChars sep ([sep].intercalate parts) = parts.flatMap (splitChars sep) := by
  induction parts with
  | nil => exact absurd rfl h
  | cons part rest ih =>
    cases rest with
    | nil => simp
    | cons next rest =>
      have hrest := ih (List.cons_ne_nil next rest)
      rw [List.intercalate_cons_cons, List.append_assoc, List.singleton_append, splitChars_append, hrest]
      rfl

theorem cutFirst_eq_some {sep : Char} {cs before after : List Char}
    (h : cutFirst sep cs = some (before, after)) : cs = before ++ sep :: after ∧ sep ∉ before := by
  induction cs generalizing before with
  | nil => simp [cutFirst] at h
  | cons c cs ih =>
    by_cases hc : c = sep
    · simp only [cutFirst, if_pos hc, Option.some.injEq, Prod.mk.injEq] at h
      obtain ⟨rfl, rfl⟩ := h
      exact ⟨by simp [hc], by simp⟩
    · simp only [cutFirst, if_neg hc, Option.map_eq_some_iff] at h
      obtain ⟨⟨b, a⟩, hb, he⟩ := h
      simp only [Prod.mk.injEq] at he
      obtain ⟨rfl, rfl⟩ := he
      obtain ⟨h1, h2⟩ := ih hb
      exact ⟨by simp [h1], by simp [h2, Ne.symm hc]⟩

theorem cutFirst_of_notMem {sep : Char} {before : List Char} (h : sep ∉ before) (after : List Char) :
    cutFirst sep (before ++ sep :: after) = some (before, after) := by
  induction before with
  | nil => exact if_pos rfl
  | cons c before ih =>
    have hc : c ≠ sep := fun he => h (he ▸ List.mem_cons_self ..)
    rw [List.cons_append, cutFirst, if_neg hc, ih fun hm => h (List.mem_cons_of_mem c hm)]
    rfl

theorem cutLast_eq_some {sep : Char} {cs before after : List Char}
    (h : cutLast sep cs = some (before, after)) : cs = before ++ sep :: after ∧ sep ∉ after := by
  rw [cutLast, Option.map_eq_some_iff] at h
  obtain ⟨⟨a, b⟩, hcut, he⟩ := h
  obtain ⟨hsplit, hnot⟩ := cutFirst_eq_some hcut
  simp only [Prod.mk.injEq] at he
  obtain ⟨rfl, rfl⟩ := he
  refine ⟨?_, by simpa using hnot⟩
  rw [← List.reverse_reverse cs, hsplit]
  simp

theorem cutLast_of_notMem {sep : Char} {after : List Char} (h : sep ∉ after) (before : List Char) :
    cutLast sep (before ++ sep :: after) = some (before, after) := by
  have hreverse : (before ++ sep :: after).reverse = after.reverse ++ sep :: before.reverse := by simp
  rw [cutLast, hreverse, cutFirst_of_notMem (by simpa using h)]
  simp

/-- A text with the separator is cut at its last one. -/
theorem exists_cutLast {sep : Char} {cs : List Char} (h : sep ∈ cs) :
    ∃ before after, cutLast sep cs = some (before, after) := by
  obtain ⟨after, before, hsplit, hnot⟩ := List.eq_append_cons_of_mem (List.mem_reverse.mpr h)
  exact ⟨before.reverse, after.reverse, by rw [cutLast, hsplit, cutFirst_of_notMem hnot]; rfl⟩

end Hypermedia.Text
