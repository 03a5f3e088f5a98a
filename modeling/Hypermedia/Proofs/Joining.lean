import Mathlib.Data.List.Basic
import Hypermedia.Proofs.Identity
import Hypermedia.Text.Split

/-!
# Identities of several unique values

Several unique values are joined by hyphens before they are hashed, and a value may hold hyphens of its
own. What is hashed is therefore settled by the pieces between all hyphens: two records get the same
text to hash exactly when their pieces agree, whichever values the pieces come from. Values without
hyphens are told apart from all others.
-/

namespace Hypermedia

/-! ### Cutting a list of texts -/

namespace Text

variable {sep : Char}

theorem flatMap_splitChars_of_notMem {parts : List (List Char)} (h : ∀ part ∈ parts, sep ∉ part) :
    parts.flatMap (splitChars sep) = parts := by
  induction parts with
  | nil => rfl
  | cons part rest ih =>
    have hpart : splitChars sep part = [part] := splitChars_of_notMem (h part (List.mem_cons_self ..))
    have hrest := ih fun x hx => h x (List.mem_cons_of_mem _ hx)
    rw [List.flatMap_cons, hpart, hrest]
    rfl

theorem length_le_flatMap_splitChars (sep : Char) (parts : List (List Char)) :
    parts.length ≤ (parts.flatMap (splitChars sep)).length := by
  induction parts with
  | nil => simp
  | cons part rest ih =>
    have hpos : 0 < (splitChars sep part).length := List.length_pos_iff.mpr (splitChars_ne_nil sep part)
    simp only [List.flatMap_cons, List.length_append, List.length_cons]
    omega

theorem flatMap_splitChars_eq_self {parts : List (List Char)}
    (h : (parts.flatMap (splitChars sep)).length = parts.length) :
    parts.flatMap (splitChars sep) = parts := by
  induction parts with
  | nil => rfl
  | cons part rest ih =>
    have hpos : 0 < (splitChars sep part).length := List.length_pos_iff.mpr (splitChars_ne_nil sep part)
    have hle := length_le_flatMap_splitChars sep rest
    simp only [List.flatMap_cons, List.length_append, List.length_cons] at h
    have hone : (splitChars sep part).length = 1 := by omega
    have hrest : (rest.flatMap (splitChars sep)).length = rest.length := by omega
    obtain ⟨piece, hpiece⟩ := List.length_eq_one_iff.mp hone
    have hpart := intercalate_splitChars sep part
    rw [hpiece, List.intercalate_singleton] at hpart
    rw [List.flatMap_cons, ih hrest, hpiece, hpart]
    rfl

end Text

/-! ### Joined values -/

namespace Identity

/-- The normalized texts of the unique values, in the order of the fields. -/
def texts (fields : List String) (params : Members) : List String :=
  fields.map fun f => normalized (Members.get? params f)

/-- What stands between the hyphens of the unique values, one value after another. -/
def pieces (fields : List String) (params : Members) : List (List Char) :=
  ((texts fields params).map String.toList).flatMap (Text.splitChars '-')

section
variable {fields : List String} {p q : Members}

theorem splitChars_joined (h : fields ≠ []) (params : Members) :
    Text.splitChars '-' (joined fields params).toList = pieces fields params := by
  have htexts : (texts fields params).map String.toList ≠ [] := by simpa [texts] using h
  have hjoined : (joined fields params).toList =
      ['-'].intercalate ((texts fields params).map String.toList) := String.toList_intercalate
  rw [hjoined, Text.splitChars_intercalate '-' htexts]
  rfl

theorem joined_eq_iff (h : fields ≠ []) :
    joined fields p = joined fields q ↔ pieces fields p = pieces fields q := by
  constructor
  · intro he
    rw [← splitChars_joined h p, ← splitChars_joined h q, he]
  · intro he
    -- A text is its pieces joined again.
    have hp := Text.intercalate_splitChars '-' (joined fields p).toList
    have hq := Text.intercalate_splitChars '-' (joined fields q).toList
    rw [splitChars_joined h] at hp hq
    rw [← String.toList_inj, ← hp, ← hq, he]

theorem texts_eq_of_pieces (hplain : ∀ t ∈ texts fields p, '-' ∉ t.toList)
    (h : pieces fields p = pieces fields q) : texts fields p = texts fields q := by
  have hp : pieces fields p = (texts fields p).map String.toList := by
    refine Text.flatMap_splitChars_of_notMem fun part hpart => ?_
    obtain ⟨t, ht, rfl⟩ := List.mem_map.mp hpart
    exact hplain t ht
  -- The other values have as many pieces as there are fields, so they hold no hyphens either.
  have hlength : (pieces fields q).length = ((texts fields q).map String.toList).length := by
    rw [← h, hp]
    simp [texts]
  have hq : pieces fields q = (texts fields q).map String.toList :=
    Text.flatMap_splitChars_eq_self hlength
  have hmap : (texts fields p).map String.toList = (texts fields q).map String.toList := by
    rw [← hp, ← hq, h]
  exact List.map_injective_iff.mpr (fun _ _ he => String.toList_inj.mp he) hmap

end

theorem derived?_several {fields : List String} (h : 2 ≤ fields.length) (params : Members) :
    derived? fields params = some (shortHash (joined fields params)) := by
  match fields, h with
  | _ :: _ :: _, _ => rfl

/-- The identity of several unique values is the hash of one text, which tells two lists of values apart
exactly when their pieces between hyphens differ. So it tells a list of values without hyphens from every
other list. -/
theorem joined_tells_apart {fields : List String} (hseveral : 2 ≤ fields.length) (p q : Members) :
    derived? fields p = some (shortHash (joined fields p)) ∧
      derived? fields q = some (shortHash (joined fields q)) ∧
      (joined fields p = joined fields q ↔ pieces fields p = pieces fields q) ∧
      ((∀ t ∈ texts fields p, '-' ∉ t.toList) → texts fields p ≠ texts fields q →
        joined fields p ≠ joined fields q) := by
  have hne : fields ≠ [] := by
    rintro rfl
    simp at hseveral
  refine ⟨derived?_several hseveral p, derived?_several hseveral q, joined_eq_iff hne, ?_⟩
  intro hplain hdiffer he
  exact hdiffer (texts_eq_of_pieces hplain ((joined_eq_iff hne).mp he))

/-- A first and a last name. -/
def fullName (first last : String) : Members := [("first", .string first), ("last", .string last)]

theorem joined_tells_apart_names :
    2 ≤ ["first", "last"].length ∧
      (∀ t ∈ texts ["first", "last"] (fullName "Ann" "Lee"), '-' ∉ t.toList) ∧
      texts ["first", "last"] (fullName "Ann" "Lee") ≠
        texts ["first", "last"] (fullName "Ann-Lee" "") ∧
      joined ["first", "last"] (fullName "Ann" "Lee") ≠
        joined ["first", "last"] (fullName "Ann-Lee" "") := by
  have hseveral : 2 ≤ ["first", "last"].length := by decide
  have hplain : ∀ t ∈ texts ["first", "last"] (fullName "Ann" "Lee"), '-' ∉ t.toList := by
    decide +kernel
  have hdiffer : texts ["first", "last"] (fullName "Ann" "Lee") ≠
      texts ["first", "last"] (fullName "Ann-Lee" "") := by decide +kernel
  obtain ⟨-, -, -, happart⟩ :=
    joined_tells_apart hseveral (fullName "Ann" "Lee") (fullName "Ann-Lee" "")
  exact ⟨hseveral, hplain, hdiffer, happart hplain hdiffer⟩

/-- A hyphen inside a name moves from one name to the other unseen. -/
theorem joined_ambiguous_names :
    texts ["first", "last"] (fullName "Ann-Lee" "Ray") ≠
        texts ["first", "last"] (fullName "Ann" "Lee-Ray") ∧
      joined ["first", "last"] (fullName "Ann-Lee" "Ray") =
        joined ["first", "last"] (fullName "Ann" "Lee-Ray") ∧
      derived? ["first", "last"] (fullName "Ann-Lee" "Ray") =
        derived? ["first", "last"] (fullName "Ann" "Lee-Ray") := by
  have hdiffer : texts ["first", "last"] (fullName "Ann-Lee" "Ray") ≠
      texts ["first", "last"] (fullName "Ann" "Lee-Ray") := by decide +kernel
  have hsame : joined ["first", "last"] (fullName "Ann-Lee" "Ray") =
      joined ["first", "last"] (fullName "Ann" "Lee-Ray") := by decide +kernel
  refine ⟨hdiffer, hsame, ?_⟩
  rw [derived?_several (by decide), derived?_several (by decide), hsame]

end Identity

end Hypermedia
