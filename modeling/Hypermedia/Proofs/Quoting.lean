import Hypermedia.Sql.Name

/-!
# Qualified names read back

A reader of identifiers goes from an opening quote to the first quote that stands alone. What is written
for a schema and a table is read back as the two, so nothing inside a name can end it.
-/

namespace Hypermedia.Sql

variable {schema table : String} {name cs rest : List Char}

/-! ### Reading -/

/-- What is quoted by a text behind its opening quote, and what follows the closing one. A doubled quote
stands for one. -/
def unquoted? : List Char → Option (List Char × List Char)
  | [] => none
  | '"' :: '"' :: cs => (unquoted? cs).map fun (name, rest) => ('"' :: name, rest)
  | c :: cs =>
    if c = '"' then some ([], cs)
    else (unquoted? cs).map fun (name, rest) => (c :: name, rest)

/-- The identifier at the front of a text, and what follows it. -/
def identifier? : List Char → Option (List Char × List Char)
  | '"' :: cs => unquoted? cs
  | _ => none

/-- Two identifiers joined by a dot, and nothing else. -/
def qualified? (text : String) : Option (String × String) :=
  match identifier? text.toList with
  | some (schema, '.' :: more) =>
    match identifier? more with
    | some (table, []) => some (String.ofList schema, String.ofList table)
    | _ => none
  | _ => none

/-! ### What is written is read -/

theorem unquoted?_closing (h : rest.head? ≠ some '"') : unquoted? ('"' :: rest) = some ([], rest) := by
  cases rest with
  | nil => rfl
  | cons c cs =>
    have hc : c ≠ '"' := fun he => h (congrArg some he)
    simp [unquoted?, hc]

/-- A name ends at its closing quote, whatever quotes are in it. -/
theorem unquoted?_doubled (name : List Char) (h : rest.head? ≠ some '"') :
    unquoted? (doubled name ++ '"' :: rest) = some (name, rest) := by
  induction name with
  | nil => exact unquoted?_closing h
  | cons c name ih =>
    by_cases hc : c = '"'
    · simp [doubled, hc, unquoted?, ih]
    · simp [doubled, hc, unquoted?, ih]

theorem toList_quoted (s : String) : (quoted s).toList = '"' :: (doubled s.toList ++ ['"']) := by
  simp [quoted]

theorem identifier?_quoted (s : String) (rest : List Char) (h : rest.head? ≠ some '"') :
    identifier? ((quoted s).toList ++ rest) = some (s.toList, rest) := by
  have hsplit : (quoted s).toList ++ rest = '"' :: (doubled s.toList ++ '"' :: rest) := by
    simp [toList_quoted]
  rw [hsplit, identifier?, unquoted?_doubled _ h]

theorem toList_qualified (schema table : String) :
    (qualified schema table).toList = (quoted schema).toList ++ '.' :: (quoted table).toList := by
  simp [qualified]

theorem qualified?_qualified (schema table : String) :
    qualified? (qualified schema table) = some (schema, table) := by
  have hschema := identifier?_quoted schema ('.' :: (quoted table).toList) (by simp)
  have htable := identifier?_quoted table [] (by simp)
  rw [List.append_nil] at htable
  simp only [qualified?, toList_qualified, hschema, htable, String.ofList_toList]

/-! ### What is read was written -/

theorem eq_of_unquoted? (h : unquoted? cs = some (name, rest)) : cs = doubled name ++ '"' :: rest := by
  induction cs using unquoted?.induct generalizing name with
  | case1 => cases h
  | case2 cs ih =>
    simp only [unquoted?, Option.map_eq_some_iff] at h
    obtain ⟨⟨name', rest'⟩, hread, he⟩ := h
    cases he
    simp [doubled, ih hread]
  | case3 cs hnot =>
    simp only [unquoted?, if_true, Option.some.injEq, Prod.mk.injEq] at h
    obtain ⟨rfl, rfl⟩ := h
    rfl
  | case4 c cs hnot hc ih =>
    simp only [unquoted?, if_neg hc, Option.map_eq_some_iff] at h
    obtain ⟨⟨name', rest'⟩, hread, he⟩ := h
    cases he
    simp [doubled, hc, ih hread]

theorem eq_of_identifier? (h : identifier? cs = some (name, rest)) :
    cs = (quoted (String.ofList name)).toList ++ rest := by
  unfold identifier? at h
  split at h
  · simp [toList_quoted, eq_of_unquoted? h]
  · cases h

theorem eq_of_qualified? {text : String} (h : qualified? text = some (schema, table)) :
    text = qualified schema table := by
  unfold qualified? at h
  split at h
  · rename_i name more hschema
    split at h
    · rename_i name' htable
      cases h
      apply String.toList_injective
      rw [eq_of_identifier? hschema, eq_of_identifier? htable, toList_qualified, List.append_nil]
    · cases h
  · cases h

/-! ### The names and their texts -/

/-- A text is read as a schema and a table exactly if it is what is written for them, so different pairs are
written differently. The schema's identifier ends where it was closed, at the end of a text and before a
dot. -/
theorem qualified_decodes (schema table : String) :
    (∀ text, qualified? text = some (schema, table) ↔ text = qualified schema table) ∧
      (∀ schema' table', qualified schema table = qualified schema' table' ↔
        schema = schema' ∧ table = table') ∧
      identifier? (quoted schema).toList = some (schema.toList, []) ∧
      ∀ rest, identifier? ((quoted schema).toList ++ '.' :: rest) = some (schema.toList, '.' :: rest) := by
  refine ⟨fun text => ⟨eq_of_qualified?, ?_⟩, fun schema' table' => ⟨fun h => ?_, ?_⟩, ?_, fun rest => ?_⟩
  · rintro rfl
    exact qualified?_qualified schema table
  · have hread := qualified?_qualified schema table
    rw [h, qualified?_qualified] at hread
    cases hread
    exact ⟨rfl, rfl⟩
  · rintro ⟨rfl, rfl⟩
    rfl
  · have hread := identifier?_quoted schema [] (by simp)
    rwa [List.append_nil] at hread
  · exact identifier?_quoted schema ('.' :: rest) (by simp)

/-- Quotes at both ends and a dot between them do not end a name. -/
example : qualified "\"a.\"b" "\"" = "\"\"\"a.\"\"b\".\"\"\"\"" ∧
    qualified? "\"\"\"a.\"\"b\".\"\"\"\"" = some ("\"a.\"b", "\"") := by
  decide +kernel

end Hypermedia.Sql
