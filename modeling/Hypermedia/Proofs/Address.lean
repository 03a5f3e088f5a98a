import Hypermedia.Database.Url
import Hypermedia.Proofs.Alphabet

/-!
# Databases named by addresses

An address names its database by its path, and what follows a question mark is not part of the path. The name
is looked for after the last slash, though. It is that of the path exactly if no slash stands in the query.
Behind a slash in the query, a piece of the query counts as the name.
-/

namespace Hypermedia.Database

/-! ### Addresses -/

/-- An address in its parts. -/
structure Address where
  scheme : String
  authority : String
  name : String
  query : Option String
  authority_plain : ∀ c ∈ authority.toList, c ≠ '/' ∧ c ≠ '?'
  name_plain : ∀ c ∈ name.toList, c ≠ '/' ∧ c ≠ '?'
  name_starts : ∀ c ∈ name.toList.head?, Text.isBlank c = false
  name_ends : ∀ c ∈ name.toList.getLast?, Text.isBlank c = false

namespace Address

/-- What is before the path. -/
def server (a : Address) : String := a.scheme ++ "://" ++ a.authority

def queryText (a : Address) : String :=
  match a.query with
  | none => ""
  | some query => "?" ++ query

def text (a : Address) : String := a.server ++ "/" ++ a.name ++ a.queryText

/-- The database that the path names, made from the one that the same server always has. -/
def target (a : Address) : Target := ⟨a.server ++ "/" ++ maintenance, a.name⟩

/-- No slash stands behind the path. -/
def PlainQuery (a : Address) : Prop := ∀ query ∈ a.query, '/' ∉ query.toList

end Address

/-! ### The last slash -/

/-- What is read from an address around its last slash. -/
def Target.around (before after : String) : Target :=
  ⟨before ++ "/" ++ maintenance, Text.trim (String.ofList (after.toList.takeWhile (· ≠ '?')))⟩

theorem ofUrl?_of_last {before after : String} (h : '/' ∉ after.toList) :
    Target.ofUrl? (before ++ "/" ++ after) = .ok (Target.around before after) := by
  have hcut : Text.cutLast '/' (before ++ "/" ++ after).toList = some (before.toList, after.toList) := by
    have hsplit : (before ++ "/" ++ after).toList = before.toList ++ '/' :: after.toList := by simp
    rw [hsplit, Text.cutLast_of_notMem h]
  rw [Target.ofUrl?, hcut]
  simp [Target.around, Text.trim]

namespace Address

variable (a : Address)

theorem takeWhile_path : (a.name ++ a.queryText).toList.takeWhile (· ≠ '?') = a.name.toList := by
  have hname : ∀ c ∈ a.name.toList, decide (c ≠ '?') = true := fun c hc =>
    decide_eq_true (a.name_plain c hc).2
  have hquery : a.queryText.toList.takeWhile (· ≠ '?') = [] := by
    unfold queryText
    split <;> simp
  rw [String.toList_append, List.takeWhile_append_of_pos hname, hquery, List.append_nil]

theorem ofUrl?_of_plain (h : a.PlainQuery) : Target.ofUrl? a.text = .ok a.target := by
  have hslash : '/' ∉ (a.name ++ a.queryText).toList := by
    have hname : '/' ∉ a.name.toList := fun hm => (a.name_plain _ hm).1 rfl
    have hquery : '/' ∉ a.queryText.toList := by
      unfold queryText
      split
      · simp
      · rename_i query hq
        simpa using h query hq
    simp [hname, hquery]
  have htext : a.text = a.server ++ "/" ++ (a.name ++ a.queryText) := String.append_assoc ..
  have htrim : Text.trim (String.ofList a.name.toList) = a.name := by
    rw [Text.trim, String.toList_ofList, Text.trimChars_eq_self a.name_starts a.name_ends,
      String.ofList_toList]
  rw [htext, ofUrl?_of_last hslash, Target.around, takeWhile_path, htrim, target]

theorem ofUrl?_of_slash {before after : String} (hq : a.query = some (before ++ "/" ++ after))
    (h : '/' ∉ after.toList) :
    Target.ofUrl? a.text = .ok (.around (a.server ++ "/" ++ a.name ++ "?" ++ before) after) := by
  have htext : a.text = a.server ++ "/" ++ a.name ++ "?" ++ before ++ "/" ++ after := by
    simp [text, queryText, hq, String.append_assoc]
  rw [htext, ofUrl?_of_last h]

theorem target_ne_around (before after : String) :
    a.target ≠ .around (a.server ++ "/" ++ a.name ++ "?" ++ before) after := by
  intro h
  have hlength := congrArg (·.adminUrl.length) h
  simp only [target, Target.around, String.length_append] at hlength
  have hmark : "?".length = 1 := rfl
  omega

/-- The name and the server are those of the path exactly if no slash stands in the query, and then nothing is
left to do for an empty name and for the database that every server has, and for no other. With a slash in
the query, the name is looked for behind the last one. -/
theorem named_by_path :
    (Target.ofUrl? a.text = .ok a.target ↔ a.PlainQuery) ∧
      (a.PlainQuery → plan a.text =
        .ok (if a.name = "" ∨ a.name = maintenance then .nothing else .ask a.target)) ∧
      ∀ before after, a.query = some (before ++ "/" ++ after) → '/' ∉ after.toList →
        Target.ofUrl? a.text =
          .ok (.around (a.server ++ "/" ++ a.name ++ "?" ++ before) after) := by
  refine ⟨⟨fun h query hq hslash => ?_, a.ofUrl?_of_plain⟩, fun h => ?_, fun before after => ?_⟩
  · obtain ⟨before, after, hcut⟩ := Text.exists_cutLast hslash
    obtain ⟨hsplit, hlast⟩ := Text.cutLast_eq_some hcut
    have hquery : a.query = some (String.ofList before ++ "/" ++ String.ofList after) := by
      rw [Option.mem_def.mp hq]
      congr 1
      apply String.toList_injective
      simp [hsplit]
    rw [a.ofUrl?_of_slash hquery (by simpa using hlast)] at h
    exact a.target_ne_around _ _ (Except.ok.inj h).symm
  · rw [plan, a.ofUrl?_of_plain h]
    rfl
  · exact a.ofUrl?_of_slash

/-- The database of a shop, with this query. -/
def shop (query : String) : Address where
  scheme := "postgres"
  authority := "u:p@localhost:5432"
  name := "shop"
  query := some query
  authority_plain := by simp
  name_plain := by simp
  name_starts := by rintro c ⟨⟩; decide
  name_ends := by rintro c ⟨⟩; decide

theorem named_by_path_shop :
    Target.ofUrl? "postgres://u:p@localhost:5432/shop?sslmode=disable" =
      .ok ⟨"postgres://u:p@localhost:5432/postgres", "shop"⟩ := by
  have hquery : (shop "sslmode=disable").PlainQuery := by
    rintro query ⟨⟩
    decide
  exact (named_by_path (shop "sslmode=disable")).1.mpr hquery

/-- An address with a certificate in a file. -/
def certified : Address := shop "sslrootcert=/certs/postgres"

/-- The certificate's file counts as the database, so nothing is done for the shop. -/
theorem certificate_hides_shop :
    Target.ofUrl? certified.text ≠ .ok certified.target ∧ certified.name = "shop" ∧
      plan certified.text = .ok .nothing := by
  have hquery : certified.query = some ("sslrootcert=/certs" ++ "/" ++ "postgres") := by decide
  have hread := certified.ofUrl?_of_slash hquery (by decide)
  refine ⟨fun h => ?_, rfl, ?_⟩
  · rw [hread] at h
    exact certified.target_ne_around _ _ (Except.ok.inj h).symm
  · rw [plan, hread]
    decide

end Address

end Hypermedia.Database
