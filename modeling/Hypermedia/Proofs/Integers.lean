import Hypermedia.Proofs.Filters
import Hypermedia.Proofs.Floats
import Hypermedia.Proofs.Removal

/-!
# Comparing integers

JSON keeps an integer of 64 bits exactly, but a comparison turns it into a float. So integers are compared
as they are after rounding to 53 bits. Up to two to the 53 this is their own order. Above, a filter on an
integer finds every integer that is rounded to the same, and a delete by such a filter removes all of them.
-/

namespace Hypermedia

open Decimal (nearest)

/-- An integer as a value. -/
abbrev Value.integer (n : Int) : Value := .number (.int n)

namespace Filter

open Number (IsWord log2_of_isWord)
open Store (Document)

section
variable {m n : Int} (hm : IsWord m) (hn : IsWord n)

include hm hn

theorem compare?_int : compare? (.integer m) (.integer n) =
    some (compare (nearest m) (nearest n)) :=
  Number.compareFloats_ofInt (log2_of_isWord hm) (log2_of_isWord hn)

theorem equals_int : equals (.integer m) (.integer n) = decide (nearest m = nearest n) := by
  have hcompare := Number.compare_denotes (Number.denotes_ofInt (log2_of_isWord hm))
    (Number.denotes_ofInt (log2_of_isWord hn))
  have hfloats : equals (.integer m) (.integer n) = (Float.ofInt m == Float.ofInt n) := rfl
  rw [hfloats, Bool.eq_iff_iff, float_beq_iff, hcompare, decide_eq_true_iff, Option.some.injEq,
    compare_eq_iff_eq]

/-! ### Predicates asked of an integer -/

theorem holds_exact_int : Test.holds (.exact (.integer n)) (.integer m) =
    decide (nearest m = nearest n) := equals_int hm hn

/-- Of several values only the numbers count. -/
theorem holds_oneOf_int {vs : List Value} (hmem : .integer n ∈ vs)
    (honly : ∀ l, .number l ∈ vs → l = .int n) :
    Test.holds (.oneOf vs) (.integer m) = decide (nearest m = nearest n) := by
  have hany : Test.holds (.oneOf vs) (.integer m) = vs.any (equals (.integer m)) := rfl
  rw [hany, ← equals_int hm hn, Bool.eq_iff_iff, List.any_eq_true]
  constructor
  · rintro ⟨w, hw, h⟩
    cases w with
    | number l => rwa [honly l hw] at h
    | _ => cases h
  · exact fun h => ⟨_, hmem, h⟩

theorem holds_range_int {l : Int} (hl : IsWord l) :
    Test.holds (.range (.integer m) (.integer n)) (.integer l) =
      decide (nearest m ≤ nearest l ∧ nearest l ≤ nearest n) := by
  have hbounds : Test.holds (.range (.integer m) (.integer n)) (.integer l) =
      ((compare? (.integer l) (.integer m)).any (· != .lt) &&
        (compare? (.integer l) (.integer n)).any (· != .gt)) := rfl
  rw [hbounds, compare?_int hl hm, compare?_int hl hn, Bool.eq_iff_iff]
  simp only [Option.any_some, Bool.and_eq_true, bne_iff_ne, decide_eq_true_iff, compare_ne_gt_iff]
  rw [Ne, compare_lt_iff_lt, not_lt]

end

end Filter

/-! ### Selections and deletes -/

namespace Operation

open Program (Environment World run)
open Store (Document)
open Hypermedia.Filter (Condition Matcher Request)
open Number (IsWord)

/-- Integers of 64 bits compare as they are after rounding to 53 bits, which keeps their order and leaves them
alone up to two to the 53. A field that is an integer is met by an exact integer, and by several values of
which this is the only number, if both are rounded to the same; it lies in a range of integers if it does so
after rounding. An exact filter selects the documents whose integer is rounded to the same as the one asked
for, and a delete by it removes these: if no call is refused, it ends well, and a document with an integer in
the field is left exactly if the two are rounded differently. -/
theorem integers_compared_as_rounded {m n : Int} (hm : IsWord m) (hn : IsWord n) :
    Filter.compare? (.integer m) (.integer n) = some (compare (nearest m) (nearest n)) ∧
      (∀ k l : Int, k ≤ l → nearest k ≤ nearest l) ∧ (∀ k : Int, k.natAbs ≤ 2 ^ 53 → nearest k = k) ∧
      (∀ (field : String) (d : Document), Members.get? d field = some (.integer m) →
        Condition.accepts [(field, .exact (.integer n))] d = .ok (decide (nearest m = nearest n)) ∧
        (∀ vs, .integer n ∈ vs → (∀ l, .number l ∈ vs → l = .int n) →
          Condition.accepts [(field, .oneOf vs)] d = .ok (decide (nearest m = nearest n))) ∧
        (∀ a b, IsWord a → IsWord b →
          Condition.accepts [(field, .range (.integer a) (.integer b))] d =
            .ok (decide (nearest a ≤ nearest m ∧ nearest m ≤ nearest b)))) ∧
      (∀ (s : Store) (collection field : String), ∃ found,
        s.matching collection [(field, .exact (.integer n))] = .ok found ∧
        ∀ d ∈ s.documents collection, Members.get? d field = some (.integer m) →
          (d ∈ found ↔ nearest m = nearest n)) ∧
      ∀ {ds : List Schema.ResourceDeclaration} {i : Interface} {h : History},
        Schema.resolve ds = .ok i.registry → h.On i.registry →
        ∀ (r : Resource) (request : Request) (field : String),
          Filter.condition r request = [(field, .exact (.integer n))] →
        ∀ {env : Environment}, env.Accepts → ∀ {w : World}, w.store = h.after i Store.empty →
          (∃ removed, (run env (deleteCollection r request).run w).1 = .ok removed) ∧
          ∀ d ∈ w.store.documents r.name, Members.get? d field = some (.integer m) →
            (d ∈ (run env (deleteCollection r request).run w).2.store.documents r.name ↔
              nearest m ≠ nearest n) := by
  have hprepare : ∀ field, Condition.prepare [(field, .exact (.integer n))] =
      .ok [(field, .exact (.integer n))] := fun _ => rfl
  have haccepts : ∀ (field : String) (d : Document), Members.get? d field = some (.integer m) →
      Matcher.accepts [(field, .exact (.integer n))] d = decide (nearest m = nearest n) := by
    intro field d hd
    rw [Matcher.accepts_cons, hd, Option.getD_some, Filter.holds_exact_int hm hn]
    exact Bool.and_true _
  refine ⟨Filter.compare?_int hm hn, fun _ _ => Decimal.nearest_mono, fun _ => Decimal.nearest_of_natAbs_le,
    fun field d hd => ⟨?_, fun vs hmem honly => ?_, fun a b ha hb => ?_⟩, fun s collection field => ?_, ?_⟩
  · rw [Filter.accepts_single rfl hd, Filter.holds_exact_int hm hn]
  · rw [Filter.accepts_single rfl hd, Filter.holds_oneOf_int hm hn hmem honly]
  · rw [Filter.accepts_single rfl hd, Filter.holds_range_int ha hb hm]
  · refine ⟨_, Store.matching_of_prepare (hprepare field) s collection, fun d hd hfield => ?_⟩
    rw [List.mem_filter, haccepts field d hfield, decide_eq_true_iff]
    exact and_iff_right hd
  · intro ds i h hresolve hon r request field hcondition env henv w hw
    have hg : i.registry.Consistent := Schema.consistent_of_resolve hresolve
    have hs : w.store.Keyed := hw ▸ History.keyed hg hon
    obtain ⟨removed, hremoved, -, hgone⟩ := Service.success_of_accepts henv
      (ends_deleteCollection_without hs (hcondition ▸ hprepare field))
    refine ⟨⟨removed, hremoved⟩, fun d hd hfield => ?_⟩
    rw [hgone.left, List.mem_filter, haccepts field d hfield]
    simp [hd]

open Accounts in
/-- Two accounts, whose limits are two to the 53 and the next integer. -/
def neighbours : History := [opening "ann" 9007199254740992, opening "bob" 9007199254740993]

open Accounts in
/-- A delete of the accounts with the greater limit removes the other account too. -/
theorem integers_compared_as_rounded_accounts :
    IsWord 9007199254740992 ∧ IsWord 9007199254740993 ∧
      Filter.compare? (.integer 9007199254740992) (.integer 9007199254740993) = some .eq ∧
      Filter.condition account ⟨none, [], [("limit", "9007199254740993")]⟩ =
        [("limit", .exact (.integer 9007199254740993))] ∧
      ∃ d ∈ (neighbours.after interface Store.empty).documents "account",
        Members.get? d "limit" = some (.integer 9007199254740992) ∧
        d ∉ (run (Groups.refusing none)
          (deleteCollection account ⟨none, [], [("limit", "9007199254740993")]⟩).run
          { store := neighbours.after interface Store.empty }).2.store.documents "account" := by
  have hlow : IsWord 9007199254740992 := by decide
  have hhigh : IsWord 9007199254740993 := by decide
  have hsame : nearest 9007199254740992 = nearest 9007199254740993 := by decide +kernel
  have hcondition : Filter.condition account ⟨none, [], [("limit", "9007199254740993")]⟩ =
      [("limit", .exact (.integer 9007199254740993))] := by rfl
  have hon : neighbours.On interface.registry := by simp [History.On, neighbours, opening, interface]
  obtain ⟨hcompare, -, -, -, -, hdeletes⟩ := integers_compared_as_rounded hlow hhigh
  obtain ⟨-, hleft⟩ := hdeletes resolve_declarations hon account _ "limit" hcondition Groups.accepts
    (w := { store := neighbours.after interface Store.empty }) rfl
  have hann : ∃ d ∈ (neighbours.after interface Store.empty).documents "account",
      Members.get? d "limit" = some (.integer 9007199254740992) := by
    exact ⟨_, List.mem_cons_self .., rfl⟩
  obtain ⟨d, hd, hlimit⟩ := hann
  refine ⟨hlow, hhigh, ?_, hcondition, d, hd, hlimit, fun hkept => ?_⟩
  · rw [hcompare, hsame, compare_eq_iff_eq.mpr rfl]
  · exact (hleft d hd hlimit).mp hkept hsame

/-- Two to the 53 is the same as the next integer, asked for exactly or as a range of its own. -/
theorem next_integers_compare_equal :
    Filter.compare? (.integer 9007199254740993) (.integer 9007199254740992) = some .eq ∧
      Condition.accepts [("limit", .exact (.integer 9007199254740992))]
        [("limit", .integer 9007199254740993)] = .ok true ∧
      Condition.accepts [("limit", .range (.integer 9007199254740992) (.integer 9007199254740992))]
        [("limit", .integer 9007199254740993)] = .ok true :=
  ⟨by decide +kernel, rfl, rfl⟩

end Operation

end Hypermedia
