import Hypermedia.Proofs.Proximity
import Hypermedia.Proofs.Sorting

/-!
# Points and pairs

A place is stored as a point, which is an object with a pair of coordinates, or as the bare pair. Both are read
as the same position, and found documents are ordered alike by either. But a filter looks into an array before
it looks for a position, and the items of a pair are numbers. So a filter for nearness never finds a bare pair,
however near it is.
-/

namespace Hypermedia

open Hypermedia.Store (Document)

namespace Geo

/-- Two numbers as a bare pair of coordinates. -/
def pair (lng lat : Number) : Value := .array [.number lng, .number lat]

/-- Two numbers as the coordinates of a point. -/
def point (lng lat : Number) : Value := .object [("type", .string "Point"), ("coordinates", pair lng lat)]

end Geo

namespace Filter

/-- The position of two coordinates lies in a circle. -/
def Circle.Around (c : Circle) (lng lat : Number) : Prop :=
  Geo.distance ⟨c.lng, c.lat⟩ ⟨lng.toFloat, lat.toFloat⟩ ≤ c.maxDistance
  deriving Decidable

section
variable {n : Near} {circle : Circle} (hn : n.resolve = .ok circle)

include hn

theorem prepare_near :
    (Predicate.near n).prepare = .ok (.near ⟨circle.lng, circle.lat⟩ circle.maxDistance) := by
  simp only [Predicate.prepare, hn, Except.map]

theorem met_near_iff (v : Value) : (Predicate.near n).Met v ↔
    Test.holds (.near ⟨circle.lng, circle.lat⟩ circle.maxDistance) v = true := by
  simp [Predicate.Met, prepare_near hn]

/-- The items of an array are asked, and a number is no position. -/
theorem not_met_near_pair (lng lat : Number) : ¬ (Predicate.near n).Met (Geo.pair lng lat) := by
  have hitems : Test.holds (.near ⟨circle.lng, circle.lat⟩ circle.maxDistance) (Geo.pair lng lat) = false := rfl
  rw [met_near_iff hn, hitems]
  exact Bool.false_ne_true

theorem met_near_point_iff (lng lat : Number) :
    (Predicate.near n).Met (Geo.point lng lat) ↔ circle.Around lng lat := by
  have hposition : Test.holds (.near ⟨circle.lng, circle.lat⟩ circle.maxDistance) (Geo.point lng lat) =
      decide (circle.Around lng lat) := rfl
  rw [met_near_iff hn, hposition, decide_eq_true_iff]

end

end Filter

/-- A find returns the documents that meet every predicate of its condition. -/
theorem Store.mem_find_iff {s : Store} {collection : String} {c : Filter.Condition}
    {sort : List (String × Filter.Direction)} {found : List Document}
    (hfound : s.find collection c { sort } = .ok found) (d : Document) :
    d ∈ found ↔ d ∈ s.documents collection ∧ ∀ x ∈ c, x.2.Met ((Members.get? d x.1).getD .null) := by
  obtain ⟨m, hm⟩ := Store.exists_prepare ((Store.find_succeeds_iff s collection c { sort }).mp ⟨found, hfound⟩)
  have hperm := Store.find_perm (Store.matching_of_prepare hm s collection) hfound
  have hwhole : ((s.documents collection).filter (Filter.Matcher.accepts m)).map (Document.project · none) =
      (s.documents collection).filter (Filter.Matcher.accepts m) := List.map_id _
  rw [hperm.mem_iff, hwhole, List.mem_filter, Filter.accepts_iff hm]

namespace Filter

/-- A filter for nearness tells points from pairs, though both are read as one position and have one distance.
It never meets a pair, and meets the point of the same numbers if the position lies in the circle. So no find
with the filter returns a document that holds the pair, whatever else it asks; and a document that holds the
point is returned exactly if the position lies in the circle and the document meets all that the find asks of
other fields. -/
theorem near_filter_never_finds_pairs {n : Near} {circle : Circle} (hn : n.resolve = .ok circle)
    (lng lat : Number) :
    Geo.Position.ofValue? (Geo.pair lng lat) = some ⟨lng.toFloat, lat.toFloat⟩ ∧
      Geo.Position.ofValue? (Geo.point lng lat) = some ⟨lng.toFloat, lat.toFloat⟩ ∧
      (∀ (field : String) (d e : Document), Members.get? d field = some (Geo.pair lng lat) →
        Members.get? e field = some (Geo.point lng lat) →
          Condition.accepts [(field, .near n)] d = .ok false ∧
          Condition.accepts [(field, .near n)] e = .ok (decide (circle.Around lng lat)) ∧
          ∀ origin, Store.distanceOf field origin d = Store.distanceOf field origin e) ∧
      ∀ (s : Store) (collection field : String) (c : Condition), (field, .near n) ∈ c →
        (∀ p, (field, p) ∈ c → p = .near n) →
        ∀ (sort : List (String × Direction)) (found : List Document),
          s.find collection c { sort } = .ok found → ∀ d ∈ s.documents collection,
            (Members.get? d field = some (Geo.pair lng lat) → d ∉ found) ∧
            (Members.get? d field = some (Geo.point lng lat) → (d ∈ found ↔ circle.Around lng lat ∧
              ∀ x ∈ c, x.1 ≠ field → x.2.Met ((Members.get? d x.1).getD .null))) := by
  refine ⟨rfl, rfl, fun field d e hd he => ⟨?_, ?_, fun origin => ?_⟩, fun s collection field c hmem honly sort
    found hfound d hd => ⟨fun hpair hm => ?_, fun hpoint => ?_⟩⟩
  · exact accepts_single (prepare_near hn) hd
  · exact accepts_single (prepare_near hn) he
  · rw [Store.distanceOf, Store.distanceOf, hd, he]
    rfl
  · have hmet := ((Store.mem_find_iff hfound d).mp hm).2 _ hmem
    rw [hpair] at hmet
    exact not_met_near_pair hn lng lat hmet
  · rw [Store.mem_find_iff hfound d, ← met_near_point_iff hn]
    constructor
    · rintro ⟨-, hall⟩
      have hmet := hall _ hmem
      rw [hpoint] at hmet
      exact ⟨hmet, fun x hx _ => hall x hx⟩
    · rintro ⟨hmet, hothers⟩
      refine ⟨hd, ?_⟩
      rintro ⟨f, p⟩ hx
      by_cases hf : f = field
      · subst hf
        rw [honly p hx, hpoint]
        exact hmet
      · exact hothers _ hx hf

/-- The same place twice, as a bare pair and as a point. -/
def places : List Document :=
  [[("id", .string "a"), ("at", Geo.pair (.int 139) (.int 35))],
    [("id", .string "b"), ("at", Geo.point (.int 139) (.int 35))]]

/-- A find of what is a kilometre around it. -/
theorem near_filter_never_finds_pairs_kilometre :
    ∃ circle, (⟨"35", "139", "1000"⟩ : Near).resolve = .ok circle ∧
      ∃ found, (Store.empty.withDocuments "site" places).find "site" [("at", .near ⟨"35", "139", "1000"⟩)]
          { sort := [] } = .ok found ∧
        [("id", Value.string "a"), ("at", Geo.pair (.int 139) (.int 35))] ∉ found ∧
        ([("id", Value.string "b"), ("at", Geo.point (.int 139) (.int 35))] ∈ found ↔
          circle.Around (.int 139) (.int 35)) := by
  obtain ⟨circle, hcircle⟩ := (Near.resolves_iff ⟨"35", "139", "1000"⟩).mpr ⟨rfl, rfl, rfl⟩
  obtain ⟨-, -, -, hfind⟩ := near_filter_never_finds_pairs hcircle (.int 139) (.int 35)
  have hdocuments : (Store.empty.withDocuments "site" places).documents "site" = places := by
    rw [Store.documents_withDocuments, if_pos rfl]
  have hsense : ¬ ∃ x ∈ [("at", Predicate.near ⟨"35", "139", "1000"⟩)], x.2.Senseless := by
    rintro ⟨x, hx, hnone⟩
    obtain rfl := List.mem_singleton.mp hx
    obtain ⟨e, he⟩ := hnone
    cases hcircle.symm.trans he
  obtain ⟨found, hfound⟩ := (Store.find_succeeds_iff (Store.empty.withDocuments "site" places) "site" _
    { sort := [] }).mpr hsense
  have honly : ∀ p, ("at", p) ∈ [("at", Predicate.near ⟨"35", "139", "1000"⟩)] →
      p = .near ⟨"35", "139", "1000"⟩ := by simp
  have hboth := hfind _ "site" "at" _ (List.mem_cons_self ..) honly [] found hfound
  rw [hdocuments] at hboth
  refine ⟨circle, hcircle, found, hfound, (hboth _ (List.mem_cons_self ..)).1 rfl, ?_⟩
  rw [(hboth _ (List.mem_cons_of_mem _ (List.mem_cons_self ..))).2 rfl]
  simp

end Filter

end Hypermedia
