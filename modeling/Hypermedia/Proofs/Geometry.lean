import Hypermedia.Proofs.Emission
import Hypermedia.Proofs.Floats
import Hypermedia.Proofs.Places

/-!
# Geometries read back

A geometry is shown as the coordinates of its point, and what is shown can be sent back. A pair and a text are
stored as a point with two numbers, so they come back to the same position. What calls itself a point is stored
as it is. It comes back exactly if its coordinates are a pair of numbers.
-/

namespace Hypermedia

open Geo (Position)
open Hypermedia.Store (Document)

/-- A value of JSON: its numbers are such as JSON has. -/
inductive Value.IsJson : Value → Prop
  | null : IsJson .null
  | bool (b : Bool) : IsJson (.bool b)
  | number {n : Number} (h : n.IsJson) : IsJson (.number n)
  | string (s : String) : IsJson (.string s)
  | array {xs : List Value} (h : ∀ x ∈ xs, IsJson x) : IsJson (.array xs)
  | object {ms : Members} (h : ∀ m ∈ ms, IsJson m.2) : IsJson (.object ms)

theorem Value.IsJson.number_iff {n : Number} : (Value.number n).IsJson ↔ n.IsJson :=
  ⟨fun h => by cases h; assumption, .number⟩

theorem Value.IsJson.coordinates {ms : Members} (h : (Value.object ms).IsJson) {x y : Number}
    (hpair : Members.get? ms "coordinates" = some (Geo.pair x y)) : x.IsJson ∧ y.IsJson := by
  cases h with
  | object hall =>
    cases hall _ (Members.mem_of_get? hpair) with
    | array hitems =>
      exact ⟨number_iff.mp (hitems _ (by simp)), number_iff.mp (hitems _ (by simp))⟩

/-! ### Numbers of texts -/

theorem Decimal.isWord_of_int64? {s : String} {n : Int} (h : int64? s = some n) : Number.IsWord n := by
  have hword : twoTo 63 = 2 ^ 63 := rfl
  rw [int64?] at h
  generalize signed s.toList = parts at h
  obtain ⟨negative, cs⟩ := parts
  obtain ⟨k, -, hk⟩ := Option.bind_eq_some_iff.mp h
  cases negative with
  | true =>
    obtain ⟨hle, hn⟩ := Option.ite_none_right_eq_some.mp hk
    cases hn
    exact ⟨by omega, by omega⟩
  | false =>
    obtain ⟨hlt, hn⟩ := Option.ite_none_right_eq_some.mp hk
    cases hn
    exact ⟨by omega, by omega⟩

theorem Filter.isJson_of_number? {s : String} {n : Number} (h : number? s = some n) : n.IsJson := by
  simp only [number?] at h
  split at h
  · rename_i k hk
    cases h
    exact Decimal.isWord_of_int64? hk
  · obtain ⟨x, -, hx⟩ := Option.bind_eq_some_iff.mp h
    obtain ⟨hfinite, hn⟩ := Option.ite_none_right_eq_some.mp hx
    cases hn
    exact hfinite

/-! ### Points of two finite numbers -/

/-- Both coordinates are finite. -/
structure Geo.Position.IsFinite (q : Position) : Prop where
  lng : q.lng.isFinite = true
  lat : q.lat.isFinite = true

section
variable {q : Position} (hq : q.IsFinite)

include hq

theorem Geo.toPoint_eq : q.toPoint = Geo.point (.float q.lng) (.float q.lat) := by
  have hlng : Number.ofFloat? q.lng = some (.float q.lng) := if_pos hq.lng
  have hlat : Number.ofFloat? q.lat = some (.float q.lat) := if_pos hq.lat
  simp only [Position.toPoint, Geo.numberValue, hlng, hlat, Geo.point, Geo.pair]

theorem Record.point?_coordinates {x y : Number} (hx : x.toFloat = q.lng) (hy : y.toFloat = q.lat) :
    Record.point? (Geo.pair x y) = some (Geo.point (.float q.lng) (.float q.lat)) := by
  have hposition : Record.position? (Geo.pair x y) = some q := by
    simp [Record.position?, Geo.pair, Value.float?, hx, hy]
  have hpoint : Record.point? (Geo.pair x y) = (Record.position? (Geo.pair x y)).map Position.toPoint := rfl
  rw [hpoint, hposition, Option.map_some, Geo.toPoint_eq hq]

end

/-- What a value other than an object writes is the position of two finite numbers. -/
theorem Record.isFinite_of_position? {v : Value} (hv : v.IsJson) {q : Position} (h : position? v = some q) :
    q.IsFinite := by
  unfold position? at h
  split at h
  · rename_i x y
    obtain ⟨lng, hlng, h⟩ := Option.bind_eq_some_iff.mp h
    obtain ⟨lat, hlat, h⟩ := Option.bind_eq_some_iff.mp h
    cases h
    have hfinite : ∀ w ∈ [x, y], ∀ z, w.float? = some z → z.isFinite = true := by
      intro w hw z hz
      obtain ⟨n, rfl, rfl⟩ : ∃ n, w = .number n ∧ n.toFloat = z := by
        cases w <;> simp_all [Value.float?]
      cases hv with
      | array hall => exact Number.isFinite_toFloat (Value.IsJson.number_iff.mp (hall _ hw))
    exact ⟨hfinite x (by simp) lng hlng, hfinite y (by simp) lat hlat⟩
  · obtain ⟨parts, -, h⟩ := Option.bind_eq_some_iff.mp h
    obtain ⟨lng, hlng, h⟩ := Option.bind_eq_some_iff.mp h
    obtain ⟨lat, hlat, h⟩ := Option.bind_eq_some_iff.mp h
    cases h
    exact ⟨Number.isFinite_toFloat (Filter.isJson_of_number? hlng),
      Number.isFinite_toFloat (Filter.isJson_of_number? hlat)⟩
  · cases h

/-! ### Points that come back -/

/-- A filter for nearness asks an object for its position only. -/
theorem Filter.met_near_congr {ms ns : Members}
    (h : Position.ofValue? (.object ms) = Position.ofValue? (.object ns)) (n : Near) :
    (Predicate.near n).Met (.object ms) ↔ (Predicate.near n).Met (.object ns) := by
  cases hn : n.resolve with
  | error e => simp [Predicate.Met, Predicate.prepare, hn, Except.map]
  | ok circle =>
    rw [met_near_iff hn, met_near_iff hn]
    simp only [Test.holds, Test.holdsOf, h]

namespace Record

/-- A stored point can be read and sent back: it has a position, it is shown as a pair of numbers, and what is
stored for this pair has the same position and meets the same filters for nearness. -/
def Returns (p : Value) : Prop :=
  ∃ q x y p', Position.ofValue? p = some q ∧ Document.flatten p = Geo.pair x y ∧
    point? (Geo.pair x y) = some p' ∧ Position.ofValue? p' = some q ∧
    ∀ n, (Filter.Predicate.near n).Met p' ↔ (Filter.Predicate.near n).Met p

/-- Points with two numbers for coordinates come back. -/
theorem returns_of_pair {ms : Members} (hms : Geo.isPoint ms = true) {x y : Number} (hx : x.IsJson)
    (hy : y.IsJson) (h : Members.get? ms "coordinates" = some (Geo.pair x y)) : Returns (.object ms) := by
  have hfinite : Position.IsFinite ⟨x.toFloat, y.toFloat⟩ :=
    ⟨Number.isFinite_toFloat hx, Number.isFinite_toFloat hy⟩
  have hposition : Position.ofValue? (.object ms) = some ⟨x.toFloat, y.toFloat⟩ := by
    rw [Position.ofValue?, h]
    rfl
  have hflatten : Document.flatten (.object ms) = Geo.pair x y := by
    simp only [Document.flatten, Geo.coordinates?, hms, if_true, h, Option.getD_some]
  have hsame : Position.ofValue? (Geo.point (.float x.toFloat) (.float y.toFloat)) =
      Position.ofValue? (.object ms) := hposition.symm
  exact ⟨_, x, y, _, hposition, hflatten, point?_coordinates hfinite rfl rfl, rfl, Filter.met_near_congr hsame⟩

theorem returns_iff {ms : Members} (hms : Geo.isPoint ms = true) (hjson : (Value.object ms).IsJson) :
    Returns (.object ms) ↔ ∃ x y, Geo.coordinates? (.object ms) = some (Geo.pair x y) := by
  have hcoordinates : Geo.coordinates? (.object ms) = Members.get? ms "coordinates" := by
    rw [Geo.coordinates?, if_pos hms]
  rw [hcoordinates]
  constructor
  · rintro ⟨-, x, y, -, -, hflatten, -⟩
    cases hc : Members.get? ms "coordinates" with
    | none =>
      rw [Document.flatten, hcoordinates, hc] at hflatten
      cases hflatten
    | some w =>
      rw [Document.flatten, hcoordinates, hc] at hflatten
      exact ⟨x, y, congrArg some hflatten⟩
  · rintro ⟨x, y, h⟩
    obtain ⟨hx, hy⟩ := hjson.coordinates h
    exact returns_of_pair hms hx hy h

/-- A geometry that is read back can be written back, if its coordinates are a pair of numbers. A pair and a
text are always stored as such a point, which comes back to its position and can be found again. Of what calls
itself a point, exactly that with two numbers for coordinates comes back. An answer shows the coordinates of
the point. -/
theorem geometry_returns_iff_pair {v p : Value} (hv : v.IsJson) (h : point? v = some p) :
    ((∀ ms, v ≠ .object ms) → Returns p) ∧
      (Returns p ↔ ∃ x y, Geo.coordinates? p = some (Geo.pair x y)) ∧
      ∀ (d : Document) (field : String), field ≠ searchField → Members.get? d field = some p →
        Members.get? (Document.materialize d) field = some (Document.flatten p) := by
  have hshown : ∀ (d : Document) (field : String), field ≠ searchField → Members.get? d field = some p →
      Members.get? (Document.materialize d) field = some (Document.flatten p) := by
    intro d field hfield hd
    rw [Document.get?_materialize d hfield, hd, Option.map_some]
  cases v with
  | object ms =>
    obtain ⟨hms, hp⟩ := Option.ite_none_right_eq_some.mp h
    cases hp
    exact ⟨fun hno => absurd rfl (hno ms), returns_iff hms hv, hshown⟩
  | _ =>
    simp only [point?, Option.map_eq_some_iff] at h
    obtain ⟨q, hq, rfl⟩ := h
    have hfinite : q.IsFinite := isFinite_of_position? hv hq
    have hpoint : q.toPoint = Geo.point (.float q.lng) (.float q.lat) := Geo.toPoint_eq hfinite
    have hreturns : Returns q.toPoint := by
      rw [hpoint]
      exact returns_of_pair rfl (x := .float q.lng) (y := .float q.lat) hfinite.lng hfinite.lat rfl
    exact ⟨fun _ => hreturns, iff_of_true hreturns ⟨_, _, by rw [hpoint]; rfl⟩, hshown⟩

/-- A text with latitude before longitude, and a point with an integer and a float. -/
theorem geometry_returns_iff_pair_examples :
    (Value.string "35.6, 139.7").IsJson ∧
      (∃ p, point? (.string "35.6, 139.7") = some p ∧ Returns p) ∧
      (Geo.point (.int 139) (.float 35.6)).IsJson ∧ Returns (Geo.point (.int 139) (.float 35.6)) := by
  have htext : (Value.string "35.6, 139.7").IsJson := .string _
  have hint : Number.IsJson (.int 139) := ⟨by decide, by decide⟩
  have hfloat : Number.IsJson (.float 35.6) := by
    rw [Number.IsJson]
    decide +kernel
  have hpoint : (Geo.point (.int 139) (.float 35.6)).IsJson := by
    refine .object (List.forall_mem_cons.mpr ⟨.string _, List.forall_mem_singleton.mpr (.array ?_)⟩)
    exact List.forall_mem_cons.mpr ⟨.number hint, List.forall_mem_singleton.mpr (.number hfloat)⟩
  obtain ⟨p, hp⟩ : ∃ p, point? (.string "35.6, 139.7") = some p := ⟨_, rfl⟩
  refine ⟨htext, ⟨p, hp, (geometry_returns_iff_pair htext hp).1 fun ms => by simp⟩, hpoint, ?_⟩
  exact (geometry_returns_iff_pair hpoint rfl).2.1.mpr ⟨_, _, rfl⟩

/-- What calls itself a point without coordinates is stored and has no position; with three numbers, it is shown
as three numbers, which are no point any more. -/
theorem points_without_pair_stored :
    (∃ p, point? (.object [("type", .string "Point")]) = some p ∧ Position.ofValue? p = none) ∧
      ∃ p, point? (.object [("type", .string "Point"),
          ("coordinates", .array [.nat 139, .nat 35, .nat 40])]) = some p ∧
        Document.flatten p = .array [.nat 139, .nat 35, .nat 40] ∧
        point? (Document.flatten p) = none :=
  ⟨⟨_, rfl, rfl⟩, _, rfl, rfl, rfl⟩

end Record

end Hypermedia
