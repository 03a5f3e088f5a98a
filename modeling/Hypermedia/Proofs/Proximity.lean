import Hypermedia.Proofs.Acceptance

/-!
# Texts for a geometry

A text for a geometry asks for nearness: a latitude, a longitude and a largest distance, between commas. It
is cut when the condition is compiled and read when the condition is run. A missing part is read as an empty
one, which is no number; a part after the third is never looked at.
-/

namespace Hypermedia

namespace Filter

open Store (failure?)

/-- A part is a number, apart from the blanks around it. -/
def IsNumber (part : String) : Prop := (Decimal.float? (Text.trim part)).isSome
  deriving Decidable

/-- Three parts between commas, all of them numbers. -/
def WritesCircle (s : String) : Prop :=
  (Text.split ',' s).length = 3 ∧ ∀ part ∈ Text.split ',' s, IsNumber part
  deriving Decidable

/-- At least three parts between commas, the first three of them numbers. -/
def BeginsWithCircle (s : String) : Prop :=
  3 ≤ (Text.split ',' s).length ∧ ∀ part ∈ (Text.split ',' s).take 3, IsNumber part
  deriving Decidable

theorem beginsWithCircle_iff {s : String} (h : (Text.split ',' s).length ≤ 3) :
    BeginsWithCircle s ↔ WritesCircle s := by
  rw [BeginsWithCircle, WritesCircle, List.take_of_length_le h]
  exact and_congr_left' (by omega)

theorem Near.resolves_iff (n : Near) : (∃ circle, n.resolve = .ok circle) ↔
    (Decimal.float? n.lat).isSome ∧ (Decimal.float? n.lng).isSome ∧
      (Decimal.float? n.maxDistance).isSome := by
  unfold resolve Near.number
  cases Decimal.float? n.lng <;> cases Decimal.float? n.lat <;> cases Decimal.float? n.maxDistance <;> simp

/-- A text can be resolved if it begins with a circle. -/
theorem Near.ofText_resolves_iff (s : String) :
    (∃ circle, (Near.ofText s).resolve = .ok circle) ↔ BeginsWithCircle s := by
  have hmissing : Decimal.float? (Text.trim "") = none := rfl
  rw [resolves_iff, ofText, BeginsWithCircle]
  generalize Text.split ',' s = parts
  rcases parts with _ | ⟨lat, _ | ⟨lng, _ | ⟨distance, rest⟩⟩⟩
  · simp [hmissing]
  · simp [hmissing]
  · simp [hmissing]
  · simp [IsNumber]

section
variable {r : Resource} (hdistinct : (r.attributes.map (·.name)).Nodup) (hnames : r.NamesFree)

include hdistinct hnames

section
variable {q : Request} {a : Attribute} {s : String} (ha : a ∈ conditionAttributes r)
variable (htype : a.type = .geometry) (hs : q.value? a = some (.string s))
variable (hothers : ∀ b ∈ conditionAttributes r, b.type = .geometry → b.name ≠ a.name →
  ∀ t, q.value? b ≠ some (.string t))

include ha hs hothers

theorem near_unique {field : String} {n : Near} (h : (field, .near n) ∈ condition r q) :
    n = Near.ofText s := by
  rcases (mem_condition hdistinct hnames).mp h with ⟨b, hb, v, hv, hp⟩ | htext
  · obtain ⟨hgeometry, t, rfl, rfl⟩ := predicate_eq_near (Prod.ext_iff.mp hp).2
    have hname : b.name = a.name := Decidable.not_not.mp fun hne => hothers b hb hgeometry hne t hv
    obtain rfl : b = a :=
      List.inj_on_of_nodup_map (nodup_conditionAttributes hdistinct hnames) hb ha hname
    cases hv.symm.trans hs
    rfl
  · obtain ⟨text, -, hp⟩ := Option.map_eq_some_iff.mp (Option.mem_toList.mp htext)
    cases hp

include htype

/-- A condition with a text for one geometry fails with what is wrong about that text. -/
theorem raises_of_place : (condition r q).Raises (failure? (Near.ofText s).resolve) := by
  have hmem : (a.name, .near (Near.ofText s)) ∈ condition r q :=
    (mem_condition hdistinct hnames).mpr (.inl ⟨a, ha, _, hs, by rw [htype, predicate_geometry]⟩)
  have honly : ∀ field n, (field, .near n) ∈ condition r q → n = Near.ofText s := fun _ _ hn =>
    near_unique hdistinct hnames ha hs hothers hn
  have hfault : (condition r q).fault? = failure? (Near.ofText s).resolve := by
    cases hf : (condition r q).fault? with
    | none =>
      have hresolve := (Condition.fault?_eq_none_iff _).mp hf _ _ hmem
      exact (Store.failure?_eq_none_iff.mpr hresolve).symm
    | some e =>
      obtain ⟨before, field, n, after, hc, hn, -⟩ := Condition.exists_of_fault? hf
      obtain rfl := honly field n (hc ▸ List.mem_append_right _ (List.mem_cons_self ..))
      exact (Store.failure?_eq_some_iff.mpr hn).symm
  exact hfault ▸ Condition.raises_fault? (readable_condition r q)

end

end

/-- Malformed texts for a geometry are refused, as far as they are read. Let a request give a text for one
geometry. All that ask for its condition accept it if the text begins with three numbers between commas; if
not, all refuse it as a query without sense. So of texts with two commas at most, exactly the three numbers
between commas are accepted. -/
theorem texts_for_geometries_checked {ds : List Schema.ResourceDeclaration} {g : Registry}
    (hdistinct : Schema.Distinct ds) (hresolve : Schema.resolve ds = .ok g) {r : Resource}
    (hr : r ∈ g.resources) {a : Attribute} (ha : a ∈ conditionAttributes r) (htype : a.type = .geometry)
    {q : Request} {s : String} (hs : q.value? a = some (.string s))
    (hothers : ∀ b ∈ conditionAttributes r, b.type = .geometry → b.name ≠ a.name →
      ∀ t, q.value? b ≠ some (.string t)) :
    ((condition r q).Raises none ↔ BeginsWithCircle s) ∧
      ((∃ text, (condition r q).Raises (some (.invalidQuery text))) ↔ ¬ BeginsWithCircle s) ∧
      ((Text.split ',' s).length ≤ 3 → ((condition r q).Raises none ↔ WritesCircle s)) := by
  have hnames := Schema.distinct_of_resolve hdistinct hresolve r hr
  have hfree : r.NamesFree := (Schema.consistent_of_resolve hresolve).namesFree hr
  have hraises := raises_of_place hnames hfree ha htype hs hothers
  have haccepted : (condition r q).Raises none ↔ BeginsWithCircle s := by
    rw [← Near.ofText_resolves_iff, ← Store.failure?_eq_none_iff]
    exact ⟨fun h => hraises.prepare.symm.trans h.prepare, fun h => h ▸ hraises⟩
  refine ⟨haccepted, ?_, fun hparts => haccepted.trans (beginsWithCircle_iff hparts)⟩
  rw [← haccepted]
  constructor
  · rintro ⟨text, htext⟩ hnone
    cases htext.prepare.symm.trans hnone.prepare
  · intro hnot
    cases hn : (Near.ofText s).resolve with
    | ok circle =>
      rw [hn] at hraises
      exact absurd hraises hnot
    | error e =>
      obtain ⟨part, t, rfl⟩ := Near.resolve_eq_error hn
      rw [hn] at hraises
      exact ⟨_, hraises⟩

end Filter

namespace Trips

open Hypermedia.Filter (conditionAttributes)

theorem place_asked : place ∈ conditionAttributes trip := by
  simp [conditionAttributes, trip, place, Resource.allAttributes, FieldType.isChildren]

theorem place_alone {q : Filter.Request} : ∀ b ∈ conditionAttributes trip, b.type = .geometry →
    b.name ≠ place.name → ∀ t, q.value? b ≠ some (.string t) :=
  fun _ hb htype hname => absurd (congrArg Attribute.name (eq_place_of_geometry hb htype)) hname

end Trips

namespace Filter

/-- Blanks around the numbers and exponents are fine; a longitude that is a letter is not. -/
theorem texts_for_geometries_checked_trips :
    Schema.Distinct Trips.declarations ∧
      Schema.resolve Trips.declarations = .ok Trips.interface.registry ∧
      (condition Trips.trip ⟨none, [], [("place", "35, 139 ,1e3")]⟩).Raises none ∧
      ∃ text, (condition Trips.trip ⟨none, [], [("place", "35,x,1")]⟩).Raises
        (some (.invalidQuery text)) := by
  have hcircle : BeginsWithCircle "35, 139 ,1e3" := by decide
  have hletter : ¬ BeginsWithCircle "35,x,1" := by decide
  have haccepted := (texts_for_geometries_checked Trips.distinct_declarations Trips.resolve_declarations
    (List.mem_cons_self ..) Trips.place_asked rfl
    (q := ⟨none, [], [("place", "35, 139 ,1e3")]⟩) rfl Trips.place_alone).1
  have hrefused := (texts_for_geometries_checked Trips.distinct_declarations Trips.resolve_declarations
    (List.mem_cons_self ..) Trips.place_asked rfl
    (q := ⟨none, [], [("place", "35,x,1")]⟩) rfl Trips.place_alone).2.1
  exact ⟨Trips.distinct_declarations, Trips.resolve_declarations, haccepted.mpr hcircle,
    hrefused.mpr hletter⟩

/-- A text of four parts is no circle, and is accepted all the same: the seven stands after the third comma. -/
theorem fourth_part_ignored :
    ¬ WritesCircle "35,139,1000,7" ∧
      (condition Trips.trip ⟨none, [], [("place", "35,139,1000,7")]⟩).Raises none := by
  have htrip : Trips.trip ∈ Trips.interface.registry.resources := List.mem_cons_self ..
  have hnames := Schema.distinct_of_resolve Trips.distinct_declarations Trips.resolve_declarations _ htrip
  have hfree := (Schema.consistent_of_resolve Trips.resolve_declarations).namesFree htrip
  have hraises := raises_of_place hnames hfree (q := ⟨none, [], [("place", "35,139,1000,7")]⟩)
    Trips.place_asked rfl rfl Trips.place_alone
  have hresolve : ∃ circle, (Near.ofText "35,139,1000,7").resolve = .ok circle :=
    (Near.ofText_resolves_iff _).mpr (by decide)
  rw [Store.failure?_eq_none_iff.mpr hresolve] at hraises
  exact ⟨by decide, hraises⟩

end Filter

end Hypermedia
