import Hypermedia.Proofs.Filters

/-!
# Where a filter is sent

A text for an attribute may stand in the query, in the path or in the body of a request. In query and path
it is read by the type of its attribute before it is compiled, and compiling reads it again; in the body
it is read once. Either way it asks the same: what the first reading turns into a number, a truth value or
a canonical date holds no comma and no star, so compiling asks for that value and no other.
-/

namespace Hypermedia.Filter

/-- Compiling a text that was read by its type already is compiling the text. -/
theorem predicate_coerce (type : FieldType) (text : String) :
    predicate type (coerce type text) = predicate type (.string text) := by
  by_cases htype : type = .geometry
  · subst htype
    rfl
  -- A text with a mark is left as it is.
  by_cases hcomma : ',' ∈ text.toList
  · rw [coerce_of_mark (.inl rfl) hcomma]
  by_cases hstar : '*' ∈ text.toList
  · rw [coerce_of_mark (.inr rfl) hstar]
  rw [predicate_of_part htype hcomma hstar, predicate_of_unmarked htype hcomma hstar]

/-- A request has a text for a name in one of its three places, and nothing for it in the others. -/
inductive Request.GivesAlone (q : Request) (name text : String) : Prop
  | query (hbody : q.body.bind (Members.get? · name) = none) (hpath : q.path.get? name = none)
      (h : q.query.get? name = some text)
  | path (hbody : q.body.bind (Members.get? · name) = none) (h : q.path.get? name = some text)
      (hquery : q.query.get? name = none)
  | body (h : q.body.bind (Members.get? · name) = some (.string text)) (hpath : q.path.get? name = none)
      (hquery : q.query.get? name = none)

/-- The value of the attribute is the text, or what it is read as. -/
theorem Request.GivesAlone.exists_value {q : Request} {a : Attribute} {text : String}
    (h : q.GivesAlone a.name text) (htext : text ≠ "") :
    ∃ v, q.value? a = some v ∧ predicate a.type v = predicate a.type (.string text) := by
  cases h with
  | query hbody hpath h =>
    refine ⟨coerce a.type text, ?_, predicate_coerce a.type text⟩
    have hoption : q.option? a.name = some text := by simp [option?, h, htext]
    simp only [value?, hbody, hpath, hoption, Option.map_some]
  | path hbody h =>
    refine ⟨coerce a.type text, ?_, predicate_coerce a.type text⟩
    simp only [value?, hbody, h]
  | body h => exact ⟨.string text, by simp only [value?, h], rfl⟩

/-- A filter means the same wherever it is sent. A text compiles alike whether it is read by its type before or
not; so an attribute that a condition may ask for is asked the same by a text in the query, in the path or
in the body, whatever the request holds for other names. -/
theorem filters_mean_the_same_everywhere {ds : List Schema.ResourceDeclaration} {g : Registry}
    (hdistinct : Schema.Distinct ds) (hresolve : Schema.resolve ds = .ok g) {r : Resource}
    (hr : r ∈ g.resources) :
    (∀ type text, predicate type (coerce type text) = predicate type (.string text)) ∧
      ∀ a ∈ conditionAttributes r, ∀ text, text ≠ "" → ∀ q : Request, q.GivesAlone a.name text →
        Condition.get? (condition r q) a.name = some (predicate a.type (.string text)) := by
  have hnames := Schema.distinct_of_resolve hdistinct hresolve r hr
  have hfree : r.NamesFree := (Schema.consistent_of_resolve hresolve).namesFree hr
  refine ⟨predicate_coerce, fun a ha text htext q hq => ?_⟩
  obtain ⟨v, hv, hsame⟩ := hq.exists_value htext
  have hasked : (a.name, predicate a.type v) ∈ condition r q :=
    (mem_condition hnames hfree).mpr (.inl ⟨a, ha, v, hv, rfl⟩)
  rw [← hsame]
  exact (find?_key_eq_some_iff (nodup_condition hnames hfree q)).mpr hasked

/-- A day, sent in all three ways: in the body it is a day like any other text, and asked for in canonical form. -/
theorem filters_mean_the_same_everywhere_trips :
    Schema.Distinct Trips.declarations ∧
      Schema.resolve Trips.declarations = .ok Trips.interface.registry ∧
      predicate .date (.string "2024-1-31") = .exact (.string "2024-01-31T00:00:00.000Z") ∧
      ∀ q ∈ [(⟨none, [], [("day", "2024-1-31"), ("name", "a")]⟩ : Request),
          ⟨none, [("day", "2024-1-31")], [("name", "a")]⟩,
          ⟨some [("day", .string "2024-1-31")], [], [("name", "a")]⟩],
        Condition.get? (condition Trips.trip q) "day" = some (predicate .date (.string "2024-1-31")) := by
  have hday : Trips.day ∈ conditionAttributes Trips.trip := by
    simp [conditionAttributes, Trips.trip, Trips.day, Resource.allAttributes, FieldType.isChildren]
  have hcanonical : Time.normalized "2024-1-31" = "2024-01-31T00:00:00.000Z" := by decide +kernel
  have hexact : predicate .date (.string "2024-1-31") = .exact (.string "2024-01-31T00:00:00.000Z") := by
    rw [predicate_of_unmarked (by decide) (by decide) (by decide), coerce, hcanonical]
  obtain ⟨-, hsame⟩ := filters_mean_the_same_everywhere Trips.distinct_declarations
    Trips.resolve_declarations (List.mem_cons_self ..)
  refine ⟨Trips.distinct_declarations, Trips.resolve_declarations, hexact, ?_⟩
  simp only [List.forall_mem_cons, List.not_mem_nil, false_implies, implies_true, and_true]
  exact ⟨hsame Trips.day hday _ (by decide) _ (.query rfl rfl rfl),
    hsame Trips.day hday _ (by decide) _ (.path rfl rfl rfl),
    hsame Trips.day hday _ (by decide) _ (.body rfl rfl rfl)⟩

end Hypermedia.Filter
