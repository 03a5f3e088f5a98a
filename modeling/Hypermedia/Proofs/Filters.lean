import Hypermedia.Proofs.Catalog
import Hypermedia.Proofs.StorageForm
import Hypermedia.Proofs.Views
import Hypermedia.Proofs.Wildcard

/-!
# Filters of a query

Filters on several attributes select what each of them selects. A filter that lists parts between commas
selects what one of its parts would select. The condition reads a text twice, by the type of its attribute
and again for stars, commas and brackets; a part of a list that was read by its type reads as one value.
-/

namespace Hypermedia.Filter

open Store (Document)

/-! ### Predicates asked of values -/

/-- A value meets a predicate that makes sense. -/
def Predicate.Met (p : Predicate) (v : Value) : Prop := ∃ t, p.prepare = .ok t ∧ t.holds v = true

/-- A document meets every predicate of a condition. -/
theorem accepts_iff {c : Condition} {m : Matcher} (h : Condition.prepare c = .ok m) (d : Members) :
    Matcher.accepts m d = true ↔ ∀ x ∈ c, x.2.Met ((Members.get? d x.1).getD .null) := by
  induction c generalizing m with
  | nil =>
    cases h
    simp [Matcher.accepts]
  | cons x c ih =>
    obtain ⟨field, p⟩ := x
    obtain ⟨t, ht, h⟩ := Schema.except_bind_ok h
    obtain ⟨ts, hts, h⟩ := Schema.except_bind_ok h
    cases h
    have hp : t.holds ((Members.get? d field).getD .null) = true ↔
        p.Met ((Members.get? d field).getD .null) := by
      refine ⟨fun hold => ⟨t, ht, hold⟩, ?_⟩
      rintro ⟨t', ht', hold⟩
      cases ht.symm.trans ht'
      exact hold
    rw [Matcher.accepts_cons, Bool.and_eq_true, ih hts, hp, List.forall_mem_cons]

/-- A condition on one field asks its test of the field. -/
theorem accepts_single {field : String} {p : Predicate} {t : Test} (hp : p.prepare = .ok t) {d : Document}
    {v : Value} (hd : Members.get? d field = some v) :
    Condition.accepts [(field, p)] d = .ok (t.holds v) := by
  have hprepare : Condition.prepare [(field, p)] = .ok [(field, t)] := by
    simp [Condition.prepare, hp, bind, Except.bind, pure, Except.pure]
  have haccepts : Matcher.accepts [(field, t)] d = t.holds v := by
    rw [Matcher.accepts_cons, hd]
    exact Bool.and_true _
  rw [Condition.accepts, hprepare, ← haccepts]
  rfl

mutual

/-- A value is one of several, if it is the first, or the second, and so on; the items of an array are
asked one by one either way. -/
theorem holds_oneOf_iff {vs : List Value} (hplain : ∀ w ∈ vs, ∀ xs, w ≠ .array xs) : (v : Value) →
    (Test.holds (.oneOf vs) v = true ↔ ∃ w ∈ vs, Test.holds (.exact w) v = true)
  | .array xs => by
    have hitems : ∀ w ∈ vs, Test.holds (.exact w) (.array xs) = Test.holdsAny (.exact w) xs := by
      intro w hw
      have hwants : Test.wantsArray (.exact w) = false := by
        cases w with
        | array ys => exact absurd rfl (hplain _ hw ys)
        | _ => rfl
      rw [Test.holds, hwants]
      rfl
    have hany := holdsAny_oneOf_iff hplain xs
    refine hany.trans (exists_congr fun w => and_congr_right fun hw => ?_)
    rw [hitems w hw]
  | .string s => by simp [Test.holds, Test.holdsOf]
  | .null => by simp [Test.holds, Test.holdsOf]
  | .bool b => by simp [Test.holds, Test.holdsOf]
  | .number n => by simp [Test.holds, Test.holdsOf]
  | .object ms => by simp [Test.holds, Test.holdsOf]

theorem holdsAny_oneOf_iff {vs : List Value} (hplain : ∀ w ∈ vs, ∀ xs, w ≠ .array xs) : (xs : List Value) →
    (Test.holdsAny (.oneOf vs) xs = true ↔ ∃ w ∈ vs, Test.holdsAny (.exact w) xs = true)
  | [] => by simp [Test.holdsAny]
  | x :: xs => by
    simp only [Test.holdsAny, Bool.or_eq_true, holds_oneOf_iff hplain x, holdsAny_oneOf_iff hplain xs]
    constructor
    · rintro (⟨w, hw, h⟩ | ⟨w, hw, h⟩)
      · exact ⟨w, hw, .inl h⟩
      · exact ⟨w, hw, .inr h⟩
    · rintro ⟨w, hw, h | h⟩
      · exact .inl ⟨w, hw, h⟩
      · exact .inr ⟨w, hw, h⟩

end

theorem met_oneOf_iff {vs : List Value} (hplain : ∀ w ∈ vs, ∀ xs, w ≠ .array xs) (v : Value) :
    Predicate.Met (.oneOf vs) v ↔ ∃ w ∈ vs, Predicate.Met (.exact w) v := by
  have hmet : ∀ {t : Test}, (∃ t', Except.ok (ε := Store.Error) t = .ok t' ∧ t'.holds v = true) ↔
      t.holds v = true := by
    intro t
    simp
  simp only [Predicate.Met, Predicate.prepare, hmet]
  exact holds_oneOf_iff hplain v

/-! ### Texts read by a type -/

section
variable {type : FieldType} {text : String}

theorem coerce_ne_array (type : FieldType) (text : String) (xs : List Value) :
    coerce type text ≠ .array xs := by
  cases type with
  | number =>
    simp only [coerce, numberOrText]
    split <;> simp
  | boolean =>
    simp only [coerce]
    split
    · simp
    · split <;> simp
  | _ => simp [coerce]

/-- What a text asks of an attribute always makes sense, geometries apart. -/
theorem sensible_predicate (htype : type ≠ .geometry) (v : Value) : ¬ (predicate type v).Senseless := by
  cases v with
  | string s =>
    have hplain : ¬ (plainPredicate type s).Senseless := by
      unfold plainPredicate
      split
      · simp [Predicate.Senseless, Regex.ofString?_wildcard]
      · split <;> exact id
    simp only [predicate, textPredicate, if_neg htype]
    split
    · split
      · exact id
      · exact hplain
    · exact hplain
  | _ => exact id

theorem comma_of_isRange {cs : List Char} (h : IsRange cs) : ',' ∈ cs := by
  obtain ⟨low, high, -, -, -, -, rfl⟩ := h
  simp

theorem bounds?_of_no_comma {s : String} (h : ',' ∉ s.toList) : bounds? s.toList = none := by
  rw [← Option.not_isSome_iff_eq_none, bounds?_isSome_iff]
  exact fun hrange => h (comma_of_isRange hrange)

/-- Canonical texts hold neither commas nor stars. -/
theorem notMem_normalized {c : Char} (hc : Time.isStampChar c = false) (h : c ∉ text.toList) :
    c ∉ (Time.normalized text).toList := by
  unfold Time.normalized
  split
  · rename_i t _
    intro hm
    rw [Time.isStampChar_of_mem_text t c hm] at hc
    cases hc
  · exact h

theorem lowerAscii_ne {word : String} {c : Char} (hc : ¬ ('A' ≤ c ∧ c ≤ 'Z')) (hword : c ∉ word.toList)
    (h : c ∈ text.toList) : Text.lowerAscii text ≠ word := by
  rintro rfl
  refine hword ?_
  rw [Text.lowerAscii, String.toList_ofList, List.mem_map]
  exact ⟨c, h, if_neg hc⟩

/-- A text with a comma or a star is no number, no truth value and no time. -/
theorem coerce_of_mark {c : Char} (hc : c = ',' ∨ c = '*') (h : c ∈ text.toList) (type : FieldType) :
    coerce type text = .string text := by
  cases type with
  | number =>
    have hnumber : number? text = none := by
      rcases hc with rfl | rfl <;> exact number?_of_mem h (by decide) (by decide)
    simp only [coerce, numberOrText, hnumber]
  | boolean =>
    have hword : ∀ word ∈ ["true", "false"], Text.lowerAscii text ≠ word := by
      intro word hm
      refine lowerAscii_ne ?_ ?_ h
      · rcases hc with rfl | rfl <;> decide
      · revert word
        rcases hc with rfl | rfl <;> decide
    have htrue : Text.lowerAscii text ≠ "true" := hword _ (by simp)
    have hfalse : Text.lowerAscii text ≠ "false" := hword _ (by simp)
    simp only [coerce, if_neg htrue, if_neg hfalse]
  | date =>
    have hdenoted : Time.denoted? text = none := by
      rcases hc with rfl | rfl <;> exact Time.denoted?_of_mem h (by decide) (by decide)
    simp only [coerce, Time.normalized, hdenoted]
  | _ => rfl

theorem predicate_of_commas (htype : type ≠ .geometry) (hcomma : ',' ∈ text.toList)
    (hstar : '*' ∉ text.toList) (hrange : isRanged type = true → ¬ IsRange text.toList) :
    predicate type (coerce type text) = .oneOf ((Text.split ',' text).map (coerce type)) := by
  have hbounds : isRanged type = true → bounds? text.toList = none := by
    rw [← Option.not_isSome_iff_eq_none, bounds?_isSome_iff]
    exact hrange
  rw [coerce_of_mark (.inl rfl) hcomma, predicate, textPredicate_plain htype hbounds]
  simp [plainPredicate, hcomma, hstar]

/-- A text that a type reads as a text stays as it is, or it is a date in its canonical form. -/
theorem eq_of_coerce {s : String} (h : coerce type text = .string s) :
    s = text ∨ type = .date ∧ s = Time.normalized text := by
  cases type with
  | number =>
    simp only [coerce, numberOrText] at h
    split at h
    · cases h
    · cases h
      exact .inl rfl
  | boolean =>
    simp only [coerce] at h
    split at h
    · cases h
    · split at h
      · cases h
      · cases h
        exact .inl rfl
  | date =>
    cases h
    exact .inr ⟨rfl, rfl⟩
  | _ =>
    cases h
    exact .inl rfl

theorem coerce_coerce {s : String} (h : coerce type text = .string s) : coerce type s = .string s := by
  rcases eq_of_coerce h with rfl | ⟨rfl, rfl⟩
  · exact h
  · simp only [coerce, Time.normalized_normalized]

theorem notMem_of_coerce {c : Char} (hc : Time.isStampChar c = false) (h : c ∉ text.toList) {s : String}
    (hs : coerce type text = .string s) : c ∉ s.toList := by
  rcases eq_of_coerce hs with rfl | ⟨-, rfl⟩
  · exact h
  · exact notMem_normalized hc h

/-- A text without commas and stars asks for one value. -/
theorem predicate_of_unmarked (htype : type ≠ .geometry) (hcomma : ',' ∉ text.toList)
    (hstar : '*' ∉ text.toList) : predicate type (.string text) = .exact (coerce type text) := by
  rw [predicate, textPredicate_plain htype fun _ => bounds?_of_no_comma hcomma]
  simp [plainPredicate, hcomma, hstar]

/-- So does the value that it is read as. -/
theorem predicate_of_part (htype : type ≠ .geometry) (hcomma : ',' ∉ text.toList)
    (hstar : '*' ∉ text.toList) : predicate type (coerce type text) = .exact (coerce type text) := by
  cases hv : coerce type text with
  | string s =>
    have hcomma' : ',' ∉ s.toList := notMem_of_coerce (by decide) hcomma hv
    have hstar' : '*' ∉ s.toList := notMem_of_coerce (by decide) hstar hv
    rw [predicate_of_unmarked htype hcomma' hstar', coerce_coerce hv]
  | _ => rfl

end

/-! ### Filters -/

/-- A filter of a query: some text for a declared attribute that is neither a geometry nor a list of
children. The name `q` asks for the free text. -/
structure IsFilter (r : Resource) (x : String × String) : Prop where
  written : x.2 ≠ ""
  named : x.1 ≠ "q"
  declared : ∃ a ∈ r.attributes, a.name = x.1 ∧ a.type.isChildren = false ∧ a.type ≠ .geometry

/-- A document meets the condition of one filter. -/
def Meets (r : Resource) (x : String × String) (d : Members) : Prop :=
  Condition.accepts (condition r ⟨none, [], [x]⟩) d = .ok true

instance (r : Resource) (x : String × String) (d : Members) : Decidable (Meets r x d) :=
  decidable_of_iff ((Condition.accepts (condition r ⟨none, [], [x]⟩) d).toOption = some true) (by
    unfold Meets
    cases Condition.accepts (condition r ⟨none, [], [x]⟩) d <;> simp [Except.toOption])

theorem Texts.get?_eq_some_iff {ts : Texts} (hnodup : (ts.map (·.1)).Nodup) {name text : String} :
    ts.get? name = some text ↔ (name, text) ∈ ts := find?_key_eq_some_iff hnodup

section
variable {r : Resource} (hdistinct : (r.attributes.map (·.name)).Nodup) (hnames : r.NamesFree)

include hdistinct hnames

/-- What a filter asks of its attribute. -/
theorem meets_iff {a : Attribute} (ha : a ∈ r.attributes) (hplain : a.type.isChildren = false)
    (htype : a.type ≠ .geometry) {text : String} (htext : text ≠ "") (hq : a.name ≠ "q") (d : Members) :
    Meets r (a.name, text) d ↔
      (predicate a.type (coerce a.type text)).Met ((Members.get? d a.name).getD .null) := by
  have hmem : a ∈ conditionAttributes r :=
    List.mem_filter.mpr ⟨Resource.mem_allAttributes ha, by simp [hplain]⟩
  have hsense := sensible_predicate htype (coerce a.type text)
  obtain ⟨m, hm⟩ := Store.exists_prepare (c := [(a.name, predicate a.type (coerce a.type text))])
    (by simpa using hsense)
  have haccepts := accepts_iff hm d
  simp only [List.forall_mem_singleton] at haccepts
  rw [Meets, condition_single hdistinct hnames hmem htext hq, Condition.accepts, hm, ← haccepts]
  exact Except.ok.injEq .. |>.to_iff

section
variable {filters : Texts} (hfilters : ∀ x ∈ filters, IsFilter r x) (hnodup : (filters.map (·.1)).Nodup)

include hfilters hnodup

/-- The condition of several filters asks each of its attribute, and nothing else. -/
theorem mem_condition_iff {x : String × Predicate} : x ∈ condition r ⟨none, [], filters⟩ ↔
    ∃ a ∈ r.attributes, a.type.isChildren = false ∧ a.type ≠ .geometry ∧ ∃ text,
      (a.name, text) ∈ filters ∧ x = (a.name, predicate a.type (coerce a.type text)) := by
  have hoption : ∀ {name text : String}, (⟨none, [], filters⟩ : Request).option? name = some text ↔
      (name, text) ∈ filters := by
    intro name text
    rw [Request.option?, Option.filter_eq_some_iff, Texts.get?_eq_some_iff hnodup]
    refine and_iff_left_of_imp fun hm => ?_
    simpa using (hfilters _ hm).written
  have hasked : ∀ {a : Attribute}, asked ⟨none, [], filters⟩ a = some x ↔ ∃ text, (a.name, text) ∈ filters ∧
      x = (a.name, predicate a.type (coerce a.type text)) := by
    intro a
    have hvalue : (⟨none, [], filters⟩ : Request).value? a =
        ((⟨none, [], filters⟩ : Request).option? a.name).map (coerce a.type) := rfl
    rw [asked, hvalue, Option.map_map, Option.map_eq_some_iff]
    exact exists_congr fun text => and_congr hoption eq_comm
  have htext : freeText ⟨none, [], filters⟩ = [] := by
    have hnone : (⟨none, [], filters⟩ : Request).option? "q" = none :=
      Option.eq_none_iff_forall_ne_some.mpr fun text h => (hfilters _ (hoption.mp h)).named rfl
    rw [freeText, hnone]
    rfl
  rw [condition_eq hdistinct hnames, htext, List.append_nil, List.mem_filterMap]
  constructor
  · rintro ⟨a, ha, h⟩
    obtain ⟨text, hm, rfl⟩ := hasked.mp h
    obtain ⟨b, hb, hname, hplain, htype⟩ := (hfilters _ hm).declared
    obtain rfl : b = a := List.inj_on_of_nodup_map (r.nodup_fieldNames hdistinct hnames)
      (Resource.mem_allAttributes hb) (List.mem_filter.mp ha).1 hname
    exact ⟨b, hb, hplain, htype, text, hm, rfl⟩
  · rintro ⟨a, ha, hplain, -, h⟩
    exact ⟨a, List.mem_filter.mpr ⟨Resource.mem_allAttributes ha, by simp [hplain]⟩, hasked.mpr h⟩

theorem accepts_filters : ∃ m, Condition.prepare (condition r ⟨none, [], filters⟩) = .ok m ∧
    ∀ d, Matcher.accepts m d = true ↔ ∀ x ∈ filters, Meets r x d := by
  obtain ⟨m, hm⟩ := Store.exists_prepare (c := condition r ⟨none, [], filters⟩) (by
    rintro ⟨x, hx, hsense⟩
    obtain ⟨a, -, -, htype, text, -, rfl⟩ := (mem_condition_iff hdistinct hnames hfilters hnodup).mp hx
    exact sensible_predicate htype _ hsense)
  refine ⟨m, hm, fun d => ?_⟩
  rw [accepts_iff hm d]
  constructor
  · rintro h ⟨name, text⟩ hx
    have hfilter := hfilters _ hx
    obtain ⟨a, ha, rfl, hplain, htype⟩ := hfilter.declared
    rw [meets_iff hdistinct hnames ha hplain htype hfilter.written hfilter.named]
    exact h _ ((mem_condition_iff hdistinct hnames hfilters hnodup).mpr
      ⟨a, ha, hplain, htype, text, hx, rfl⟩)
  · intro h x hx
    obtain ⟨a, ha, hplain, htype, text, hm, rfl⟩ :=
      (mem_condition_iff hdistinct hnames hfilters hnodup).mp hx
    have hfilter := hfilters _ hm
    exact (meets_iff hdistinct hnames ha hplain htype hfilter.written hfilter.named d).mp (h _ hm)

theorem matching_filters (s : Store) : s.matching r.name (condition r ⟨none, [], filters⟩) =
    .ok ((s.documents r.name).filter fun d => ∀ x ∈ filters, Meets r x d) := by
  obtain ⟨m, hm, haccepts⟩ := accepts_filters hdistinct hnames hfilters hnodup
  rw [Store.matching_of_prepare hm]
  refine congrArg Except.ok (List.filter_congr fun d _ => ?_)
  rw [Bool.eq_iff_iff, haccepts, decide_eq_true_iff]

end

/-- A text with commas between parts asks for one of the parts. -/
theorem meets_commas_iff {name text : String} (hfilter : IsFilter r (name, text)) (hcomma : ',' ∈ text.toList)
    (hstar : '*' ∉ text.toList) (hparts : ∀ part ∈ Text.split ',' text, part ≠ "")
    (hrange : ∀ a ∈ r.attributes, a.name = name → isRanged a.type = true → ¬ IsRange text.toList)
    (d : Members) : Meets r (name, text) d ↔ ∃ part ∈ Text.split ',' text, Meets r (name, part) d := by
  obtain ⟨a, ha, rfl, hplain, htype⟩ := hfilter.declared
  have hpart : ∀ part ∈ Text.split ',' text,
      predicate a.type (coerce a.type part) = .exact (coerce a.type part) := by
    intro part hm
    obtain ⟨piece, hpiece, rfl⟩ := List.mem_map.mp hm
    have hchars := Text.mem_of_mem_splitChars hpiece
    refine predicate_of_part htype ?_ ?_ <;> rw [String.toList_ofList] <;> intro hc
    · exact (hchars _ hc).2 rfl
    · exact hstar (hchars _ hc).1
  rw [meets_iff hdistinct hnames ha hplain htype hfilter.written hfilter.named,
    predicate_of_commas htype hcomma hstar (hrange a ha rfl), met_oneOf_iff]
  · simp only [List.mem_map, exists_exists_and_eq_and]
    refine exists_congr fun part => and_congr_right fun hm => ?_
    rw [meets_iff hdistinct hnames ha hplain htype (hparts part hm) hfilter.named, hpart part hm]
  · intro w hw
    obtain ⟨part, -, rfl⟩ := List.mem_map.mp hw
    exact coerce_ne_array a.type part

end

/-- Filters intersect: the filters of a query on several attributes select, in every store, the documents
that meet each of them. Commas unite: a document meets a filter with commas, no star and no empty part,
which is no range of a number or a date, exactly when it meets the filter for one of the parts. -/
theorem filters_intersect_commas_unite {ds : List Schema.ResourceDeclaration} {g : Registry}
    (hdistinct : Schema.Distinct ds) (hresolve : Schema.resolve ds = .ok g) {r : Resource}
    (hr : r ∈ g.resources) {filters : Texts} (hfilters : ∀ x ∈ filters, IsFilter r x)
    (hnodup : (filters.map (·.1)).Nodup) :
    (∀ s : Store, s.matching r.name (condition r ⟨none, [], filters⟩) =
      .ok ((s.documents r.name).filter fun d => ∀ x ∈ filters, Meets r x d)) ∧
    ∀ x ∈ filters, (∀ s : Store, s.matching r.name (condition r ⟨none, [], [x]⟩) =
        .ok ((s.documents r.name).filter fun d => Meets r x d)) ∧
      (',' ∈ x.2.toList → '*' ∉ x.2.toList → (∀ part ∈ Text.split ',' x.2, part ≠ "") →
        (∀ a ∈ r.attributes, a.name = x.1 → isRanged a.type = true → ¬ IsRange x.2.toList) →
        ∀ d, Meets r x d ↔ ∃ part ∈ Text.split ',' x.2, Meets r (x.1, part) d) := by
  have hg : g.Consistent := Schema.consistent_of_resolve hresolve
  have hnames := Schema.distinct_of_resolve hdistinct hresolve r hr
  have hfree : r.NamesFree := hg.namesFree hr
  refine ⟨matching_filters hnames hfree hfilters hnodup, fun x hx => ⟨fun s => ?_, ?_⟩⟩
  · have hfilter : ∀ y ∈ [x], IsFilter r y := by simpa using hfilters x hx
    simpa using matching_filters hnames hfree hfilter (List.nodup_singleton _) s
  · intro hcomma hstar hparts hrange d
    exact meets_commas_iff hnames hfree (hfilters x hx) hcomma hstar hparts hrange d

open Operation.Accounts in
/-- The account of Ann with a limit of 1 or 2: the parts are numbers, the second one a float. -/
theorem filters_intersect_commas_unite_accounts :
    (∀ x ∈ [("name", "ann"), ("limit", "1, 2.0")], IsFilter account x) ∧
      opened.matching "account" (condition account ⟨none, [], [("name", "ann"), ("limit", "1, 2.0")]⟩) =
        .ok ((opened.documents "account").filter fun d =>
          ∀ x ∈ [("name", "ann"), ("limit", "1, 2.0")], Meets account x d) ∧
      Text.split ',' "1, 2.0" = ["1", " 2.0"] ∧
      (∀ d, Meets account ("limit", "1, 2.0") d ↔
        ∃ part ∈ Text.split ',' "1, 2.0", Meets account ("limit", part) d) ∧
      ((opened.documents "account").filter fun d => Meets account ("limit", "1, 2.0") d).length = 2 ∧
      ((opened.documents "account").filter fun d =>
        ∀ x ∈ [("name", "ann"), ("limit", "1, 2.0")], Meets account x d).length = 1 := by
  have hname : IsFilter account ("name", "ann") :=
    ⟨by decide, by decide, _, List.mem_cons_self .., rfl, rfl, by decide⟩
  have hlimit : IsFilter account ("limit", "1, 2.0") :=
    ⟨by decide, by decide, _, List.mem_cons_of_mem _ (List.mem_cons_self ..), rfl, rfl, by decide⟩
  have hfilters : ∀ x ∈ [("name", "ann"), ("limit", "1, 2.0")], IsFilter account x :=
    List.forall_mem_cons.mpr ⟨hname, List.forall_mem_singleton.mpr hlimit⟩
  have hdistinct : Schema.Distinct declarations := by simp [Schema.Distinct, declarations]
  have hsplit : Text.split ',' "1, 2.0" = ["1", " 2.0"] := by decide
  have hrange : ¬ IsRange "1, 2.0".toList := by
    rw [← bounds?_isSome_iff]
    decide
  obtain ⟨hall, hcommas⟩ := filters_intersect_commas_unite hdistinct resolve_declarations
    (List.mem_cons_self ..) hfilters (by decide)
  obtain ⟨-, hunion⟩ := hcommas ("limit", "1, 2.0") (List.mem_cons_of_mem _ (List.mem_cons_self ..))
  refine ⟨hfilters, hall opened, hsplit, hunion (by decide) (by decide) ?_ fun _ _ _ _ => hrange,
    by decide +kernel, by decide +kernel⟩
  rw [hsplit]
  decide

end Hypermedia.Filter
