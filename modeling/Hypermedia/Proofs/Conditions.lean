import Hypermedia.Filter.Compile
import Hypermedia.Proofs.Members
import Hypermedia.Proofs.Registry
import Hypermedia.Store.Collections

/-!
# Conditions of requests

The condition of a request asks one predicate of each attribute that the request has a value for, in the
order of the attributes, and the free text last. Asking one thing more of a condition selects, of the
documents that it selects, those that meet the new predicate too.
-/

namespace Hypermedia

/-! ### Names of fields -/

theorem Resource.nodup_fieldNames {r : Resource} (hdistinct : (r.attributes.map (·.name)).Nodup)
    (hnames : r.NamesFree) : r.fieldNames.Nodup := by
  have hfree : ∀ name ∈ Schema.reserved, name ∉ r.attributes.map (·.name) := by
    intro name hname hm
    obtain ⟨a, ha, rfl⟩ := List.mem_map.mp hm
    exact hnames a ha hname
  have hid := hfree idField (by decide)
  have hcreated := hfree createdAtField (by decide)
  have hupdated := hfree updatedAtField (by decide)
  have htimes : [createdAtField, updatedAtField].Nodup := by decide
  have hall : r.fieldNames =
      idField :: (r.attributes.map (·.name) ++ [createdAtField, updatedAtField]) := by
    simp [Resource.fieldNames, Resource.allAttributes]
  rw [hall, List.nodup_cons, List.nodup_append]
  refine ⟨?_, hdistinct, htimes, ?_⟩
  · simp only [List.mem_append, not_or]
    exact ⟨hid, by decide⟩
  · rintro a ha b hb rfl
    rcases List.mem_pair.mp hb with rfl | rfl
    · exact hcreated ha
    · exact hupdated ha

/-- An attribute of a record is declared, or it is the identity or one of the times. -/
theorem Resource.declared_or_implicit {r : Resource} {a : Attribute} (ha : a ∈ r.allAttributes) :
    a ∈ r.attributes ∨ a.name ∈ [idField, createdAtField, updatedAtField] := by
  simp only [allAttributes, List.cons_append, List.mem_cons, List.mem_append, List.not_mem_nil,
    or_false] at ha
  rcases ha with rfl | ha | rfl | rfl
  · exact .inr (by decide)
  · exact .inl ha
  · exact .inr (by decide)
  · exact .inr (by decide)

theorem Resource.mem_allAttributes {r : Resource} {a : Attribute} (ha : a ∈ r.attributes) :
    a ∈ r.allAttributes := List.mem_cons_of_mem _ (List.mem_append_left _ ha)

theorem Resource.search_notMem_fieldNames {r : Resource} (hnames : r.NamesFree) :
    searchField ∉ r.fieldNames := by
  intro hm
  obtain ⟨a, ha, hname⟩ := List.mem_map.mp hm
  rcases declared_or_implicit ha with ha | himplicit
  · exact hnames.ne ha (by decide) hname
  · exact absurd (hname ▸ himplicit) (by decide)

namespace Filter

/-! ### Texts of a query -/

/-- The texts under all other names. -/
def Texts.without (ts : Texts) (name : String) : Texts := ts.filter (·.1 ≠ name)

theorem Texts.get?_without (ts : Texts) (name other : String) :
    (ts.without name).get? other = if other = name then none else ts.get? other := by
  induction ts with
  | nil => simp [without, get?]
  | cons x ts ih =>
    obtain ⟨n, s⟩ := x
    simp only [without, get?] at ih
    by_cases hn : n = name
    · subst hn
      by_cases ho : other = n
      · subst ho
        simp [without, get?]
      · simpa [without, get?, ho, Ne.symm ho] using ih
    · by_cases ho : other = n
      · subst ho
        simp [without, get?, hn]
      · simpa [without, get?, hn, Ne.symm ho] using ih

/-- A query says nothing of a name: it has no text for it, or an empty one. -/
def Texts.Silent (ts : Texts) (name : String) : Prop :=
  (ts.get? name).filter (fun s => !s.isEmpty) = none

theorem Texts.silent_without {ts : Texts} {name : String} (h : ts.Silent name) (other : String) :
    (ts.without other).Silent name := by
  unfold Silent at *
  rw [get?_without]
  split
  · rfl
  · exact h

/-! ### The condition of a request -/

/-- What a request asks of one attribute. -/
def asked (request : Request) (a : Attribute) : Option (String × Predicate) :=
  (request.value? a).map fun v => (a.name, predicate a.type v)

/-- What a request asks of the searchable text. -/
def freeText (request : Request) : Condition :=
  ((request.option? "q").map fun q => (searchField, .pattern (Regex.escape q))).toList

/-- A text that is no range of its type is asked for by wildcards, as a list or as one value. -/
theorem textPredicate_plain {type : FieldType} {s : String} (htype : type ≠ .geometry)
    (hbounds : isRanged type = true → bounds? s.toList = none) :
    textPredicate type s = plainPredicate type s := by
  rw [textPredicate, if_neg htype]
  split
  · rename_i hranged
    rw [hbounds hranged]
  · rfl

theorem Request.params_eq (request : Request) {as : List Attribute}
    (h : ∀ a ∈ as, a.type.isChildren = false) :
    request.params as = as.filterMap fun a => (request.value? a).map fun v => (a.name, v) := by
  induction as with
  | nil => rfl
  | cons a as ih =>
    have hrest := ih fun x hx => h x (List.mem_cons_of_mem _ hx)
    simp only [Request.params, h a (List.mem_cons_self ..), Bool.false_eq_true, if_false]
    cases hv : request.value? a with
    | none => simp [hv, hrest]
    | some v => simp [hv, hrest]

theorem Request.params_congr {q q' : Request} {as : List Attribute}
    (h : ∀ a ∈ as, q'.value? a = q.value? a) : q'.params as = q.params as := by
  induction as with
  | nil => rfl
  | cons a as ih =>
    simp only [Request.params, h a (List.mem_cons_self ..), ih fun b hb => h b (List.mem_cons_of_mem _ hb)]

/-- A condition depends on the values of the attributes that it may ask for, and on the free text. -/
theorem condition_congr {r : Resource} {q q' : Request}
    (h : ∀ a ∈ conditionAttributes r, q'.value? a = q.value? a) (hq : q'.option? "q" = q.option? "q") :
    condition r q' = condition r q := by
  unfold condition
  dsimp only
  rw [Request.params_congr h, hq]

/-- Where no attribute has one of some names, the texts under these names take no part in the selection. -/
theorem condition_of_others {r : Resource} {q q' : Request} (names : List String) (hbody : q'.body = q.body)
    (hpath : q'.path = q.path) (hothers : ∀ name ∉ names, q'.option? name = q.option? name)
    (hreserved : ∀ name ∈ ["q", idField, createdAtField, updatedAtField], name ∉ names)
    (hdeclared : ∀ a ∈ r.attributes, a.name ∉ names) : condition r q' = condition r q := by
  refine condition_congr (fun a ha => ?_) (hothers _ (hreserved _ (List.mem_cons_self ..)))
  have hname : a.name ∉ names := by
    rcases Resource.declared_or_implicit (List.mem_filter.mp ha).1 with ha | himplicit
    · exact hdeclared a ha
    · exact hreserved _ (List.mem_cons_of_mem _ himplicit)
  rw [Request.value?, hbody, hpath, hothers _ hname]
  rfl

theorem predicates_eq (params : Members) (as : List Attribute) :
    predicates params as = as.filterMap fun a =>
      (Members.get? params a.name).map fun v => (a.name, predicate a.type v) := by
  induction as with
  | nil => rfl
  | cons a as ih =>
    simp only [predicates]
    cases hv : Members.get? params a.name with
    | none => simp [hv, ih]
    | some v => simp [hv, ih]

theorem Condition.set_of_notMem {c : Condition} {field : String} (h : field ∉ c.map (·.1))
    (p : Predicate) : Condition.set c field p = c ++ [(field, p)] := by
  induction c with
  | nil => rfl
  | cons x c ih =>
    obtain ⟨f, q⟩ := x
    have hf : f ≠ field ∧ field ∉ c.map (·.1) := by simpa [eq_comm] using h
    simp only [Condition.set, if_neg hf.1, ih hf.2, List.cons_append]

theorem mem_asked {request : Request} {as : List Attribute} {field : String}
    (h : field ∈ (as.filterMap (asked request)).map (·.1)) :
    ∃ a ∈ as, (request.value? a).isSome ∧ a.name = field := by
  obtain ⟨x, hx, rfl⟩ := List.mem_map.mp h
  obtain ⟨a, ha, hasked⟩ := List.mem_filterMap.mp hx
  obtain ⟨v, hv, rfl⟩ := Option.map_eq_some_iff.mp hasked
  exact ⟨a, ha, Option.isSome_of_mem hv, rfl⟩

theorem search_notMem_asked {r : Resource} (hnames : r.NamesFree) (request : Request) :
    searchField ∉ ((conditionAttributes r).filterMap (asked request)).map (·.1) := by
  intro hm
  obtain ⟨a, ha, -, hname⟩ := mem_asked hm
  apply Resource.search_notMem_fieldNames hnames
  exact List.mem_map.mpr ⟨a, (List.mem_filter.mp ha).1, hname⟩

section
variable {r : Resource} (hdistinct : (r.attributes.map (·.name)).Nodup) (hnames : r.NamesFree)

include hdistinct hnames

theorem nodup_conditionAttributes : ((conditionAttributes r).map (·.name)).Nodup :=
  (List.filter_sublist.map _).nodup (r.nodup_fieldNames hdistinct hnames)

theorem condition_eq (request : Request) :
    condition r request = (conditionAttributes r).filterMap (asked request) ++ freeText request := by
  have hplain : ∀ a ∈ conditionAttributes r, a.type.isChildren = false := by
    intro a ha
    simpa using (List.mem_filter.mp ha).2
  have hpredicates : predicates (request.params (conditionAttributes r)) (conditionAttributes r) =
      (conditionAttributes r).filterMap (asked request) := by
    rw [predicates_eq, request.params_eq hplain]
    refine List.filterMap_congr fun a ha => ?_
    rw [Members.get?_filterMap (·.name) _ (nodup_conditionAttributes hdistinct hnames) ha]
    rfl
  have hsearch := search_notMem_asked hnames request
  unfold condition freeText
  dsimp only
  rw [hpredicates]
  cases request.option? "q" with
  | none => simp
  | some q => simp [Condition.set_of_notMem hsearch]

/-- A condition asks what the request has for the attributes, and the free text. -/
theorem mem_condition {request : Request} {x : String × Predicate} :
    x ∈ condition r request ↔
      (∃ a ∈ conditionAttributes r, ∃ v, request.value? a = some v ∧ (a.name, predicate a.type v) = x) ∨
        x ∈ freeText request := by
  rw [condition_eq hdistinct hnames, List.mem_append, List.mem_filterMap]
  simp only [asked, Option.map_eq_some_iff]

theorem notMem_condition {request : Request} {a : Attribute} (ha : a ∈ r.allAttributes)
    (hv : request.value? a = none) : a.name ∉ (condition r request).map (·.1) := by
  rw [condition_eq hdistinct hnames, List.map_append, List.mem_append]
  rintro (hm | hm)
  · obtain ⟨b, hb, hb', hname⟩ := mem_asked hm
    have hab : b = a := List.inj_on_of_nodup_map (r.nodup_fieldNames hdistinct hnames)
      (List.mem_filter.mp hb).1 ha hname
    rw [hab, hv] at hb'
    cases hb'
  · have hname : a.name ∈ r.fieldNames := List.mem_map_of_mem ha
    unfold freeText at hm
    cases hq : request.option? "q" with
    | none => simp [hq] at hm
    | some q =>
      have he : a.name = searchField := by simpa [hq] using hm
      exact Resource.search_notMem_fieldNames hnames (he ▸ hname)

theorem nodup_condition (request : Request) : ((condition r request).map (·.1)).Nodup := by
  have hasked : asked request = fun a => ((request.value? a).map (predicate a.type)).map (a.name, ·) := by
    funext a
    simp [asked, Function.comp_def]
  have hsub := map_fst_filterMap_sublist (·.name)
    (fun a : Attribute => (request.value? a).map (predicate a.type)) (conditionAttributes r)
  rw [← hasked] at hsub
  have hfields := hsub.nodup (nodup_conditionAttributes hdistinct hnames)
  have hsearch := search_notMem_asked hnames request
  rw [condition_eq hdistinct hnames, freeText]
  cases request.option? "q" with
  | none => simpa using hfields
  | some q =>
    rw [List.map_append, List.nodup_append]
    refine ⟨hfields, List.nodup_singleton _, ?_⟩
    rintro name hname _ hm rfl
    obtain rfl : name = searchField := List.mem_singleton.mp hm
    exact hsearch hname

/-- One text for one attribute asks one predicate. -/
theorem condition_single {a : Attribute} (ha : a ∈ conditionAttributes r) {text : String} (ht : text ≠ "")
    (hq : a.name ≠ "q") :
    condition r ⟨none, [], [(a.name, text)]⟩ = [(a.name, predicate a.type (coerce a.type text))] := by
  have hsome : asked ⟨none, [], [(a.name, text)]⟩ a = some (a.name, predicate a.type (coerce a.type text)) := by
    simp [asked, Request.value?, Request.option?, Texts.get?, ht]
  have hnone : ∀ b : Attribute, b.name ≠ a.name → asked ⟨none, [], [(a.name, text)]⟩ b = none := by
    intro b hb
    simp [asked, Request.value?, Request.option?, Texts.get?, Ne.symm hb]
  obtain ⟨before, after, hsplit⟩ := List.append_of_mem ha
  have hnodup := nodup_conditionAttributes hdistinct hnames
  rw [hsplit, List.map_append, List.map_cons, List.nodup_middle, List.nodup_cons, List.mem_append,
    not_or] at hnodup
  have hother : ∀ {as : List Attribute}, a.name ∉ as.map (·.name) →
      as.filterMap (asked ⟨none, [], [(a.name, text)]⟩) = [] := fun hm =>
    List.filterMap_eq_nil_iff.mpr fun b hb => hnone b fun he => hm (he ▸ List.mem_map_of_mem hb)
  have htext : freeText ⟨none, [], [(a.name, text)]⟩ = [] := by
    simp [freeText, Request.option?, Texts.get?, hq]
  rw [condition_eq hdistinct hnames, htext, List.append_nil, hsplit, List.filterMap_append,
    List.filterMap_cons_some hsome, hother hnodup.1.1, hother hnodup.1.2, List.nil_append]

/-- A query that says nothing of a name asks the same without it. -/
theorem condition_without {query : Texts} {name : String} (h : query.Silent name) :
    condition r ⟨none, [], query.without name⟩ = condition r ⟨none, [], query⟩ := by
  have hoption : ∀ other, (⟨none, [], query.without name⟩ : Request).option? other =
      (⟨none, [], query⟩ : Request).option? other := by
    intro other
    simp only [Request.option?, Texts.get?_without]
    split
    · rename_i ho
      rw [ho]
      exact h.symm
    · rfl
  have hasked : ∀ a, asked ⟨none, [], query.without name⟩ a = asked ⟨none, [], query⟩ a := by
    intro a
    simp only [asked, Request.value?, hoption]
  rw [condition_eq hdistinct hnames, condition_eq hdistinct hnames, freeText, hoption "q", ← freeText]
  congr 1
  exact List.filterMap_congr fun a _ => hasked a

/-- The condition of a request on the path of a record, less the identity, is the condition of the same
query without identity. -/
theorem remove_id_condition (id : String) (query : Texts) :
    Condition.remove (condition r ⟨none, [(idField, id)], query⟩) idField =
      condition r ⟨none, [], query.without idField⟩ := by
  have hoption : ∀ name, name ≠ idField →
      (⟨none, [], query.without idField⟩ : Request).option? name =
        (⟨none, [(idField, id)], query⟩ : Request).option? name := by
    intro name hname
    simp only [Request.option?, Texts.get?_without, if_neg hname]
  -- The path gives the identity only, and with it hides the identity that the query may give.
  have hasked : ∀ a, (asked ⟨none, [(idField, id)], query⟩ a).filter (fun x => x.1 ≠ idField) =
      asked ⟨none, [], query.without idField⟩ a := by
    intro a
    have hnil : Texts.get? [] a.name = none := rfl
    by_cases ha : a.name = idField
    · have hpath : Texts.get? [(idField, id)] a.name = some id := by simp [Texts.get?, ha]
      have hnone : (⟨none, [], query.without idField⟩ : Request).option? a.name = none := by
        simp only [Request.option?, Texts.get?_without, if_pos ha]
        rfl
      simp only [asked, Request.value?, Option.bind_none, hpath, hnil, hnone]
      simp [ha]
    · have hpath : Texts.get? [(idField, id)] a.name = none := by simp [Texts.get?, Ne.symm ha]
      simp only [asked, Request.value?, Option.bind_none, hpath, hnil, hoption a.name ha]
      cases (⟨none, [(idField, id)], query⟩ : Request).option? a.name with
      | none => rfl
      | some s => simp [ha]
  have htext : Condition.remove (freeText ⟨none, [(idField, id)], query⟩) idField =
      freeText ⟨none, [], query.without idField⟩ := by
    unfold freeText
    rw [hoption "q" (by decide)]
    cases (⟨none, [(idField, id)], query⟩ : Request).option? "q" with
    | none => rfl
    | some q => rfl
  have happend : ∀ c d : Condition, Condition.remove (c ++ d) idField =
      Condition.remove c idField ++ Condition.remove d idField := fun c d => List.filter_append ..
  rw [condition_eq hdistinct hnames, condition_eq hdistinct hnames, happend, htext]
  congr 1
  rw [Condition.remove, List.filter_filterMap]
  exact List.filterMap_congr fun a _ => hasked a

end

/-! ### Conditions made ready -/

theorem Condition.prepare_append_exact (c : Condition) (field : String) (v : Value) :
    Condition.prepare (c ++ [(field, .exact v)]) =
      (Condition.prepare c).map fun m => m ++ [(field, .exact v)] := by
  induction c with
  | nil => rfl
  | cons x c ih =>
    obtain ⟨f, p⟩ := x
    simp only [List.cons_append, Condition.prepare, ih]
    cases p.prepare with
    | error e => rfl
    | ok t =>
      cases Condition.prepare c with
      | error e => rfl
      | ok m => rfl

theorem Matcher.accepts_append (m m' : Matcher) (d : Members) :
    Matcher.accepts (m ++ m') d = (Matcher.accepts m d && Matcher.accepts m' d) := List.all_append ..

/-- The nearness that orders a read can be resolved where the whole condition can be made ready. -/
theorem Condition.resolve_near {c : Condition} {m : Matcher} (h : Condition.prepare c = .ok m)
    {field : String} {n : Near} (hn : Condition.near? c = some (field, n)) :
    ∃ circle, n.resolve = .ok circle := by
  induction c generalizing m with
  | nil => cases hn
  | cons x c ih =>
    obtain ⟨f, p⟩ := x
    obtain ⟨t, ht, h⟩ := Schema.except_bind_ok h
    obtain ⟨ts, hts, -⟩ := Schema.except_bind_ok h
    cases p with
    | near n' =>
      cases hn
      simp only [Predicate.prepare] at ht
      cases hr : n.resolve with
      | error e =>
        rw [hr] at ht
        cases ht
      | ok circle => exact ⟨circle, rfl⟩
    | _ => exact ih hts hn

end Filter

/-! ### Selected documents -/

namespace Store

open Hypermedia.Filter (Condition Test Matcher)

theorem matching_append_exact (s : Store) (collection : String) (c : Condition) (field : String)
    (v : Value) : s.matching collection (c ++ [(field, .exact v)]) =
      (s.matching collection c).map fun ds =>
        ds.filter fun d => Test.holds (.exact v) ((Members.get? d field).getD .null) := by
  simp only [matching, Condition.prepare_append_exact]
  cases Condition.prepare c with
  | error e => rfl
  | ok m =>
    simp only [Except.map, List.filter_filter, Except.ok.injEq]
    refine List.filter_congr fun d _ => ?_
    rw [Filter.Matcher.accepts_append, Bool.and_comm]
    simp [Matcher.accepts]

theorem matching_nil (s : Store) (collection : String) :
    s.matching collection [] = .ok (s.documents collection) :=
  congrArg Except.ok (List.filter_eq_self.mpr fun _ _ => rfl)

theorem mem_of_matching {s : Store} {collection : String} {c : Condition} {ds : List Document}
    (h : s.matching collection c = .ok ds) {d : Document} (hd : d ∈ ds) : d ∈ s.documents collection := by
  unfold matching at h
  cases hc : Condition.prepare c with
  | error e =>
    rw [hc] at h
    cases h
  | ok m =>
    rw [hc] at h
    cases h
    exact (List.mem_filter.mp hd).1

/-- A condition that makes sense selects the documents that it accepts. -/
theorem matching_of_prepare {c : Condition} {m : Matcher} (h : Condition.prepare c = .ok m) (s : Store)
    (collection : String) :
    s.matching collection c = .ok ((s.documents collection).filter (Matcher.accepts m)) := by
  rw [matching, h]
  rfl

theorem find_ok {s : Store} {collection : String} {c : Condition} {ds : List Document}
    (h : s.matching collection c = .ok ds) (o : Options) : ∃ found, s.find collection c o = .ok found := by
  -- Only the order by nearness can fail, and it needs what the condition needed already.
  have hordered : ∃ xs, ordered o.sort c ds = .ok xs := by
    unfold ordered
    split
    · exact ⟨_, rfl⟩
    · cases hn : Condition.near? c with
      | none => exact ⟨_, rfl⟩
      | some x =>
        obtain ⟨field, n⟩ := x
        cases hc : Condition.prepare c with
        | error e =>
          simp only [matching, hc] at h
          cases h
        | ok m =>
          obtain ⟨circle, hcircle⟩ := Filter.Condition.resolve_near hc hn
          exact ⟨_, by simp only [hcircle]; rfl⟩
  obtain ⟨xs, hxs⟩ := hordered
  exact ⟨_, by simp only [find, h, bind, Except.bind, hxs]; rfl⟩

theorem ordered_perm {keys : List (String × Filter.Direction)} {c : Condition} {ds xs : List Document}
    (h : ordered keys c ds = .ok xs) : xs.Perm ds := by
  unfold ordered at h
  split at h
  · cases h
    exact sorted_perm _ ds
  · split at h
    · cases h
      exact List.Perm.refl _
    · rename_i field n _
      cases hc : n.resolve with
      | error e =>
        rw [hc] at h
        cases h
      | ok circle =>
        rw [hc] at h
        cases h
        exact sorted_perm _ ds

theorem find_perm {s : Store} {collection : String} {c : Condition} {ds found : List Document}
    {fields : Option (List String)} {sort : List (String × Filter.Direction)}
    (h : s.matching collection c = .ok ds) (hfound : s.find collection c { fields, sort } = .ok found) :
    found.Perm (ds.map (Document.project · fields)) := by
  simp only [find, h, bind, Except.bind, List.drop_zero] at hfound
  cases hx : ordered sort c ds with
  | error e =>
    rw [hx] at hfound
    cases hfound
  | ok xs =>
    rw [hx] at hfound
    cases hfound
    exact (ordered_perm hx).map _

end Store

end Hypermedia
