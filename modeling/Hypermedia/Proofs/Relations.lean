import Hypermedia.Proofs.History
import Hypermedia.Proofs.Resolution

/-!
# Relations, one level deep

What every field of a shown record is, by the stored record it was made of.
-/

namespace Hypermedia

open Program (Environment World run)
open Store (Document)

theorem Value.isNull_iff {v : Value} : v.isNull = true ↔ v = .null := by
  cases v <;> simp [Value.isNull]

namespace Link

variable {env : Environment} {s : Store} {p : Place} {r : Resource} {collection id : String}
variable {expands : List String} {fields : Option (List String)}

/-! ### One field -/

theorem get?_linkField_of_ne {index : Nat} {d : Document} {field name : String} {relation : Relation}
    (h : field ≠ name) :
    Members.get? (linkField p collection id expands fields index d field relation).1 name =
      Members.get? d name := by
  unfold linkField
  repeat' split
  all_goals first | rfl | rw [Members.get?_set, if_neg h]

/-- Linking a field looks at no other. -/
theorem linkField_congr {index : Nat} {d e : Document} {field : String} (relation : Relation)
    (h : Members.get? d field = Members.get? e field) :
    (linkField p collection id expands fields index d field relation).2 =
        (linkField p collection id expands fields index e field relation).2 ∧
      Members.get? (linkField p collection id expands fields index d field relation).1 field =
        Members.get? (linkField p collection id expands fields index e field relation).1 field := by
  unfold linkField referenced? Members.has
  rw [h]
  repeat' split
  all_goals simp_all [Members.get?_set]

/-- Fields of different names are linked each by itself; `e` is the record before the first. -/
theorem linkFields_of_nodup {index : Nat} {relations : List (String × Relation)}
    (hn : (relations.map (·.1)).Nodup) {d e : Document}
    (h : ∀ x ∈ relations, Members.get? d x.1 = Members.get? e x.1) :
    (linkFields p collection id expands fields index relations d).2 =
        relations.filterMap (fun x => (linkField p collection id expands fields index e x.1 x.2).2) ∧
      (∀ name ∉ relations.map (·.1),
        Members.get? (linkFields p collection id expands fields index relations d).1 name =
          Members.get? d name) ∧
      ∀ x ∈ relations,
        Members.get? (linkFields p collection id expands fields index relations d).1 x.1 =
          Members.get? (linkField p collection id expands fields index e x.1 x.2).1 x.1 := by
  induction relations generalizing d with
  | nil => exact ⟨rfl, fun _ _ => rfl, nofun⟩
  | cons x relations ih =>
    obtain ⟨field, relation⟩ := x
    obtain ⟨hnew, hn⟩ := List.nodup_cons.mp hn
    obtain ⟨hfirst, hfield⟩ : (linkField p collection id expands fields index d field relation).2 = _ ∧ _ :=
      linkField_congr relation (h _ (List.mem_cons_self ..))
    -- What linking this field changes is not seen by the others, whose names differ.
    have hne : ∀ x ∈ relations, field ≠ x.1 := fun x hx he => hnew (List.mem_map.mpr ⟨x, hx, he.symm⟩)
    obtain ⟨hrest, hothers, hnames⟩ := ih hn fun x hx =>
      (get?_linkField_of_ne (hne x hx)).trans (h x (List.mem_cons_of_mem _ hx))
    simp only [linkFields]
    refine ⟨?_, fun name hname => ?_, fun x hx => ?_⟩
    · rw [hrest, hfirst, List.filterMap_cons]
      cases (linkField p collection id expands fields index e field relation).2 <;> rfl
    · rw [List.map_cons, List.mem_cons, not_or] at hname
      exact (hothers name hname.2).trans (get?_linkField_of_ne (Ne.symm hname.1))
    · rcases List.mem_cons.mp hx with rfl | hx
      · exact (hothers field hnew).trans hfield
      · exact hnames x hx

theorem field_of_linkField {index : Nat} {d : Document} {field : String} {relation : Relation}
    {e : Expansion} (h : (linkField p collection id expands fields index d field relation).2 = some e) :
    e.field = field := by
  unfold linkField at h
  repeat' split at h
  all_goals first | cases h; rfl | cases h

/-- A relation field of a record, linked by itself. -/
def linkAlone (p : Place) (collection : String) (expands : List String) (fields : Option (List String))
    (d : Document) (x : String × Relation) : Document × Option Expansion :=
  linkField p collection (recordId d) expands fields 0 d x.1 x.2

section
variable (hn : (r.relations.map (·.1)).Nodup)
include hn

theorem linkRecord_of_nodup (d : Document) :
    (linkRecord p r collection expands fields 0 d).2 =
        r.relations.filterMap (fun x => (linkAlone p collection expands fields d x).2) ∧
      (∀ name ∉ r.relations.map (·.1),
        Members.get? (linkRecord p r collection expands fields 0 d).1 name = Members.get? d name) ∧
      ∀ x ∈ r.relations, Members.get? (linkRecord p r collection expands fields 0 d).1 x.1 =
        Members.get? (linkAlone p collection expands fields d x).1 x.1 :=
  linkFields_of_nodup hn fun _ _ => rfl

/-- A record is shown with its links, over which the values of its expansions are laid. -/
theorem shown_eq_merge (d : Document) :
    shown s p r collection expands fields d =
      Members.merge (linkRecord p r collection expands fields 0 (Document.materialize d)).1
        (r.relations.filterMap fun x =>
          ((linkAlone p collection expands fields (Document.materialize d) x).2.map (expanded s p)).map
            fun v => (x.1, v)) := by
  rw [shown]
  dsimp only
  rw [(linkRecord_of_nodup hn _).1, Members.merge, List.foldl_filterMap, List.foldl_filterMap]
  refine congrArg (List.foldl · _ r.relations) (funext fun acc => funext fun x => ?_)
  cases he : (linkAlone p collection expands fields (Document.materialize d) x).2 with
  | none => rfl
  | some e => exact congrArg (Members.set acc · _) (field_of_linkField he)

theorem get?_shown_of_other {name : String} (h : name ∉ r.relations.map (·.1)) (d : Document) :
    Members.get? (shown s p r collection expands fields d) name =
      Members.get? (Document.materialize d) name := by
  rw [shown_eq_merge hn, Members.get?_merge_of_notMem]
  · exact (linkRecord_of_nodup hn _).2.1 name h
  · exact fun hm => h ((Members.keys_filterMap_sublist _ _ _).subset hm)

theorem get?_shown_of_relation {x : String × Relation} (h : x ∈ r.relations) (d : Document) :
    Members.get? (shown s p r collection expands fields d) x.1 =
      ((linkAlone p collection expands fields (Document.materialize d) x).2.map (expanded s p)).or
        (Members.get? (linkAlone p collection expands fields (Document.materialize d) x).1 x.1) := by
  have hnodup := (Members.keys_filterMap_sublist (·.1) (fun x =>
    (linkAlone p collection expands fields (Document.materialize d) x).2.map (expanded s p)) r.relations).nodup hn
  rw [shown_eq_merge hn, Members.get?_merge _ hnodup, Members.get?_filterMap _ _ hn h,
    (linkRecord_of_nodup hn _).2.2 x h]

end

/-! ### What a linked field is -/

variable {d : Document} {name : String} {relation : Relation} {v : Value} {target : Resource}

theorem referenced?_of_some (hv : Members.get? d name = some v) :
    referenced? d name relation fields = some v := by
  simp only [referenced?, hv]

theorem referenced?_of_none (hd : Members.get? d name = none)
    (h : (∀ target, relation ≠ .reference target) ∨ fields.all (·.contains name) = false) :
    referenced? d name relation fields = none := by
  cases relation with
  | children target => simp only [referenced?, hd]
  | parent owner field => simp only [referenced?, hd]
  | reference target =>
    have hfields := h.resolve_left fun hne => hne target rfl
    simp only [referenced?, hd, hfields]
    rfl

theorem linkField_absent {index : Nat} (hd : Members.get? d name = none)
    (h : (∀ target, relation ≠ .reference target) ∨ fields.all (·.contains name) = false) :
    linkField p collection id expands fields index d name relation = (d, none) := by
  have hhas : Members.has d name = false := by rw [Members.has, hd]; rfl
  rw [linkField, hhas, referenced?_of_none hd h]
  exact ite_self _

theorem linkAlone_absent (hd : Members.get? d name = none)
    (h : (∀ target, relation ≠ .reference target) ∨ fields.all (·.contains name) = false) :
    linkAlone p collection expands fields d (name, relation) = (d, none) := linkField_absent hd h

theorem linkAlone_children (hv : Members.get? d name = some v) (hc : relation.isChildren = true) :
    linkAlone p collection expands fields d (name, relation) =
      (Members.set d name (childrenLink p collection (recordId d) name), none) := by
  have hhas : Members.has d name = true := by rw [Members.has, hv]; rfl
  rw [linkAlone, linkField, hc, hhas]
  rfl

theorem linkAlone_link (hv : referenced? d name relation fields = some v) (hc : relation.isChildren = false)
    (ht : p.registry.get? relation.target = some target) (h : v = .null ∨ name ∉ expands) :
    linkAlone p collection expands fields d (name, relation) =
      (Members.set d name (referenceLink p target.plural v), none) := by
  have hlink : ¬ (expands.contains name = true ∧ ¬ v.isNull = true) := by
    rw [List.contains_iff_mem, Value.isNull_iff]
    rintro ⟨hname, hnull⟩
    exact h.elim hnull (absurd hname)
  rw [linkAlone, linkField, hc, hv, ht]
  exact if_neg hlink

theorem linkAlone_expanded (hv : Members.get? d name = some v) (hc : relation.isChildren = false)
    (ht : p.registry.get? relation.target = some target) (hnull : v ≠ .null) (hname : name ∈ expands) :
    linkAlone p collection expands fields d (name, relation) =
      (d, some ⟨0, name, target, v.plainText⟩) := by
  have hexpand : expands.contains name = true ∧ ¬ v.isNull = true := by
    rw [List.contains_iff_mem, Value.isNull_iff]
    exact ⟨hname, hnull⟩
  rw [linkAlone, linkField, hc, referenced?_of_some hv, ht]
  exact if_pos hexpand

theorem get?_shown_of_expanded (hn : (r.relations.map (·.1)).Nodup) (hx : (name, relation) ∈ r.relations)
    {d : Document} (hv : Members.get? (Document.materialize d) name = some v)
    (hc : relation.isChildren = false) (ht : p.registry.get? relation.target = some target)
    (hnull : v ≠ .null) (hname : name ∈ expands) :
    Members.get? (shown s p r collection expands fields d) name =
      some (expanded s p ⟨0, name, target, v.plainText⟩) := by
  have hexpanded : linkAlone p collection expands fields (Document.materialize d) (name, relation) = _ :=
    linkAlone_expanded hv hc ht hnull hname
  have hvalue : Members.get? (shown s p r collection expands fields d) name = _ :=
    get?_shown_of_relation hn hx d
  rw [hvalue, hexpanded]
  rfl

/-! ### What a shown record is -/

/-- The record `out` is the record `d` with a link in place of every relation that is not expanded. -/
structure Linked (p : Place) (r : Resource) (collection : String) (expands : List String)
    (fields : Option (List String)) (d out : Document) : Prop where
  others : ∀ name ∉ r.relations.map (·.1), Members.get? out name = Members.get? d name
  children : ∀ name target v, (name, .children target) ∈ r.relations → Members.get? d name = some v →
    Members.get? out name = some (.object
      [("href", .string (p.basePath ++ "/" ++ collection ++ "/" ++ recordId d ++ "/" ++ name))])
  links : ∀ name relation v, (name, relation) ∈ r.relations → relation.isChildren = false →
    Members.get? d name = some v → v = .null ∨ name ∉ expands →
      ∃ target href, p.registry.get? relation.target = some target ∧
        Members.get? out name = some (.object [("href", href), ("id", v)]) ∧ (href = .null ↔ v = .null) ∧
        (v ≠ .null → href = .string (p.basePath ++ "/" ++ target.plural ++ "/" ++ v.plainText))
  /-- A reference that may be shown and is not there is one to nothing. -/
  missing : ∀ name target, (name, .reference target) ∈ r.relations → Members.get? d name = none →
    fields.all (·.contains name) = true →
      Members.get? out name = some (.object [("href", .null), ("id", .null)])
  absent : ∀ name relation, (name, relation) ∈ r.relations → Members.get? d name = none →
    (∀ target, relation ≠ .reference target) ∨ fields.all (·.contains name) = false →
      Members.get? out name = none
  search : searchField ∉ Members.keys out

/-- The record `out` is the record `d` with its relations as links, but for references that are named and
found: these are the records they refer to, with all of their own relations as links. -/
structure Resolved (s : Store) (p : Place) (r : Resource) (collection : String) (expands : List String)
    (fields : Option (List String)) (d out : Document) : Prop extends
    Linked p r collection expands fields d out where
  expansions : ∀ name relation v, (name, relation) ∈ r.relations → relation.isChildren = false →
    Members.get? d name = some v → v ≠ .null → name ∈ expands →
      ∃ target, p.registry.get? relation.target = some target ∧
        (∀ found, s.called target.name v.plainText = some found →
          ∃ inner, Members.get? out name = some (.object inner) ∧
            Linked p target target.plural [] none
              (Document.materialize (Document.project found (some target.fieldNames))) inner) ∧
        (s.called target.name v.plainText = none →
          Members.get? out name = some (.object
            [("href", .string (p.basePath ++ "/" ++ target.plural ++ "/" ++ v.plainText)),
              ("id", .string v.plainText)]))

theorem referenceLink_eq (p : Place) (plural : String) (v : Value) :
    ∃ href, referenceLink p plural v = .object [("href", href), ("id", v)] ∧ (href = .null ↔ v = .null) ∧
      (v ≠ .null → href = .string (p.basePath ++ "/" ++ plural ++ "/" ++ v.plainText)) := by
  refine ⟨_, rfl, ?_, fun hne => if_neg fun hnull => hne (Value.isNull_iff.mp hnull)⟩
  split
  · exact iff_of_true rfl (Value.isNull_iff.mp (by assumption))
  · exact iff_of_false nofun fun hnull => absurd (Value.isNull_iff.mpr hnull) (by assumption)

theorem search_not_mem_materialize (d : Document) : searchField ∉ Members.keys (Document.materialize d) := by
  intro h
  simp [Members.keys, Document.materialize, Members.erase] at h

/-- What a resource gives to the showing of its records. -/
structure Shows (g : Registry) (r : Resource) : Prop where
  names : (r.relations.map (·.1)).Nodup
  free : searchField ∉ r.relations.map (·.1)
  targets : ∀ name relation, (name, relation) ∈ r.relations → ∃ target, g.get? relation.target = some target

theorem linked_of_linkAlone (hr : Shows p.registry r) {d out : Document} (hd : searchField ∉ Members.keys d)
    (hothers : ∀ name ∉ r.relations.map (·.1), Members.get? out name = Members.get? d name)
    (hfields : ∀ x ∈ r.relations, (linkAlone p collection expands fields d x).2 = none →
      Members.get? out x.1 = Members.get? (linkAlone p collection expands fields d x).1 x.1) :
    Linked p r collection expands fields d out where
  others := hothers
  children name target v hx hv := by
    have hlink : linkAlone p collection expands fields d (name, .children target) = _ :=
      linkAlone_children hv rfl
    rw [hfields _ hx (congrArg Prod.snd hlink), hlink, Members.get?_set, if_pos rfl, childrenLink]
  links name relation v hx hc hv h := by
    obtain ⟨target, ht⟩ := hr.targets name relation hx
    have hlink : linkAlone p collection expands fields d (name, relation) = _ :=
      linkAlone_link (referenced?_of_some hv) hc ht h
    obtain ⟨href, hvalue, hhref⟩ := referenceLink_eq p target.plural v
    refine ⟨target, href, ht, ?_, hhref⟩
    rw [hfields _ hx (congrArg Prod.snd hlink), hlink, Members.get?_set, if_pos rfl, hvalue]
  missing name target hx hd hall := by
    obtain ⟨t, ht⟩ := hr.targets name _ hx
    have hnull : referenced? d name (.reference target) fields = some .null := by
      simp only [referenced?, hd, hall, if_true]
    have hlink : linkAlone p collection expands fields d (name, .reference target) = _ :=
      linkAlone_link hnull rfl ht (.inl rfl)
    rw [hfields _ hx (congrArg Prod.snd hlink), hlink, Members.get?_set, if_pos rfl]
    rfl
  absent name relation hx hd h := by
    have hlink : linkAlone p collection expands fields d (name, relation) = _ := linkAlone_absent hd h
    rw [hfields _ hx (congrArg Prod.snd hlink), hlink, hd]
  search := by
    rw [← Members.get?_eq_none_iff, hothers _ hr.free, Members.get?_eq_none_iff]
    exact hd

theorem linked_of_shows (hr : Shows p.registry r) {d : Document} (hd : searchField ∉ Members.keys d) :
    Linked p r collection [] none d (linked p r collection d) := by
  obtain ⟨-, hothers, hfields⟩ := linkRecord_of_nodup (p := p) hr.names d
  exact linked_of_linkAlone hr hd hothers fun x hx _ => hfields x hx

theorem resolved_of_shows (hr : Shows p.registry r)
    (hall : ∀ target ∈ p.registry.resources, Shows p.registry target) (d : Document) :
    Resolved s p r collection expands fields (Document.materialize d)
      (shown s p r collection expands fields d) where
  toLinked := by
    refine linked_of_linkAlone hr (search_not_mem_materialize d)
      (fun name hname => get?_shown_of_other hr.names hname d) fun x hx hnone => ?_
    rw [get?_shown_of_relation hr.names hx, hnone]
    rfl
  expansions name relation v hx hc hv hnull hname := by
    obtain ⟨target, ht⟩ := hr.targets name relation hx
    have hvalue : Members.get? (shown s p r collection expands fields d) name = _ :=
      get?_shown_of_expanded hr.names hx hv hc ht hnull hname
    rw [expanded] at hvalue
    refine ⟨target, ht, fun found hfound => ?_, fun hmissing => ?_⟩
    · rw [hfound] at hvalue
      exact ⟨_, hvalue, linked_of_shows (hall target (List.mem_of_find?_eq_some ht))
        (search_not_mem_materialize _)⟩
    · rw [hmissing] at hvalue
      exact hvalue

/-! ### What is looked up -/

/-- The call that looks up the target of a field, if the field is to be expanded. -/
def lookup? (p : Place) (expands : List String) (d : Document) (x : String × Relation) : Option Call :=
  if x.2.isChildren ∨ x.1 ∉ expands then none
  else
    match Members.get? d x.1, p.registry.get? x.2.target with
    | some v, some target =>
      if v.isNull then none
      else some (.first target.name (.byId v.plainText) (some target.fieldNames))
    | _, _ => none

/-- The calls that look up the targets of some records, in the order of the records and their fields. -/
def lookups (p : Place) (r : Resource) (expands : List String) (ds : List Document) : List Call :=
  ds.flatMap fun d => r.relations.filterMap (lookup? p expands (Document.materialize d))

theorem eq_null_of_referenced? (hd : Members.get? d name = none)
    (h : referenced? d name relation fields = some v) : v = .null := by
  simp only [referenced?, hd] at h
  repeat' split at h
  all_goals first | cases h; rfl | cases h

theorem lookup?_eq (d : Document) (x : String × Relation) :
    (linkAlone p collection expands fields d x).2.map Expansion.lookup = lookup? p expands d x := by
  obtain ⟨name, relation⟩ := x
  unfold linkAlone linkField lookup?
  cases hc : relation.isChildren with
  | true =>
    simp only [true_or, if_true]
    split <;> rfl
  | false =>
    cases hv : Members.get? d name with
    | none =>
      -- A reference that is not there counts as one to nothing, which is never looked up.
      cases hreferenced : referenced? d name relation fields with
      | none => simp
      | some v =>
        obtain rfl := eq_null_of_referenced? hv hreferenced
        cases p.registry.get? relation.target <;> simp [Value.isNull]
    | some v =>
      rw [referenced?_of_some hv]
      cases p.registry.get? relation.target with
      | none => simp
      | some target =>
        by_cases hname : name ∈ expands <;> cases hnull : v.isNull <;>
          simp [hname, hnull, Expansion.lookup]

theorem map_lookup_linkRecords (hn : (r.relations.map (·.1)).Nodup) (index : Nat) (ds : List Document) :
    (linkRecords p r collection expands fields index ds).2.map Expansion.lookup =
      lookups p r expands ds := by
  induction ds generalizing index with
  | nil => rfl
  | cons d ds ih =>
    have hfirst : (linkRecord p r collection expands fields 0 (Document.materialize d)).2 = _ :=
      (linkRecord_of_nodup hn _).1
    have hcalls : ((linkRecord p r collection expands fields index (Document.materialize d)).2).map
        Expansion.lookup = r.relations.filterMap (lookup? p expands (Document.materialize d)) := by
      rw [linkRecord, linkFields_at index, ← linkRecord, List.map_map]
      refine (congrArg (List.map Expansion.lookup) hfirst).trans ?_
      rw [List.map_filterMap]
      exact congrArg (List.filterMap · r.relations) (funext fun x => lookup?_eq _ x)
    rw [linkRecords, List.map_append, hcalls, ih]
    rfl

theorem shows_of_resolve {declarations : List Schema.ResourceDeclaration} {g : Registry}
    (hg : Schema.resolve declarations = .ok g) (hdistinct : Schema.Distinct declarations)
    (hr : r ∈ g.resources) : Shows g r where
  names := r.relations_sublist.nodup (Schema.distinct_of_resolve hdistinct hg r hr)
  free h := by
    obtain ⟨a, ha, hname⟩ := List.mem_map.mp (r.relations_sublist.subset h)
    exact ((Schema.consistent_of_resolve hg).namesFree hr).ne ha (by decide) hname
  targets _ _ hx := Schema.target_of_resolve hg hr hx

/-- For a registry that was resolved, any store, any records of one of its resources: if all lookups of
targets succeed, every record is answered in its place as it would be answered alone, one level deep. If
one is refused, the answer is the failure of the first one that is. -/
theorem relations_resolved {declarations : List Schema.ResourceDeclaration} {g : Registry}
    (hg : Schema.resolve declarations = .ok g) (hdistinct : Schema.Distinct declarations) {r : Resource}
    (hr : r ∈ g.resources) (base collection : String) (expands : List String)
    (fields : Option (List String)) (ds : List Document) (env : Environment) (w : World) :
    (∀ outs, (run env (resolve ⟨g, base⟩ r collection expands fields ds).run w).1 = .ok outs →
      outs.length = ds.length ∧
        ∀ (k : Nat) (d out : Document), ds[k]? = some d → outs[k]? = some out →
          (∀ (env' : Environment) (w' : World), env'.Accepts → w'.store = w.store →
            (run env' (resolve ⟨g, base⟩ r collection expands fields [d]).run w').1 = .ok [out]) ∧
          Resolved w.store ⟨g, base⟩ r collection expands fields (Document.materialize d) out) ∧
    ∀ e, (run env (resolve ⟨g, base⟩ r collection expands fields ds).run w).1 = .error e ↔
      ∃ k c reason, (lookups ⟨g, base⟩ r expands ds)[k]? = some c ∧
        env.refusal (w.calls + k) c = some reason ∧ e = .store (.unavailable reason) ∧
        ∀ j < k, ∀ earlier, (lookups ⟨g, base⟩ r expands ds)[j]? = some earlier →
          env.refusal (w.calls + j) earlier = none := by
  have hshows : ∀ target ∈ g.resources, Shows g target := fun target ht => shows_of_resolve hg hdistinct ht
  have hrun : (run env (resolve ⟨g, base⟩ r collection expands fields ds).run w).1 = _ := run_resolve ds w
  rw [map_lookup_linkRecords (hshows r hr).names] at hrun
  refine ⟨fun outs houts => ?_, fun e => ?_⟩
  · cases hall : firstRefusal env w.calls (lookups ⟨g, base⟩ r expands ds) with
    | some reason =>
      rw [hrun, hall] at houts
      cases houts
    | none =>
      rw [hrun, hall] at houts
      cases houts
      refine ⟨List.length_map .., fun k d out hd hout => ?_⟩
      obtain rfl : shown w.store ⟨g, base⟩ r collection expands fields d = out := by
        rw [List.getElem?_map, hd] at hout
        exact Option.some.inj hout
      refine ⟨fun env' w' henv hw => ?_, resolved_of_shows (hshows r hr) hshows d⟩
      have hend : Service.Ends env' w'.store (resolve ⟨g, base⟩ r collection expands fields [d]) _ _ :=
        ends_resolve [d]
      obtain ⟨items, hitems, -, rfl⟩ := Service.success_of_ends
        (Service.ends_mono hend (fun _ _ h => h) fun e _ he => absurd he (not_refused henv e))
      rw [hitems, hw]
      rfl
  · rw [hrun]
    constructor
    · intro he
      cases hall : firstRefusal env w.calls (lookups ⟨g, base⟩ r expands ds) with
      | none =>
        rw [hall] at he
        cases he
      | some reason =>
        rw [hall] at he
        cases he
        obtain ⟨k, c, hk, hreason, hbefore⟩ := firstRefusal_eq_some_iff.mp hall
        exact ⟨k, c, reason, hk, hreason, rfl, hbefore⟩
    · rintro ⟨k, c, reason, hk, hreason, rfl, hbefore⟩
      rw [firstRefusal_eq_some_iff.mpr ⟨k, c, hk, hreason, hbefore⟩]

/-! ### Two people who are each other's boss -/

def colleague (id boss : String) : Document :=
  [("id", .string id), ("group", .null), ("boss", .string boss), ("staff", .array [.string boss]),
    ("_q", .string id)]

def colleagues : Store := ⟨[("person", [colleague "ann" "bob", colleague "bob" "ann"])]⟩

/-- The answer for both with their bosses expanded, where one call at most is refused. -/
def answered (refused : Option Nat) : Except ServiceError (List Document) :=
  (run (Groups.refusing refused) (resolve ⟨Groups.interface.registry, "/api"⟩ Groups.person "people"
    ["boss", "staff"] none [colleague "ann" "bob", colleague "bob" "ann"]).run { store := colleagues }).1

/-- Ann's boss is Bob's record, whose own boss is a link to Ann. -/
theorem relations_resolved_groups :
    (∃ outs ann bob, answered none = .ok outs ∧ outs.length = 2 ∧ outs[0]? = some ann ∧
      Members.get? ann "staff" = some (.object [("href", .string "/api/people/ann/staff")]) ∧
      Members.get? ann "boss" = some (.object bob) ∧
      (∃ href, Members.get? bob "boss" = some (.object [("href", href), ("id", .string "ann")])) ∧
      searchField ∉ Members.keys bob) ∧
    answered (some 1) = .error (.store (.unavailable "down")) := by
  have hr : Groups.person ∈ Groups.interface.registry.resources := by simp [Groups.interface]
  have hall := fun refused => relations_resolved Groups.resolve_declarations Groups.distinct_declarations hr
    "/api" "people" ["boss", "staff"] none [colleague "ann" "bob", colleague "bob" "ann"]
    (Groups.refusing refused) { store := colleagues }
  constructor
  · obtain ⟨outs, houts⟩ : ∃ outs, answered none = .ok outs := ⟨_, rfl⟩
    obtain ⟨hlength, hrecords⟩ := (hall none).1 outs houts
    obtain ⟨ann, hann⟩ : ∃ ann, outs[0]? = some ann :=
      ⟨_, List.getElem?_eq_getElem (by rw [hlength]; decide)⟩
    obtain ⟨-, hshown⟩ := hrecords 0 (colleague "ann" "bob") ann rfl hann
    have hboss : ("boss", Relation.parent "person" "staff") ∈ Groups.person.relations := by decide
    have hstaff : ("staff", Relation.children "person") ∈ Groups.person.relations := by decide
    obtain ⟨target, ht, hfound, -⟩ :=
      hshown.expansions _ _ (.string "bob") hboss rfl rfl nofun (by decide)
    obtain rfl : Groups.person = target := Option.some.inj ht
    obtain ⟨bob, hbob, hlinked⟩ := hfound (colleague "bob" "ann") rfl
    obtain ⟨-, href, -, hlink, -⟩ := hlinked.links _ _ (.string "ann") hboss rfl rfl (.inr nofun)
    exact ⟨outs, ann, bob, houts, hlength, hann, hshown.children _ _ _ hstaff rfl, hbob, ⟨href, hlink⟩,
      hlinked.search⟩
  · refine ((hall (some 1)).2 _).mpr ⟨1, _, "down", rfl, rfl, rfl, fun j hj earlier _ => ?_⟩
    obtain rfl : j = 0 := Nat.lt_one_iff.mp hj
    rfl

end Link

end Hypermedia
