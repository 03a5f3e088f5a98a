import Mathlib.Data.List.Nodup
import Hypermedia.Proofs.Lists
import Hypermedia.Schema.Registry

/-!
# Consistent registries

What the checks before a registry give to every operation on it: no two resources of one name, no
attribute with a reserved name, and for every parent relation an owner that lists its children in the
field named. Resources of distinct declarations name each attribute once.
-/

namespace Hypermedia

/-- Declarations that name each attribute of a resource once, as those of a document do: the members of
a JSON object have different names. -/
def Schema.Distinct (ds : List Schema.ResourceDeclaration) : Prop :=
  ∀ d ∈ ds, (d.2.map (·.1)).Nodup

structure Registry.Consistent (g : Registry) : Prop where
  names : (g.resources.map (·.name)).Nodup
  free : ∀ r ∈ g.resources, ∀ a ∈ r.attributes, a.name ∉ Schema.reserved
  owners : ∀ r ∈ g.resources, ∀ a ∈ r.attributes, ∀ owner field,
    a.type = .relation (.parent owner field) →
      ∃ o ∈ g.resources, o.name = owner ∧ ∃ b ∈ o.attributes, b.name = field ∧ b.type.isChildren = true

namespace Schema

variable {ds : List ResourceDeclaration}

theorem except_bind_ok {ε α β : Type} {x : Except ε α} {f : α → Except ε β} {b : β}
    (h : (x >>= f) = .ok b) : ∃ a, x = .ok a ∧ f a = .ok b := by
  cases x with
  | error e => cases h
  | ok a => exact ⟨a, rfl, h⟩

/-! ### What the checks have seen -/

theorem checkAttributes_ok {resource : String} {attrs : List (String × AttributeDeclaration)}
    (h : checkAttributes ds resource attrs = .ok ()) :
    ∀ x ∈ attrs, x.1 ∉ reserved ∧ checkRelation ds resource x.1 x.2 = .ok () := by
  induction attrs with
  | nil => simp
  | cons x attrs ih =>
    obtain ⟨name, a⟩ := x
    by_cases hr : reserved.contains name = true
    · simp only [checkAttributes, hr, if_true] at h
      cases h
    · simp only [checkAttributes, hr, Bool.false_eq_true, if_false] at h
      cases hc : checkRelation ds resource name a with
      | error e =>
        rw [hc] at h
        cases h
      | ok u =>
        rw [hc] at h
        intro y hy
        rcases List.mem_cons.mp hy with rfl | hy
        · exact ⟨by simpa using hr, hc⟩
        · exact ih h y hy

theorem checkResources_ok {plurals : List String} {rest : List ResourceDeclaration}
    (h : checkResources ds plurals rest = .ok ()) :
    (rest.map fun d => Plural.ofName d.1).Nodup ∧ (∀ d ∈ rest, Plural.ofName d.1 ∉ plurals) ∧
      ∀ d ∈ rest, checkAttributes ds d.1 d.2 = .ok () := by
  induction rest generalizing plurals with
  | nil => simp
  | cons x rest ih =>
    obtain ⟨name, attrs⟩ := x
    simp only [checkResources] at h
    split at h
    · cases h
    split at h
    · cases h
    rename_i hp
    split at h
    · cases h
    rename_i hc
    obtain ⟨hn, hf, ha⟩ := ih h
    have hnew : Plural.ofName name ∉ plurals := by simpa using hp
    refine ⟨?_, ?_, ?_⟩
    · rw [List.map_cons, List.nodup_cons]
      refine ⟨fun hm => ?_, hn⟩
      obtain ⟨d, hd, he⟩ := List.mem_map.mp hm
      apply hf d hd
      rw [he]
      exact List.mem_cons_self ..
    · intro d hd
      rcases List.mem_cons.mp hd with rfl | hd
      · exact hnew
      · exact fun hm => hf d hd (List.mem_cons_of_mem _ hm)
    · intro d hd
      rcases List.mem_cons.mp hd with rfl | hd
      · exact hc
      · exact ha d hd

theorem checkResources_of_check (h : check ds = .ok ()) : checkResources ds [] ds = .ok () := by
  unfold check at h
  split at h
  · cases h
  · exact h

theorem check_ok (h : check ds = .ok ()) :
    (ds.map (·.1)).Nodup ∧ ∀ d ∈ ds, checkAttributes ds d.1 d.2 = .ok () := by
  obtain ⟨hn, -, ha⟩ := checkResources_ok (checkResources_of_check h)
  refine ⟨List.Nodup.of_map Plural.ofName ?_, ha⟩
  simpa [List.map_map, Function.comp_def] using hn

/-! ### What resolving makes of declarations -/

theorem resolveAttribute_ok {name : String} {a : AttributeDeclaration} {b : Attribute}
    (h : resolveAttribute name a = .ok b) : b.name = name ∧ fieldType name a = .ok b.type := by
  unfold resolveAttribute at h
  cases ht : fieldType name a with
  | error e => rw [ht] at h; cases h
  | ok type =>
    rw [ht] at h
    cases h
    exact ⟨rfl, rfl⟩

theorem resolveAttributes_ok {attrs : List (String × AttributeDeclaration)} {as : List Attribute}
    (h : resolveAttributes attrs = .ok as) :
    List.Forall₂ (fun x a => resolveAttribute x.1 x.2 = .ok a) attrs as := by
  induction attrs generalizing as with
  | nil => cases h; exact .nil
  | cons x attrs ih =>
    obtain ⟨first, hf, h⟩ := except_bind_ok h
    obtain ⟨others, ho, h⟩ := except_bind_ok h
    cases h
    exact .cons hf (ih ho)

theorem resolveResources_ok {rest : List ResourceDeclaration} {rs : List Resource}
    (h : resolveResources rest = .ok rs) :
    List.Forall₂ (fun d r => r.name = d.1 ∧ resolveAttributes d.2 = .ok r.attributes) rest rs := by
  induction rest generalizing rs with
  | nil => cases h; exact .nil
  | cons d rest ih =>
    obtain ⟨attributes, ha, h⟩ := except_bind_ok h
    obtain ⟨resources, hr, h⟩ := except_bind_ok h
    cases h
    exact .cons ⟨rfl, ha⟩ (ih hr)

theorem resolve_ok {g : Registry} (h : resolve ds = .ok g) :
    check ds = .ok () ∧ List.Forall₂
      (fun d r => r.name = d.1 ∧ resolveAttributes d.2 = .ok r.attributes) ds g.resources := by
  obtain ⟨u, hc, h⟩ := except_bind_ok h
  obtain ⟨rs, hr, h⟩ := except_bind_ok h
  cases h
  exact ⟨hc, resolveResources_ok hr⟩

/-! ### Parent relations -/

theorem fieldType_children (name : String) {a : AttributeDeclaration} (h : a.kind = .children) :
    fieldType name a = .ok (.relation (.children (a.relation.getD ""))) := by
  simp only [fieldType, h]

theorem kind_of_fieldType_parent {name owner field : String} {a : AttributeDeclaration}
    (h : fieldType name a = .ok (.relation (.parent owner field))) :
    a.kind = .parent ∧ Text.splitFirst '.' (a.relation.getD "") = some (owner, field) := by
  unfold fieldType at h
  cases hk : a.kind <;> simp only [hk] at h <;> try cases h
  cases hs : Text.splitFirst '.' (a.relation.getD "") with
  | none => rw [hs] at h; cases h
  | some p => rw [hs] at h; cases h; exact ⟨rfl, rfl⟩

theorem kindOf?_of_checkRelation {resource name owner field : String} {a : AttributeDeclaration}
    (hc : checkRelation ds resource name a = .ok ())
    (ht : fieldType name a = .ok (.relation (.parent owner field))) :
    kindOf? ds owner field = some .children := by
  obtain ⟨hk, hs⟩ := kind_of_fieldType_parent ht
  simp only [checkRelation, hk] at hc
  cases hr : a.relation with
  | none => rw [hr] at hc; cases hc
  | some relation =>
    rw [hr, Option.getD_some] at hs
    rw [hr] at hc
    simp only [hs] at hc
    split at hc
    · cases hc
    split at hc
    · assumption
    · cases hc

theorem exists_of_kindOf? {owner field : String} {kind : Kind} (h : kindOf? ds owner field = some kind) :
    ∃ d ∈ ds, d.1 = owner ∧ ∃ x ∈ d.2, x.1 = field ∧ x.2.kind = kind := by
  unfold kindOf? at h
  obtain ⟨d, hd, h⟩ := Option.bind_eq_some_iff.mp h
  obtain ⟨x, hx, h⟩ := Option.map_eq_some_iff.mp h
  refine ⟨d, List.mem_of_find?_eq_some hd, by simpa using List.find?_some hd, x, ?_, ?_, h⟩
  · exact List.mem_of_find?_eq_some hx
  · simpa using List.find?_some hx

theorem exists_of_isDeclared {t : String} {e : Error}
    (h : (if isDeclared ds t then Except.ok () else .error e) = .ok ()) : ∃ d ∈ ds, d.1 = t := by
  cases hdeclared : isDeclared ds t with
  | false => simp only [hdeclared] at h; cases h
  | true => simpa [isDeclared] using hdeclared

theorem declared_of_checkRelation {resource name : String} {a : AttributeDeclaration}
    {relation : Relation} (hc : checkRelation ds resource name a = .ok ())
    (ht : fieldType name a = .ok (.relation relation)) : ∃ d ∈ ds, d.1 = relation.target := by
  cases hk : a.kind with
  | parent =>
    obtain ⟨owner, field, rfl⟩ : ∃ owner field, relation = .parent owner field := by
      unfold fieldType at ht
      simp only [hk] at ht
      cases hs : Text.splitFirst '.' (a.relation.getD "") with
      | none => rw [hs] at ht; cases ht
      | some x => rw [hs] at ht; cases ht; exact ⟨_, _, rfl⟩
    obtain ⟨d, hd, hname, -⟩ := exists_of_kindOf? (kindOf?_of_checkRelation hc ht)
    exact ⟨d, hd, hname⟩
  | children | reference =>
    simp only [fieldType, hk] at ht
    simp only [checkRelation, hk] at hc
    cases ht
    cases hr : a.relation with
    | none => rw [hr] at hc; cases hc
    | some t => rw [hr] at hc; exact exists_of_isDeclared hc
  | _ =>
    simp only [fieldType, hk] at ht
    cases ht

theorem resource_of_resolve {g : Registry} (h : resolve ds = .ok g) {r : Resource}
    (hr : r ∈ g.resources) : ∃ d ∈ ds, r.name = d.1 ∧
      List.Forall₂ (fun x a => resolveAttribute x.1 x.2 = .ok a) d.2 r.attributes := by
  obtain ⟨d, hd, hn, ha⟩ := forall₂_mem_right (resolve_ok h).2 hr
  exact ⟨d, hd, hn, resolveAttributes_ok ha⟩

theorem distinct_of_resolve {g : Registry} (hd : Distinct ds) (h : resolve ds = .ok g) :
    ∀ r ∈ g.resources, (r.attributes.map (·.name)).Nodup := by
  intro r hr
  obtain ⟨d, hdm, -, ha⟩ := resource_of_resolve h hr
  have hname : ∀ (x : String × AttributeDeclaration) (a : Attribute),
      resolveAttribute x.1 x.2 = .ok a → a.name = x.1 := fun x a h => (resolveAttribute_ok h).1
  have he : r.attributes.map (·.name) = d.2.map (·.1) := forall₂_map_eq hname ha
  rw [he]
  exact hd d hdm

theorem consistent_of_resolve {g : Registry} (h : resolve ds = .ok g) : g.Consistent := by
  obtain ⟨hc, hg⟩ := resolve_ok h
  obtain ⟨hnames, hattrs⟩ := check_ok hc
  have hmap : g.resources.map (·.name) = ds.map (·.1) := forall₂_map_eq (fun _ _ hx => hx.1) hg
  refine ⟨by rw [hmap]; exact hnames, ?_, ?_⟩
  · intro r hr a ha
    obtain ⟨d, hdm, -, has⟩ := resource_of_resolve h hr
    obtain ⟨x, hx, he⟩ := forall₂_mem_right has ha
    rw [(resolveAttribute_ok he).1]
    exact (checkAttributes_ok (hattrs d hdm) x hx).1
  · intro r hr a ha owner field ht
    obtain ⟨d, hdm, -, has⟩ := resource_of_resolve h hr
    obtain ⟨x, hx, he⟩ := forall₂_mem_right has ha
    have hft : fieldType x.1 x.2 = .ok (.relation (.parent owner field)) := by
      rw [(resolveAttribute_ok he).2, ht]
    have hkind := kindOf?_of_checkRelation (checkAttributes_ok (hattrs d hdm) x hx).2 hft
    obtain ⟨od, hod, hon, y, hy, hyn, hyk⟩ := exists_of_kindOf? hkind
    obtain ⟨o, ho, hno, hoa⟩ := forall₂_mem_left hg hod
    obtain ⟨b, hb, hbe⟩ := forall₂_mem_left (resolveAttributes_ok hoa) hy
    obtain ⟨hbn, hbt⟩ := resolveAttribute_ok hbe
    rw [fieldType_children y.1 hyk] at hbt
    refine ⟨o, ho, hno.trans hon, b, hb, hbn.trans hyn, ?_⟩
    rw [← Except.ok.inj hbt]
    rfl

end Schema

theorem Registry.Consistent.eq_of_name {g : Registry} (h : g.Consistent) {r o : Resource}
    (hr : r ∈ g.resources) (ho : o ∈ g.resources) (he : r.name = o.name) : r = o :=
  List.inj_on_of_nodup_map h.names hr ho he

/-- No attribute has a reserved name. -/
def Resource.NamesFree (r : Resource) : Prop := ∀ a ∈ r.attributes, a.name ∉ Schema.reserved

theorem Registry.Consistent.namesFree {g : Registry} (h : g.Consistent) {r : Resource}
    (hr : r ∈ g.resources) : r.NamesFree := h.free r hr

theorem Resource.NamesFree.ne {r : Resource} (h : r.NamesFree) {a : Attribute} (ha : a ∈ r.attributes)
    {name : String} (hname : name ∈ Schema.reserved) : a.name ≠ name := by
  rintro rfl
  exact h a ha hname

/-- The lists that parent relations point at have no reserved name. -/
def Resource.ListsFree (r : Resource) : Prop :=
  ∀ name owner field, (name, Relation.parent owner field) ∈ r.relations → field ∉ Schema.reserved

theorem Attribute.isChildren_of_parent {a : Attribute} {owner field : String}
    (h : a.type = .relation (.parent owner field)) : a.type.isChildren = false := by
  rw [h]
  rfl

theorem FieldType.children_of_isChildren {type : FieldType} (h : type.isChildren = true) :
    ∃ target, type = .relation (.children target) := by
  cases type with
  | relation relation =>
    cases relation with
    | children target => exact ⟨target, rfl⟩
    | _ => cases h
  | _ => cases h

theorem Resource.mem_relations {r : Resource} {name : String} {relation : Relation} :
    (name, relation) ∈ r.relations ↔ ∃ a ∈ r.attributes, a.name = name ∧ a.type = .relation relation := by
  simp only [Resource.relations, List.mem_filterMap, Option.map_eq_some_iff, Prod.mk.injEq]
  constructor
  · rintro ⟨a, ha, x, hx, hn, rfl⟩
    refine ⟨a, ha, hn, ?_⟩
    cases ht : a.type <;> simp [FieldType.relation?, ht] at hx
    rw [hx]
  · rintro ⟨a, ha, hn, ht⟩
    exact ⟨a, ha, relation, by simp [ht, FieldType.relation?], hn, rfl⟩

theorem Resource.relations_sublist (r : Resource) :
    (r.relations.map (·.1)).Sublist (r.attributes.map (·.name)) := by
  have h : r.relations.map (·.1) = (r.attributes.filter (·.type.relation?.isSome)).map (·.name) := by
    rw [relations, List.map_filterMap, ← List.filterMap_eq_filter, List.map_filterMap]
    refine congrArg (List.filterMap · r.attributes) (funext fun a => ?_)
    cases ht : a.type.relation? <;> simp [ht, Option.guard]
  rw [h]
  exact List.filter_sublist.map _

theorem Schema.target_of_resolve {ds : List ResourceDeclaration} {g : Registry} (h : resolve ds = .ok g)
    {r : Resource} (hr : r ∈ g.resources) {name : String} {relation : Relation}
    (hrel : (name, relation) ∈ r.relations) : ∃ target, g.get? relation.target = some target := by
  obtain ⟨a, ha, -, ht⟩ := Resource.mem_relations.mp hrel
  obtain ⟨d, hd, -, has⟩ := resource_of_resolve h hr
  obtain ⟨x, hx, he⟩ := forall₂_mem_right has ha
  have hcheck := checkAttributes_ok ((check_ok (resolve_ok h).1).2 d hd) x hx
  have htype : fieldType x.1 x.2 = .ok (.relation relation) := by
    rw [(resolveAttribute_ok he).2, ht]
  obtain ⟨declared, hdeclared, hname⟩ := declared_of_checkRelation hcheck.2 htype
  obtain ⟨target, htarget, hn, -⟩ := forall₂_mem_left (resolve_ok h).2 hdeclared
  refine Option.isSome_iff_exists.mp (List.find?_isSome.mpr ⟨target, htarget, ?_⟩)
  rw [hn, hname]
  exact beq_self_eq_true _

/-! ### Paths of collections -/

theorem Schema.plural_of_resolveResources {rest : List ResourceDeclaration} {rs : List Resource}
    (h : resolveResources rest = .ok rs) :
    List.Forall₂ (fun d r => r.name = d.1 ∧ r.plural = Plural.ofName d.1) rest rs := by
  induction rest generalizing rs with
  | nil => cases h; exact .nil
  | cons d rest ih =>
    obtain ⟨name, attrs⟩ := d
    obtain ⟨attributes, -, h⟩ := except_bind_ok h
    obtain ⟨resources, hr, h⟩ := except_bind_ok h
    cases h
    exact .cons ⟨rfl, by dsimp only⟩ (ih hr)

/-- The collection of a resource has the plural of its name, and no other collection has that. -/
theorem Schema.plural_of_resolve {ds : List ResourceDeclaration} {g : Registry} (h : resolve ds = .ok g)
    {r : Resource} (hr : r ∈ g.resources) :
    r.plural = Plural.ofName r.name ∧ g.byPath? r.plural = some r := by
  obtain ⟨u, hc, hres⟩ := except_bind_ok h
  obtain ⟨rs, hrs, hres⟩ := except_bind_ok hres
  cases hres
  have hplurals := plural_of_resolveResources hrs
  have hnodup : (rs.map (·.plural)).Nodup := by
    have hmap : rs.map (·.plural) = ds.map fun d => Plural.ofName d.1 :=
      forall₂_map_eq (fun _ _ hx => hx.2) hplurals
    rw [hmap]
    exact (checkResources_ok (checkResources_of_check hc)).1
  refine ⟨?_, ?_⟩
  · obtain ⟨d, -, hname, hplural⟩ := forall₂_mem_right hplurals hr
    rw [hplural, hname]
  · exact (find?_name_eq_some_iff hnodup).mpr ⟨hr, rfl⟩

theorem Registry.Consistent.owner_of_relation {g : Registry} (h : g.Consistent) {r : Resource}
    (hr : r ∈ g.resources) {name owner field : String}
    (hrel : (name, Relation.parent owner field) ∈ r.relations) :
    ∃ o ∈ g.resources, o.name = owner ∧
      ∃ b ∈ o.attributes, b.name = field ∧ b.type.isChildren = true := by
  obtain ⟨a, ha, -, ht⟩ := Resource.mem_relations.mp hrel
  exact h.owners r hr a ha owner field ht

/-- No relation points at an attribute that lists no children. -/
theorem Registry.Consistent.not_pointed_at {g : Registry} (h : g.Consistent) {r o : Resource}
    (hr : r ∈ g.resources) (ho : o ∈ g.resources) (hdistinct : (o.attributes.map (·.name)).Nodup)
    {a : Attribute} (ha : a ∈ o.attributes) (hc : a.type.isChildren = false) (pointer : String) :
    (pointer, Relation.parent o.name a.name) ∉ r.relations := by
  intro hp
  obtain ⟨o', ho', hname, b, hb, hbn, hchildren⟩ := h.owner_of_relation hr hp
  obtain rfl : o' = o := h.eq_of_name ho' ho hname
  obtain rfl : b = a := List.inj_on_of_nodup_map hdistinct hb ha hbn
  rw [hc] at hchildren
  cases hchildren

theorem Registry.Consistent.listsFree {g : Registry} (h : g.Consistent) {r : Resource}
    (hr : r ∈ g.resources) : r.ListsFree := by
  intro name owner field hrel
  obtain ⟨o, ho, -, b, hb, rfl, -⟩ := h.owner_of_relation hr hrel
  exact h.free o ho b hb

end Hypermedia
