import Hypermedia.Proofs.Conditions
import Hypermedia.Proofs.Documents

/-!
# Declarations with and without faults

Declarations are checked first and resolved afterwards, and both read the relations by themselves. The faults
that the check finds are the only ones: what passes it is resolved, to a registry of exactly the declared
resources, whose relations all lead to one of them.
-/

namespace Hypermedia

namespace Schema

variable {ds : List ResourceDeclaration}

/-! ### Declarations of a document -/

theorem attributes?_names {ms : Members} {as : List (String × AttributeDeclaration)}
    (h : attributes? ms = some as) : as.map (·.1) = Members.keys ms := by
  induction ms generalizing as with
  | nil =>
    cases h
    rfl
  | cons m ms ih =>
    obtain ⟨name, v⟩ := m
    obtain ⟨a, -, h⟩ := Option.bind_eq_some_iff.mp h
    obtain ⟨rest, hr, h⟩ := Option.bind_eq_some_iff.mp h
    cases h
    simp [Members.keys, ih hr]

theorem resources?_ok {ms : Members} (h : resources? ms = .ok ds) :
    List.Forall₂ (fun m d => d.1 = m.1 ∧ ∃ attrs, m.2 = .object attrs ∧ attributes? attrs = some d.2)
      ms ds := by
  induction ms generalizing ds with
  | nil =>
    cases h
    exact .nil
  | cons m ms ih =>
    obtain ⟨name, v⟩ := m
    cases v with
    | object attrs =>
      simp only [resources?] at h
      cases ha : attributes? attrs with
      | none =>
        rw [ha] at h
        cases h
      | some as =>
        rw [ha] at h
        cases hr : resources? ms with
        | error e =>
          rw [hr] at h
          cases h
        | ok others =>
          rw [hr] at h
          cases h
          exact .cons ⟨rfl, attrs, rfl, ha⟩ (ih hr)
    | _ => cases h

/-- A document names each resource once, and each attribute of a resource. -/
theorem names_of_document {v : Value} (hv : v.Proper) (h : declarations? v = .ok ds) :
    (ds.map (·.1)).Nodup ∧ Distinct ds := by
  cases hv with
  | object names values =>
    have hmembers : List.Forall₂ _ _ ds := resources?_ok h
    refine ⟨?_, fun d hd => ?_⟩
    · rw [forall₂_map_eq (fun _ _ hx => hx.1) hmembers]
      exact names
    · obtain ⟨m, hm, -, attrs, hobject, hattrs⟩ := forall₂_mem_right hmembers hd
      have hproper := values m hm
      rw [hobject] at hproper
      rw [attributes?_names hattrs]
      cases hproper with
      | object names _ => exact names
  | _ => cases h

/-! ### What declarations mean -/

/-- The type of an attribute with this declaration. -/
inductive Means (a : AttributeDeclaration) : FieldType → Prop where
  | string (kind : a.kind = .string) : Means a .string
  | number (kind : a.kind = .number) : Means a .number
  | boolean (kind : a.kind = .boolean) : Means a .boolean
  | date (kind : a.kind = .date) : Means a .date
  | geometry (kind : a.kind = .geometry) : Means a .geometry
  | children {target : String} (kind : a.kind = .children) (relation : a.relation = some target) :
    Means a (.relation (.children target))
  | reference {target : String} (kind : a.kind = .reference) (relation : a.relation = some target) :
    Means a (.relation (.reference target))
  | parent {owner field : String} (kind : a.kind = .parent)
      (relation : a.relation = some (owner ++ "." ++ field)) (first : '.' ∉ owner.toList) :
    Means a (.relation (.parent owner field))

/-- The attribute is the declared one. -/
structure Declares (x : String × AttributeDeclaration) (a : Attribute) : Prop where
  name : a.name = x.1
  type : Means x.2 a.type
  default : a.default = x.2.default
  required : a.required = x.2.required
  unique : a.unique = x.2.unique
  text : a.text = x.2.text
  desc : a.desc = x.2.desc
  rules : a.rules = x.2.rules

/-- The resource is the declared one. -/
structure Makes (d : ResourceDeclaration) (r : Resource) : Prop where
  name : r.name = d.1
  plural : r.plural = Plural.ofName d.1
  attributes : List.Forall₂ Declares d.2 r.attributes

/-! ### Faults -/

/-- What is wrong with the relation of an attribute, with the error that tells it. -/
inductive RelationFault (ds : List ResourceDeclaration) (resource field : String) (a : AttributeDeclaration) :
    Error → Prop where
  | missing (kind : a.kind ∈ [.children, .reference, .parent]) (relation : a.relation = none) :
    RelationFault ds resource field a (.invalidRelation resource field "")
  | absent {target : String} (kind : a.kind ∈ [.children, .reference]) (relation : a.relation = some target)
      (absent : target ∉ ds.map (·.1)) :
    RelationFault ds resource field a (.missingReference target)
  | undotted {text : String} (kind : a.kind = .parent) (relation : a.relation = some text)
      (undotted : '.' ∉ text.toList) :
    RelationFault ds resource field a (.invalidRelation resource field text)
  | ownerless {owner inverse : String} (kind : a.kind = .parent)
      (relation : a.relation = some (owner ++ "." ++ inverse)) (first : '.' ∉ owner.toList)
      (absent : owner ∉ ds.map (·.1)) :
    RelationFault ds resource field a (.missingReference owner)
  | childless {owner inverse : String} {attrs : List (String × AttributeDeclaration)} (kind : a.kind = .parent)
      (relation : a.relation = some (owner ++ "." ++ inverse)) (first : '.' ∉ owner.toList)
      (declared : (owner, attrs) ∈ ds) (childless : ∀ b, (inverse, b) ∈ attrs → b.kind ≠ .children) :
    RelationFault ds resource field a (.invalidRelation resource field (owner ++ "." ++ inverse))

/-- What is wrong with declarations, with the error that tells it. -/
inductive Fault (ds : List ResourceDeclaration) : Error → Prop where
  | empty (empty : ds = []) : Fault ds (.invalid "at least one resource required")
  | name {d : ResourceDeclaration} (mem : d ∈ ds) (unfit : d.1 = "" ∨ '/' ∈ d.1.toList) :
    Fault ds (.invalid ("invalid resource name '" ++ d.1 ++ "'"))
  | plural {before after : List ResourceDeclaration} {d : ResourceDeclaration} (split : ds = before ++ d :: after)
      (taken : Plural.ofName d.1 ∈ before.map fun e => Plural.ofName e.1) :
    Fault ds (.duplicatePathSegment (Plural.ofName d.1))
  | reserved {d : ResourceDeclaration} {x : String × AttributeDeclaration} (mem : d ∈ ds) (attr : x ∈ d.2)
      (reserved : x.1 ∈ Schema.reserved) : Fault ds (.reservedAttribute d.1 x.1)
  | relation {d : ResourceDeclaration} {x : String × AttributeDeclaration} {e : Error} (mem : d ∈ ds)
      (attr : x ∈ d.2) (fault : RelationFault ds d.1 x.1 x.2 e) : Fault ds e

/-! ### Relations -/

theorem splitFirst_dot_iff {s owner field : String} :
    Text.splitFirst '.' s = some (owner, field) ↔ s = owner ++ "." ++ field ∧ '.' ∉ owner.toList := by
  rw [Text.splitFirst, Option.map_eq_some_iff]
  constructor
  · rintro ⟨⟨before, after⟩, hcut, he⟩
    obtain ⟨hsplit, hfirst⟩ := Text.cutFirst_eq_some hcut
    cases he
    rw [← String.toList_inj]
    simpa using ⟨hsplit, hfirst⟩
  · rintro ⟨rfl, hfirst⟩
    refine ⟨(owner.toList, field.toList), ?_, by simp⟩
    simpa using Text.cutFirst_of_notMem hfirst field.toList

theorem splitFirst_dot_eq_none_iff {s : String} : Text.splitFirst '.' s = none ↔ '.' ∉ s.toList := by
  rw [Text.splitFirst, Option.map_eq_none_iff]
  constructor
  · intro h hdot
    obtain ⟨before, after, hsplit, hfirst⟩ := List.eq_append_cons_of_mem hdot
    rw [hsplit, Text.cutFirst_of_notMem hfirst] at h
    cases h
  · intro h
    cases hcut : Text.cutFirst '.' s.toList with
    | none => rfl
    | some x =>
      obtain ⟨before, after⟩ := x
      rw [(Text.cutFirst_eq_some hcut).1] at h
      simp at h

theorem isDeclared_iff {resource : String} : isDeclared ds resource = true ↔ resource ∈ ds.map (·.1) := by
  simp [isDeclared]

section
variable (hnames : (ds.map (·.1)).Nodup) (hdistinct : Distinct ds)

include hnames hdistinct

theorem kindOf?_eq_some_iff {resource field : String} {kind : Kind} :
    kindOf? ds resource field = some kind ↔
      ∃ attrs a, (resource, attrs) ∈ ds ∧ (field, a) ∈ attrs ∧ a.kind = kind := by
  unfold kindOf?
  constructor
  · intro h
    obtain ⟨⟨name, attrs⟩, hfound, h⟩ := Option.bind_eq_some_iff.mp h
    obtain ⟨⟨name', a⟩, hattr, hkind⟩ := Option.map_eq_some_iff.mp h
    obtain ⟨hd, rfl⟩ : (name, attrs) ∈ ds ∧ name = resource := (find?_name_eq_some_iff hnames).mp hfound
    obtain ⟨ha, rfl⟩ : (name', a) ∈ attrs ∧ name' = field :=
      (find?_name_eq_some_iff (hdistinct (name, attrs) hd)).mp hattr
    exact ⟨attrs, a, hd, ha, hkind⟩
  · rintro ⟨attrs, a, hd, ha, rfl⟩
    have hfound : ds.find? (·.1 == resource) = some (resource, attrs) :=
      (find?_name_eq_some_iff hnames).mpr ⟨hd, rfl⟩
    have hattr : attrs.find? (·.1 == field) = some (field, a) :=
      (find?_name_eq_some_iff (hdistinct (resource, attrs) hd)).mpr ⟨ha, rfl⟩
    simp [hfound, hattr]

variable {resource field : String} {a : AttributeDeclaration} {e : Error}

/-- A relation has a fault, or the declaration has a meaning. -/
theorem checkRelation_cases (resource field : String) (a : AttributeDeclaration) :
    (∃ e, checkRelation ds resource field a = .error e ∧ RelationFault ds resource field a e) ∨
      (checkRelation ds resource field a = .ok () ∧ ∃ type, fieldType field a = .ok type ∧ Means a type) := by
  unfold checkRelation fieldType
  dsimp only
  cases hk : a.kind with
  | string => exact .inr ⟨rfl, _, rfl, .string hk⟩
  | number => exact .inr ⟨rfl, _, rfl, .number hk⟩
  | boolean => exact .inr ⟨rfl, _, rfl, .boolean hk⟩
  | date => exact .inr ⟨rfl, _, rfl, .date hk⟩
  | geometry => exact .inr ⟨rfl, _, rfl, .geometry hk⟩
  | children | reference =>
    dsimp only
    cases hr : a.relation with
    | none => exact .inl ⟨_, rfl, .missing (by simp [hk]) hr⟩
    | some target =>
      by_cases hdeclared : isDeclared ds target = true
      · exact .inr ⟨if_pos hdeclared, _, rfl, by first | exact .children hk hr | exact .reference hk hr⟩
      · exact .inl ⟨_, if_neg hdeclared, .absent (by simp [hk]) hr (mt isDeclared_iff.mpr hdeclared)⟩
  | parent =>
    dsimp only
    cases hr : a.relation with
    | none => exact .inl ⟨_, rfl, .missing (by simp [hk]) hr⟩
    | some text =>
      rw [Option.getD_some]
      cases hs : Text.splitFirst '.' text with
      | none =>
        refine .inl ⟨_, ?_, .undotted hk hr (splitFirst_dot_eq_none_iff.mp hs)⟩
        simp only [hs]
      | some parts =>
        obtain ⟨owner, inverse⟩ := parts
        obtain ⟨rfl, hfirst⟩ := splitFirst_dot_iff.mp hs
        -- The check and the type cut the text at the same dot.
        simp only [hs]
        by_cases hdeclared : isDeclared ds owner = true
        · obtain ⟨⟨owner, attrs⟩, hmem, rfl⟩ := List.mem_map.mp (isDeclared_iff.mp hdeclared)
          rw [if_neg (not_not.mpr hdeclared)]
          by_cases hchildren : kindOf? ds owner inverse = some .children
          · exact .inr ⟨if_pos hchildren, _, rfl, .parent hk hr hfirst⟩
          · refine .inl ⟨_, if_neg hchildren, .childless hk hr hfirst hmem fun b hb hkind => hchildren ?_⟩
            exact (kindOf?_eq_some_iff hnames hdistinct).mpr ⟨attrs, b, hmem, hb, hkind⟩
        · rw [if_pos hdeclared]
          exact .inl ⟨_, rfl, .ownerless hk hr hfirst (mt isDeclared_iff.mpr hdeclared)⟩

theorem fault_of_checkRelation (h : checkRelation ds resource field a = .error e) :
    RelationFault ds resource field a e := by
  rcases checkRelation_cases hnames hdistinct resource field a with ⟨e', he, hfault⟩ | ⟨hok, -⟩
  · cases h.symm.trans he
    exact hfault
  · cases h.symm.trans hok

theorem fieldType_of_checkRelation (h : checkRelation ds resource field a = .ok ()) :
    ∃ type, fieldType field a = .ok type ∧ Means a type := by
  rcases checkRelation_cases hnames hdistinct resource field a with ⟨e, he, -⟩ | ⟨-, hmeans⟩
  · cases h.symm.trans he
  · exact hmeans

theorem checkRelation_of_fault (h : RelationFault ds resource field a e) :
    checkRelation ds resource field a = .error e := by
  cases h with
  | missing kind relation =>
    simp only [List.mem_cons, List.not_mem_nil, or_false] at kind
    rcases kind with hk | hk | hk <;> simp only [checkRelation, hk, relation]
  | absent kind relation absent =>
    simp only [List.mem_cons, List.not_mem_nil, or_false] at kind
    have hnot := mt isDeclared_iff.mp absent
    rcases kind with hk | hk <;> simp only [checkRelation, hk, relation, if_neg hnot]
  | undotted kind relation undotted =>
    simp only [checkRelation, kind, relation, splitFirst_dot_eq_none_iff.mpr undotted]
  | @ownerless owner inverse kind relation first absent =>
    have hcut : Text.splitFirst '.' (owner ++ "." ++ inverse) = some (owner, inverse) :=
      splitFirst_dot_iff.mpr ⟨rfl, first⟩
    simp only [checkRelation, kind, relation, hcut, if_pos (mt isDeclared_iff.mp absent)]
  | @childless owner inverse attrs kind relation first declared childless =>
    have hcut : Text.splitFirst '.' (owner ++ "." ++ inverse) = some (owner, inverse) :=
      splitFirst_dot_iff.mpr ⟨rfl, first⟩
    have hdeclared : isDeclared ds owner = true :=
      isDeclared_iff.mpr (List.mem_map_of_mem declared)
    have hkind : kindOf? ds owner inverse ≠ some .children := by
      intro hkind
      obtain ⟨attrs', b, hmem, hb, hchildren⟩ := (kindOf?_eq_some_iff hnames hdistinct).mp hkind
      have hsame : (owner, attrs') = (owner, attrs) := List.inj_on_of_nodup_map hnames hmem declared rfl
      cases hsame
      exact childless b hb hchildren
    simp only [checkRelation, kind, relation, hcut, hdeclared, not_true_eq_false, if_false, if_neg hkind]

theorem fault_of_checkAttributes {d : ResourceDeclaration} (hd : d ∈ ds)
    {rest : List (String × AttributeDeclaration)} (hrest : ∀ x ∈ rest, x ∈ d.2)
    (h : checkAttributes ds d.1 rest = .error e) : Fault ds e := by
  induction rest with
  | nil => cases h
  | cons x rest ih =>
    obtain ⟨hx, hrest⟩ := List.forall_mem_cons.mp hrest
    unfold checkAttributes at h
    split at h
    · rename_i hreserved
      cases h
      exact .reserved hd hx (List.contains_iff_mem.mp hreserved)
    · cases hc : checkRelation ds d.1 x.1 x.2 with
      | error e' =>
        rw [hc] at h
        cases h
        exact .relation hd hx (fault_of_checkRelation hnames hdistinct hc)
      | ok _ =>
        rw [hc] at h
        exact ih hrest h

/-- `before` are the resources that were checked already. -/
theorem fault_of_checkResources (before : List ResourceDeclaration) {rest : List ResourceDeclaration}
    (hsplit : ds = before ++ rest)
    (h : checkResources ds (before.map fun d => Plural.ofName d.1).reverse rest = .error e) : Fault ds e := by
  induction rest generalizing before with
  | nil => cases h
  | cons d rest ih =>
    have hd : d ∈ ds := hsplit ▸ List.mem_append_right before (List.mem_cons_self ..)
    unfold checkResources at h
    dsimp only at h
    split at h
    · rename_i hunfit
      cases h
      exact .name hd (by simpa using hunfit)
    split at h
    · rename_i htaken
      cases h
      exact .plural hsplit (by simpa using htaken)
    cases hc : checkAttributes ds d.1 d.2 with
    | error e' =>
      rw [hc] at h
      cases h
      exact fault_of_checkAttributes hnames hdistinct hd (fun _ hx => hx) hc
    | ok _ =>
      rw [hc] at h
      refine ih (before ++ [d]) ?_ ?_
      · rw [hsplit, List.append_assoc, List.singleton_append]
      · rw [List.map_append, List.reverse_append]
        exact h

theorem fault_of_check (h : check ds = .error e) : Fault ds e := by
  unfold check at h
  split at h
  · rename_i hempty
    cases h
    exact .empty (List.isEmpty_iff.mp hempty)
  · exact fault_of_checkResources hnames hdistinct [] rfl h

omit hnames hdistinct in
theorem fit_of_checkResources {plurals : List String} {rest : List ResourceDeclaration}
    (h : checkResources ds plurals rest = .ok ()) : ∀ d ∈ rest, ¬ (d.1 = "" ∨ '/' ∈ d.1.toList) := by
  induction rest generalizing plurals with
  | nil => nofun
  | cons d rest ih =>
    unfold checkResources at h
    dsimp only at h
    split at h
    · cases h
    rename_i hfit
    split at h
    · cases h
    split at h
    · cases h
    exact List.forall_mem_cons.mpr ⟨by simpa using hfit, ih h⟩

/-- Where the check passes there is no fault. -/
theorem not_fault_of_check (h : check ds = .ok ()) : ¬ Fault ds e := by
  have hattrs := (check_ok h).2
  have hresources : checkResources ds [] ds = .ok () := checkResources_of_check h
  rintro hfault
  cases hfault with
  | empty empty =>
    subst empty
    cases h
  | name mem unfit => exact fit_of_checkResources hresources _ mem unfit
  | plural split taken =>
    have hplurals := (checkResources_ok hresources).1
    rw [split, List.map_append, List.map_cons] at hplurals
    exact (List.nodup_append.mp hplurals).2.2 _ taken _ (List.mem_cons_self ..) rfl
  | reserved mem attr reserved => exact (checkAttributes_ok (hattrs _ mem) _ attr).1 reserved
  | relation mem attr fault =>
    have hpassed := (checkAttributes_ok (hattrs _ mem) _ attr).2
    cases (checkRelation_of_fault hnames hdistinct fault).symm.trans hpassed

/-! ### What passes the check -/

theorem resolveAttribute_of_check {x : String × AttributeDeclaration}
    (h : checkRelation ds resource x.1 x.2 = .ok ()) :
    ∃ a, resolveAttribute x.1 x.2 = .ok a ∧ Declares x a := by
  obtain ⟨type, htype, hmeans⟩ := fieldType_of_checkRelation hnames hdistinct h
  rw [resolveAttribute, htype]
  exact ⟨_, rfl, rfl, hmeans, rfl, rfl, rfl, rfl, rfl, rfl⟩

theorem resolveAttributes_of_check {attrs : List (String × AttributeDeclaration)}
    (h : ∀ x ∈ attrs, checkRelation ds resource x.1 x.2 = .ok ()) :
    ∃ as, resolveAttributes attrs = .ok as ∧ List.Forall₂ Declares attrs as := by
  induction attrs with
  | nil => exact ⟨[], rfl, .nil⟩
  | cons x attrs ih =>
    obtain ⟨hx, hattrs⟩ := List.forall_mem_cons.mp h
    obtain ⟨a, ha, hdeclares⟩ := resolveAttribute_of_check hnames hdistinct hx
    obtain ⟨as, has, hall⟩ := ih hattrs
    refine ⟨a :: as, ?_, .cons hdeclares hall⟩
    rw [resolveAttributes, ha, has]
    rfl

theorem resolveResources_of_check {rest : List ResourceDeclaration}
    (h : ∀ d ∈ rest, ∀ x ∈ d.2, checkRelation ds d.1 x.1 x.2 = .ok ()) :
    ∃ rs, resolveResources rest = .ok rs ∧ List.Forall₂ Makes rest rs := by
  induction rest with
  | nil => exact ⟨[], rfl, .nil⟩
  | cons d rest ih =>
    obtain ⟨hd, hrest⟩ := List.forall_mem_cons.mp h
    obtain ⟨as, has, hdeclares⟩ := resolveAttributes_of_check hnames hdistinct hd
    obtain ⟨rs, hrs, hall⟩ := ih hrest
    refine ⟨⟨d.1, Plural.ofName d.1, as⟩ :: rs, ?_, .cons ⟨rfl, by dsimp only, hdeclares⟩ hall⟩
    rw [resolveResources, has, hrs]
    rfl

omit hnames hdistinct in
theorem checkRelation_of_check (h : check ds = .ok ()) :
    ∀ d ∈ ds, ∀ x ∈ d.2, checkRelation ds d.1 x.1 x.2 = .ok () :=
  fun d hd x hx => (checkAttributes_ok ((check_ok h).2 d hd) x hx).2

theorem resolve_of_check (h : check ds = .ok ()) :
    ∃ g, resolve ds = .ok g ∧ List.Forall₂ Makes ds g.resources := by
  obtain ⟨rs, hrs, hmakes⟩ := resolveResources_of_check hnames hdistinct (checkRelation_of_check h)
  refine ⟨⟨rs⟩, ?_, hmakes⟩
  rw [resolve, h, hrs]
  rfl

theorem makes_of_resolve {g : Registry} (h : resolve ds = .ok g) : List.Forall₂ Makes ds g.resources := by
  obtain ⟨g', hg', hmakes⟩ := resolve_of_check hnames hdistinct (resolve_ok h).1
  cases h.symm.trans hg'
  exact hmakes

end

end Schema

/-! ### Registries -/

/-- The registry has the declared resources and no others, each under its name and the plural of it. Its
relations lead to resources, those to owners to lists of children, and no name of a record stands twice. -/
structure Registry.MadeOf (g : Registry) (ds : List Schema.ResourceDeclaration) : Prop where
  resources : List.Forall₂ Schema.Makes ds g.resources
  named : ∀ key r, g.get? key = some r ↔ r ∈ g.resources ∧ r.name = key
  unnamed : ∀ key, g.get? key = none ↔ key ∉ ds.map (·.1)
  placed : ∀ key r, g.byPath? key = some r ↔ r ∈ g.resources ∧ r.plural = key
  unplaced : ∀ key, g.byPath? key = none ↔ key ∉ ds.map fun d => Plural.ofName d.1
  targets : ∀ r ∈ g.resources, ∀ name relation, (name, relation) ∈ r.relations →
    ∃ target, g.get? relation.target = some target
  owners : ∀ r ∈ g.resources, ∀ name owner field, (name, Relation.parent owner field) ∈ r.relations →
    ∃ o target, g.get? owner = some o ∧ (field, Relation.children target) ∈ o.relations
  names : ∀ r ∈ g.resources, (r.allAttributes.map (·.name) ++ [searchField]).Nodup

namespace Schema

variable {ds : List ResourceDeclaration} {g : Registry}

theorem madeOf_of_resolve (hdistinct : Distinct ds) (h : resolve ds = .ok g) : g.MadeOf ds := by
  have hg : g.Consistent := consistent_of_resolve h
  have hmakes := makes_of_resolve (check_ok (resolve_ok h).1).1 hdistinct h
  have hnames : g.resources.map (·.name) = ds.map (·.1) := forall₂_map_eq (fun _ _ hx => hx.name) hmakes
  have hplurals : g.resources.map (·.plural) = ds.map fun d => Plural.ofName d.1 :=
    forall₂_map_eq (fun _ _ hx => hx.plural) hmakes
  have hnodup : (g.resources.map (·.plural)).Nodup := by
    rw [hplurals]
    exact (checkResources_ok (checkResources_of_check (resolve_ok h).1)).1
  exact {
    resources := hmakes
    named := fun _ _ => find?_name_eq_some_iff hg.names
    unnamed := fun _ => find?_name_eq_none_iff.trans (by rw [hnames])
    placed := fun _ _ => find?_name_eq_some_iff hnodup
    unplaced := fun _ => find?_name_eq_none_iff.trans (by rw [hplurals])
    targets := fun r hr name relation hx => target_of_resolve h hr hx
    owners := fun r hr name owner field hx => by
      obtain ⟨o, ho, hname, b, hb, hfield, hchildren⟩ := hg.owner_of_relation hr hx
      obtain ⟨target, htype⟩ := FieldType.children_of_isChildren hchildren
      exact ⟨o, target, (find?_name_eq_some_iff hg.names).mpr ⟨ho, hname⟩,
        Resource.mem_relations.mpr ⟨b, hb, hfield, htype⟩⟩
    names := fun r hr => by
      have hfree : r.NamesFree := hg.namesFree hr
      refine List.nodup_append.mpr ⟨?_, List.nodup_singleton _, ?_⟩
      · exact Resource.nodup_fieldNames (distinct_of_resolve hdistinct h r hr) hfree
      · rintro name hname _ hsearch rfl
        rw [List.mem_singleton.mp hsearch] at hname
        exact Resource.search_notMem_fieldNames hfree hname }

/-- The declarations of a document make a registry or have a fault, and never both. The registry is made of
exactly the declared resources, and an error tells one of the faults. Whatever passes the check is resolved. -/
theorem resolves_exactly_well_formed {v : Value} (hv : v.Proper) (hds : declarations? v = .ok ds) :
    (∀ g, resolve ds = .ok g → g.MadeOf ds) ∧
      (∀ e, resolve ds = .error e → Fault ds e) ∧
      ((∃ g, resolve ds = .ok g) ↔ ∀ e, ¬ Fault ds e) ∧
      (check ds = .ok () → ∀ d ∈ ds, ∀ x ∈ d.2, ∃ a, resolveAttribute x.1 x.2 = .ok a) := by
  obtain ⟨hnames, hdistinct⟩ := names_of_document hv hds
  have herror : ∀ e, resolve ds = .error e → Fault ds e := by
    intro e h
    cases hc : check ds with
    | error e' =>
      rw [resolve, hc] at h
      cases h
      exact fault_of_check hnames hdistinct hc
    | ok _ =>
      obtain ⟨g, hg, -⟩ := resolve_of_check hnames hdistinct hc
      cases hg.symm.trans h
  refine ⟨fun g hg => madeOf_of_resolve hdistinct hg, herror, ⟨?_, fun hnone => ?_⟩, fun hc d hd x hx => ?_⟩
  · rintro ⟨g, hg⟩ e
    exact not_fault_of_check hnames hdistinct (resolve_ok hg).1
  · cases hg : resolve ds with
    | ok g => exact ⟨g, rfl⟩
    | error e => exact absurd (herror e hg) (hnone e)
  · obtain ⟨a, ha, -⟩ := resolveAttribute_of_check hnames hdistinct (checkRelation_of_check hc d hd x hx)
    exact ⟨a, ha⟩

/-- Groups and their members. -/
def membersDocument : String :=
  "\x7b\"group\": \x7b\"name\": \x7b\"unique\": true\x7d, \"members\": \x7b\"type\": \"children\", " ++
  "\"relation\": \"person\"\x7d\x7d, \"person\": \x7b\"name\": \x7b\x7d, \"group\": \x7b\"type\": " ++
  "\"parent\", \"relation\": \"group.members\"\x7d\x7d\x7d"

theorem resolves_exactly_well_formed_members : ∃ v ds g, Json.read? membersDocument = some v ∧ v.Proper ∧
    declarations? v = .ok ds ∧ ds.map (·.1) = ["group", "person"] ∧ resolve ds = .ok g ∧ g.MadeOf ds ∧
    ∀ e, ¬ Fault ds e := by
  have hread : (Json.read? membersDocument).map (fun v =>
      (declarations? v).toOption.map fun ds => (ds.map (·.1), (resolve ds).toOption.isSome)) =
      some (some (["group", "person"], true)) := by
    decide +kernel
  obtain ⟨v, hv, hdeclared⟩ := Option.map_eq_some_iff.mp hread
  cases hds : declarations? v with
  | error e =>
    rw [hds] at hdeclared
    cases hdeclared
  | ok ds =>
    rw [hds] at hdeclared
    obtain ⟨hnames, hresolved⟩ := Prod.ext_iff.mp (Option.some.inj hdeclared)
    obtain ⟨hmade, -, hiff, -⟩ := resolves_exactly_well_formed (Json.proper_of_read? hv) hds
    cases hg : resolve ds with
    | error e =>
      dsimp only at hresolved
      rw [hg] at hresolved
      cases hresolved
    | ok g =>
      exact ⟨v, ds, g, hv, Json.proper_of_read? hv, hds, hnames, hg, hmade g hg, hiff.mp ⟨g, hg⟩⟩

end Schema

end Hypermedia
