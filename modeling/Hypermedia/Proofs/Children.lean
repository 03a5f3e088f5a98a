import Hypermedia.Proofs.History
import Hypermedia.Proofs.Listing
import Hypermedia.Web.Server

/-!
# Children of a record

The listing of a record's children reads the collection of the children with the condition of the query,
less what the condition asks of the identity, plus that the attribute which points back holds the text
of the record's identity. So it selects what the plain listing selects for the query without identity,
as far as it belongs to the record.
-/

namespace Hypermedia

open Store (Document)
open Hypermedia.Filter (Condition Request Test Texts)

/-! ### Values that hold a text -/

/-- The value is the text, or an array with an item that holds it. -/
inductive Value.Has (text : String) : Value → Prop where
  | self : Has text (.string text)
  | item {xs : List Value} {x : Value} (mem : x ∈ xs) (has : Has text x) : Has text (.array xs)

theorem Value.has_string_iff {text s : String} : Value.Has text (.string s) ↔ s = text := by
  constructor
  · intro h
    cases h
    rfl
  · rintro rfl
    exact .self

theorem Value.has_array_iff {text : String} {xs : List Value} :
    Value.Has text (.array xs) ↔ ∃ x ∈ xs, Value.Has text x := by
  constructor
  · intro h
    cases h with
    | item mem has => exact ⟨_, mem, has⟩
  · rintro ⟨x, hx, hhas⟩
    exact .item hx hhas

mutual

theorem Filter.holds_text_iff (text : String) : (v : Value) →
    (Test.holds (.exact (.string text)) v = true ↔ v.Has text)
  | .array xs => by
    rw [Value.has_array_iff, ← Filter.holdsAny_text_iff text xs]
    rfl
  | .string s => by
    rw [Value.has_string_iff]
    simp [Test.holds, Test.holdsOf, Filter.equals, Value.same]
  | .null => ⟨(fun h => by cases h), (fun h => by cases h)⟩
  | .bool b => ⟨(fun h => by cases h), (fun h => by cases h)⟩
  | .number n => ⟨(fun h => by cases h), (fun h => by cases h)⟩
  | .object ms => ⟨(fun h => by cases h), (fun h => by cases h)⟩

theorem Filter.holdsAny_text_iff (text : String) : (xs : List Value) →
    (Test.holdsAny (.exact (.string text)) xs = true ↔ ∃ x ∈ xs, x.Has text)
  | [] => by simp [Test.holdsAny]
  | x :: xs => by
    simp only [Test.holdsAny, Bool.or_eq_true, List.exists_mem_cons_iff]
    rw [Filter.holds_text_iff text x, Filter.holdsAny_text_iff text xs]

end

instance (text : String) (v : Value) : Decidable (v.Has text) :=
  decidable_of_iff _ (Filter.holds_text_iff text v)

/-- The document holds the text in an attribute. -/
def Store.Document.Has (d : Document) (name text : String) : Prop :=
  ((Members.get? d name).getD .null).Has text

instance (d : Document) (name text : String) : Decidable (Document.Has d name text) :=
  inferInstanceAs (Decidable (Value.Has _ _))

/-! ### Lists and what points at them -/

/-- The records of `child` are listed in `field` of `owner`, and `p` is the attribute by which they are
found. -/
structure Registry.Inverse (g : Registry) (owner : Resource) (field : String) (child : Resource)
    (p : Attribute) : Prop where
  list : ∃ target, (owner.attribute? field).bind (·.type.relation?) = some (.children target) ∧
    g.get? target = some child
  pointer : child.parentAttribute? owner.name field = some p

section
variable {g : Registry} {owner child : Resource} {field : String} {p : Attribute}

theorem Registry.Inverse.mem_resources (h : g.Inverse owner field child p) : child ∈ g.resources := by
  obtain ⟨target, -, hchild⟩ := h.list
  exact List.mem_of_find?_eq_some hchild

theorem Registry.Inverse.mem_attributes (h : g.Inverse owner field child p) : p ∈ child.attributes :=
  List.mem_of_find?_eq_some h.pointer

theorem Registry.Inverse.mem_fieldNames (h : g.Inverse owner field child p) : p.name ∈ child.fieldNames := by
  have hm : p.name ∈ child.attributes.map (·.name) := List.mem_map_of_mem h.mem_attributes
  simp [Resource.fieldNames, Resource.allAttributes, hm]

theorem Registry.Inverse.mem_relations (h : g.Inverse owner field child p) :
    ∃ target, (field, .children target) ∈ owner.relations := by
  obtain ⟨target, hlist, -⟩ := h.list
  obtain ⟨a, ha, htype⟩ := Option.bind_eq_some_iff.mp hlist
  refine ⟨target, List.mem_filterMap.mpr ⟨a, List.mem_of_find?_eq_some ha, ?_⟩⟩
  have hname : a.name = field := by simpa using List.find?_some ha
  rw [htype, ← hname]
  rfl

theorem Registry.Inverse.type_eq (h : g.Inverse owner field child p) :
    p.type = .relation (.parent owner.name field) := by
  simpa using List.find?_some h.pointer

end

namespace Operation

/-- What the children of a record have to meet. -/
def childrenCondition (child : Resource) (p : Attribute) (id : String) (request : Request) : Condition :=
  Condition.set (Condition.remove (Filter.condition child request) idField) p.name (.exact (.string id))

/-- Only what lists children and is pointed back at is listed. -/
theorem inverse_of_answer {env : Program.Environment} {i : Interface} {owner : Resource} {id field : String}
    {request : Request} {w : Program.World} {page : Link.Page Document}
    (h : (Program.run env (listChildren i owner id field request).run w).1 = .ok page) :
    ∃ child p, i.registry.Inverse owner field child p := by
  unfold listChildren at h
  dsimp only at h
  split at h
  · rename_i target hlist
    split at h
    · cases h
    · rename_i child hchild
      split at h
      · cases h
      · rename_i p hpointer
        exact ⟨child, p, ⟨target, hlist, hchild⟩, hpointer⟩
  · cases h

section
variable {i : Interface} {owner child : Resource} {field : String} {p : Attribute}
variable (hinv : i.registry.Inverse owner field child p)

include hinv

theorem listChildren_eq (id : String) (request : Request) :
    listChildren i owner id field request =
      listWhere i child (childrenCondition child p id request) request
        (i.href owner.plural id ++ "/" ++ field) := by
  obtain ⟨target, hlist, hchild⟩ := hinv.list
  simp only [listChildren, hlist, hchild, hinv.pointer, childrenCondition]

variable (hg : i.registry.Consistent)
variable (hdistinct : (child.attributes.map (·.name)).Nodup)

include hg hdistinct

theorem childrenCondition_eq {id : String} {query : Texts} (hp : query.Silent p.name) :
    childrenCondition child p id ⟨none, [(idField, id)], query⟩ =
      Filter.condition child ⟨none, [], query.without idField⟩ ++ [(p.name, .exact (.string id))] := by
  have hnames : child.NamesFree := hg.namesFree hinv.mem_resources
  have hmem : p ∈ child.allAttributes := Resource.mem_allAttributes hinv.mem_attributes
  have hv : (⟨none, [], query.without idField⟩ : Request).value? p = none := by
    have hsilent : (⟨none, [], query.without idField⟩ : Request).option? p.name = none :=
      Texts.silent_without hp idField
    have hnil : Texts.get? [] p.name = none := rfl
    simp only [Request.value?, Option.bind_none, hnil, hsilent, Option.map_none]
  -- Nothing asks for the owner yet, so the predicate for it goes to the end.
  rw [childrenCondition, Filter.remove_id_condition hdistinct hnames]
  exact Filter.Condition.set_of_notMem (Filter.notMem_condition hdistinct hnames hmem hv) _

theorem selection_listChildren (s : Store) (id : String) {query : Texts} (hp : query.Silent p.name) :
    Service.selection s (listChildren i owner id field ⟨none, [(idField, id)], query⟩) =
      (Service.selection s (list i child ⟨none, [], query.without idField⟩)).map fun ds =>
        ds.filter fun d => Document.Has d p.name id := by
  rw [listChildren_eq hinv, selection_listWhere, childrenCondition_eq hinv hg hdistinct hp,
    Store.matching_append_exact, list, selection_listWhere]
  congr 1
  funext ds
  refine List.filter_congr fun d _ => ?_
  rw [Bool.eq_iff_iff, Filter.holds_text_iff, decide_eq_true_eq]
  rfl

end

/-- The listing of a record's children honours every filter but the one on the identity: it selects, of
what the plain listing selects for the same query without identity, the records that hold the identity
of their owner, and answers a page of that size. -/
theorem children_filtered {ds : List Schema.ResourceDeclaration} {i : Interface}
    (hdistinct : Schema.Distinct ds) (hresolve : Schema.resolve ds = .ok i.registry)
    {owner child : Resource} {field : String} {p : Attribute}
    (hinv : i.registry.Inverse owner field child p) (s : Store) (id : String) {query : Texts}
    (hp : query.Silent p.name) :
    Service.selection s (listChildren i owner id field ⟨none, Web.idPath id, query⟩) =
        (Service.selection s (list i child ⟨none, [], query.without idField⟩)).map (fun ds =>
          ds.filter fun d => Document.Has d p.name id) ∧
      (query.Silent idField →
        Service.selection s (listChildren i owner id field ⟨none, Web.idPath id, query⟩) =
          (Service.selection s (list i child ⟨none, [], query⟩)).map fun ds =>
            ds.filter fun d => Document.Has d p.name id) ∧
      ∀ (env : Program.Environment) (w : Program.World), env.Accepts → w.store = s → ∀ ds,
        Service.selection s (listChildren i owner id field ⟨none, Web.idPath id, query⟩) = .ok ds →
        ∃ page, (Program.run env
            (listChildren i owner id field ⟨none, Web.idPath id, query⟩).run w).1 = .ok page ∧
          page.size = ds.length := by
  have hg : i.registry.Consistent := Schema.consistent_of_resolve hresolve
  have hchild := Schema.distinct_of_resolve hdistinct hresolve child hinv.mem_resources
  have hselect := selection_listChildren hinv hg hchild s id hp
  refine ⟨hselect, fun hid => ?_, fun env w henv hw ds hds => ?_⟩
  · have hcondition := Filter.condition_without hchild (hg.namesFree hinv.mem_resources) hid
    refine hselect.trans ?_
    rw [list, list, selection_listWhere, selection_listWhere, hcondition]
  · subst hw
    rw [listChildren_eq hinv] at hds ⊢
    exact page_of_selection henv hds

/-! ### A group of two -/

/-- Ann and Bob join a group, and Cat joins none. -/
def staffed : History :=
  [Groups.newGroup "Ops",
    ⟨Groups.refusing none, Groups.person,
      .createItem (Groups.values [("name", .string "Ann"), ("group", .string "ops")])⟩,
    ⟨Groups.refusing none, Groups.person,
      .createItem (Groups.values [("name", .string "Bob"), ("group", .string "ops")])⟩,
    ⟨Groups.refusing none, Groups.person, .createItem (Groups.values [("name", .string "Cat")])⟩]

def groupAttribute : Attribute := { name := "group", type := .relation (.parent "group" "members") }

theorem inverse_members :
    Groups.interface.registry.Inverse Groups.group "members" Groups.person groupAttribute :=
  ⟨⟨"person", rfl, rfl⟩, rfl⟩

/-- The identities of a selection. -/
def ids (selected : Except Store.Error (List Document)) : List (Option String) :=
  (selected.toOption.getD []).map Document.id?

theorem children_filtered_groups :
    Groups.interface.registry.Inverse Groups.group "members" Groups.person groupAttribute ∧
      Texts.Silent [("name", "Bob")] groupAttribute.name ∧ Texts.Silent [("name", "Bob")] idField ∧
      Service.selection (staffed.after Groups.interface Store.empty)
          (listChildren Groups.interface Groups.group "ops" "members"
            ⟨none, Web.idPath "ops", [("name", "Bob")]⟩) =
        (Service.selection (staffed.after Groups.interface Store.empty)
          (list Groups.interface Groups.person ⟨none, [], [("name", "Bob")]⟩)).map (fun ds =>
            ds.filter fun d => Document.Has d "group" "ops") ∧
      ids (Service.selection (staffed.after Groups.interface Store.empty)
        (listChildren Groups.interface Groups.group "ops" "members"
          ⟨none, Web.idPath "ops", [("name", "Bob")]⟩)) = [some "bob"] := by
  have hp : Texts.Silent [("name", "Bob")] groupAttribute.name := by unfold Texts.Silent; rfl
  have hid : Texts.Silent [("name", "Bob")] idField := by unfold Texts.Silent; rfl
  obtain ⟨-, hselect, -⟩ := children_filtered Groups.distinct_declarations Groups.resolve_declarations
    inverse_members (staffed.after Groups.interface Store.empty) "ops" hp
  exact ⟨inverse_members, hp, hid, hselect hid, by decide +kernel⟩

/-- Among the children of a record the filter on the identity is lost. -/
theorem children_ignore_id_filter :
    ids (Service.selection (staffed.after Groups.interface Store.empty)
        (listChildren Groups.interface Groups.group "ops" "members"
          ⟨none, Web.idPath "ops", [("id", "ann")]⟩)) = [some "ann", some "bob"] ∧
      ids ((Service.selection (staffed.after Groups.interface Store.empty)
        (list Groups.interface Groups.person ⟨none, [], [("id", "ann")]⟩)).map fun ds =>
          ds.filter fun d => Document.Has d "group" "ops") = [some "ann"] := by
  decide +kernel

end Operation

end Hypermedia
