import Hypermedia.Proofs.Emission
import Hypermedia.Proofs.Origin
import Hypermedia.Schema.Description

/-!
# The names of shown records

To show a record changes the values of its relations and leaves their names in place. A stored record has
the names of its resource and the searchable text, which no answer shows. So a record that is shown whole
has the names that the description of its resource publishes, and so has a record that stands in the place
of a reference.
-/

namespace Hypermedia

open Program (Environment World run)
open Store (Document)

/-! ### Names of stored records -/

theorem Resource.relation_mem_fieldNames (r : Resource) {x : String × Relation} (hx : x ∈ r.relations) :
    x.1 ∈ r.fieldNames := by
  obtain ⟨a, ha, hname⟩ := List.mem_map.mp (r.relations_sublist.subset (List.mem_map_of_mem hx))
  exact List.mem_map.mpr ⟨a, mem_allAttributes ha, hname⟩

namespace Store.Document

variable {r : Resource} {d : Document}

theorem keys_materialize (d : Document) :
    Members.keys (materialize d) = (Members.keys d).filter (· ≠ searchField) := by
  simp only [materialize, Members.erase, Members.keys, List.map_map, List.filter_map, Function.comp_def]

theorem Fits.keys_eq (h : Fits r d) : Members.keys d = r.fieldNames ++ [searchField] := by
  rw [h.keys]
  simp [Resource.fieldNames, Resource.allAttributes]

/-- Without the searchable text, a stored record has the names of its resource. -/
theorem Fits.keys_materialize (hnames : r.NamesFree) (h : Fits r d) :
    Members.keys (materialize d) = r.fieldNames := by
  have hkept : ∀ name ∈ r.fieldNames, decide (name ≠ searchField) = true := by
    intro name hname
    rw [decide_eq_true_eq]
    rintro rfl
    exact Resource.search_notMem_fieldNames hnames hname
  rw [Document.keys_materialize, h.keys_eq, List.filter_append, List.filter_eq_self.mpr hkept]
  simp

theorem Fits.keys_project (hnames : r.NamesFree) (h : Fits r d) :
    Members.keys (project d (some r.fieldNames)) = r.fieldNames := by
  have hkept : ∀ name ∈ r.fieldNames, r.fieldNames.contains name = true :=
    fun name hname => List.contains_iff_mem.mpr hname
  have hdropped : r.fieldNames.contains searchField = false := by
    simpa using Resource.search_notMem_fieldNames hnames
  rw [project, Members.keys_restrict, h.keys_eq, List.filter_append, List.filter_eq_self.mpr hkept,
    List.filter_cons, if_neg (by rw [hdropped]; exact Bool.false_ne_true), List.filter_nil, List.append_nil]

end Store.Document

/-! ### Names of shown records -/

namespace Link

variable {s : Store} {p : Place} {r : Resource} {collection id : String} {d : Document}
variable {expands : List String} {fields : Option (List String)}

/-- The field is there, or it is not among those that may be shown. -/
def Placed (fields : Option (List String)) (d : Document) (field : String) : Prop :=
  field ∈ Members.keys d ∨ fields.all (·.contains field) = false

theorem Placed.linkField_eq {index : Nat} {field : String} (relation : Relation)
    (h : Placed fields d field) (habsent : field ∉ Members.keys d) :
    linkField p collection id expands fields index d field relation = (d, none) :=
  linkField_absent ((Members.get?_eq_none_iff d field).mpr habsent) (.inr (h.resolve_left habsent))

theorem keys_linkField {index : Nat} {field : String} (relation : Relation) (h : Placed fields d field) :
    Members.keys (linkField p collection id expands fields index d field relation).1 = Members.keys d := by
  by_cases hm : field ∈ Members.keys d
  · unfold linkField
    repeat' split
    all_goals first | rfl | exact Members.keys_set_of_mem _ hm
  · rw [h.linkField_eq relation hm]

theorem keys_linkFields {index : Nat} {relations : List (String × Relation)}
    (h : ∀ x ∈ relations, Placed fields d x.1) :
    Members.keys (linkFields p collection id expands fields index relations d).1 = Members.keys d := by
  induction relations generalizing d with
  | nil => rfl
  | cons x relations ih =>
    obtain ⟨field, relation⟩ := x
    have hfirst : Members.keys (linkField p collection id expands fields index d field relation).1 =
        Members.keys d := keys_linkField relation (h _ (List.mem_cons_self ..))
    simp only [linkFields]
    refine (ih fun x hx => ?_).trans hfirst
    rw [Placed, hfirst]
    exact h x (List.mem_cons_of_mem _ hx)

/-- A record is shown under the names that it has. -/
theorem keys_shown (hn : (r.relations.map (·.1)).Nodup)
    (h : ∀ x ∈ r.relations, Placed fields (Document.materialize d) x.1) :
    Members.keys (shown s p r collection expands fields d) = Members.keys (Document.materialize d) := by
  have hlinked : Members.keys (linkRecord p r collection expands fields 0 (Document.materialize d)).1 =
      Members.keys (Document.materialize d) := keys_linkFields h
  rw [shown_eq_merge hn, Members.keys_merge, hlinked]
  intro name hm
  obtain ⟨⟨name, v⟩, hv, rfl⟩ := List.mem_map.mp hm
  obtain ⟨x, hx, hexpanded⟩ := List.mem_filterMap.mp hv
  obtain ⟨v, hv, hpair⟩ := Option.map_eq_some_iff.mp hexpanded
  cases hpair
  rw [hlinked]
  -- A field that is not there is not expanded.
  by_contra habsent
  rw [linkAlone, (h x hx).linkField_eq x.2 habsent] at hv
  cases hv

end Link

/-! ### Descriptions -/

/-- The properties of a description. -/
def Schema.properties? (description : Value) : Option Members :=
  description.members?.bind fun ms => (Members.get? ms "properties").bind Value.members?

/-- The members have the names that the description of the resource publishes, each once. -/
structure Resource.Published (r : Resource) (base : String) (ms : Members) : Prop where
  names : Members.keys ms = r.fieldNames
  described : (Schema.properties? (Schema.describe base r)).map Members.keys = some (Members.keys ms)
  nodup : (Members.keys ms).Nodup
  search : searchField ∉ Members.keys ms

theorem Resource.published_of_names {r : Resource} (hdistinct : (r.attributes.map (·.name)).Nodup)
    (hnames : r.NamesFree) (base : String) {ms : Members} (h : Members.keys ms = r.fieldNames) :
    r.Published base ms where
  names := h
  described := by
    have hproperties : Schema.properties? (Schema.describe base r) =
        some (r.allAttributes.map fun a => (a.name, Schema.propertyOf a)) := rfl
    rw [hproperties, h, Option.map_some, Members.keys, List.map_map]
    rfl
  nodup := h ▸ Resource.nodup_fieldNames hdistinct hnames
  search := h ▸ Resource.search_notMem_fieldNames hnames

/-! ### Records of answers -/

namespace Operation

/-- The record `out`, which shows the stored record `d` whole, has the published names. So has every record that
was asked for in the place of a reference and is there; any other reference is a link. -/
structure ShowsPublished (i : Interface) (s : Store) (r : Resource) (expands : List String)
    (d out : Document) : Prop where
  own : r.Published i.settings.basePath out
  expanded : ∀ name relation v target found, (name, relation) ∈ r.relations → relation.isChildren = false →
    Members.get? (Document.materialize d) name = some v → v ≠ .null → name ∈ expands →
    i.registry.get? relation.target = some target → s.called target.name v.plainText = some found →
      ∃ inner, Members.get? out name = some (.object inner) ∧ target.Published i.settings.basePath inner
  references : ∀ name relation, (name, relation) ∈ r.relations → relation.isChildren = false →
    ∃ target inner, i.registry.get? relation.target = some target ∧
      Members.get? out name = some (.object inner) ∧
      (IsReference i target inner ∨ target.Published i.settings.basePath inner)

section
variable {ds : List Schema.ResourceDeclaration} {i : Interface} {s : Store} {r : Resource}
variable {d : Document} {expands : List String}
variable (hresolve : Schema.resolve ds = .ok i.registry) (hdistinct : Schema.Distinct ds)
variable (hs : s.Intact i.registry) (hr : r ∈ i.registry.resources) (hd : d ∈ s.documents r.name)

include hresolve hdistinct hs hr hd

/-- A record in the place of a reference has the published names. -/
theorem published_linked : r.Published i.settings.basePath (Link.linked (place i) r r.plural
    (Document.materialize (Document.project d (some r.fieldNames)))) := by
  have hnames : r.NamesFree := (Schema.consistent_of_resolve hresolve).namesFree hr
  have hkeys : Members.keys (Document.materialize (Document.project d (some r.fieldNames))) = r.fieldNames := by
    rw [Document.keys_materialize, (hs.forms r hr d hd).keys_project hnames, List.filter_eq_self]
    intro name hname
    rw [decide_eq_true_eq]
    rintro rfl
    exact Resource.search_notMem_fieldNames hnames hname
  refine Resource.published_of_names (Schema.distinct_of_resolve hdistinct hresolve r hr) hnames _ ?_
  refine (Link.keys_linkFields fun x hx => .inl ?_).trans hkeys
  rw [hkeys]
  exact r.relation_mem_fieldNames hx

omit hdistinct in
theorem keys_materialize_stored : Members.keys (Document.materialize d) = r.fieldNames :=
  (hs.forms r hr d hd).keys_materialize ((Schema.consistent_of_resolve hresolve).namesFree hr)

omit hdistinct in
theorem relation_mem_stored : ∀ x ∈ r.relations, x.1 ∈ Members.keys (Document.materialize d) := by
  intro x hx
  rw [keys_materialize_stored hresolve hs hr hd]
  exact r.relation_mem_fieldNames hx

theorem published_shown :
    r.Published i.settings.basePath (Link.shown s (place i) r r.plural expands none d) := by
  have hn : (r.relations.map (·.1)).Nodup := (Link.shows_of_resolve hresolve hdistinct hr).names
  refine Resource.published_of_names (Schema.distinct_of_resolve hdistinct hresolve r hr)
    ((Schema.consistent_of_resolve hresolve).namesFree hr) _ ?_
  refine (Link.keys_shown hn fun x hx => .inl ?_).trans (keys_materialize_stored hresolve hs hr hd)
  exact relation_mem_stored hresolve hs hr hd x hx

omit hd in
theorem published_expanded {name : String} {relation : Relation} {v : Value} {target : Resource}
    {found : Document} (hx : (name, relation) ∈ r.relations) (hc : relation.isChildren = false)
    (hv : Members.get? (Document.materialize d) name = some v) (hnull : v ≠ .null) (hname : name ∈ expands)
    (ht : i.registry.get? relation.target = some target) (hfound : s.called target.name v.plainText = some found) :
    ∃ inner, Members.get? (Link.shown s (place i) r r.plural expands none d) name = some (.object inner) ∧
      target.Published i.settings.basePath inner := by
  have hn : (r.relations.map (·.1)).Nodup := (Link.shows_of_resolve hresolve hdistinct hr).names
  refine ⟨_, ?_, published_linked hresolve hdistinct hs (List.mem_of_find?_eq_some ht)
    (Store.mem_of_called hfound)⟩
  rw [Link.get?_shown_of_expanded hn hx hv hc ht hnull hname, Link.expanded, hfound]

theorem reference_or_published {name : String} {relation : Relation} (hx : (name, relation) ∈ r.relations)
    (hc : relation.isChildren = false) :
    ∃ target inner, i.registry.get? relation.target = some target ∧
      Members.get? (Link.shown s (place i) r r.plural expands none d) name = some (.object inner) ∧
      (IsReference i target inner ∨ target.Published i.settings.basePath inner) := by
  have hshows : ∀ target ∈ (place i).registry.resources, Link.Shows (place i).registry target :=
    fun target ht => Link.shows_of_resolve hresolve hdistinct ht
  have hresolved : Link.Resolved s (place i) r r.plural expands none (Document.materialize d)
      (Link.shown s (place i) r r.plural expands none d) := Link.resolved_of_shows (hshows r hr) hshows d
  obtain ⟨target, ht⟩ := (hshows r hr).targets name relation hx
  obtain ⟨v, hv⟩ := Option.isSome_iff_exists.mp ((Members.get?_isSome_iff _ name).mpr
    (relation_mem_stored hresolve hs hr hd _ hx))
  by_cases hlinked : v = .null ∨ name ∉ expands
  · obtain ⟨target, href, ht, hlink, hnull, hhref⟩ := hresolved.links name relation v hx hc hv hlinked
    refine ⟨target, _, ht, hlink, .inl ⟨href, v, rfl, ?_⟩⟩
    by_cases hv : v = .null
    · exact .inl (hnull.mpr hv)
    · exact .inr (hhref hv)
  · obtain ⟨hnull, hname⟩ := not_or.mp hlinked
    cases hfound : s.called target.name v.plainText with
    | some found =>
      obtain ⟨inner, hinner, hpublished⟩ :=
        published_expanded hresolve hdistinct hs hr hx hc hv hnull (not_not.mp hname) ht hfound
      exact ⟨target, inner, ht, hinner, .inr hpublished⟩
    | none =>
      -- What is to be expanded and not there is a link too.
      obtain ⟨t, ht', -, hmissing⟩ := hresolved.expansions name relation v hx hc hv hnull (not_not.mp hname)
      obtain rfl : t = target := Option.some.inj (ht'.symm.trans ht)
      exact ⟨t, _, ht, hmissing hfound, .inl ⟨_, _, rfl, .inr rfl⟩⟩

theorem showsPublished_shown : ShowsPublished i s r expands d
    (Link.shown s (place i) r r.plural expands none d) where
  own := published_shown hresolve hdistinct hs hr hd
  expanded _ _ _ _ _ hx hc hv hnull hname ht hfound :=
    published_expanded hresolve hdistinct hs hr hx hc hv hnull hname ht hfound
  references _ _ hx hc := reference_or_published hresolve hdistinct hs hr hd hx hc

end

/-- The record `out` of an answer from a store shows a record of the store whole, under the published names. -/
def ShownPublished (i : Interface) (s : Store) (r : Resource) (expands : List String) (out : Document) : Prop :=
  ∃ d ∈ s.documents r.name, Document.id? out = Document.id? d ∧ ShowsPublished i s r expands d out

section
variable {ds : List Schema.ResourceDeclaration} {i : Interface} {s : Store} {r : Resource}
variable {request : Filter.Request} {env : Environment} {w : World}
variable (hresolve : Schema.resolve ds = .ok i.registry) (hdistinct : Schema.Distinct ds)
variable (hs : s.Intact i.registry) (hr : r ∈ i.registry.resources)
variable (hwhole : projection request = none)

include hresolve hdistinct hs hr

theorem id?_shown {d : Document} (hd : d ∈ s.documents r.name) (expands : List String) :
    Document.id? (Link.shown s (place i) r r.plural expands none d) = Document.id? d := by
  have hfree : idField ∉ r.relations.map (·.1) := by
    intro hm
    obtain ⟨a, ha, hname⟩ := List.mem_map.mp (r.relations_sublist.subset hm)
    exact ((Schema.consistent_of_resolve hresolve).namesFree hr).ne ha (by decide) hname
  obtain ⟨id, hid, -⟩ := (hs.forms r hr d hd).identity
  rw [hid, Document.id?, Link.get?_shown_of_other (Link.shows_of_resolve hresolve hdistinct hr).names hfree]
  exact Document.id?_materialize hid

theorem shownPublished_shown {d : Document} (hd : d ∈ s.documents r.name) (expands : List String) :
    ShownPublished i s r expands (Link.shown s (place i) r r.plural expands none d) :=
  ⟨d, hd, id?_shown hresolve hdistinct hs hr hd expands,
    showsPublished_shown hresolve hdistinct hs hr hd⟩

include hwhole

theorem shownPublished_of_mem {c : Filter.Condition} {base : String} {page : Link.Page Document}
    (hw : w.store = s) (h : (run env (listWhere i r c request base).run w).1 = .ok page) {out : Document}
    (hout : out ∈ page.items) : ShownPublished i s r (expansions request) out := by
  subst hw
  obtain ⟨d, hd, rfl⟩ := shown_of_mem h hout
  rw [hwhole]
  exact shownPublished_shown hresolve hdistinct hs hr hd _

end

/-- In every store that a history reaches, the description of a resource publishes the names of every whole
record that a listing, a listing of children or a read answers, and of every record that is expanded in the
place of a reference. -/
theorem answers_have_published_names {ds : List Schema.ResourceDeclaration} {i : Interface} {h : History}
    (hdistinct : Schema.Distinct ds) (hresolve : Schema.resolve ds = .ok i.registry)
    (hon : h.On i.registry) {request : Filter.Request} (hwhole : projection request = none)
    {env : Environment} {w : World} (hw : w.store = h.after i Store.empty) :
    (∀ r ∈ i.registry.resources, ∀ page, (run env (list i r request).run w).1 = .ok page →
        ∀ out ∈ page.items, ShownPublished i w.store r (expansions request) out) ∧
      (∀ owner id field page, (run env (listChildren i owner id field request).run w).1 = .ok page →
        ∃ child p, i.registry.Inverse owner field child p ∧
          ∀ out ∈ page.items, ShownPublished i w.store child (expansions request) out) ∧
      ∀ r ∈ i.registry.resources, ∀ id out, (run env (read i r id request).run w).1 = .ok out →
        Document.id? out = some id ∧ ShownPublished i w.store r (expansions request) out := by
  have hs : w.store.Intact i.registry :=
    hw ▸ History.intact (Schema.consistent_of_resolve hresolve) (Schema.distinct_of_resolve hdistinct hresolve) hon
  refine ⟨fun r hr page hpage out hout => ?_, fun owner id field page hpage => ?_, fun r hr id out hout => ?_⟩
  · exact shownPublished_of_mem hresolve hdistinct hs hr hwhole rfl hpage hout
  · obtain ⟨child, p, hinv⟩ := inverse_of_answer hpage
    rw [listChildren_eq hinv] at hpage
    exact ⟨child, p, hinv, fun out hout =>
      shownPublished_of_mem hresolve hdistinct hs hinv.mem_resources hwhole rfl hpage hout⟩
  · have hend : Service.Ends env w.store (read i r id request) _ _ := ends_read
    have hread := hend w rfl
    rw [hout] at hread
    obtain ⟨d, hd, rfl⟩ := hread
    have hmem : d ∈ w.store.documents r.name := Store.mem_of_called hd
    rw [hwhole]
    obtain ⟨own, hown, -⟩ := (hs.forms r hr d hmem).identity
    have hid : Document.id? d = some id :=
      Document.id?_eq_of_isFoundBy (Store.isFoundBy_of_called hd) (by rw [hown]; rfl)
    exact ⟨(id?_shown hresolve hdistinct hs hr hmem _).trans hid,
      shownPublished_shown hresolve hdistinct hs hr hmem _⟩

/-- A person is asked for with the group in the place of the reference to it. -/
def withGroup : Filter.Request := ⟨none, [], [("expands", "group")]⟩

theorem answers_have_published_names_groups :
    Schema.Distinct Groups.declarations ∧
      Schema.resolve Groups.declarations = .ok Groups.interface.registry ∧
      staffed.On Groups.interface.registry ∧ projection withGroup = none ∧
      ∃ out inner, (run (Groups.refusing none) (read Groups.interface Groups.person "ann" withGroup).run
          { store := staffed.after Groups.interface Store.empty }).1 = .ok out ∧
        Members.keys out = ["id", "name", "group", "boss", "staff", "createdAt", "updatedAt"] ∧
        Members.get? out "group" = some (.object inner) ∧
        Members.keys inner = ["id", "name", "members", "createdAt", "updatedAt"] := by
  have hon : staffed.On Groups.interface.registry := by
    simp [History.On, staffed, Groups.newGroup, Groups.interface]
  have hwhole : projection withGroup = none := by decide +kernel
  have hr : Groups.person ∈ Groups.interface.registry.resources := by simp [Groups.interface]
  have hreads : (run (Groups.refusing none) (read Groups.interface Groups.person "ann" withGroup).run
      { store := staffed.after Groups.interface Store.empty }).1.toOption.isSome = true := by decide +kernel
  have hmember : ∀ d ∈ (staffed.after Groups.interface Store.empty).documents "person",
      Document.id? d = some "ann" →
        (Members.get? (Document.materialize d) "group").bind Value.string? = some "ops" := by decide +kernel
  have hgroup : ((staffed.after Groups.interface Store.empty).called "group" "ops").isSome = true := by
    decide +kernel
  cases hout : (run (Groups.refusing none) (read Groups.interface Groups.person "ann" withGroup).run
      { store := staffed.after Groups.interface Store.empty }).1 with
  | error e =>
    rw [hout] at hreads
    cases hreads
  | ok out =>
    obtain ⟨hid, d, hd, hsame, hshown⟩ :=
      (answers_have_published_names Groups.distinct_declarations Groups.resolve_declarations hon hwhole
        (w := { store := staffed.after Groups.interface Store.empty }) rfl).2.2 _ hr "ann" out hout
    obtain ⟨v, hv, htext⟩ := Option.bind_eq_some_iff.mp (hmember d hd (hsame.symm.trans hid))
    obtain ⟨found, hfound⟩ := Option.isSome_iff_exists.mp hgroup
    obtain rfl : v = .string "ops" := by
      cases v <;> cases htext
      rfl
    obtain ⟨inner, hinner, hnames⟩ := hshown.expanded "group" (.parent "group" "members") (.string "ops")
      Groups.group found (by decide) rfl hv (by simp) (by decide +kernel) rfl hfound
    exact ⟨Groups.distinct_declarations, Groups.resolve_declarations, hon, hwhole, out, inner, rfl,
      hshown.own.names, hinner, hnames.names⟩

end Operation

end Hypermedia
