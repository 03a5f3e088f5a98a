import Hypermedia.Proofs.FieldNames
import Hypermedia.Proofs.Joining

/-!
# Records with the fields asked for

The fields that a request asks for are picked from the stored records, before any link is made of a field.
A link is made of its own field and of the identity alone, and the identity is always picked. So the record
that is shown has, of the record shown whole, the fields asked for and the identity, each with its value.
-/

namespace Hypermedia

open Program (Environment World run)
open Store (Document)
open Hypermedia.Filter (Request Texts Window)

/-! ### Requests for fields -/

/-- The same request, for these fields. -/
def Filter.Request.showing (request : Request) (names : List String) : Request :=
  { request with query := ("fields", ",".intercalate names) :: request.query.without "fields" }

/-- Names that can be told apart in a text that puts commas between them. -/
structure Filter.Separable (names : List String) : Prop where
  nonempty : names ≠ []
  full : ∀ name ∈ names, name ≠ ""
  whole : ∀ name ∈ names, ',' ∉ name.toList
  trimmed : ∀ name ∈ names, Text.trim name = name

namespace Filter

variable {request : Request} {fields : List String}

theorem Separable.names_intercalate (h : Separable fields) : names (",".intercalate fields) = fields := by
  have hpieces : Text.splitChars ',' (",".intercalate fields).toList = fields.map String.toList := by
    have hjoined : (",".intercalate fields).toList = [','].intercalate (fields.map String.toList) :=
      String.toList_intercalate
    rw [hjoined, Text.splitChars_intercalate ',' (by simpa using h.nonempty)]
    refine Text.flatMap_splitChars_of_notMem fun piece hpiece => ?_
    obtain ⟨name, hname, rfl⟩ := List.mem_map.mp hpiece
    exact h.whole name hname
  rw [names, hpieces, List.map_map, List.filterMap_map]
  refine (List.filterMap_congr fun name hname => ?_).trans List.filterMap_some
  have htrimmed : String.ofList (Text.trimChars name.toList) = name := h.trimmed name hname
  have hfull : ¬ (Text.trimChars name.toList).isEmpty = true := by
    intro hempty
    rw [List.isEmpty_iff.mp hempty] at htrimmed
    exact h.full name hname htrimmed.symm
  rw [Function.comp_apply, Function.comp_apply, if_neg hfull, htrimmed]

theorem Request.get?_showing {name : String} (h : name ≠ "fields") :
    (request.showing fields).query.get? name = request.query.get? name := by
  rw [← show (request.query.without "fields").get? name = _ from
    (Texts.get?_without ..).trans (if_neg h)]
  simp [Request.showing, Texts.get?, Ne.symm h]

theorem Request.option?_showing {name : String} (h : name ≠ "fields") :
    (request.showing fields).option? name = request.option? name := by
  rw [Request.option?, get?_showing h]
  rfl

theorem Window.ofQuery_showing (defaultLimit : Nat) :
    Window.ofQuery (request.showing fields).query defaultLimit = Window.ofQuery request.query defaultLimit := by
  simp only [Window.ofQuery, Request.get?_showing (show "limit" ≠ "fields" by decide),
    Request.get?_showing (show "offset" ≠ "fields" by decide)]

/-- The fields take no part in the selection where no attribute has their name. -/
theorem condition_showing {r : Resource} (h : ∀ a ∈ r.attributes, a.name ≠ "fields") :
    condition r (request.showing fields) = condition r request :=
  condition_of_others ["fields"] rfl rfl
    (fun _ hname => Request.option?_showing (List.ne_of_not_mem_cons hname)) (by decide)
    fun a ha => by simpa using h a ha

end Filter

/-! ### Shown records -/

namespace Store.Document

theorem materialize_project (d : Document) (fields : List String) :
    materialize (project d (some fields)) = Members.restrict (materialize d) fields := by
  simp only [materialize, project, Members.restrict, Members.erase, List.filter_map, List.filter_filter,
    Function.comp_def, Bool.and_comm]

end Store.Document

namespace Link

variable {s : Store} {p : Place} {r : Resource} {collection : String} {expands fields : List String}
variable {d : Document}

theorem recordId_restrict (hid : idField ∈ fields) : recordId (Members.restrict d fields) = recordId d := by
  rw [recordId, Members.get?_restrict d hid, recordId]

/-- A field that is there and picked is linked as it would be in the whole record. -/
theorem linkAlone_restrict (p : Place) (collection : String) (expands : List String) (hid : idField ∈ fields)
    {x : String × Relation} (hpicked : x.1 ∈ fields) (hthere : x.1 ∈ Members.keys d) :
    (linkAlone p collection expands (some fields) (Members.restrict d fields) x).2 =
        (linkAlone p collection expands none d x).2 ∧
      Members.get? (linkAlone p collection expands (some fields) (Members.restrict d fields) x).1 x.1 =
        Members.get? (linkAlone p collection expands none d x).1 x.1 := by
  obtain ⟨v, hv⟩ := Option.isSome_iff_exists.mp ((Members.get?_isSome_iff d x.1).mpr hthere)
  have hfield : Members.get? (Members.restrict d fields) x.1 = Members.get? d x.1 :=
    Members.get?_restrict d hpicked
  have hwhole : linkAlone p collection expands none d x =
      linkField p collection (recordId d) expands (some fields) 0 d x.1 x.2 := by
    rw [linkAlone, linkField, linkField, referenced?_of_some hv, referenced?_of_some hv]
  rw [hwhole, linkAlone, recordId_restrict hid]
  exact linkField_congr x.2 hfield

/-- To pick fields of a record that has all its relations and to show what is left, is to show the record and
to pick the fields then. -/
theorem shown_project (hn : (r.relations.map (·.1)).Nodup) (hd : (Members.keys d).Nodup)
    (hthere : ∀ x ∈ r.relations, x.1 ∈ Members.keys (Document.materialize d)) (hid : idField ∈ fields) :
    shown s p r collection expands (some fields) (Document.project d (some fields)) =
      Members.restrict (shown s p r collection expands none d) fields := by
  -- Both have the names that are picked, in the order of the record; so they are compared name by name.
  have hwhole : Members.keys (shown s p r collection expands none d) =
      Members.keys (Document.materialize d) := keys_shown hn fun x hx => .inl (hthere x hx)
  have hpicked : Members.keys (shown s p r collection expands (some fields)
      (Document.project d (some fields))) =
        Members.keys (Document.materialize (Document.project d (some fields))) := by
    refine keys_shown hn fun x hx => ?_
    by_cases hm : x.1 ∈ fields
    · refine .inl ?_
      rw [Document.materialize_project, Members.keys_restrict]
      exact List.mem_filter.mpr ⟨hthere x hx, List.contains_iff_mem.mpr hm⟩
    · exact .inr (by simpa using hm)
  refine Members.eq_of_get? ?_ ?_ fun name hname => ?_
  · rw [hpicked, Document.materialize_project, Members.keys_restrict, Members.keys_restrict, hwhole]
  · rw [Members.keys_restrict, hwhole, Document.keys_materialize]
    exact (hd.filter _).filter _
  · have hname : name ∈ fields := by
      rw [Members.keys_restrict] at hname
      exact List.contains_iff_mem.mp (List.mem_filter.mp hname).2
    rw [Members.get?_restrict _ hname]
    by_cases hr : name ∈ r.relations.map (·.1)
    · obtain ⟨x, hx, rfl⟩ := List.mem_map.mp hr
      obtain ⟨hexpansion, hvalue⟩ := linkAlone_restrict p collection expands hid hname (hthere x hx)
      rw [get?_shown_of_relation hn hx, get?_shown_of_relation hn hx, Document.materialize_project,
        hexpansion, hvalue]
    · rw [get?_shown_of_other hn hr, get?_shown_of_other hn hr, Document.materialize_project,
        Members.get?_restrict _ hname]

end Link

/-- A page whose records have no other fields than these. -/
def Link.Page.restricted (page : Link.Page Document) (fields : List String) : Link.Page Document :=
  { page with items := page.items.map (Members.restrict · fields) }

/-- Whenever one service answers from a store, another answers from it what a function makes of that answer,
unless a call of it is refused. -/
def Service.Mirrors {α : Type} (s : Store) (x y : Service α) (f : α → α) : Prop :=
  ∀ (env : Environment) (w : World) (a : α), w.store = s → (run env x.run w).1 = .ok a →
    ∀ (env' : Environment) (w' : World), env'.Accepts → w'.store = s → (run env' y.run w').1 = .ok (f a)

namespace Operation

/-! ### Answers -/

section
variable {request : Request} {fields : List String}

/-- The fields that are shown where some are asked for. -/
def picked (fields : List String) : List String := if fields.contains idField then fields else idField :: fields

theorem mem_picked {name : String} : name ∈ picked fields ↔ name ∈ idField :: fields := by
  unfold picked
  split
  · rename_i hid
    refine ⟨List.mem_cons_of_mem _, fun hname => ?_⟩
    rcases List.mem_cons.mp hname with rfl | hname
    · exact List.contains_iff_mem.mp hid
    · exact hname
  · exact Iff.rfl

theorem restrict_picked (ms : Members) :
    Members.restrict ms (picked fields) = Members.restrict ms (idField :: fields) := by
  refine List.filter_congr fun m _ => ?_
  rw [Bool.eq_iff_iff, List.contains_iff_mem, List.contains_iff_mem]
  exact mem_picked

theorem projection_showing (h : Filter.Separable fields) :
    projection (request.showing fields) = some (picked fields) := by
  have hsome : ",".intercalate fields ≠ "" := by
    intro hempty
    have hnone : Filter.names (",".intercalate fields) = [] := by
      rw [hempty]
      rfl
    exact h.nonempty (h.names_intercalate.symm.trans hnone)
  have hoption : (request.showing fields).option? "fields" = some (",".intercalate fields) := by
    simp [Request.option?, Request.showing, Texts.get?, hsome]
  rw [projection, hoption, Option.elim_some, h.names_intercalate]
  cases fields with
  | nil => exact absurd rfl h.nonempty
  | cons name rest => rfl

theorem expansions_showing : expansions (request.showing fields) = expansions request := by
  rw [expansions, Request.option?_showing (by decide), expansions]

end

section
variable {ds : List Schema.ResourceDeclaration} {i : Interface} {s : Store} {r : Resource}
variable {request : Request} {fields : List String}
variable (hresolve : Schema.resolve ds = .ok i.registry) (hdistinct : Schema.Distinct ds)
variable (hs : s.Intact i.registry) (hr : r ∈ i.registry.resources)
variable (hwhole : projection request = none) (hfields : Filter.Separable fields)

include hresolve hdistinct hs hr

theorem shown_picked {d : Document} (hd : d ∈ s.documents r.name) (expands : List String) :
    Link.shown s (place i) r r.plural expands (some (picked fields))
        (Document.project d (some (picked fields))) =
      Members.restrict (Link.shown s (place i) r r.plural expands none d) (idField :: fields) := by
  have hnames : r.NamesFree := (Schema.consistent_of_resolve hresolve).namesFree hr
  rw [← restrict_picked]
  exact Link.shown_project (Link.shows_of_resolve hresolve hdistinct hr).names
    ((hs.forms r hr d hd).nodup_keys (Schema.distinct_of_resolve hdistinct hresolve r hr) hnames)
    (relation_mem_stored hresolve hs hr hd) (mem_picked.mpr (List.mem_cons_self ..))

include hwhole hfields

theorem restricted_pageOf {found : List Document} (hfound : ∀ d ∈ found, d ∈ s.documents r.name)
    (base : String) (w : Window) (size : Nat) :
    pageOf s i r (request.showing fields) base w size (found.map (Document.project · (some (picked fields)))) =
      (pageOf s i r request base w size found).restricted (idField :: fields) := by
  have hitems : ((found.map (Document.project · (some (picked fields)))).drop w.offset |>.take w.limit).map
        (Link.shown s (place i) r r.plural (expansions request) (some (picked fields))) =
      (((found.drop w.offset).take w.limit).map
        (Link.shown s (place i) r r.plural (expansions request) none)).map
          (Members.restrict · (idField :: fields)) := by
    rw [← List.map_drop, ← List.map_take, List.map_map, List.map_map]
    refine List.map_congr_left fun d hd => ?_
    exact shown_picked hresolve hdistinct hs hr (hfound d (List.mem_of_mem_drop (List.mem_of_mem_take hd))) _
  rw [pageOf, pageOf, projection_showing hfields, expansions_showing, hwhole, hitems]
  rfl

/-- Where the condition stays the same, so do the records, their order and the window. -/
theorem mirrors_listWhere (c : Filter.Condition) (base : String) :
    Service.Mirrors s (listWhere i r c request base) (listWhere i r c (request.showing fields) base)
      (·.restricted (idField :: fields)) := by
  rintro env w page rfl hpage env' w' henv' hw'
  obtain ⟨ds, found, hds, hfound, rfl⟩ := pageOf_of_run hpage
  have hmem : ∀ d ∈ found, d ∈ w.store.documents r.name := by
    intro d hd
    obtain ⟨stored, hstored, rfl⟩ := List.mem_map.mp ((Store.find_perm hds hfound).subset hd)
    rw [hwhole]
    exact Store.mem_of_matching hds hstored
  have hread : wholeRead request = { sort := (request.option? "orderBy").elim [] Filter.order } := by
    rw [wholeRead, hwhole]
  have hshowing : wholeRead (request.showing fields) =
      { fields := some (picked fields), sort := (request.option? "orderBy").elim [] Filter.order } := by
    rw [wholeRead, projection_showing hfields, Request.option?_showing (by decide)]
  have hpicked : w.store.find r.name c (wholeRead (request.showing fields)) =
      .ok (found.map (Document.project · (some (picked fields)))) := by
    rw [hshowing, find_projected, ← hread, hfound]
    rfl
  rw [← hw'] at hds hpicked
  have hend : Service.Ends env' w'.store (listWhere i r c (request.showing fields) base) _ _ :=
    ends_listWhere hds hpicked
  obtain ⟨shown, hshown, -, rfl⟩ := Service.success_of_accepts henv' hend
  rw [hshown, hw', Filter.Window.ofQuery_showing, restricted_pageOf hresolve hdistinct hs hr hwhole hfields hmem]

theorem mirrors_list (hfree : ∀ a ∈ r.attributes, a.name ≠ "fields") :
    Service.Mirrors s (list i r request) (list i r (request.showing fields))
      (·.restricted (idField :: fields)) := by
  rw [list, list, Filter.condition_showing hfree]
  exact mirrors_listWhere hresolve hdistinct hs hr hwhole hfields _ _

theorem mirrors_read (id : String) :
    Service.Mirrors s (read i r id request) (read i r id (request.showing fields))
      (Members.restrict · (idField :: fields)) := by
  rintro env w out rfl hout env' w' henv' hw'
  have hend : Service.Ends env w.store (read i r id request) _ _ := ends_read
  have hread := hend w rfl
  rw [hout] at hread
  obtain ⟨d, hd, rfl⟩ := hread
  have hend' : Service.Ends env' w'.store (read i r id (request.showing fields)) _ _ := ends_read
  obtain ⟨out, hout, d', hd', rfl⟩ := Service.success_of_accepts henv'
    (Service.ends_mono hend' (fun _ _ h => h) fun e _ he => he.resolve_right (by rw [hw', hd]; exact nofun))
  rw [hw'] at hd'
  obtain rfl : d = d' := Option.some.inj (hd.symm.trans hd')
  have hpicked : Link.shown w.store (place i) r r.plural (expansions request) (some (picked fields))
      (Document.project d (some (picked fields))) = _ :=
    shown_picked hresolve hdistinct hs hr (Store.mem_of_called hd) (expansions request)
  rw [hout, hw', projection_showing hfields, expansions_showing, hpicked, hwhole]
  rfl

end

/-- In every store that a history reaches, to ask for some fields of a collection, of the children of a record
or of a record gives the records that are given without, in the same order and on the same page, each with
these fields and its identity alone. -/
theorem projection_commutes {ds : List Schema.ResourceDeclaration} {i : Interface} {h : History}
    (hdistinct : Schema.Distinct ds) (hresolve : Schema.resolve ds = .ok i.registry) (hon : h.On i.registry)
    {request : Request} (hwhole : projection request = none) {fields : List String}
    (hfields : Filter.Separable fields) :
    (∀ r ∈ i.registry.resources, (∀ a ∈ r.attributes, a.name ≠ "fields") →
        Service.Mirrors (h.after i Store.empty) (list i r request) (list i r (request.showing fields))
          (·.restricted (idField :: fields))) ∧
      (∀ owner id field,
        (∀ child p, i.registry.Inverse owner field child p → ∀ a ∈ child.attributes, a.name ≠ "fields") →
          Service.Mirrors (h.after i Store.empty) (listChildren i owner id field request)
            (listChildren i owner id field (request.showing fields)) (·.restricted (idField :: fields))) ∧
      ∀ r ∈ i.registry.resources, ∀ id,
        Service.Mirrors (h.after i Store.empty) (read i r id request) (read i r id (request.showing fields))
          (Members.restrict · (idField :: fields)) := by
  have hs : (h.after i Store.empty).Intact i.registry :=
    History.intact (Schema.consistent_of_resolve hresolve) (Schema.distinct_of_resolve hdistinct hresolve) hon
  refine ⟨fun r hr hfree => ?_, fun owner id field hfree => ?_, fun r hr id => ?_⟩
  · exact mirrors_list hresolve hdistinct hs hr hwhole hfields hfree
  · intro env w page hw hpage
    obtain ⟨child, p, hinv⟩ := inverse_of_answer hpage
    have hsame : childrenCondition child p id (request.showing fields) =
        childrenCondition child p id request := by
      rw [childrenCondition, Filter.condition_showing (hfree child p hinv), childrenCondition]
    rw [listChildren_eq hinv] at hpage ⊢
    rw [hsame]
    exact mirrors_listWhere hresolve hdistinct hs hinv.mem_resources hwhole hfields _ _ env w page hw hpage
  · exact mirrors_read hresolve hdistinct hs hr hwhole hfields id

/-- People in the order of their names, the last one first, with their groups in the place of references. -/
def withGroups : Request := ⟨none, [], [("orderBy", "-name"), ("expands", "group")]⟩

theorem projection_commutes_groups :
    Schema.Distinct Groups.declarations ∧
      Schema.resolve Groups.declarations = .ok Groups.interface.registry ∧
      staffed.On Groups.interface.registry ∧ projection withGroups = none ∧
      Filter.Separable ["name", "group", "_q", "age"] ∧
      (∀ a ∈ Groups.person.attributes, a.name ≠ "fields") ∧
      ∃ page, (run (Groups.refusing none) (list Groups.interface Groups.person withGroups).run
          { store := staffed.after Groups.interface Store.empty }).1 = .ok page ∧
        (run (Groups.refusing none) (list Groups.interface Groups.person
            (withGroups.showing ["name", "group", "_q", "age"])).run
          { store := staffed.after Groups.interface Store.empty }).1 =
            .ok (page.restricted ["id", "name", "group", "_q", "age"]) ∧
        page.size = 3 ∧
        (page.restricted ["id", "name", "group", "_q", "age"]).items.map Members.keys =
          [["id", "name", "group"], ["id", "name", "group"], ["id", "name", "group"]] := by
  have hon : staffed.On Groups.interface.registry := by
    simp [History.On, staffed, Groups.newGroup, Groups.interface]
  have hwhole : projection withGroups = none := by decide +kernel
  have hfields : Filter.Separable ["name", "group", "_q", "age"] :=
    ⟨by decide, by decide, by decide +kernel, by decide +kernel⟩
  have hfree : ∀ a ∈ Groups.person.attributes, a.name ≠ "fields" := by decide
  have hr : Groups.person ∈ Groups.interface.registry.resources := by simp [Groups.interface]
  have hlists : ((run (Groups.refusing none) (list Groups.interface Groups.person withGroups).run
      { store := staffed.after Groups.interface Store.empty }).1.toOption.map fun page =>
        (page.size, (page.restricted ["id", "name", "group", "_q", "age"]).items.map Members.keys)) =
      some (3, [["id", "name", "group"], ["id", "name", "group"], ["id", "name", "group"]]) := by
    decide +kernel
  cases hpage : (run (Groups.refusing none) (list Groups.interface Groups.person withGroups).run
      { store := staffed.after Groups.interface Store.empty }).1 with
  | error e =>
    rw [hpage] at hlists
    cases hlists
  | ok page =>
    rw [hpage] at hlists
    obtain ⟨hsize, hkeys⟩ := Prod.ext_iff.mp (Option.some.inj hlists)
    have hprojected := (projection_commutes Groups.distinct_declarations Groups.resolve_declarations hon hwhole
      hfields).1 _ hr hfree (Groups.refusing none) { store := staffed.after Groups.interface Store.empty } page
        rfl hpage (Groups.refusing none) { store := staffed.after Groups.interface Store.empty } Groups.accepts rfl
    exact ⟨Groups.distinct_declarations, Groups.resolve_declarations, hon, hwhole, hfields, hfree, page, rfl,
      hprojected, hsize, hkeys⟩

end Operation

end Hypermedia
