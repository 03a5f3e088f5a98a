import Hypermedia.Proofs.Bulk
import Hypermedia.Proofs.Children
import Hypermedia.Proofs.Intact
import Hypermedia.Proofs.Relations

/-!
# Links that answers carry

Answers carry links in four places: the path of a created record, the lists of children and the
references of a shown record, and the windows around a page. Each is made of the base path, the plural
of a registered resource, an identity and the name of an attribute. A shown record has an identity that
is fit for paths, wherever in an answer it stands.
-/

namespace Hypermedia

open Program (Environment World run)
open Store (Document)

/-! ### What shown records keep of stored ones -/

namespace Store.Document

theorem get?_materialize (d : Document) {name : String} (h : name ≠ searchField) :
    Members.get? (materialize d) name = (Members.get? d name).map flatten := by
  have herased : Members.get? (Members.erase d searchField) name = Members.get? d name :=
    (Members.get?_filter (· ≠ searchField) d name).trans (if_pos (decide_eq_true h))
  rw [← herased]
  exact Members.get?_map_snd flatten _ name

theorem get?_project (d : Document) {fields : Option (List String)} {name : String}
    (h : ∀ fs, fields = some fs → name ∈ fs) :
    Members.get? (project d fields) name = Members.get? d name := by
  cases fields with
  | none => rfl
  | some fs => exact Members.get?_restrict d (h fs rfl)

theorem id?_materialize {d : Document} {id : String} (h : id? d = some id) :
    id? (materialize d) = some id := by
  rw [id?_eq_some_iff] at h ⊢
  rw [get?_materialize d (by decide), h]
  rfl

theorem id?_project {d : Document} {fields : Option (List String)}
    (h : ∀ fs, fields = some fs → idField ∈ fs) : id? (project d fields) = id? d := by
  rw [id?, get?_project d h, id?]

end Store.Document

theorem Link.recordId_of_id? {d : Document} {id : String} (h : Document.id? d = some id) :
    recordId d = id := by
  rw [recordId, Document.id?_eq_some_iff.mp h]
  rfl

/-- The identity is always among the fields that are shown. -/
theorem Operation.id_mem_projection {request : Filter.Request} {fs : List String}
    (h : projection request = some fs) : idField ∈ fs := by
  unfold projection at h
  split at h
  · cases h
  · cases h
    split
    · exact List.contains_iff_mem.mp (by assumption)
    · exact List.mem_cons_self ..

namespace Operation

/-! ### The links of a shown record -/

/-- The members are a link to a record of a resource, or one to nothing. -/
def IsReference (i : Interface) (target : Resource) (ms : Members) : Prop :=
  ∃ href v, ms = [("href", href), ("id", v)] ∧
    (href = .null ∨ href = .string (i.href target.plural v.plainText))

/-- The links of a shown record lead to its children and to the records it refers to. An object in the
place of a reference that is no link is `expanded`. -/
structure Sound (i : Interface) (expanded : Resource → Members → Prop) (r : Resource) (out : Members) :
    Prop where
  lists : ∀ name target ms, (name, .children target) ∈ r.relations →
    Members.get? out name = some (.object ms) → ∃ id, Document.id? out = some id ∧ Identity.Fit id ∧
      ms = [("href", .string (i.href r.plural id ++ "/" ++ name))]
  references : ∀ name relation target ms, (name, relation) ∈ r.relations → relation.isChildren = false →
    i.registry.get? relation.target = some target → Members.get? out name = some (.object ms) →
      IsReference i target ms ∨ expanded target ms

/-- A record in the place of a reference: it has a time of creation, which no link has, and nothing in it
is expanded. -/
structure Expanded (i : Interface) (r : Resource) (out : Members) : Prop where
  created : createdAtField ∈ Members.keys out
  sound : Sound i (fun _ _ => False) r out

section
variable {i : Interface} {s : Store} {r target : Resource} {out ms : Members} {d : Document}
variable {expanded other : Resource → Members → Prop} {id : String}
variable {expands : List String} {fields : Option (List String)}

theorem Sound.mono (h : Sound i expanded r out) (himp : ∀ target ms, expanded target ms → other target ms) :
    Sound i other r out where
  lists := h.lists
  references name relation target ms hx hc ht hms :=
    (h.references name relation target ms hx hc ht hms).imp_right (himp target ms)

theorem Expanded.not_reference (h : Expanded i r out) : ¬ ∃ href v, out = [("href", href), ("id", v)] := by
  rintro ⟨href, v, rfl⟩
  have hkey : createdAtField ∈ ["href", "id"] := h.created
  exact absurd hkey (by decide)

/-- Members without objects, but for the identity, have no links. -/
theorem sound_of_plain (hnames : r.NamesFree)
    (h : ∀ name ≠ idField, ∀ ms, Members.get? out name ≠ some (.object ms)) : Sound i expanded r out := by
  have hne : ∀ name relation, (name, relation) ∈ r.relations → name ≠ idField := by
    intro name relation hx
    obtain ⟨a, ha, rfl, -⟩ := Resource.mem_relations.mp hx
    exact hnames.ne ha (by decide)
  refine ⟨fun name target ms hx hms => ?_, fun name relation target ms hx _ _ hms => ?_⟩
  · exact absurd hms (h name (hne name _ hx) ms)
  · exact absurd hms (h name (hne name _ hx) ms)

theorem sound_reference (hnames : r.NamesFree) (h : IsReference i target ms) : Sound i expanded r ms := by
  obtain ⟨href, v, rfl, hhref⟩ := h
  refine sound_of_plain hnames fun name hname ms hms => ?_
  rw [Members.get?_cons, Members.get?_cons, if_neg (show "id" ≠ name from Ne.symm hname)] at hms
  by_cases hkey : "href" = name
  · rw [if_pos hkey] at hms
    rcases hhref with rfl | rfl <;> cases hms
  · rw [if_neg hkey] at hms
    cases hms

theorem sound_list (hnames : r.NamesFree) (link : String) :
    Sound i expanded r [("href", .string link)] := by
  refine sound_of_plain hnames fun name _ ms hms => ?_
  rw [Members.get?_cons] at hms
  split at hms <;> cases hms

theorem sound_of_linked (hnames : r.NamesFree)
    (h : Link.Linked (place i) r r.plural expands fields d out)
    (hid : Document.id? d = some id) (hfit : Identity.Fit id)
    (hexpanded : ∀ name relation target v ms, (name, relation) ∈ r.relations → relation.isChildren = false →
      i.registry.get? relation.target = some target → Members.get? d name = some v → v ≠ .null →
      name ∈ expands → Members.get? out name = some (.object ms) →
        IsReference i target ms ∨ expanded target ms) :
    Sound i expanded r out where
  lists name target ms hx hms := by
    have hkept : Document.id? out = some id := by
      rw [Document.id?_eq_some_iff, h.others idField ?_, ← Document.id?_eq_some_iff, hid]
      intro hm
      obtain ⟨a, ha, hname⟩ := List.mem_map.mp (r.relations_sublist.subset hm)
      exact hnames.ne ha (by decide) hname
    refine ⟨id, hkept, hfit, ?_⟩
    cases hv : Members.get? d name with
    | none => cases (h.absent name _ hx hv (.inl nofun)).symm.trans hms
    | some v =>
      have hlink := h.children name target v hx hv
      rw [hms, Link.recordId_of_id? hid] at hlink
      exact Value.object.inj (Option.some.inj hlink)
  references name relation target ms hx hc ht hms := by
    cases hv : Members.get? d name with
    | none =>
      -- Nothing is shown for an absent field, but for a reference, which counts as one to nothing.
      by_cases hshown : (∀ target, relation ≠ .reference target) ∨ fields.all (·.contains name) = false
      · cases (h.absent name relation hx hv hshown).symm.trans hms
      · obtain ⟨htarget, hall⟩ := not_or.mp hshown
        obtain ⟨t, rfl⟩ := not_forall_not.mp htarget
        have hnull := h.missing name t hx hv (eq_true_of_ne_false hall)
        cases hnull.symm.trans hms
        exact .inl ⟨.null, .null, rfl, .inl rfl⟩
    | some v =>
      by_cases hlinked : v = .null ∨ name ∉ expands
      · obtain ⟨t, href, ht', hlink, hnull, hhref⟩ := h.links name relation v hx hc hv hlinked
        obtain rfl : t = target := Option.some.inj (ht'.symm.trans ht)
        cases hlink.symm.trans hms
        refine .inl ⟨href, v, rfl, ?_⟩
        by_cases hv : v = .null
        · exact .inl (hnull.mpr hv)
        · exact .inr (hhref hv)
      · obtain ⟨hv', hname⟩ := not_or.mp hlinked
        exact hexpanded name relation target v ms hx hc ht hv hv' (not_not.mp hname) hms

end

section
variable {ds : List Schema.ResourceDeclaration} {i : Interface} {s : Store} {r : Resource}
variable {out : Members} {d : Document} {expands : List String} {fields : Option (List String)}
variable (hresolve : Schema.resolve ds = .ok i.registry) (hdistinct : Schema.Distinct ds)
variable (hs : s.Intact i.registry) (hr : r ∈ i.registry.resources) (hd : d ∈ s.documents r.name)

include hresolve hs hr hd

theorem expanded_of_linked (h : Link.Linked (place i) r r.plural [] none
    (Document.materialize (Document.project d (some r.fieldNames))) out) : Expanded i r out := by
  have hnames : r.NamesFree := (Schema.consistent_of_resolve hresolve).namesFree hr
  have hprojected : ∀ name ∈ r.fieldNames, ∀ fs, some r.fieldNames = some fs → name ∈ fs := by
    rintro name hname fs ⟨⟩
    exact hname
  obtain ⟨id, hid, hfit⟩ := (hs.forms r hr d hd).identity
  refine ⟨?_, sound_of_linked hnames h (Document.id?_materialize ?_) hfit ?_⟩
  · have hfree : createdAtField ∉ r.relations.map (·.1) := by
      intro hm
      obtain ⟨a, ha, hname⟩ := List.mem_map.mp (r.relations_sublist.subset hm)
      exact hnames.ne ha (by decide) hname
    have hstored : createdAtField ∈ Members.keys d := by
      rw [(hs.forms r hr d hd).keys]
      simp
    have hname : createdAtField ∈ r.fieldNames := by simp [Resource.fieldNames, Resource.allAttributes]
    rw [← Members.get?_isSome_iff, h.others _ hfree, Document.get?_materialize _ (by decide),
      Document.get?_project d (hprojected _ hname), Option.isSome_map, Members.get?_isSome_iff]
    exact hstored
  · exact (Document.id?_project (hprojected _ (List.mem_cons_self ..))).trans hid
  · intro name relation target v ms _ _ _ _ _ hname
    cases hname

include hdistinct

theorem sound_shown (hfields : ∀ fs, fields = some fs → idField ∈ fs) : Sound i (Expanded i) r
    (Link.shown s (place i) r r.plural expands fields (Document.project d fields)) := by
  obtain ⟨id, hid, hfit⟩ := (hs.forms r hr d hd).identity
  have hshows : ∀ target ∈ (place i).registry.resources, Link.Shows (place i).registry target :=
    fun target ht => Link.shows_of_resolve hresolve hdistinct ht
  have hresolved : Link.Resolved s (place i) r r.plural expands fields _
      (Link.shown s (place i) r r.plural expands fields (Document.project d fields)) :=
    Link.resolved_of_shows (hshows r hr) hshows _
  have hnames : r.NamesFree := (Schema.consistent_of_resolve hresolve).namesFree hr
  refine sound_of_linked hnames hresolved.toLinked
    (Document.id?_materialize ((Document.id?_project hfields).trans hid)) hfit ?_
  intro name relation target v ms hx hc ht hv hnull hname hms
  obtain ⟨t, ht', hfound, hmissing⟩ := hresolved.expansions name relation v hx hc hv hnull hname
  obtain rfl : t = target := Option.some.inj (ht'.symm.trans ht)
  cases hcalled : s.called t.name v.plainText with
  | none =>
    cases (hmissing hcalled).symm.trans hms
    exact .inl ⟨_, _, rfl, .inr rfl⟩
  | some found =>
    obtain ⟨inner, hinner, hlinked⟩ := hfound found hcalled
    cases hinner.symm.trans hms
    exact .inr (expanded_of_linked hresolve hs (List.mem_of_find?_eq_some ht)
      (Store.mem_of_called hcalled) hlinked)

end

/-! ### Answers -/

section
variable {env : Environment} {i : Interface} {r : Resource} {request : Filter.Request} {w : World}
variable {c : Filter.Condition} {base : String} {page : Link.Page Document}

/-- Every item of a page shows a record of its collection. -/
theorem shown_of_mem (h : (run env (listWhere i r c request base).run w).1 = .ok page) {out : Members}
    (hout : out ∈ page.items) : ∃ stored ∈ w.store.documents r.name,
      out = Link.shown w.store (place i) r r.plural (expansions request) (projection request)
        (Document.project stored (projection request)) := by
  obtain ⟨ds, found, hds, hfound, rfl⟩ := pageOf_of_run h
  obtain ⟨d, hd, rfl⟩ := List.mem_map.mp hout
  have hmem : d ∈ found := List.mem_of_mem_drop (List.mem_of_mem_take hd)
  obtain ⟨stored, hstored, rfl⟩ := List.mem_map.mp ((Store.find_perm hds hfound).subset hmem)
  exact ⟨stored, Store.mem_of_matching hds hstored, rfl⟩

/-- A record that is read is shown as the store has it. -/
theorem ends_read {s : Store} {id : String} : Service.Ends env s (read i r id request)
    (fun out _ => ∃ d, s.called r.name id = some d ∧ out = Link.shown s (place i) r r.plural
      (expansions request) (projection request) (Document.project d (projection request)))
    (fun e _ => env.Refused e ∨ s.called r.name id = none) := by
  unfold read
  dsimp only
  refine Service.ends_byId_bind (fun _ he => .inl he) ?_
  cases hcalled : s.called r.name id with
  | none => exact Service.ends_fail (.inr rfl)
  | some d =>
    refine Service.ends_bind
      (Service.ends_mono (Link.ends_resolve _) (fun _ _ h => h) fun _ _ he => .inl he) ?_
    rintro items t ⟨rfl, rfl⟩
    exact Service.ends_pure ⟨d, rfl, rfl⟩

end

/-- A record that an answer from a store shows: an item of a page, a record that was read, or what stands
in the place of a reference of such a record. -/
inductive Emitted (i : Interface) (s : Store) : Resource → Members → Prop where
  | listed {r : Resource} {request : Filter.Request} {env : Environment} {w : World}
      {page : Link.Page Document} {out : Members} (mem : r ∈ i.registry.resources) (store : w.store = s)
      (answer : (run env (list i r request).run w).1 = .ok page) (item : out ∈ page.items) :
      Emitted i s r out
  | child {owner child : Resource} {id field : String} {p : Attribute} {request : Filter.Request}
      {env : Environment} {w : World} {page : Link.Page Document} {out : Members}
      (inverse : i.registry.Inverse owner field child p) (store : w.store = s)
      (answer : (run env (listChildren i owner id field request).run w).1 = .ok page)
      (item : out ∈ page.items) : Emitted i s child out
  | read {r : Resource} {id : String} {request : Filter.Request} {env : Environment} {w : World}
      {out : Members} (mem : r ∈ i.registry.resources) (store : w.store = s)
      (answer : (run env (read i r id request).run w).1 = .ok out) : Emitted i s r out
  | inside {r target : Resource} {out inner : Members} {name : String} {relation : Relation}
      (outer : Emitted i s r out) (mem : (name, relation) ∈ r.relations)
      (points : i.registry.get? relation.target = some target)
      (value : Members.get? out name = some (.object inner)) : Emitted i s target inner

section
variable {ds : List Schema.ResourceDeclaration} {i : Interface} {s : Store} {r : Resource}
variable {out : Members}
variable (hresolve : Schema.resolve ds = .ok i.registry) (hdistinct : Schema.Distinct ds)
variable (hs : s.Intact i.registry)

include hresolve hdistinct hs

theorem sound_item (hr : r ∈ i.registry.resources) {c : Filter.Condition} {request : Filter.Request}
    {base : String} {env : Environment} {w : World} {page : Link.Page Document} (hw : w.store = s)
    (h : (run env (listWhere i r c request base).run w).1 = .ok page) (hout : out ∈ page.items) :
    Sound i (Expanded i) r out := by
  subst hw
  obtain ⟨stored, hstored, rfl⟩ := shown_of_mem h hout
  exact sound_shown hresolve hdistinct hs hr hstored fun _ => id_mem_projection

/-- All links of all shown records lead where they belong. -/
theorem Emitted.sound (h : Emitted i s r out) : Sound i (Expanded i) r out := by
  have hg : i.registry.Consistent := Schema.consistent_of_resolve hresolve
  induction h with
  | listed mem store answer item => exact sound_item hresolve hdistinct hs mem store answer item
  | child inverse store answer item =>
    rw [listChildren_eq inverse] at answer
    exact sound_item hresolve hdistinct hs inverse.mem_resources store answer item
  | @read r id request env w out mem store answer =>
    subst store
    have hend : Service.Ends env w.store (Operation.read i r id request) _ _ := ends_read
    have hread := hend w rfl
    rw [answer] at hread
    obtain ⟨d, hd, rfl⟩ := hread
    exact sound_shown hresolve hdistinct hs mem (Store.mem_of_called hd) fun _ => id_mem_projection
  | @inside r target out inner name relation outer mem ht value ih =>
    have hnames : target.NamesFree := hg.namesFree (List.mem_of_find?_eq_some ht)
    cases hc : relation.isChildren with
    | true =>
      -- The link to a list is an object too, but one without links of its own.
      obtain ⟨t, rfl⟩ : ∃ t, relation = .children t := by
        cases relation <;> first | exact ⟨_, rfl⟩ | cases hc
      obtain ⟨id, -, -, rfl⟩ := ih.lists name t inner mem value
      exact sound_list hnames _
    | false =>
      rcases ih.references name relation target inner mem hc ht value with hlink | hexpanded
      · exact sound_reference hnames hlink
      · exact hexpanded.sound.mono fun _ _ hfalse => hfalse.elim

omit hresolve hdistinct hs in
theorem Emitted.mem (h : Emitted i s r out) : r ∈ i.registry.resources := by
  cases h with
  | listed mem _ _ _ => exact mem
  | child inverse _ _ _ => exact inverse.mem_resources
  | read mem _ _ => exact mem
  | inside _ _ points _ => exact List.mem_of_find?_eq_some points

theorem Emitted.list_link {name target link : String} (h : Emitted i s r out)
    (hx : (name, .children target) ∈ r.relations)
    (hv : Members.get? out name = some (.object [("href", .string link)])) :
    ∃ id, Document.id? out = some id ∧ Identity.Fit id ∧ link = i.href r.plural id ++ "/" ++ name := by
  obtain ⟨id, hid, hfit, hlink⟩ := (h.sound hresolve hdistinct hs).lists name target _ hx hv
  simp only [List.cons.injEq, Prod.mk.injEq, Value.string.injEq, true_and, and_true] at hlink
  exact ⟨id, hid, hfit, hlink⟩

theorem Emitted.reference_link {name link : String} {relation : Relation} {target : Resource} {v : Value}
    (h : Emitted i s r out) (hx : (name, relation) ∈ r.relations) (hc : relation.isChildren = false)
    (ht : i.registry.get? relation.target = some target)
    (hv : Members.get? out name = some (.object [("href", .string link), ("id", v)])) :
    link = i.href target.plural v.plainText := by
  rcases (h.sound hresolve hdistinct hs).references name relation target _ hx hc ht hv with hlink | hexpanded
  · obtain ⟨href, v', hms, hhref⟩ := hlink
    simp only [List.cons.injEq, Prod.mk.injEq, true_and, and_true] at hms
    obtain ⟨rfl, rfl⟩ := hms
    rcases hhref with hnull | hhref
    · cases hnull
    · exact Value.string.inj hhref
  · exact absurd ⟨_, _, rfl⟩ hexpanded.not_reference

end

/-! ### Windows around a page -/

theorem window_link_of_run {env : Environment} {i : Interface} {r : Resource} {request : Filter.Request}
    {w : World} {c : Filter.Condition} {base link : String} {page : Link.Page Document}
    (h : (run env (listWhere i r c request base).run w).1 = .ok page)
    (hlink : some link ∈ [page.first, page.last, page.prev, page.next]) :
    ∃ limit offset, link = Link.windowLink base limit offset := by
  obtain ⟨ds, found, -, -, rfl⟩ := pageOf_of_run h
  have hif : ∀ {p : Prop} [Decidable p] {x : String},
      some link = (if p then some x else none) → link = x := by
    intro p _ x hx
    split at hx
    · exact Option.some.inj hx
    · cases hx
  simp only [List.mem_cons, List.not_mem_nil, or_false] at hlink
  rcases hlink with hx | hx | hx | hx
  all_goals exact ⟨_, _, hif hx⟩

/-! ### Created records -/

section
variable {α : Type} {env : Environment} {s : Store}

theorem ends_any {x : Service α} : Service.Ends env s x (fun _ _ => True) (fun _ _ => True) := by
  intro w _
  cases (run env x.run w).1 <;> trivial

variable {work : Members → Service α} {Q : α → Prop}
variable (h : ∀ item s, Service.Ends env s (work item) (fun a _ => Q a) (fun _ _ => True))

include h

theorem ends_eachItem_each (items : List Members) (index : Nat) (s : Store) :
    Service.Ends env s (eachItem work index items) (fun as _ => ∀ a ∈ as, Q a) (fun _ _ => True) := by
  induction items generalizing index s with
  | nil => exact Service.ends_pure nofun
  | cons item rest ih =>
    refine Service.ends_bind (Service.ends_mapError (h item s)) fun a t ha => ?_
    refine Service.ends_bind (ih (index + 1) t) fun as _ has => ?_
    exact Service.ends_pure (List.forall_mem_cons.mpr ⟨ha, has⟩)

theorem ends_onBody_each (body : Value) : Service.Ends env s (onBody work body)
    (fun batch _ => ∀ a ∈ batch.toList, Q a) (fun _ _ => True) := by
  unfold onBody
  cases Batch.ofBody body with
  | error e => exact Service.ends_fail trivial
  | ok batch =>
    cases batch with
    | one item =>
      refine Service.ends_bind (h item s) fun a _ ha => Service.ends_pure ?_
      exact List.forall_mem_singleton.mpr ha
    | many items =>
      exact Service.ends_bind (ends_eachItem_each h items 0 s) fun as _ has => Service.ends_pure has

end

section
variable {env : Environment} {i : Interface} {r : Resource} {request : Filter.Request}

theorem ends_createItem_href {s : Store} : Service.Ends env s (createItem i r request)
    (fun c _ => c.href = i.href r.plural c.id) (fun _ _ => True) := by
  refine Service.ends_bind ends_any fun _ _ _ => Service.ends_bind ends_any fun _ _ _ => ?_
  refine Service.ends_bind ends_any fun id _ _ => Service.ends_bind ends_any fun taken _ _ => ?_
  split
  · exact Service.ends_fail trivial
  · refine Service.ends_bind ends_any fun _ _ _ => Service.ends_bind ends_any fun _ _ _ => ?_
    exact Service.ends_bind ends_any fun _ _ _ => Service.ends_pure rfl

/-- Every created record is told with its path. -/
theorem href_of_create {body : Value} {w : World} {created : Batch Created}
    (h : (run env (create i r body request).run w).1 = .ok created) :
    ∀ c ∈ created.toList, c.href = i.href r.plural c.id := by
  have hend : Service.Ends env w.store (create i r body request) _ _ :=
    ends_onBody_each (fun _ _ => ends_createItem_href) body
  have hcreated := hend w rfl
  rw [h] at hcreated
  exact hcreated

end

end Operation

end Hypermedia
