import Hypermedia.Proofs.History

/-!
# The form of stored records

Every record that a history of operations leaves in a store has the form of its resource: its names in
their order, an identity that is fit for paths and that no other record of the collection has, and in
each list of children different texts. A create adds a record of that form, a patch and the bookkeeping
of owners change values under names that are there, and a delete leaves a part of the records.
-/

namespace Hypermedia

open Store (Document)
open Operation (Bookkept Entered Patched withListed withChild)

/-- A document has the form of a record. -/
structure Store.Document.Fits (r : Resource) (d : Document) : Prop where
  keys : Members.keys d =
    idField :: r.attributes.map (·.name) ++ [createdAtField, updatedAtField, searchField]
  identity : ∃ id, Document.id? d = some id ∧ Identity.Fit id
  lists : ∀ a ∈ r.attributes, a.type.isChildren = true →
    ∃ ids : List String, Members.get? d a.name = some (.array (ids.map .string)) ∧ ids.Nodup

/-- Every record of a registered resource has its form, and no two records of one collection have the
same identity. -/
structure Store.Intact (g : Registry) (s : Store) : Prop where
  forms : ∀ r ∈ g.resources, ∀ d ∈ s.documents r.name, Document.Fits r d
  identities : ∀ r ∈ g.resources, ((s.documents r.name).map Document.id?).Nodup

/-! ### New records -/

namespace Record

variable {r : Resource}

theorem keys_new (params : Members) (id now : String) :
    Members.keys (new r params id now) =
      idField :: r.attributes.map (·.name) ++ [createdAtField, updatedAtField, searchField] := by
  simp [new, body, Members.keys, Function.comp_def]

theorem fits_new (hdistinct : (r.attributes.map (·.name)).Nodup) (hnames : r.NamesFree)
    (params : Members) {id : String} (hid : Identity.Fit id) (now : String) :
    Document.Fits r (new r params id now) := by
  refine ⟨keys_new params id now, ⟨id, id?_new r params id now, hid⟩, ?_⟩
  intro a ha hc
  refine ⟨[], ?_, List.nodup_nil⟩
  rw [get?_new hdistinct hnames params id now ha, initial, if_pos hc]
  rfl

end Record

/-! ### Patches -/

namespace Store

variable {r : Resource} {listed : Members → String → Prop}

/-- A record has each of its names once. -/
theorem Document.Fits.nodup_keys (hdistinct : (r.attributes.map (·.name)).Nodup) (hnames : r.NamesFree)
    {d : Document} (h : Document.Fits r d) : (Members.keys d).Nodup := by
  have hfree : ∀ name ∈ r.attributes.map (·.name), name ∉ Schema.reserved := by
    intro name hm
    obtain ⟨a, ha, rfl⟩ := List.mem_map.mp hm
    exact hnames a ha
  rw [h.keys, List.cons_append, List.nodup_cons]
  constructor
  · intro hm
    rcases List.mem_append.mp hm with hm | hm
    · exact hfree _ hm (by decide)
    · exact absurd hm (by decide)
  · refine List.nodup_append.mpr ⟨hdistinct, by decide, fun x hx y hy he => ?_⟩
    exact hfree x hx (he ▸ List.mem_cons_of_mem _ hy)

theorem Document.Fits.merge (hdistinct : (r.attributes.map (·.name)).Nodup) (hnames : r.NamesFree)
    {params : Members} {current d : Document} {now : Time.Instant} (h : Document.Fits r d) :
    Document.Fits r (Members.merge d (Operation.completePatch r params current now)) := by
  have hkeys : Members.keys (Members.merge d (Operation.completePatch r params current now)) =
      Members.keys d := by
    apply Members.keys_merge
    intro b hb
    rw [h.keys]
    rcases Operation.mem_keys_completePatch hb with ⟨a, ha, -, rfl⟩ | rfl | rfl
    · have hm : a.name ∈ r.attributes.map (·.name) := List.mem_map_of_mem ha
      simp [hm]
    · simp
    · simp
  refine ⟨hkeys.trans h.keys, ?_, ?_⟩
  · rw [Operation.id?_merge_completePatch hnames]
    exact h.identity
  · intro a ha hc
    rw [Members.get?_merge_of_notMem d _ (Operation.children_notMem_completePatch hdistinct hnames ha hc)]
    exact h.lists a ha hc

/-! ### Owner bookkeeping -/

/-- A list of different texts with one more child is a list of different texts. -/
theorem withChild_texts {ids : List String} (h : ids.Nodup) (child : String) :
    ∃ more : List String,
      withChild (some (.array (ids.map .string))) child = .array (more.map .string) ∧ more.Nodup := by
  have hany : ((ids.map Value.string).any fun x => x.same (.string child)) = decide (child ∈ ids) := by
    rw [Bool.eq_iff_iff]
    simp [Operation.same_string_iff]
  simp only [withChild, hany, decide_eq_true_eq]
  by_cases hc : child ∈ ids
  · exact ⟨ids, by rw [if_pos hc], h⟩
  · refine ⟨ids ++ [child], by rw [if_neg hc, List.map_append]; rfl, ?_⟩
    exact List.nodup_append.mpr ⟨h, List.nodup_singleton child, fun x hx y hy he =>
      hc (List.mem_singleton.mp hy ▸ he ▸ hx)⟩

theorem Document.Fits.withListed (hnames : r.NamesFree) {d : Document} (h : Document.Fits r d)
    {b : Attribute} (hb : b ∈ r.attributes) (hc : b.type.isChildren = true) (child : String)
    (t : Time.Instant) : Document.Fits r (withListed b.name child t d) := by
  have hu : b.name ≠ updatedAtField := hnames.ne hb (by decide)
  have hfield : b.name ∈ Members.keys d := by
    rw [h.keys]
    have hm : b.name ∈ r.attributes.map (·.name) := List.mem_map_of_mem hb
    simp [hm]
  refine ⟨?_, ?_, ?_⟩
  · have hset := Members.keys_set_of_mem (withChild (Members.get? d b.name) child) hfield
    rw [Operation.withListed, Members.keys_set_of_mem, hset, h.keys]
    rw [hset, h.keys]
    simp
  · rw [Operation.id?_withListed (hnames.ne hb (by decide))]
    exact h.identity
  · intro a ha hca
    by_cases he : a.name = b.name
    · obtain ⟨ids, hids, hnodup⟩ := h.lists b hb hc
      rw [he, Operation.get?_withListed_field hu, hids]
      obtain ⟨more, hmore, hn⟩ := withChild_texts hnodup child
      exact ⟨more, congrArg some hmore, hn⟩
    · rw [Operation.get?_withListed (hnames.ne ha (by decide)) he]
      exact h.lists a ha hca

theorem Document.Fits.bookkept {g : Registry} (hg : g.Consistent) {o : Resource} (ho : o ∈ g.resources)
    (hr : r ∈ g.resources) {d e : Document} (hd : Document.Fits o d) (h : Bookkept r listed o.name d e) :
    Document.Fits o e := by
  induction h with
  | same => exact hd
  | @step e pointer field owner child values t _ _ relation _ _ ih =>
    obtain ⟨o', ho', hname, b, hb, rfl, hc⟩ := hg.owner_of_relation hr relation
    obtain rfl : o' = o := hg.eq_of_name ho' ho hname
    exact ih.withListed (hg.namesFree ho) hb hc child t

/-! ### Stores -/

section
variable {g : Registry} {s t : Store}

theorem intact_empty (g : Registry) : Store.empty.Intact g := by
  refine ⟨fun r _ d hd => ?_, fun r _ => List.nodup_nil⟩
  cases hd

theorem Intact.within (h : s.Intact g) (hts : t.Within s) : t.Intact g :=
  ⟨fun r hr d hd => h.forms r hr d ((hts r.name).subset hd),
    fun r hr => ((hts r.name).map _).nodup (h.identities r hr)⟩

theorem Intact.bookkept (hg : g.Consistent) (hr : r ∈ g.resources) (h : s.Intact g)
    (hst : s.Related (Bookkept r listed) t) : t.Intact g := by
  refine ⟨fun o ho e he => ?_, fun o ho => ?_⟩
  · obtain ⟨d, hd, hb⟩ := forall₂_mem_right (hst o.name) he
    exact (h.forms o ho d hd).bookkept hg ho hr hb
  · rw [ids_of_bookkept (hg.listsFree hr) hst]
    exact h.identities o ho

theorem Intact.patched (hg : g.Consistent) (hdistinct : (r.attributes.map (·.name)).Nodup)
    (hr : r ∈ g.resources) {params : Members} {id : String} {patch : Document} (h : s.Intact g)
    (hst : Patched r params id patch s t) : t.Intact g := by
  have hnames : r.NamesFree := hg.namesFree hr
  refine ⟨fun o ho e he => ?_, fun o ho => ?_⟩
  · obtain ⟨d, hd, hde⟩ := forall₂_mem_right (hst.related o.name) he
    rcases hde with rfl | ⟨hname, -, rfl⟩
    · exact h.forms o ho e hd
    · obtain rfl : o = r := hg.eq_of_name ho hr hname
      obtain ⟨current, now, -, rfl⟩ := hst.patch_eq
      exact (h.forms o ho d hd).merge hdistinct hnames
  · rw [hst.ids hnames]
    exact h.identities o ho

theorem Intact.append (hg : g.Consistent) (hr : r ∈ g.resources) (h : s.Intact g) {d : Document}
    (hd : Document.Fits r d) (hfresh : Document.id? d ∉ (s.documents r.name).map Document.id?) :
    (s.withDocuments r.name (s.documents r.name ++ [d])).Intact g := by
  refine ⟨fun o ho e he => ?_, fun o ho => ?_⟩
  · rcases mem_documents_append.mp he with he | ⟨hname, rfl⟩
    · exact h.forms o ho e he
    · obtain rfl : o = r := hg.eq_of_name ho hr hname
      exact hd
  · rw [documents_withDocuments]
    split
    · rename_i hname
      obtain rfl : r = o := hg.eq_of_name hr ho hname
      rw [List.map_append]
      exact List.nodup_append.mpr ⟨h.identities r hr, List.nodup_singleton _, fun x hx y hy he =>
        hfresh (List.mem_singleton.mp hy ▸ he ▸ hx)⟩
    · exact h.identities o ho

theorem Intact.entered (hg : g.Consistent) (hdistinct : (r.attributes.map (·.name)).Nodup)
    (hr : r ∈ g.resources) {params : Members} {id now : String} (h : s.Intact g)
    (hid : Identity.Fit id) (hfresh : s.called r.name id = none)
    (hst : Entered r params id now s t) : t.Intact g := by
  obtain ⟨u, hsu, -, rfl⟩ := hst
  refine (h.bookkept hg hr hsu).append hg hr
    (Record.fits_new hdistinct (hg.namesFree hr) params hid now) ?_
  rw [Record.id?_new, ids_of_bookkept (hg.listsFree hr) hsu]
  intro hm
  obtain ⟨d, hd, hdid⟩ := List.mem_map.mp hm
  exact not_holds_of_called hfresh ⟨d, hd, hdid⟩

end

end Store

/-! ### Operations -/

namespace Operation

section
variable {env : Program.Environment} {i : Interface} {g : Registry} {r : Resource}
variable (hg : g.Consistent) (hdistinct : (r.attributes.map (·.name)).Nodup) (hr : r ∈ g.resources)

include hg hdistinct hr

theorem keeps_intact (c : Command) : Service.Keeps env (Store.Intact g) (c.service i r) := by
  refine keeps_of_writes (hg.listsFree hr) (fun s t params id now hs hadm hent => ?_)
    (fun s u id params patch hs hpatched => ?_) (fun s t listed hs hst => ?_)
    (fun s t hts hs => hs.within hts) c
  · exact hs.entered hg hdistinct hr hadm.identity.fit hadm.fresh hent
  · exact hs.patched hg hdistinct hr hpatched
  · exact hs.bookkept hg hr hst

end

/-- In every store that a history of operations reaches from the empty one, every record has its form
and its own identity. -/
theorem intact_after {ds : List Schema.ResourceDeclaration} {i : Interface} {h : History}
    (hdistinct : Schema.Distinct ds) (hresolve : Schema.resolve ds = .ok i.registry)
    (hon : h.On i.registry) : (h.after i Store.empty).Intact i.registry := by
  have hg : i.registry.Consistent := Schema.consistent_of_resolve hresolve
  refine History.after_of_keeps (fun x hx => ?_) (Store.intact_empty _)
  exact keeps_intact hg (Schema.distinct_of_resolve hdistinct hresolve _ (hon x hx)) (hon x hx) x.command

/-- Two people, the second one's save refused after both owners have listed it, then a self-owned
update and deletes. -/
def groupsHistory : History :=
  [Groups.newGroup "Ops",
    ⟨Groups.refusing none, Groups.person,
      .createItem (Groups.values [("name", .string "ann"), ("group", .string "ops")])⟩,
    ⟨Groups.refusing (some 7), Groups.person,
      .createItem (Groups.values
        [("name", .string "bob"), ("group", .string "ops"), ("boss", .string "ann")])⟩,
    ⟨Groups.refusing none, Groups.person, .update "ann" (Groups.values [("boss", .string "ann")])⟩,
    ⟨Groups.refusing (some 1), Groups.person, .deleteCollection (Groups.values [])⟩]

theorem intact_after_groups :
    Schema.Distinct Groups.declarations ∧
      Schema.resolve Groups.declarations = .ok Groups.interface.registry ∧
      groupsHistory.On Groups.interface.registry ∧
      (groupsHistory.after Groups.interface Store.empty).Intact Groups.interface.registry := by
  have hon : groupsHistory.On Groups.interface.registry := by
    simp [History.On, groupsHistory, Groups.newGroup, Groups.interface]
  exact ⟨Groups.distinct_declarations, Groups.resolve_declarations, hon,
    intact_after Groups.distinct_declarations Groups.resolve_declarations hon⟩

end Operation

end Hypermedia
