import Hypermedia.Proofs.History

/-!
# Owners list what names them

As long as nothing is deleted and no call of the store is refused, every owner that a stored record
names lists that record. A create lists a record before it is stored, an update after its patch is; in
both cases the owner is known to be there from the checks before.
-/

namespace Hypermedia

open Store (Document)
open Operation (Bookkept Entered Patched OwnersList ReferencesHold completePatch reference? updateParams)

/-- Every owner that a stored record names lists that record. -/
def Store.Owned (g : Registry) (s : Store) : Prop :=
  ∀ r ∈ g.resources, ∀ name owner field, (name, Relation.parent owner field) ∈ r.relations →
    ∀ c ∈ s.documents r.name, ∀ child id, Document.id? c = some child →
      reference? (Members.get? c name) = some id → s.Lists owner id field child

/-- No attribute that names an owner has a default. -/
def Registry.NoOwnerDefaults (g : Registry) : Prop :=
  ∀ r ∈ g.resources, ∀ a ∈ r.attributes, ∀ owner field,
    a.type = .relation (.parent owner field) → a.default = none

namespace Store

/-! ### Lists only grow -/

theorem lists_append {s : Store} {name collection id field child : String} (d : Document)
    (h : s.Lists collection id field child) :
    (s.withDocuments name (s.documents name ++ [d])).Lists collection id field child := by
  obtain ⟨e, he, hrest⟩ := h
  exact ⟨e, mem_documents_append.mpr (.inl he), hrest⟩

section
variable {g : Registry} {r o : Resource} {listed : Members → String → Prop} {s t u : Store}
variable (hg : g.Consistent) (hr : r ∈ g.resources)

include hg hr

/-- A patch sets no list, so it takes no child from one. -/
theorem lists_of_patched (hdistinct : (r.attributes.map (·.name)).Nodup) {params : Members}
    {pid : String} {patch : Document} (h : Patched r params pid patch s u) (ho : o ∈ g.resources)
    {name owner field id child : String} (hrel : (name, Relation.parent owner field) ∈ o.relations)
    (hs : s.Lists owner id field child) : u.Lists owner id field child := by
  obtain ⟨d, hd, hid, xs, hx, hc⟩ := hs
  obtain ⟨e, he, hde⟩ := forall₂_mem_left (h.related owner) hd
  rcases hde with rfl | ⟨rfl, -, rfl⟩
  · exact ⟨e, he, hid, xs, hx, hc⟩
  · obtain ⟨o', ho', hname, b, hb, rfl, hchildren⟩ := hg.owner_of_relation ho hrel
    obtain rfl : o' = r := hg.eq_of_name ho' hr hname
    obtain ⟨current, now, -, rfl⟩ := h.patch_eq
    refine ⟨_, he, ?_, xs, ?_, hc⟩
    · rw [Operation.id?_merge_completePatch (hg.namesFree hr), hid]
    · rw [Members.get?_merge_of_notMem d _
        (Operation.children_notMem_completePatch hdistinct (hg.namesFree hr) hb hchildren), hx]

/-! ### Values that name owners -/

theorem get?_of_bookkept (ho : o ∈ g.resources) (hdistinct : (o.attributes.map (·.name)).Nodup)
    {name owner field : String} (hrel : (name, Relation.parent owner field) ∈ o.relations)
    {d e : Document} (hb : Bookkept r listed o.name d e) : Members.get? e name = Members.get? d name := by
  obtain ⟨a, ha, rfl, htype⟩ := Resource.mem_relations.mp hrel
  exact hb.get?_attribute hg hr ho hdistinct ha (Attribute.isChildren_of_parent htype)

theorem owned_bookkept (hdistinct : ∀ o ∈ g.resources, (o.attributes.map (·.name)).Nodup)
    (h : s.Owned g) (hst : s.Related (Bookkept r listed) t) : t.Owned g := by
  intro o ho name owner field hrel c hc child id hchild hid
  obtain ⟨d, hd, hb⟩ := forall₂_mem_right (hst o.name) hc
  have hvalue : Members.get? c name = Members.get? d name :=
    get?_of_bookkept hg hr ho (hdistinct o ho) hrel hb
  have hlist : s.Lists owner id field child := by
    refine h o ho name owner field hrel d hd child id ?_ ?_
    · rw [← hb.id?_eq (hg.listsFree hr), hchild]
    · rw [← hvalue, hid]
  have hfield : field ≠ updatedAtField := (Operation.ne_of_free (hg.listsFree ho _ _ _ hrel)).2
  exact lists_of_bookkept (hg.listsFree hr) hst hfield hlist

/-! ### A create -/

theorem reference?_new (hdistinct : (r.attributes.map (·.name)).Nodup)
    (hdefaults : g.NoOwnerDefaults) {params : Members} {rid now name owner field : String}
    (hrel : (name, Relation.parent owner field) ∈ r.relations) :
    reference? (Members.get? (Record.new r params rid now) name) =
      reference? (Members.get? params name) := by
  obtain ⟨a, ha, rfl, htype⟩ := Resource.mem_relations.mp hrel
  rw [Record.get?_new_parent hdistinct (hg.namesFree hr) params rid now ha htype,
    hdefaults r hr a ha owner field htype]
  cases Members.get? params a.name with
  | none => rfl
  | some v => rfl

theorem owned_entered (hdistinct : ∀ o ∈ g.resources, (o.attributes.map (·.name)).Nodup)
    (hdefaults : g.NoOwnerDefaults) (hs : s.Named) (h : s.Owned g) {params : Members} {rid now : String}
    (hrefs : ReferencesHold params r.relations s) (hst : Entered r params rid now s t) : t.Owned g := by
  obtain ⟨u, hsu, hlists, rfl⟩ := hst
  have hu : u.Owned g := owned_bookkept hg hr hdistinct h hsu
  intro o ho name owner field hrel c hc child id hchild hid
  apply lists_append
  -- The record was there, or it is the new one, which its owners list already.
  rcases mem_documents_append.mp hc with hc | ⟨hname, rfl⟩
  · exact hu o ho name owner field hrel c hc child id hchild hid
  · obtain rfl : o = r := hg.eq_of_name ho hr hname
    obtain rfl : rid = child := by
      rw [Record.id?_new] at hchild
      exact Option.some.inj hchild
    have hparam : reference? (Members.get? params name) = some id := by
      rw [← reference?_new hg hr (hdistinct o hr) hdefaults hrel, hid]
    obtain ⟨d, hd⟩ := hrefs name _ id hrel rfl hparam
    exact hlists name owner field id hrel hid ⟨d, mem_of_called hd, id?_of_called hs hd⟩

/-! ### An update -/

/-- A patched record names the owners that the patch names, and otherwise those that it named. -/
theorem reference?_patched (hdistinct : (r.attributes.map (·.name)).Nodup) (params : Members)
    (current : Document) (now : Time.Instant) {name owner field : String}
    (hrel : (name, Relation.parent owner field) ∈ r.relations) (d : Document) :
    Members.get? (completePatch r params current now) name = Members.get? params name ∧
      Members.get? (Members.merge d (completePatch r params current now)) name =
        (Members.get? params name).or (Members.get? d name) := by
  obtain ⟨a, ha, rfl, htype⟩ := Resource.mem_relations.mp hrel
  have hnames : r.NamesFree := hg.namesFree hr
  have hc : a.type.isChildren = false := Attribute.isChildren_of_parent htype
  have hstored : (Members.get? params a.name).map (Record.stored a.type) =
      Members.get? params a.name := by rw [htype, Record.map_stored_relation]
  constructor
  · rw [Operation.get?_completePatch_attribute hdistinct hnames ha hc, hstored]
  · rw [Operation.get?_merge_completePatch hdistinct hnames ha hc, hstored]

theorem owned_patched (hdistinct : ∀ o ∈ g.resources, (o.attributes.map (·.name)).Nodup)
    (hs : s.Named) (h : s.Owned g) {params : Members} {rid : String} {patch : Document}
    (hsu : Patched r params rid patch s u) (hut : u.Related (Bookkept r listed) t)
    (hlists : OwnersList patch rid r.relations u t) : t.Owned g := by
  intro o ho name owner field hrel c hc child id hchild hid
  have hfield : field ≠ updatedAtField := (Operation.ne_of_free (hg.listsFree ho _ _ _ hrel)).2
  -- What was listed before is listed still.
  have keep : s.Lists owner id field child → t.Lists owner id field child := fun hl =>
    lists_of_bookkept (hg.listsFree hr) hut hfield
      (lists_of_patched hg hr (hdistinct r hr) hsu ho hrel hl)
  obtain ⟨e, he, hb⟩ := forall₂_mem_right (hut o.name) hc
  have hchild' : Document.id? e = some child := by rw [← hb.id?_eq (hg.listsFree hr), hchild]
  have hid' : reference? (Members.get? e name) = some id := by
    rw [← get?_of_bookkept hg hr ho (hdistinct o ho) hrel hb, hid]
  obtain ⟨d, hd, hde⟩ := forall₂_mem_right (hsu.related o.name) he
  rcases hde with rfl | ⟨hname, hfound, rfl⟩
  · exact keep (h o ho name owner field hrel e hd child id hchild' hid')
  · obtain rfl : o = r := hg.eq_of_name ho hr hname
    have hdid : Document.id? d = some rid := Document.id?_eq_of_isFoundBy hfound (hs _ d hd)
    rw [hsu.id?_eq (hg.namesFree hr), hdid] at hchild'
    obtain rfl : rid = child := Option.some.inj hchild'
    obtain ⟨current, now, -, rfl⟩ := hsu.patch_eq
    obtain ⟨hpatch, hmerge⟩ := reference?_patched hg hr (hdistinct o hr) params current now hrel d
    rw [hmerge] at hid'
    cases hv : Members.get? params name with
    | none =>
      rw [hv, Option.none_or] at hid'
      exact keep (h o ho name owner field hrel d hd rid id hdid hid')
    | some v =>
      rw [hv, Option.some_or] at hid'
      obtain ⟨x, hx⟩ := hsu.references name _ id hrel rfl (by rw [hv, hid'])
      have hsh : s.Holds owner id := ⟨x, mem_of_called hx, id?_of_called hs hx⟩
      have huh : u.Holds owner id := hsu.holds (hg.namesFree hr) hsh
      exact hlists name owner field id hrel (by rw [hpatch, hv, hid']) huh

end

end Store

/-! ### Operations -/

namespace Operation

section
variable {env : Program.Environment} {i : Interface} {g : Registry} {r : Resource}
variable (henv : env.Accepts) (hg : g.Consistent) (hr : r ∈ g.resources)
variable (hdistinct : ∀ o ∈ g.resources, (o.attributes.map (·.name)).Nodup)

include henv hg hr hdistinct

theorem keeps_owned_createItem (hdefaults : g.NoOwnerDefaults) (request : Filter.Request) :
    Service.Keeps env (fun s => s.Named ∧ s.Owned g) (createItem i r request) := by
  rintro s ⟨hs, ho⟩
  refine Service.ends_mono (ends_createItem (hg.listsFree hr)) (fun _ t ht => ?_) (fun e t ht => ?_)
  · obtain ⟨hadm, now, hent⟩ := ht
    exact ⟨hent.named (hg.listsFree hr) hs,
      Store.owned_entered hg hr hdistinct hdefaults hs ho hadm.references hent⟩
  · rcases ht with ⟨rfl, -⟩ | ⟨id, -, -, hrefused⟩
    · exact ⟨hs, ho⟩
    · exact absurd (hrefused hs) (not_refused henv e)

theorem keeps_owned_update (id : String) (request : Filter.Request) :
    Service.Keeps env (fun s => s.Named ∧ s.Owned g) (update i r id request) := by
  rintro s ⟨hs, ho⟩
  refine Service.ends_mono (ends_update (hg.listsFree hr)) (fun _ t ht => ?_) (fun e t ht => ?_)
  · obtain ⟨patch, u, hpatched, hut, hlists⟩ := ht
    have hu : u.Named := hpatched.named (hg.namesFree hr) hs
    exact ⟨Store.named_of_bookkept (hg.listsFree hr) hut hu,
      Store.owned_patched hg hr hdistinct hs ho hpatched hut hlists⟩
  · rcases ht with rfl | ⟨patch, u, hpatched, -, hrefused⟩
    · exact ⟨hs, ho⟩
    · exact absurd (hrefused (hpatched.named (hg.namesFree hr) hs)) (not_refused henv e)

theorem keeps_owned (hdefaults : g.NoOwnerDefaults) {c : Command} (hc : c.isDeletion = false) :
    Service.Keeps env (fun s => s.Named ∧ s.Owned g) (c.service i r) := by
  refine keeps_service c (keeps_owned_createItem henv hg hr hdistinct hdefaults)
    (keeps_owned_update henv hg hr hdistinct) fun hd => ?_
  rw [hc] at hd
  cases hd

end

/-- After a history without deletions and without refused calls, each value of a stored record that is to
name an owner, and is not null, is the text of an owner's identity, and that owner lists the record. -/
theorem owner_lists_record {ds : List Schema.ResourceDeclaration} {i : Interface} {h : History}
    (hdistinct : Schema.Distinct ds) (hresolve : Schema.resolve ds = .ok i.registry)
    (hdefaults : i.registry.NoOwnerDefaults) (hon : h.On i.registry)
    (hkeeps : ∀ x ∈ h, x.command.isDeletion = false) (haccepts : ∀ x ∈ h, x.env.Accepts)
    {r : Resource} (hr : r ∈ i.registry.resources) {a : Attribute} (ha : a ∈ r.attributes)
    {owner field : String} (htype : a.type = .relation (.parent owner field))
    {c : Document} (hc : c ∈ (h.after i Store.empty).documents r.name) {v : Value}
    (hv : Members.get? c a.name = some v) (hnull : v ≠ .null) :
    ∃ child, Document.id? c = some child ∧
      ∃ d ∈ (h.after i Store.empty).documents owner, Document.id? d = some v.plainText ∧
        ∃ children, Members.get? d field = some (.array children) ∧ Value.string child ∈ children := by
  have hg : i.registry.Consistent := Schema.consistent_of_resolve hresolve
  have hnames := Schema.distinct_of_resolve hdistinct hresolve
  have hend : (h.after i Store.empty).Named ∧ (h.after i Store.empty).Owned i.registry := by
    refine History.after_of_keeps (P := fun s => s.Named ∧ s.Owned i.registry) (fun x hx => ?_)
      ⟨named_empty, fun _ _ _ _ _ _ c hc => by cases hc⟩
    exact keeps_owned (haccepts x hx) hg (hon x hx) hnames hdefaults (hkeeps x hx)
  obtain ⟨child, hchild⟩ := Option.isSome_iff_exists.mp (hend.1 r.name c hc)
  have hrel : (a.name, Relation.parent owner field) ∈ r.relations :=
    Resource.mem_relations.mpr ⟨a, ha, rfl, htype⟩
  have href : reference? (Members.get? c a.name) = some v.plainText := by
    rw [hv]
    cases v with
    | null => exact absurd rfl hnull
    | _ => rfl
  exact ⟨child, hchild, hend.2 r hr a.name owner field hrel c hc child v.plainText hchild href⟩

/-- A person joins a group and then becomes her own boss. -/
def ownBoss : History :=
  [Groups.newGroup "Ops",
    ⟨Groups.refusing none, Groups.person,
      .createItem (Groups.values [("name", .string "ann"), ("group", .string "ops")])⟩,
    ⟨Groups.refusing none, Groups.person, .update "ann" (Groups.values [("boss", .string "ann")])⟩]

theorem owner_lists_record_groups :
    Groups.interface.registry.NoOwnerDefaults ∧ ownBoss.On Groups.interface.registry ∧
      (∀ x ∈ ownBoss, x.command.isDeletion = false) ∧ (∀ x ∈ ownBoss, x.env.Accepts) ∧
      ∃ c ∈ (ownBoss.after Groups.interface Store.empty).documents "person",
        Members.get? c "boss" = some (.string "ann") ∧
        ∃ child, Document.id? c = some child ∧
          ∃ d ∈ (ownBoss.after Groups.interface Store.empty).documents "person",
            Document.id? d = some "ann" ∧
            ∃ children, Members.get? d "staff" = some (.array children) ∧
              Value.string child ∈ children := by
  have hdefaults : Groups.interface.registry.NoOwnerDefaults := by
    simp [Registry.NoOwnerDefaults, Groups.interface, Groups.group, Groups.person]
  have hon : ownBoss.On Groups.interface.registry := by
    simp [History.On, ownBoss, Groups.newGroup, Groups.interface]
  have hkeeps : ∀ x ∈ ownBoss, x.command.isDeletion = false := by
    simp [ownBoss, Groups.newGroup, Command.isDeletion]
  have haccepts : ∀ x ∈ ownBoss, x.env.Accepts := by
    simp [ownBoss, Groups.newGroup, Groups.accepts]
  have hboss : (((ownBoss.after Groups.interface Store.empty).documents "person").head?.bind
      fun c => (Members.get? c "boss").bind Value.string?) = some "ann" := by decide +kernel
  obtain ⟨c, hc, hvalue⟩ := Option.bind_eq_some_iff.mp hboss
  obtain ⟨v, hv, hs⟩ := Option.bind_eq_some_iff.mp hvalue
  obtain rfl : v = .string "ann" := by
    cases v with
    | string text => rw [Value.string?, Option.some.injEq] at hs; rw [hs]
    | _ => cases hs
  have hmem : c ∈ (ownBoss.after Groups.interface Store.empty).documents Groups.person.name :=
    List.mem_of_head? hc
  refine ⟨hdefaults, hon, hkeeps, haccepts, c, hmem, hv, ?_⟩
  exact owner_lists_record Groups.distinct_declarations Groups.resolve_declarations hdefaults hon hkeeps
    haccepts (r := Groups.person)
    (a := { name := "boss", type := .relation (.parent "person" "staff") })
    (List.mem_cons_of_mem _ (List.mem_cons_self ..))
    (List.mem_cons_of_mem _ (List.mem_cons_of_mem _ (List.mem_cons_self ..))) rfl hmem hv (by simp)

end Operation

end Hypermedia
