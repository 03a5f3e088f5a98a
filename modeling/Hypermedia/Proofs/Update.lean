import Hypermedia.Proofs.Create

/-!
# Updating one record

An update merges a patch into the record of its identity and then lists the record with the owners that
the patch names. The patch sets attributes that list no children, and what the store keeps of a record
by itself: the time of change and the searchable text.
-/

namespace Hypermedia

open Store (Document)

/-! ### What a patch sets -/

theorem Record.mem_keys_patch {r : Resource} {params : Members} {b : String}
    (h : b ∈ Members.keys (Record.patch r params)) :
    ∃ a ∈ r.attributes, a.type.isChildren = false ∧ a.name = b := by
  obtain ⟨m, hm, rfl⟩ := List.mem_map.mp h
  obtain ⟨a, ha, hv⟩ := List.mem_filterMap.mp hm
  obtain ⟨v, -, rfl⟩ := Option.map_eq_some_iff.mp hv
  obtain ⟨ha, hc⟩ := List.mem_filter.mp ha
  exact ⟨a, ha, by simpa using hc, rfl⟩

theorem Record.patch_eq (r : Resource) (params : Members) :
    Record.patch r params = (r.attributes.filter fun a => !a.type.isChildren).filterMap fun a =>
      ((Members.get? params a.name).map (Record.stored a.type)).map fun v => (a.name, v) := by
  simp only [Record.patch, Option.map_map, Function.comp_def]

section
variable {r : Resource} (hdistinct : (r.attributes.map (·.name)).Nodup)

include hdistinct

theorem Record.nodup_keys_patch (params : Members) : (Members.keys (Record.patch r params)).Nodup := by
  rw [Record.patch_eq]
  have hs : ((r.attributes.filter fun a => !a.type.isChildren).map (·.name)).Nodup :=
    (List.filter_sublist.map _).nodup hdistinct
  exact (Members.keys_filterMap_sublist _ _ _).nodup hs

theorem Record.get?_patch (params : Members) {a : Attribute} (ha : a ∈ r.attributes)
    (hc : a.type.isChildren = false) :
    Members.get? (Record.patch r params) a.name =
      (Members.get? params a.name).map (Record.stored a.type) := by
  rw [Record.patch_eq]
  have hs : ((r.attributes.filter fun a => !a.type.isChildren).map (·.name)).Nodup :=
    (List.filter_sublist.map _).nodup hdistinct
  have hm : a ∈ r.attributes.filter fun a => !a.type.isChildren :=
    List.mem_filter.mpr ⟨ha, by simp [hc]⟩
  exact Members.get?_filterMap (·.name)
    (fun a => (Members.get? params a.name).map (Record.stored a.type)) hs hm

end

theorem Record.map_stored_relation (relation : Relation) (v : Option Value) :
    v.map (Record.stored (.relation relation)) = v := by
  cases v with
  | none => rfl
  | some v => rw [Option.map_some, Record.stored_relation]

namespace Operation

section
variable {r : Resource} {params : Members} {current : Document} {now : Time.Instant}

theorem mem_keys_completePatch {b : String}
    (h : b ∈ Members.keys (completePatch r params current now)) :
    (∃ a ∈ r.attributes, a.type.isChildren = false ∧ a.name = b) ∨ b = updatedAtField ∨
      b = searchField := by
  have hset : ∀ v, b ∈ Members.keys (Members.set (Record.patch r params) updatedAtField v) →
      (∃ a ∈ r.attributes, a.type.isChildren = false ∧ a.name = b) ∨ b = updatedAtField ∨
        b = searchField := by
    intro v hb
    rcases Members.mem_keys_set hb with hp | hu
    · exact .inl (Record.mem_keys_patch hp)
    · exact .inr (.inl hu)
  unfold completePatch at h
  dsimp only at h
  split at h
  · rcases Members.mem_keys_set h with h | hq
    · exact hset _ h
    · exact .inr (.inr hq)
  · exact hset _ h

theorem nodup_keys_completePatch (h : (r.attributes.map (·.name)).Nodup) :
    (Members.keys (completePatch r params current now)).Nodup := by
  have hp := Members.nodup_keys_set updatedAtField
    (.string (Record.bumped (Members.get? current updatedAtField) now)) (Record.nodup_keys_patch h params)
  unfold completePatch
  dsimp only
  split
  · exact Members.nodup_keys_set _ _ hp
  · exact hp

theorem get?_completePatch {name : String} (hu : name ≠ updatedAtField) (hq : name ≠ searchField) :
    Members.get? (completePatch r params current now) name =
      Members.get? (Record.patch r params) name := by
  unfold completePatch
  dsimp only
  split
  · rw [Members.get?_set, if_neg (Ne.symm hq), Members.get?_set, if_neg (Ne.symm hu)]
  · rw [Members.get?_set, if_neg (Ne.symm hu)]

theorem get?_completePatch_updatedAt :
    Members.get? (completePatch r params current now) updatedAtField =
      some (.string (Record.bumped (Members.get? current updatedAtField) now)) := by
  unfold completePatch
  dsimp only
  split
  · rw [Members.get?_set, if_neg (by decide), Members.get?_set, if_pos rfl]
  · rw [Members.get?_set, if_pos rfl]

theorem get?_completePatch_attribute (hdistinct : (r.attributes.map (·.name)).Nodup)
    (hnames : r.NamesFree) {a : Attribute} (ha : a ∈ r.attributes) (hc : a.type.isChildren = false) :
    Members.get? (completePatch r params current now) a.name =
      (Members.get? params a.name).map (Record.stored a.type) := by
  rw [get?_completePatch (hnames.ne ha (by decide)) (hnames.ne ha (by decide)),
    Record.get?_patch hdistinct params ha hc]

/-- After a patch an attribute has the stored form of its supplied value, or what it had before. -/
theorem get?_merge_completePatch (hdistinct : (r.attributes.map (·.name)).Nodup)
    (hnames : r.NamesFree) {a : Attribute} (ha : a ∈ r.attributes) (hc : a.type.isChildren = false)
    (d : Document) :
    Members.get? (Members.merge d (completePatch r params current now)) a.name =
      ((Members.get? params a.name).map (Record.stored a.type)).or (Members.get? d a.name) := by
  rw [Members.get?_merge d (nodup_keys_completePatch hdistinct),
    get?_completePatch_attribute hdistinct hnames ha hc]

theorem children_notMem_completePatch (h : (r.attributes.map (·.name)).Nodup) (hfree : r.NamesFree)
    {a : Attribute} (ha : a ∈ r.attributes) (hc : a.type.isChildren = true) :
    a.name ∉ Members.keys (completePatch r params current now) := by
  intro hm
  rcases mem_keys_completePatch hm with ⟨b, hb, hbc, he⟩ | he | he
  · have hab : b = a := List.inj_on_of_nodup_map h hb ha he
    rw [hab, hc] at hbc
    cases hbc
  · exact hfree a ha (he ▸ by decide)
  · exact hfree a ha (he ▸ by decide)

theorem reserved_notMem_completePatch (hfree : r.NamesFree) {name : String} (hname : name ∈ Schema.reserved)
    (hu : name ≠ updatedAtField) (hq : name ≠ searchField) :
    name ∉ Members.keys (completePatch r params current now) := by
  intro hm
  rcases mem_keys_completePatch hm with ⟨a, ha, -, he⟩ | he | he
  · exact hfree.ne ha hname he
  · exact hu he
  · exact hq he

theorem id?_merge_completePatch (hfree : r.NamesFree) (d : Document) :
    Document.id? (Members.merge d (completePatch r params current now)) = Document.id? d := by
  rw [Document.id?, Members.get?_merge_of_notMem d _
    (reserved_notMem_completePatch hfree (by decide) (by decide) (by decide))]
  rfl

end

/-- A record has got its patch: the record was there, no unique attribute was supplied, every reference
that was supplied names a record, and the patch is merged in. -/
structure Patched (r : Resource) (params : Members) (id : String) (patch : Document) (s u : Store) :
    Prop where
  references : ReferencesHold params r.relations s
  unique : Record.checkUnique r params = []
  patch_eq : ∃ current now, s.called r.name id = some current ∧
    patch = completePatch r params current now
  store_eq : u = s.withDocuments r.name
    (Store.changeFirst (Document.isFoundBy id) (Members.merge · patch) (s.documents r.name))

/-- The values that an update supplies: none for attributes that list children. -/
def updateParams (r : Resource) (request : Filter.Request) : Members :=
  request.params (r.attributes.filter fun a => !a.type.isChildren)

section
variable {env : Program.Environment} {i : Interface} {r : Resource} {s : Store} {id : String}

section
variable {params : Members} {patch : Document} {u : Store}

/-- Only the record of the identity gets the patch. -/
theorem Patched.related (h : Patched r params id patch s u) :
    s.Related (fun c d e => e = d ∨ c = r.name ∧ Document.isFoundBy id d = true ∧
      e = Members.merge d patch) u := by
  obtain ⟨current, now, hd, -⟩ := h.patch_eq
  rw [h.store_eq]
  refine Store.related_withDocuments (fun _ _ => .inl rfl) s ?_
  exact Store.forall₂_changeFirst (fun _ => .inl rfl) hd
    (.inr ⟨rfl, Store.isFoundBy_of_called hd, rfl⟩)

theorem Patched.id?_eq (h : Patched r params id patch s u) (hfree : r.NamesFree) :
    ∀ d : Document, Document.id? (Members.merge d patch) = Document.id? d := by
  obtain ⟨current, now, -, rfl⟩ := h.patch_eq
  exact id?_merge_completePatch hfree

theorem Patched.holds (h : Patched r params id patch s u) (hfree : r.NamesFree)
    {collection other : String} (hs : s.Holds collection other) : u.Holds collection other := by
  obtain ⟨d, hd, hid⟩ := hs
  obtain ⟨e, he, hde⟩ := forall₂_mem_left (h.related collection) hd
  refine ⟨e, he, ?_⟩
  rcases hde with rfl | ⟨-, -, rfl⟩
  · exact hid
  · rw [h.id?_eq hfree, hid]

theorem Patched.ids (h : Patched r params id patch s u) (hfree : r.NamesFree) (collection : String) :
    (u.documents collection).map Document.id? = (s.documents collection).map Document.id? := by
  refine forall₂_map_eq (fun d e he => ?_) (h.related collection)
  rcases he with rfl | ⟨-, -, rfl⟩
  · rfl
  · exact h.id?_eq hfree d

end

/-- An update that succeeds has merged its patch and listed the record with the owners that the patch
names. One that fails has changed nothing, or has done a part of that. -/
theorem ends_update (hlists : r.ListsFree) {request : Filter.Request} :
    Service.Ends env s (update i r id request)
      (fun _ t => ∃ patch u, Patched r (updateParams r request) id patch s u ∧
        u.Related (Bookkept r fun values child => values = patch ∧ child = id) t ∧
        OwnersList patch id r.relations u t)
      (fun e t => t = s ∨ ∃ patch u, Patched r (updateParams r request) id patch s u ∧
        u.Related (Bookkept r fun values child => values = patch ∧ child = id) t ∧
        (u.Named → env.Refused e)) := by
  unfold update
  refine Service.ends_require_bind (.inl rfl) fun hunique => ?_
  refine Service.ends_require_bind (.inl rfl) fun hcheck => ?_
  refine Service.ends_bind (Service.ends_mono ends_checkRelated (fun _ _ h => h)
    (fun _ _ h => .inl h.1)) ?_
  rintro _ t ⟨rfl, hrefs⟩
  refine Service.ends_byId_bind (fun _ _ => .inl rfl) ?_
  cases hd : t.called r.name id with
  | none => exact Service.ends_fail (.inl rfl)
  | some current =>
    refine Service.ends_now_bind fun now => ?_
    refine Service.ends_bind (R := fun updated u => updated.isSome = true ∧
      Patched r (updateParams r request) id
        (completePatch r (updateParams r request) current now) t u) ?_ ?_
    · refine Service.ends_ask (fun _ _ => .inl rfl) ?_
      simp only [Call.perform, Store.patchFirst_byId, hd]
      exact ⟨rfl, hrefs, hunique, ⟨current, now, hd, rfl⟩, rfl⟩
    · rintro updated u ⟨hsome, hpatched⟩
      rw [if_pos hsome]
      exact Service.ends_mono (ends_appendToOwners hlists ⟨rfl, rfl⟩ fun _ hx => hx)
        (fun _ v hv => ⟨_, u, hpatched, hv⟩) (fun e v hv => .inr ⟨_, u, hpatched, hv⟩)

/-- An update whose values do not pass the check fails and changes nothing, so the values of a patch
have passed it. -/
theorem keeps_checked_update (hlists : r.ListsFree) {P : Store → Prop}
    (hpatched : ∀ s u params patch, P s → i.validator r params true = [] →
      Patched r params id patch s u → P u)
    (hbookkept : ∀ u t listed, P u → u.Related (Bookkept r listed) t → P t)
    (request : Filter.Request) : Service.Keeps env P (update i r id request) := by
  intro s hs
  by_cases hcheck : i.validator r (updateParams r request) true = []
  · refine Service.ends_mono (ends_update hlists) (fun _ t ht => ?_) (fun _ t ht => ?_)
    · obtain ⟨patch, u, hpatch, hut, -⟩ := ht
      exact hbookkept u t _ (hpatched s u _ patch hs hcheck hpatch) hut
    · rcases ht with rfl | ⟨patch, u, hpatch, hut, -⟩
      · exact hs
      · exact hbookkept u t _ (hpatched s u _ patch hs hcheck hpatch) hut
  · unfold update
    refine Service.ends_require_bind hs fun _ => ?_
    exact Service.ends_require_bind hs fun h => absurd h hcheck

theorem keeps_update (hlists : r.ListsFree) {P : Store → Prop}
    (hpatched : ∀ s u params patch, P s → Patched r params id patch s u → P u)
    (hbookkept : ∀ u t listed, P u → u.Related (Bookkept r listed) t → P t)
    (request : Filter.Request) : Service.Keeps env P (update i r id request) :=
  keeps_checked_update hlists (fun s u params patch hs _ => hpatched s u params patch hs) hbookkept request

end

end Operation

end Hypermedia
