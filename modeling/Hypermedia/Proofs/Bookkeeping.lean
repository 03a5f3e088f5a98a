import Hypermedia.Operation.Write
import Hypermedia.Proofs.Registry
import Hypermedia.Proofs.Service

/-!
# Owner bookkeeping

What listing a record with its owners does to a store: every document stays in its place, and the
documents that changed are owners which got the record at the end of a list and a new time of change.
-/

namespace Hypermedia

open Store (Document)

/-- Two stores have related documents at the same places of each collection. -/
def Store.Related (R : String → Document → Document → Prop) (s t : Store) : Prop :=
  ∀ collection, List.Forall₂ (R collection) (s.documents collection) (t.documents collection)

/-- The list `field` of a document holds a record's identity. -/
def Store.Lists (s : Store) (collection id field child : String) : Prop :=
  ∃ d ∈ s.documents collection, Document.id? d = some id ∧
    ∃ xs, Members.get? d field = some (.array xs) ∧ Value.string child ∈ xs

namespace Operation

/-- An owner's document with one more child in a list, and with the time of that. -/
def withListed (field child : String) (t : Time.Instant) (d : Document) : Document :=
  let listed := Members.set d field (withChild (Members.get? d field) child)
  Members.set listed updatedAtField (.string (Record.bumped (Members.get? listed updatedAtField) t))

/-- An owner that is there gets a record into a list of its own. -/
def relist (owner id field child : String) : Service Unit := do
  let found ← Service.byId owner id none
  match found with
  | none => pure ()
  | some d =>
    let now ← Service.now
    Service.ask (.save owner (withListed field child now d))

/-- A record is listed with the owner that its values name through one relation, if they name one. -/
def listWith (values : Members) (child : String) : String × Relation → Service Unit
  | (name, .parent owner field) =>
    match reference? (Members.get? values name) with
    | none => pure ()
    | some id => relist owner id field child
  | _ => pure ()

/-- A document and what listing records of `r` with their owners makes of it. Each step lists a record
whose values name the document in an attribute that points at the list; `listed` tells which values go
with which record. -/
inductive Bookkept (r : Resource) (listed : Members → String → Prop) (collection : String) :
    Document → Document → Prop where
  | same (d : Document) : Bookkept r listed collection d d
  | step {d e : Document} {name field owner child : String} {values : Members} (t : Time.Instant)
      (before : Bookkept r listed collection d e) (source : listed values child)
      (relation : (name, Relation.parent collection field) ∈ r.relations)
      (named : reference? (Members.get? values name) = some owner)
      (found : Document.id? e = some owner) : Bookkept r listed collection d (withListed field child t e)

/-- Every owner in a store that the values name through these relations lists the record in another
store. -/
def OwnersList (values : Members) (child : String) (rels : List (String × Relation)) (s t : Store) :
    Prop :=
  ∀ name owner field id, (name, Relation.parent owner field) ∈ rels →
    reference? (Members.get? values name) = some id → s.Holds owner id → t.Lists owner id field child

/-! ### One list with one more child -/

theorem same_string_iff (v : Value) (s : String) : v.same (.string s) = true ↔ v = .string s := by
  cases v <;> simp [Value.same]

theorem withChild_holds (children : Option Value) (child : String) :
    ∃ ys, withChild children child = .array ys ∧ Value.string child ∈ ys ∧
      ∀ xs, children = some (.array xs) → ∀ x ∈ xs, x ∈ ys := by
  unfold withChild
  split
  · rename_i xs
    refine ⟨_, rfl, ?_, ?_⟩
    · split
      · rename_i hany
        obtain ⟨x, hx, hs⟩ := List.any_eq_true.mp hany
        exact (same_string_iff x child).mp hs ▸ hx
      · exact List.mem_append_right _ (List.mem_singleton.mpr rfl)
    · intro zs hz x hx
      cases hz
      split
      · exact hx
      · exact List.mem_append_left _ hx
  · rename_i hne
    exact ⟨_, rfl, List.mem_singleton.mpr rfl, fun xs hxs => absurd hxs (hne xs)⟩

section
variable {field child : String} {t : Time.Instant} {d : Document}

theorem get?_withListed {name : String} (hu : name ≠ updatedAtField) (hf : name ≠ field) :
    Members.get? (withListed field child t d) name = Members.get? d name := by
  rw [withListed, Members.get?_set, if_neg (Ne.symm hu), Members.get?_set, if_neg (Ne.symm hf)]

theorem get?_withListed_field (hu : field ≠ updatedAtField) :
    Members.get? (withListed field child t d) field =
      some (withChild (Members.get? d field) child) := by
  rw [withListed, Members.get?_set, if_neg (Ne.symm hu), Members.get?_set, if_pos rfl]

theorem id?_withListed (hf : field ≠ idField) :
    Document.id? (withListed field child t d) = Document.id? d := by
  rw [withListed, Document.id?_set (by decide), Document.id?_set hf]

end

/-! ### One owner after another -/

theorem appendToOwners_cons (values : Members) (child : String) (x : String × Relation)
    (rest : List (String × Relation)) :
    appendToOwners values child (x :: rest) =
      listWith values child x >>= fun _ => appendToOwners values child rest := by
  obtain ⟨name, relation⟩ := x
  cases relation with
  | children target => rfl
  | reference target => rfl
  | parent owner field =>
    simp only [appendToOwners, listWith]
    cases reference? (Members.get? values name) with
    | none => rfl
    | some id =>
      simp only [relist, Service.bind_assoc]
      refine congrArg (Service.byId owner id none >>= ·) (funext fun found => ?_)
      cases found with
      | none => rfl
      | some d => rfl

/-- An entry of the relations names an owner, or there is nothing to do for it. -/
theorem listWith_cases (values : Members) (child : String) (x : String × Relation) :
    (listWith values child x = pure () ∧ ∀ name owner field id, x = (name, .parent owner field) →
        reference? (Members.get? values name) ≠ some id) ∨
      ∃ name owner field id, x = (name, .parent owner field) ∧
        reference? (Members.get? values name) = some id ∧
        listWith values child x = relist owner id field child := by
  obtain ⟨name, relation⟩ := x
  cases relation with
  | children target => exact .inl ⟨rfl, fun _ _ _ _ he => by cases he⟩
  | reference target => exact .inl ⟨rfl, fun _ _ _ _ he => by cases he⟩
  | parent owner field =>
    cases hn : reference? (Members.get? values name) with
    | none =>
      refine .inl ⟨by rw [listWith, hn], fun name' _ _ id he hnamed => ?_⟩
      cases he
      cases hn.symm.trans hnamed
    | some id => exact .inr ⟨name, owner, field, id, rfl, hn, by rw [listWith, hn]⟩

/-! ### Documents under bookkeeping -/

theorem ne_of_free {field : String} (h : field ∉ Schema.reserved) :
    field ≠ idField ∧ field ≠ updatedAtField := by
  constructor <;> rintro rfl <;> exact h (by decide)

section
variable {r : Resource} {listed : Members → String → Prop} {collection : String} {d e f : Document}

theorem Bookkept.trans (h : Bookkept r listed collection d e) (h' : Bookkept r listed collection e f) :
    Bookkept r listed collection d f := by
  induction h' with
  | same => exact h
  | step t _ source relation named found ih => exact .step t ih source relation named found

theorem Bookkept.mono {more : Members → String → Prop} (hmore : ∀ values child, listed values child →
    more values child) (h : Bookkept r listed collection d e) : Bookkept r more collection d e := by
  induction h with
  | same => exact .same _
  | step t _ source relation named found ih => exact .step t ih (hmore _ _ source) relation named found

variable (hfree : r.ListsFree)

include hfree

theorem Bookkept.id?_eq (h : Bookkept r listed collection d e) : Document.id? e = Document.id? d := by
  induction h with
  | same => rfl
  | step t _ _ relation _ _ ih =>
    rw [id?_withListed (ne_of_free (hfree _ _ _ relation)).1, ih]

omit hfree in
/-- Bookkeeping leaves what is neither the time of change nor a list that the relations point at. -/
theorem Bookkept.get?_eq (h : Bookkept r listed collection d e) {name : String}
    (hu : name ≠ updatedAtField)
    (hn : ∀ pointer, (pointer, Relation.parent collection name) ∉ r.relations) :
    Members.get? e name = Members.get? d name := by
  induction h with
  | same => rfl
  | @step e pointer field owner child values t _ _ relation _ _ ih =>
    have hne : name ≠ field := by
      rintro rfl
      exact hn pointer relation
    rw [get?_withListed hu hne, ih]

omit hfree in
theorem Bookkept.get?_attribute {g : Registry} (hg : g.Consistent) (hr : r ∈ g.resources) {o : Resource}
    (ho : o ∈ g.resources) (hdistinct : (o.attributes.map (·.name)).Nodup) {a : Attribute}
    (ha : a ∈ o.attributes) (hc : a.type.isChildren = false) (h : Bookkept r listed o.name d e) :
    Members.get? e a.name = Members.get? d a.name := by
  have hu : a.name ≠ updatedAtField := (hg.namesFree ho).ne ha (by decide)
  exact h.get?_eq hu (hg.not_pointed_at hr ho hdistinct ha hc)

omit hfree in
theorem Bookkept.list_grows (h : Bookkept r listed collection d e) {name : String}
    (hu : name ≠ updatedAtField) {xs : List Value} (hx : Members.get? d name = some (.array xs)) :
    ∃ ys, Members.get? e name = some (.array ys) ∧ ∀ x ∈ xs, x ∈ ys := by
  induction h with
  | same => exact ⟨xs, hx, fun _ h => h⟩
  | @step e pointer field owner child values t _ _ _ _ _ ih =>
    obtain ⟨ys, hy, hsub⟩ := ih
    by_cases hf : name = field
    · subst hf
      obtain ⟨zs, hz, -, hgrow⟩ := withChild_holds (Members.get? e name) child
      refine ⟨zs, ?_, fun x hx => hgrow ys hy x (hsub x hx)⟩
      rw [get?_withListed_field hu, hz]
    · exact ⟨ys, by rw [get?_withListed hu hf, hy], hsub⟩

end

end Operation

/-! ### Stores under bookkeeping -/

namespace Store

section
variable {r : Resource} {listed : Members → String → Prop} {s t u : Store}

theorem bookkept_refl (s : Store) : s.Related (Operation.Bookkept r listed) s :=
  fun _ => List.forall₂_same.mpr fun d _ => .same d

theorem bookkept_trans (h : s.Related (Operation.Bookkept r listed) t)
    (h' : t.Related (Operation.Bookkept r listed) u) : s.Related (Operation.Bookkept r listed) u :=
  fun c => forall₂_trans (R := Operation.Bookkept r listed c) (fun _ _ _ h h' => h.trans h') (h c) (h' c)

variable (hfree : r.ListsFree)

include hfree

theorem ids_of_bookkept (h : s.Related (Operation.Bookkept r listed) t) (collection : String) :
    (t.documents collection).map Document.id? = (s.documents collection).map Document.id? :=
  forall₂_map_eq (fun _ _ hb => hb.id?_eq hfree) (h collection)

theorem named_of_bookkept (h : s.Related (Operation.Bookkept r listed) t) (hs : s.Named) : t.Named := by
  intro collection e he
  obtain ⟨d, hd, hb⟩ := forall₂_mem_right (h collection) he
  rw [hb.id?_eq hfree]
  exact hs collection d hd

theorem holds_of_bookkept (h : s.Related (Operation.Bookkept r listed) t) {collection id : String}
    (hs : s.Holds collection id) : t.Holds collection id := by
  obtain ⟨d, hd, hid⟩ := hs
  obtain ⟨e, he, hb⟩ := forall₂_mem_left (h collection) hd
  exact ⟨e, he, by rw [hb.id?_eq hfree, hid]⟩

theorem lists_of_bookkept (h : s.Related (Operation.Bookkept r listed) t)
    {collection id field child : String} (hf : field ≠ updatedAtField) (hs : s.Lists collection id field child) :
    t.Lists collection id field child := by
  obtain ⟨d, hd, hid, xs, hx, hc⟩ := hs
  obtain ⟨e, he, hb⟩ := forall₂_mem_left (h collection) hd
  obtain ⟨ys, hy, hsub⟩ := hb.list_grows hf hx
  exact ⟨e, he, by rw [hb.id?_eq hfree, hid], ys, hy, hsub _ hc⟩

end

theorem related_withDocuments {R : String → Document → Document → Prop} (hR : ∀ c d, R c d d) (s : Store)
    {collection : String} {ds : List Document}
    (h : List.Forall₂ (R collection) (s.documents collection) ds) :
    s.Related R (s.withDocuments collection ds) := by
  intro c
  rw [documents_withDocuments]
  split
  · rename_i he
    subst he
    exact h
  · exact List.forall₂_same.mpr fun d _ => hR c d

end Store

namespace Operation

/-- A document that was read goes back to its place changed, unless it has no identity. -/
theorem ends_saveRead {env : Program.Environment} {s : Store} {collection id : String} {d e : Document}
    {R : String → Document → Document → Prop} (hR : ∀ c x, R c x x)
    (hd : s.called collection id = some d) (hid : Document.id? e = Document.id? d)
    (hde : Document.id? d = some id → R collection d e) :
    Service.Ends env s (Service.ask (.save collection e))
      (fun _ t => s.Related R t ∧ Document.id? d = some id ∧ e ∈ t.documents collection)
      (fun err t => t = s ∧ (s.Named → env.Refused err)) := by
  refine Service.ends_ask (fun err he => ⟨rfl, fun _ => he⟩) ?_
  simp only [Call.perform]
  cases hx : Document.id? d with
  | none =>
    rw [Store.save_of_no_id s collection (hid.trans hx)]
    refine ⟨rfl, fun hs => ?_⟩
    have := hs collection d (Store.mem_of_called hd)
    rw [hx] at this
    cases this
  | some x =>
    have hxid : Document.id? d = some id :=
      Document.id?_eq_of_isFoundBy (Store.isFoundBy_of_called hd) (by rw [hx]; rfl)
    rw [Store.save_of_id? s collection (hid.trans hxid)]
    obtain ⟨hplace, hfind⟩ := Store.place_of_find? hd hxid e
    rw [hplace]
    refine ⟨Store.related_withDocuments hR s (Store.forall₂_changeFirst (hR _) hfind (hde hxid)),
      hx ▸ hxid, ?_⟩
    rw [Store.documents_withDocuments, if_pos rfl]
    exact Store.mem_changeFirst_of_find? hfind

section
variable {env : Program.Environment} {r : Resource} {listed : Members → String → Prop} {s : Store}
variable (hfree : r.ListsFree)

include hfree

/-- An owner that was read goes back to its place with one more child, unless it has no identity. -/
theorem ends_saveListed {name owner field id : String} {d : Document} {values : Members}
    {child : String} (hlisted : listed values child) (now : Time.Instant)
    (hrel : (name, Relation.parent owner field) ∈ r.relations)
    (hnamed : reference? (Members.get? values name) = some id) (hd : s.called owner id = some d) :
    Service.Ends env s (Service.ask (.save owner (withListed field child now d)))
      (fun _ t => s.Related (Bookkept r listed) t ∧ t.Lists owner id field child)
      (fun e t => s.Related (Bookkept r listed) t ∧ (s.Named → env.Refused e)) := by
  obtain ⟨hi, hu⟩ := ne_of_free (hfree _ _ _ hrel)
  have hid : Document.id? (withListed field child now d) = Document.id? d := id?_withListed hi
  refine Service.ends_mono (ends_saveRead (R := Bookkept r listed) (fun _ => Bookkept.same) hd hid
    fun hxid => Bookkept.step now (.same d) hlisted hrel hnamed hxid) ?_ ?_
  · rintro _ t ⟨hst, hxid, hmem⟩
    obtain ⟨ys, hy, hchild, -⟩ := withChild_holds (Members.get? d field) child
    refine ⟨hst, _, hmem, hid.trans hxid, ys, ?_, hchild⟩
    rw [get?_withListed_field hu, hy]
  · rintro e t ⟨rfl, he⟩
    exact ⟨Store.bookkept_refl t, he⟩

/-- Listing with one owner: only the owner changes, it lists the record afterwards if it is there, and
nothing but a refused call or an owner without identity makes it fail. -/
theorem ends_relist {name owner field id : String} {values : Members} {child : String}
    (hlisted : listed values child) (hrel : (name, Relation.parent owner field) ∈ r.relations)
    (hnamed : reference? (Members.get? values name) = some id) :
    Service.Ends env s (relist owner id field child)
      (fun _ t => s.Related (Bookkept r listed) t ∧ (s.Holds owner id → t.Lists owner id field child))
      (fun e t => s.Related (Bookkept r listed) t ∧ (s.Named → env.Refused e)) := by
  refine Service.ends_byId_bind (fun e he => ⟨Store.bookkept_refl s, fun _ => he⟩) ?_
  cases hd : s.called owner id with
  | none =>
    exact Service.ends_pure ⟨Store.bookkept_refl s, fun hs => absurd hs (Store.not_holds_of_called hd)⟩
  | some d =>
    refine Service.ends_now_bind fun now => ?_
    exact Service.ends_mono (ends_saveListed hfree hlisted now hrel hnamed hd)
      (fun _ _ ht => ⟨ht.1, fun _ => ht.2⟩) (fun _ _ ht => ht)

theorem ends_listWith {values : Members} {child : String} (hlisted : listed values child)
    {x : String × Relation} (hx : x ∈ r.relations) :
    Service.Ends env s (listWith values child x)
      (fun _ t => s.Related (Bookkept r listed) t ∧ OwnersList values child [x] s t)
      (fun e t => s.Related (Bookkept r listed) t ∧ (s.Named → env.Refused e)) := by
  obtain ⟨heq, hno⟩ | ⟨name, owner, field, id, rfl, hnamed, heq⟩ := listWith_cases values child x
  · rw [heq]
    refine Service.ends_pure ⟨Store.bookkept_refl s, fun name owner field id hm hnamed _ => ?_⟩
    exact absurd hnamed (hno name owner field id (List.mem_singleton.mp hm).symm)
  · rw [heq]
    refine Service.ends_mono (ends_relist hfree hlisted hx hnamed) ?_ (fun _ _ ht => ht)
    rintro _ t ⟨hst, hlists⟩
    refine ⟨hst, fun name' owner' field' id' hm hnamed' hs => ?_⟩
    cases List.mem_singleton.mp hm
    cases hnamed.symm.trans hnamed'
    exact hlists hs

/-- Listing a record with its owners: only owners change, each owner that is there lists the record
afterwards, and nothing but a refused call or an owner without identity makes it fail. -/
theorem ends_appendToOwners {values : Members} {child : String} (hlisted : listed values child)
    {rels : List (String × Relation)} (hrels : ∀ x ∈ rels, x ∈ r.relations) :
    Service.Ends env s (appendToOwners values child rels)
      (fun _ t => s.Related (Bookkept r listed) t ∧ OwnersList values child rels s t)
      (fun e t => s.Related (Bookkept r listed) t ∧ (s.Named → env.Refused e)) := by
  induction rels generalizing s with
  | nil =>
    refine Service.ends_pure ⟨Store.bookkept_refl s, ?_⟩
    intro name owner field id hm
    cases hm
  | cons x rest ih =>
    obtain ⟨hx, hrest⟩ := List.forall_mem_cons.mp hrels
    rw [appendToOwners_cons]
    refine Service.ends_bind (ends_listWith hfree hlisted hx) ?_
    rintro _ t ⟨hst, hfirst⟩
    refine Service.ends_mono (ih hrest) (fun _ v hv => ?_) (fun e v hv => ?_)
    · refine ⟨Store.bookkept_trans hst hv.1, ?_⟩
      intro name owner field id hm hnamed hs
      rcases List.mem_cons.mp hm with rfl | hm
      · exact Store.lists_of_bookkept hfree hv.1 (ne_of_free (hfree _ _ _ hx)).2
          (hfirst name owner field id (List.mem_singleton.mpr rfl) hnamed hs)
      · exact hv.2 name owner field id hm hnamed (Store.holds_of_bookkept hfree hst hs)
    · exact ⟨Store.bookkept_trans hst hv.1, fun hs => hv.2 (Store.named_of_bookkept hfree hst hs)⟩

end

end Operation

end Hypermedia
