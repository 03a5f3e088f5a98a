import Hypermedia.Proofs.Bookkeeping
import Hypermedia.Proofs.Identity

/-!
# Creating records

A create of one record first checks and then writes. What it has checked by its first write is
`Admitted`; what a create that succeeds has written is `Entered`. One that fails has changed nothing, or
was admitted and has changed owners only.
-/

namespace Hypermedia

open Store (Document)

/-! ### New records -/

theorem Record.id?_new (r : Resource) (params : Members) (id now : String) :
    Document.id? (Record.new r params id now) = some id := rfl

theorem Record.get?_new {r : Resource} (hdistinct : (r.attributes.map (·.name)).Nodup)
    (hnames : r.NamesFree) (params : Members) (id now : String) {a : Attribute}
    (ha : a ∈ r.attributes) :
    Members.get? (Record.new r params id now) a.name = some (Record.initial params a) := by
  have hid : idField ≠ a.name := Ne.symm (hnames.ne ha (by decide))
  have hmap := Members.get?_map (·.name) (Record.initial params) hdistinct ha
  simp only [Record.new, Record.body, List.cons_append, Members.get?_cons, if_neg hid,
    Members.get?_append, hmap]
  rfl

/-- What a new record has under the names that the store keeps for itself. -/
theorem Record.get?_new_reserved {r : Resource} (hnames : r.NamesFree) (params : Members) (id now : String)
    {name : String} (hname : name ∈ Schema.reserved) (hid : idField ≠ name) :
    Members.get? (Record.new r params id now) name =
      Members.get? [(createdAtField, .string now), (updatedAtField, .string now),
        (searchField, .string (Record.searchText r (Record.body r params id now)))] name := by
  have hnone : Members.get? (r.attributes.map fun a => (a.name, Record.initial params a)) name = none := by
    rw [Members.get?_eq_none_iff]
    intro hm
    simp only [Members.keys, List.map_map, Function.comp_def] at hm
    obtain ⟨a, ha, he⟩ := List.mem_map.mp hm
    exact hnames.ne ha hname he
  simp only [Record.new, Record.body, List.cons_append, List.append_assoc, Members.get?_cons, if_neg hid,
    Members.get?_append, hnone]
  rfl

theorem Record.stored_relation (relation : Relation) (v : Value) :
    Record.stored (.relation relation) v = v := by
  cases v <;> rfl

/-- A new record names the owner that was supplied, or the one of the default. -/
theorem Record.get?_new_parent {r : Resource} (hdistinct : (r.attributes.map (·.name)).Nodup)
    (hnames : r.NamesFree) (params : Members) (id now : String) {a : Attribute}
    (ha : a ∈ r.attributes) {owner field : String} (htype : a.type = .relation (.parent owner field)) :
    Members.get? (Record.new r params id now) a.name =
      some ((Members.get? params a.name).getD (a.default.getD .null)) := by
  rw [Record.get?_new hdistinct hnames params id now ha, Record.initial,
    Attribute.isChildren_of_parent htype, if_neg (by decide), htype]
  cases Members.get? params a.name with
  | none => rfl
  | some v => simp only [Record.stored_relation, Option.getD_some]

namespace Operation

open Hypermedia.Filter (Request)

/-- Every reference that the values supply names a record that is there. -/
def ReferencesHold (params : Members) (rels : List (String × Relation)) (s : Store) : Prop :=
  ∀ name relation id, (name, relation) ∈ rels → relation.isChildren = false →
    reference? (Members.get? params name) = some id → ∃ d, s.called relation.target id = some d

/-- The failure for the first reference that the values supply and that names no record. -/
def missing? (s : Store) (params : Members) : List (String × Relation) → Option ServiceError
  | [] => none
  | (field, relation) :: rest =>
    match if relation.isChildren then none else reference? (Members.get? params field) with
    | none => missing? s params rest
    | some id =>
      if (s.called relation.target id).isSome then missing? s params rest
      else some (.relatedMissing field
        ("Specified ID (" ++ id ++ ") does not exist in " ++ relation.target))

/-- What the checks of a create find wrong with the values: a missing reference, or a report. -/
def objection? (i : Interface) (r : Resource) (params : Members) (s : Store) : Option ServiceError :=
  match missing? s params r.relations, i.validator r params false with
  | some e, _ => some e
  | none, [] => none
  | none, report => some (.validationFailed report)

/-- An identity that a new record may get: the one that its unique values give, or a drawn one. -/
def MayName (r : Resource) (params : Members) (id : String) : Prop :=
  Identity.derived? r.uniqueFields params = some id ∨
    r.uniqueFields = [] ∧ ∃ t x, id = Identity.drawn t x

/-- The values may become a record: references and values have passed their checks, and the identity is
not in use. -/
structure Admitted (i : Interface) (r : Resource) (params : Members) (id : String) (s : Store) :
    Prop where
  references : ReferencesHold params r.relations s
  checked : i.validator r params false = []
  identity : MayName r params id
  fresh : s.called r.name id = none

/-- The values and the identity of a record that is made of supplied values. -/
def NewRecord (r : Resource) (params : Members) (id : String) (values : Members) (child : String) :
    Prop :=
  child = id ∧ ∃ now, values = Record.new r params id now

/-- A record was entered: its owners list it, and it stands at the end of its collection. -/
def Entered (r : Resource) (params : Members) (id now : String) (s t : Store) : Prop :=
  ∃ u, s.Related (Bookkept r (NewRecord r params id)) u ∧
    OwnersList (Record.new r params id now) id r.relations s u ∧
    t = u.withDocuments r.name (u.documents r.name ++ [Record.new r params id now])

/-- What a create does after its checks. -/
def enter (i : Interface) (r : Resource) (params : Members) : Service Created := do
  let id ← newId r params
  let taken ← Service.byId r.name id (some [idField])
  if taken.isSome then
    Service.fail (.conflict ("duplicate id '" ++ id ++ "' exists in " ++ r.name))
  else
    let now ← Service.now
    let record := Record.new r params id now.text
    appendToOwners record id r.relations
    Service.ask (.save r.name record)
    pure ⟨id, i.href r.plural id⟩

theorem createItem_eq (i : Interface) (r : Resource) (request : Request) :
    createItem i r request =
      checkItem i r request >>= fun _ => enter i r (request.params r.attributes) := by
  simp only [checkItem, Service.bind_assoc]
  rfl

section
variable {env : Program.Environment} {i : Interface} {r : Resource} {s : Store} {params : Members}

/-! ### Checks -/

theorem missing?_eq_none_iff {rels : List (String × Relation)} :
    missing? s params rels = none ↔ ReferencesHold params rels s := by
  induction rels with
  | nil => simp [missing?, ReferencesHold]
  | cons x rest ih =>
    obtain ⟨field, relation⟩ := x
    -- What the first relation asks for, beside what the others do.
    have hcons : ReferencesHold params ((field, relation) :: rest) s ↔
        (∀ id, relation.isChildren = false → reference? (Members.get? params field) = some id →
          ∃ d, s.called relation.target id = some d) ∧ ReferencesHold params rest s := by
      constructor
      · intro h
        exact ⟨fun id => h field relation id (List.mem_cons_self ..),
          fun name relation' id hm => h name relation' id (List.mem_cons_of_mem _ hm)⟩
      · rintro ⟨hone, hrest⟩ name relation' id hm hc hn
        rcases List.mem_cons.mp hm with he | hm
        · cases he
          exact hone id hc hn
        · exact hrest name relation' id hm hc hn
    rw [hcons, ← ih]
    cases hc : relation.isChildren with
    | true => simp [missing?, hc]
    | false =>
      cases hn : reference? (Members.get? params field) with
      | none => simp [missing?, hc, hn]
      | some id =>
        cases hd : s.called relation.target id with
        | none => simp [missing?, hc, hn, hd]
        | some d => simp [missing?, hc, hn, hd]

theorem objection?_eq_none_iff : objection? i r params s = none ↔
    ReferencesHold params r.relations s ∧ i.validator r params false = [] := by
  rw [← missing?_eq_none_iff]
  unfold objection?
  cases missing? s params r.relations with
  | some e => simp
  | none => cases i.validator r params false <;> simp

theorem ends_checkRelated {rels : List (String × Relation)} :
    Service.Ends env s (checkRelated params rels) (fun _ t => t = s ∧ ReferencesHold params rels s)
      (fun e t => t = s ∧ (missing? s params rels = some e ∨ env.Refused e)) := by
  simp only [← missing?_eq_none_iff]
  induction rels with
  | nil => exact Service.ends_pure ⟨rfl, rfl⟩
  | cons x rest ih =>
    obtain ⟨field, relation⟩ := x
    simp only [checkRelated, missing?]
    cases if relation.isChildren then none else reference? (Members.get? params field) with
    | none => exact ih
    | some id =>
      refine Service.ends_byId_bind (fun _ he => ⟨rfl, .inr he⟩) ?_
      dsimp only
      cases s.called relation.target id with
      | none => exact Service.ends_fail ⟨rfl, .inl rfl⟩
      | some d => exact ih

theorem ends_checkItem {request : Request} :
    Service.Ends env s (checkItem i r request)
      (fun _ t => t = s ∧ ReferencesHold (request.params r.attributes) r.relations s ∧
        i.validator r (request.params r.attributes) false = [])
      (fun e t => t = s ∧
        (objection? i r (request.params r.attributes) s = some e ∨ env.Refused e)) := by
  unfold checkItem
  refine Service.ends_bind (Service.ends_mono ends_checkRelated (fun _ _ h => h) (fun e t h => ?_)) ?_
  · refine ⟨h.1, h.2.imp_left fun hm => ?_⟩
    simp only [objection?, hm]
  · rintro _ t ⟨rfl, hrefs⟩
    unfold Service.require
    split
    · exact Service.ends_pure ⟨rfl, hrefs, List.isEmpty_iff.mp (by assumption)⟩
    · rename_i hreport
      refine Service.ends_fail ⟨rfl, .inl ?_⟩
      simp only [objection?, missing?_eq_none_iff.mpr hrefs]
      split
      · rename_i he
        cases he
      · rename_i he
        exact absurd (List.isEmpty_iff.mpr he) hreport
      · rfl

/-! ### Identity and entry -/

theorem ends_newId : Service.Ends env s (newId r params) (fun id t => t = s ∧ MayName r params id)
    (fun _ _ => False) := by
  unfold newId
  cases hd : Identity.derived? r.uniqueFields params with
  | some id => exact Service.ends_pure ⟨rfl, .inl hd⟩
  | none =>
    refine Service.ends_now_bind fun t => Service.ends_draw_bind fun x => ?_
    have hno : r.uniqueFields = [] := by
      by_contra hne
      obtain ⟨id, hid⟩ := Identity.derived?_isSome hne params
      rw [hd] at hid
      cases hid
    exact Service.ends_pure ⟨rfl, .inr ⟨hno, t, x, rfl⟩⟩

theorem MayName.fit {id : String} (h : MayName r params id) : Identity.Fit id := by
  rcases h with h | ⟨-, t, x, rfl⟩
  · exact Identity.fit_derived? h
  · exact Identity.fit_drawn t x

theorem MayName.derived {id : String} (h : MayName r params id) (hu : r.uniqueFields ≠ []) :
    Identity.derived? r.uniqueFields params = some id := by
  rcases h with h | ⟨hn, -⟩
  · exact h
  · exact absurd hn hu

theorem ends_saveNew (hfree : r.ListsFree) {id now : String} {u : Store}
    (hsu : s.Related (Bookkept r (NewRecord r params id)) u)
    (hlist : OwnersList (Record.new r params id now) id r.relations s u)
    (hfresh : s.called r.name id = none) :
    Service.Ends env u (Service.ask (.save r.name (Record.new r params id now)))
      (fun _ t => Entered r params id now s t)
      (fun e t => s.Related (Bookkept r (NewRecord r params id)) t ∧ env.Refused e) := by
  have hnew : ¬ u.Holds r.name id := by
    rintro ⟨d, hd, hid⟩
    have hs : s.Holds r.name id := by
      obtain ⟨c, hc, hb⟩ := forall₂_mem_right (hsu r.name) hd
      exact ⟨c, hc, by rw [← hb.id?_eq hfree, hid]⟩
    exact Store.not_holds_of_called hfresh hs
  refine Service.ends_ask (fun e he => ⟨hsu, he⟩) ?_
  simp only [Call.perform, Store.save_of_id? u r.name (Record.id?_new r params id now),
    Store.place_of_fresh hnew]
  exact ⟨u, hsu, hlist, rfl⟩

/-- The failure of a create whose identity is in use. -/
def Duplicate (r : Resource) (params : Members) (e : ServiceError) : Prop :=
  ∃ id, MayName r params id ∧ e = .conflict ("duplicate id '" ++ id ++ "' exists in " ++ r.name)

theorem ends_enter (hfree : r.ListsFree) (hrefs : ReferencesHold params r.relations s)
    (hcheck : i.validator r params false = []) :
    Service.Ends env s (enter i r params)
      (fun c t => Admitted i r params c.id s ∧ ∃ now, Entered r params c.id now s t)
      (fun e t => t = s ∧ (Duplicate r params e ∨ env.Refused e) ∨ ∃ id, Admitted i r params id s ∧
        s.Related (Bookkept r (NewRecord r params id)) t ∧ (s.Named → env.Refused e)) := by
  unfold enter
  refine Service.ends_bind (Service.ends_mono ends_newId (fun _ _ h => h) (fun _ _ h => h.elim)) ?_
  rintro id t ⟨rfl, hname⟩
  refine Service.ends_byId_bind (fun _ he => .inl ⟨rfl, .inr he⟩) ?_
  cases hfresh : t.called r.name id with
  | some d => exact Service.ends_fail (.inl ⟨rfl, .inl ⟨id, hname, rfl⟩⟩)
  | none =>
    have hadm : Admitted i r params id t := ⟨hrefs, hcheck, hname, hfresh⟩
    refine Service.ends_now_bind fun now => ?_
    have hnew : NewRecord r params id (Record.new r params id now.text) id := ⟨rfl, now.text, rfl⟩
    refine Service.ends_bind (Service.ends_mono (ends_appendToOwners hfree hnew fun _ hx => hx)
      (fun _ _ h => h) (fun e u h => .inr ⟨id, hadm, h⟩)) ?_
    rintro _ u ⟨htu, hlist⟩
    refine Service.ends_bind (Service.ends_mono (ends_saveNew hfree htu hlist hfresh)
      (fun _ _ h => h) (fun e v h => .inr ⟨id, hadm, h.1, fun _ => h.2⟩)) ?_
    intro _ v hv
    exact Service.ends_pure ⟨hadm, now.text, hv⟩

/-- A create that succeeds was admitted and has entered its record. One that fails has changed nothing,
for an objection, an identity in use or a refused call; or it was admitted and has changed owners only,
which in a store of named documents takes a refused call. -/
theorem ends_createItem (hfree : r.ListsFree) {request : Request} :
    Service.Ends env s (createItem i r request)
      (fun c t => Admitted i r (request.params r.attributes) c.id s ∧
        ∃ now, Entered r (request.params r.attributes) c.id now s t)
      (fun e t => t = s ∧ (objection? i r (request.params r.attributes) s = some e ∨
          objection? i r (request.params r.attributes) s = none ∧
            Duplicate r (request.params r.attributes) e ∨ env.Refused e) ∨
        ∃ id, Admitted i r (request.params r.attributes) id s ∧
          s.Related (Bookkept r (NewRecord r (request.params r.attributes) id)) t ∧
            (s.Named → env.Refused e)) := by
  rw [createItem_eq]
  refine Service.ends_bind (Service.ends_mono ends_checkItem (fun _ _ h => h)
    (fun e t h => .inl ⟨h.1, h.2.imp_right .inr⟩)) ?_
  rintro _ t ⟨rfl, hrefs, hcheck⟩
  have hnone : objection? i r (request.params r.attributes) t = none :=
    objection?_eq_none_iff.mpr ⟨hrefs, hcheck⟩
  refine Service.ends_mono (ends_enter hfree hrefs hcheck) (fun _ _ h => h) (fun e u h => ?_)
  rcases h with ⟨hu, hd | he⟩ | h
  · exact .inl ⟨hu, .inr (.inl ⟨hnone, hd⟩)⟩
  · exact .inl ⟨hu, .inr (.inr he)⟩
  · exact .inr h

theorem keeps_createItem (hfree : r.ListsFree) {P : Store → Prop}
    (hentered : ∀ s t params id now, P s → Admitted i r params id s → Entered r params id now s t → P t)
    (hbookkept : ∀ s t params id, P s → s.Related (Bookkept r (NewRecord r params id)) t → P t)
    (request : Request) : Service.Keeps env P (createItem i r request) := by
  intro s hs
  refine Service.ends_mono (ends_createItem hfree) (fun c t ht => ?_) (fun e t ht => ?_)
  · obtain ⟨hadm, now, hent⟩ := ht
    exact hentered s t _ c.id now hs hadm hent
  · rcases ht with ⟨rfl, -⟩ | ⟨id, -, hst, -⟩
    · exact hs
    · exact hbookkept s t _ id hs hst

/-! ### Bodies of one record and of several -/

/-- A body that asks for several records. -/
def IsBulk (body : Value) : Prop :=
  ∃ ms items, body = .object ms ∧ Members.get? ms "items" = some (.array items)

section
variable {α : Type} {work : Members → Service α}

theorem keeps_eachItem {P : Store → Prop} (h : ∀ item, Service.Keeps env P (work item))
    (items : List Members) (index : Nat) : Service.Keeps env P (eachItem work index items) := by
  induction items generalizing index with
  | nil => exact Service.keeps_pure
  | cons item rest ih =>
    refine Service.keeps_bind (Service.keeps_mapError (h item)) fun a => ?_
    exact Service.keeps_bind (ih (index + 1)) fun as => Service.keeps_pure

theorem keeps_onBody {P : Store → Prop} (h : ∀ item, Service.Keeps env P (work item)) (body : Value) :
    Service.Keeps env P (onBody work body) := by
  unfold onBody
  split
  · exact Service.keeps_fail
  · rename_i batch _
    cases batch with
    | one item => exact Service.keeps_bind (h item) fun a => Service.keeps_pure
    | many items => exact Service.keeps_bind (keeps_eachItem h items 0) fun as => Service.keeps_pure

theorem ends_onBody_one {body : Value} {Q : Store → Prop} {E : ServiceError → Store → Prop}
    (hone : ¬ IsBulk body) (hbad : ∀ text, E (.badRequest text) s)
    (hwork : ∀ item, Service.Ends env s (work item) (fun _ t => Q t) E) :
    Service.Ends env s (onBody work body) (fun _ t => Q t) E := by
  have hbody : Batch.ofBody body = .error (.badRequest "body must be a JSON object") ∨
      ∃ item, Batch.ofBody body = .ok (.one item) := by
    cases body with
    | object ms =>
      refine .inr ⟨ms, ?_⟩
      simp only [Batch.ofBody]
      split
      · rename_i items hitems
        exact absurd ⟨ms, items, rfl, hitems⟩ hone
      · rfl
    | _ => exact .inl rfl
  unfold onBody
  rcases hbody with hb | ⟨item, hb⟩
  · rw [hb]
    exact Service.ends_fail (hbad _)
  · rw [hb]
    exact Service.ends_bind (hwork item) fun a t ht => Service.ends_pure ht

end

theorem keeps_validateOnly {P : Store → Prop} (body : Value) (request : Request) :
    Service.Keeps env P (validateOnly i r body request) := by
  refine Service.keeps_bind (keeps_onBody (fun item s hs => ?_) body) fun _ => Service.keeps_pure
  exact Service.ends_mono ends_checkItem (fun _ t ht => ht.1 ▸ hs) (fun _ t ht => ht.1 ▸ hs)

end

end Operation

end Hypermedia
