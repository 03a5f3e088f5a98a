import Hypermedia.Proofs.Chronology
import Hypermedia.Proofs.Keys
import Hypermedia.Proofs.NormalizedDates
import Hypermedia.Proofs.Revision

/-!
# Updates made again

At one instant an update can be made again without any further change: the values that it supplies are
stored already, the owners list the record already, and a time of change that was bumped to an instant is
not bumped again at that instant. So each write of the second update saves what was read.
-/

namespace Hypermedia

open Program (Environment World run)
open Store (Document)
open Time (Instant)
open Hypermedia.Filter (Request)

/-! ### Times of change -/

section
variable {x now : Instant}

/-- A time of change that the store has written stays, or becomes the present time. -/
theorem Record.bumped_text_cases (hx : x.Ticked) (now : Instant) :
    Record.bumped (some (.string x.text)) now = x.text ∨
      Record.bumped (some (.string x.text)) now = now.text := by
  by_cases hdated : x.Dated
  · simp only [bumped, Option.bind_some, Value.string?, hdated.instant?_text]
    split
    · exact .inl x.text_truncated
    · exact .inr rfl
  · simp only [bumped, Option.bind_some, Value.string?, Time.instant?_text_eq_none hx hdated]
    exact .inr trivial

theorem Record.bumped_ticked (hx : x.Ticked) (hnow : now.Ticked) :
    ∃ y : Instant, y.Ticked ∧ Record.bumped (some (.string x.text)) now = y.text :=
  (bumped_text_cases hx now).elim (fun h => ⟨x, hx, h⟩) fun h => ⟨now, hnow, h⟩

/-- At one instant a time of change is bumped once. -/
theorem Record.bumped_bumped (hx : x.Ticked) (hnow : now.Ticked) :
    Record.bumped (some (.string (Record.bumped (some (.string x.text)) now))) now =
      Record.bumped (some (.string x.text)) now := by
  rcases bumped_text_cases hx now with h | h
  · rw [h, h]
  · rw [h]
    exact (bumped_text_cases hnow now).elim id id

end

/-- The time of change of a document is one that a clock has shown. -/
def Store.Document.Stamped (d : Document) : Prop :=
  ∃ x : Instant, x.Ticked ∧ Members.get? d updatedAtField = some (.string x.text)

def Store.Stamped (s : Store) : Prop := ∀ collection, ∀ d ∈ s.documents collection, d.Stamped

/-- A document whose time of change is bumped is stamped again. -/
theorem Store.Document.Stamped.bump {d e : Document} (h : d.Stamped) {now : Instant} (hnow : now.Ticked)
    (he : Members.get? e updatedAtField =
      some (.string (Record.bumped (Members.get? d updatedAtField) now))) : e.Stamped := by
  obtain ⟨x, hx, hd⟩ := h
  obtain ⟨y, hy, hb⟩ := Record.bumped_ticked hx hnow
  exact ⟨y, hy, by rw [he, hd, hb]⟩

namespace Operation

section
variable {env : Environment} (hclock : ∀ n, (env.clock n).Ticked) {r : Resource}
variable (hlists : r.ListsFree) (hdistinct : (r.attributes.map (·.name)).Nodup)

include hclock hlists hdistinct

theorem Change.stamped {collection : String} {d e : Document} (h : Change env r collection d e)
    (hd : d.Stamped) : e.Stamped := by
  cases h with
  | same => exact hd
  | @listed name field d child n relation =>
    refine hd.bump (hclock n) ?_
    rw [withListed, Members.get?_set, if_pos rfl, Members.get?_set,
      if_neg (ne_of_free (hlists _ _ _ relation)).2]
  | patched d params n _ =>
    refine hd.bump (hclock n) ?_
    rw [Members.get?_merge d (nodup_keys_completePatch hdistinct), get?_completePatch_updatedAt]
    rfl

theorem keeps_stamped (hnames : r.NamesFree) {i : Interface} (c : Command) :
    Service.Keeps env Store.Stamped (c.service i r) := by
  refine keeps_of_changes hlists (fun s t hs hst => ?_) hnames (fun s t hs hst => ?_) c
    fun _ s t hts hs collection d hd => hs collection d ((hts collection).subset hd)
  · intro collection e he
    obtain ⟨d, hd, hde⟩ := forall₂_mem_right (hst collection) he
    exact hde.stamped hclock hlists hdistinct (hs collection d hd)
  · obtain ⟨params, id, n, -, rfl⟩ := hst
    intro collection d hd
    rcases Store.mem_documents_append.mp hd with hd | ⟨-, rfl⟩
    · exact hs collection d hd
    · refine ⟨env.clock n, hclock n, ?_⟩
      rw [Record.get?_new_reserved hnames _ _ _ (by decide) (by decide)]
      rfl

end

theorem History.stamped {i : Interface} {h : History} (hg : i.registry.Consistent)
    (hdistinct : ∀ r ∈ i.registry.resources, (r.attributes.map (·.name)).Nodup) (hon : h.On i.registry)
    (hticked : ∀ x ∈ h, ∀ n, (x.env.clock n).Ticked) : (h.after i Store.empty).Stamped := by
  refine History.after_of_keeps (fun x hx => ?_) fun c d hd => by cases hd
  exact keeps_stamped (hticked x hx) (hg.listsFree (hon x hx)) (hdistinct _ (hon x hx))
    (hg.namesFree (hon x hx)) x.command

end Operation

/-! ### Writes of what is there -/

namespace Store

theorem changeFirst_eq_self {α : Type} {test : α → Bool} {change : α → α} {xs : List α} {x : α}
    (h : xs.find? test = some x) (hx : change x = x) : changeFirst test change xs = xs := by
  induction xs with
  | nil => cases h
  | cons y ys ih =>
    by_cases hy : test y = true
    · have he : y = x := by simpa [hy] using h
      rw [changeFirst, if_pos hy, he, hx]
    · have ht : ys.find? test = some x := by simpa [hy] using h
      rw [changeFirst, if_neg hy, ih ht]

section
variable {s : Store} {collection : String}

/-- To put the documents of a collection where they are changes nothing. -/
theorem withDocuments_self {d : Document} (h : d ∈ s.documents collection) :
    s.withDocuments collection (s.documents collection) = s := by
  obtain ⟨cs⟩ := s
  simp only [withDocuments, documents, Store.mk.injEq] at h ⊢
  induction cs with
  | nil => cases h
  | cons c cs ih =>
    obtain ⟨name, ds⟩ := c
    by_cases hname : name = collection
    · subst hname
      simp [putCollection]
    · simp only [List.find?_cons, beq_eq_false_iff_ne.mpr hname] at h ⊢
      simp only [putCollection, if_neg hname, ih h]

variable {id : String} {d : Document}

theorem save_called (hd : s.called collection id = some d) (hid : Document.id? d = some id) :
    (Call.save collection d).perform s = (.ok (), s) := by
  obtain ⟨hplace, hfind⟩ := place_of_find? hd hid d
  rw [Call.perform, save_of_id? s collection hid, hplace, changeFirst_eq_self hfind rfl,
    withDocuments_self (mem_of_called hd)]

theorem patch_called (hd : s.called collection id = some d) {patch : Document}
    (hpatch : Members.merge d patch = d) :
    (Call.patchFirst collection (.byId id) patch).perform s = (.ok (some d), s) := by
  have hsame : changeFirst (Document.isFoundBy id) (Members.merge · patch) (s.documents collection) =
      s.documents collection := changeFirst_eq_self hd hpatch
  simp only [Call.perform, patchFirst_byId, hd, hpatch, hsame, withDocuments_self (mem_of_called hd)]

end

end Store

/-! ### Enrolments made again -/

section
variable {child collection : String} {xs : List (Roll × Instant)} {now : Instant}
variable (hxs : ∀ x ∈ xs, x.2 = now) (hnow : now.Ticked)

include hxs hnow

/-- Several enrolments at one instant bump the time of change once. -/
theorem enrolledValue_updatedAt {x : Instant} (hx : x.Ticked) :
    enrolledValue child xs updatedAtField (.string x.text) =
      if xs.isEmpty then .string x.text else .string (Record.bumped (some (.string x.text)) now) := by
  simp only [enrolledValue, if_true]
  induction xs generalizing x with
  | nil => rfl
  | cons y ys ih =>
    obtain ⟨hy, hys⟩ := List.forall_mem_cons.mp hxs
    rw [List.foldl_cons, hy, List.isEmpty_cons, if_neg Bool.false_ne_true]
    -- The bumped time is again one that a clock has shown.
    obtain ⟨z, hz, hb⟩ := Record.bumped_ticked hx hnow
    rw [hb, ih hys hz, ← hb, Record.bumped_bumped hx hnow]
    split <;> rfl

/-- To enrol a child once more in a roll at the same instant changes nothing. -/
theorem enrolled_again {d : Document} (hnodup : (Members.keys d).Nodup) (hd : d.Stamped) {x : Roll}
    (hx : (x, now) ∈ xs) :
    enrolled child (xs ++ [(x, now)]) collection d = enrolled child xs collection d := by
  rw [enrolled, enrolled]
  refine List.map_congr_left fun m hm => ?_
  rw [List.filter_append]
  cases hof : x.isOf collection d with
  | false => simp [hof]
  | true =>
    have hmem : (x, now) ∈ xs.filter (·.1.isOf collection d) := List.mem_filter.mpr ⟨hx, hof⟩
    have hone : [(x, now)].filter (·.1.isOf collection d) = [(x, now)] := by simp [hof]
    have hown : ∀ y ∈ xs.filter (·.1.isOf collection d), y.2 = now :=
      fun y hy => hxs y (List.mem_filter.mp hy).1
    rw [hone]
    generalize xs.filter (·.1.isOf collection d) = own at hmem hown
    by_cases hu : m.1 = updatedAtField
    · obtain ⟨z, hz, hvalue⟩ := hd
      rw [← hu, Members.get?_of_mem hnodup hm] at hvalue
      have hall : ∀ y ∈ own ++ [(x, now)], y.2 = now := by
        simpa [or_imp, forall_and] using hown
      rw [hu, Option.some.inj hvalue, enrolledValue_updatedAt hall hnow hz,
        enrolledValue_updatedAt hown hnow hz]
      cases own with
      | nil => cases hmem
      | cons => rfl
    · have hany : (own ++ [(x, now)]).any (·.1.field == m.1) = own.any (·.1.field == m.1) := by
        rw [List.any_append, Bool.or_eq_left_iff_imp]
        exact fun hlast => List.any_eq_true.mpr ⟨_, hmem, by simpa using hlast⟩
      simp only [enrolledValue, if_neg hu, hany]

end

/-- Each owner that a value names and that is there is among the enrolments. -/
theorem mem_enrolments_of {s : Store} {value : Attribute → Option Value} {now : Instant} {n : Nat}
    {as : List Attribute} {a : Attribute} (ha : a ∈ as) {owner field id : String}
    (htype : a.type = .relation (.parent owner field))
    (hid : Operation.reference? (value a) = some id) (hs : s.Holds owner id) :
    ((⟨owner, id, field⟩ : Roll), now) ∈ enrolments s value (fun _ => now) n as := by
  have hof : Roll.of? s value a = some ⟨owner, id, field⟩ :=
    (Roll.of?_parent htype hid).trans (if_pos hs)
  have hmem : (⟨owner, id, field⟩ : Roll) ∈ ((as.filterMap (Roll.of? s value)).zipIdx n).map Prod.fst := by
    rw [List.zipIdx_map_fst]
    exact List.mem_filterMap.mpr ⟨a, ha, hof⟩
  obtain ⟨y, hy, he⟩ := List.mem_map.mp hmem
  exact List.mem_map.mpr ⟨y, hy, by rw [he]⟩

/-! ### The second update -/

namespace Operation

/-- At this instant the update has nothing left to do: the record is what the update makes of it, and to
list it with its owners makes nothing new of them. -/
structure Settled (r : Resource) (id : String) (q : Request) (now : Instant) (t : Store) : Prop where
  record : ∃ e, t.called r.name id = some e ∧ Document.Revises r q now e e
  owners : ∀ a ∈ r.attributes, ∀ owner field x, a.type = .relation (.parent owner field) →
    reference? (q.value? a) = some x →
      ∃ d, t.called owner x = some d ∧ Document.id? d = some x ∧ withListed field id now d = d

section
variable {env : Environment} {i : Interface} {g : Registry} {r : Resource} {t : Store}
variable {id : String} {q : Request} {now : Instant}

theorem ends_listWith_settled (hclock : ∀ n, env.clock n = now) (h : Settled r id q now t)
    {values : Members} (hvalues : ∀ a ∈ r.attributes, ∀ owner field,
      a.type = .relation (.parent owner field) → Members.get? values a.name = q.value? a)
    {x : String × Relation} (hx : x ∈ r.relations) :
    Service.Ends env t (listWith values id x) (fun _ u => u = t) (fun e _ => env.Refused e) := by
  obtain ⟨heq, -⟩ | ⟨name, owner, field, y, rfl, hnamed, heq⟩ := listWith_cases values id x
  · exact heq ▸ Service.ends_pure rfl
  · obtain ⟨a, ha, rfl, htype⟩ := Resource.mem_relations.mp hx
    rw [hvalues a ha owner field htype] at hnamed
    obtain ⟨d, hd, hid, hlisted⟩ := h.owners a ha owner field y htype hnamed
    rw [heq]
    refine Service.ends_byId_bind (fun _ he => he) ?_
    rw [hd]
    refine Service.ends_clock_bind fun n => ?_
    rw [hclock]
    have hsave : (Call.save owner (withListed field id now d)).perform t = (.ok (), t) := by
      rw [hlisted, Store.save_called hd hid]
    exact Service.ends_ask (c := .save owner (withListed field id now d)) (fun _ he => he)
      (by rw [hsave]; rfl)

theorem ends_appendToOwners_settled (hclock : ∀ n, env.clock n = now) (h : Settled r id q now t)
    {values : Members} (hvalues : ∀ a ∈ r.attributes, ∀ owner field,
      a.type = .relation (.parent owner field) → Members.get? values a.name = q.value? a)
    {rels : List (String × Relation)} (hrels : ∀ x ∈ rels, x ∈ r.relations) :
    Service.Ends env t (appendToOwners values id rels) (fun _ u => u = t)
      (fun e _ => env.Refused e) := by
  induction rels with
  | nil => exact Service.ends_pure rfl
  | cons x rest ih =>
    obtain ⟨hx, hrest⟩ := List.forall_mem_cons.mp hrels
    rw [appendToOwners_cons]
    exact Service.ends_bind (ends_listWith_settled hclock h hvalues hx) fun _ u hu => hu ▸ ih hrest

variable (hg : g.Consistent) (hdistinct : (r.attributes.map (·.name)).Nodup) (hr : r ∈ g.resources)
variable (ht : t.Intact g)

include hg hdistinct hr ht

theorem ends_update_settled (hclock : ∀ n, env.clock n = now)
    (hunique : Record.checkUnique r (updateParams r q) = [])
    (hcheck : i.validator r (updateParams r q) true = [])
    (hrefs : ReferencesHold (updateParams r q) r.relations t) (h : Settled r id q now t) :
    Service.Ends env t (update i r id q) (fun _ u => u = t) (fun e _ => env.Refused e) := by
  have hnames : r.NamesFree := hg.namesFree hr
  obtain ⟨e, he, hrevises⟩ := h.record
  have hfits : Document.Fits r e := ht.forms r hr e (Store.mem_of_called he)
  have hpatch : Members.merge e (completePatch r (updateParams r q) e now) = e :=
    revises_unique hdistinct hnames hfits hrevises (revises_merge hdistinct hnames hfits q now)
  unfold update
  refine Service.ends_passed_bind hunique (Service.ends_passed_bind hcheck ?_)
  refine Service.ends_bind (Service.ends_mono ends_checkRelated (fun _ _ h => h) fun e _ hfail => ?_) ?_
  · refine hfail.2.resolve_left fun hmissing => ?_
    cases (missing?_eq_none_iff.mpr hrefs).symm.trans hmissing
  · rintro _ u ⟨rfl, -⟩
    refine Service.ends_byId_bind (fun _ he => he) ?_
    rw [he]
    refine Service.ends_clock_bind fun n => ?_
    rw [hclock]
    refine Service.ends_bind (R := fun updated v => v = u ∧ updated.isSome = true) ?_ ?_
    · exact Service.ends_ask (c := .patchFirst r.name (.byId id)
        (completePatch r (updateParams r q) e now)) (fun _ he => he)
          (by rw [Store.patch_called he hpatch]; exact ⟨rfl, rfl⟩)
    · rintro updated v ⟨rfl, hsome⟩
      rw [if_pos hsome]
      exact ends_appendToOwners_settled hclock h
        (fun a ha _ _ htype => get?_completePatch_parent hdistinct hnames q ha htype) fun _ ha => ha

end

section
variable {g : Registry} {r : Resource} {s t : Store} {id : String} {q : Request} {now : Instant} {n : Nat}
variable {d e : Document}
variable (hg : g.Consistent) (hdistinct : ∀ o ∈ g.resources, (o.attributes.map (·.name)).Nodup)
variable (hr : r ∈ g.resources) (hnow : now.Ticked)
variable (hd : d.Stamped) (he : Document.Revises r q now d e)

theorem time_of_mem_enrolments {value : Attribute → Option Value} {as : List Attribute}
    {x : Roll × Instant} (hx : x ∈ enrolments s value (fun _ => now) n as) : x.2 = now := by
  obtain ⟨y, -, rfl⟩ := List.mem_map.mp hx
  rfl

include hg hdistinct hr hnow hd he in
/-- After an update the record is what the update makes of it. -/
theorem revises_enrolled (hindexed : Document.Indexed r
      (enrolled id (enrolments s q.value? (fun _ => now) n r.attributes) r.name e)) :
    Document.Revises r q now
      (enrolled id (enrolments s q.value? (fun _ => now) n r.attributes) r.name e)
      (enrolled id (enrolments s q.value? (fun _ => now) n r.attributes) r.name e) := by
  refine ⟨rfl, rfl, rfl, fun _ _ _ => rfl, fun a ha hc => ?_, ?_, fun _ => hindexed, fun _ => rfl⟩
  · have hkept : Members.get? (enrolled id (enrolments s q.value? (fun _ => now) n r.attributes) r.name e)
        a.name = Members.get? e a.name := by
      refine get?_enrolled_other ((hg.namesFree hr).ne ha (by decide)) fun x hx howner hfield => ?_
      obtain ⟨p, hp, htype, -⟩ := mem_enrolments hx
      refine hg.not_pointed_at hr hr (hdistinct r hr) ha hc p.name ?_
      rw [← howner, ← hfield]
      exact Resource.mem_relations.mpr ⟨p, hp, rfl, htype⟩
    rw [hkept, he.values a ha hc]
    cases q.value? a <;> simp
  · obtain ⟨x, hx, hupdated⟩ := hd
    have hbumped := Record.bumped_bumped hx hnow
    obtain ⟨y, hy, htext⟩ := Record.bumped_ticked hx hnow
    rw [htext] at hbumped
    have hvalue : Members.get? (enrolled id (enrolments s q.value? (fun _ => now) n r.attributes) r.name e)
        updatedAtField = some (.string y.text) := by
      rw [get?_enrolled, he.updatedAt, hupdated, htext, Option.map_some,
        enrolledValue_updatedAt (fun z hz => time_of_mem_enrolments (List.mem_filter.mp hz).1) hnow hy,
        hbumped, ite_self]
    rw [hvalue, hbumped]

variable {t : Store} (hstamped : s.Stamped) (hmem : d ∈ s.documents r.name)
variable (hid : Document.id? d = some id) (hkeyed : t.Keyed)
variable (ht : Replaced r id q.value? e (fun _ => now) n s t)

include hg hdistinct hr hnow he hstamped hmem hid hkeyed ht

/-- The record is found again as the update has made it. -/
theorem settled_record (hindexed : t.Indexed g) :
    ∃ f, t.called r.name id = some f ∧ Document.Revises r q now f f := by
  have hide : Document.id? e = some id := (he.id?_eq).trans hid
  have hplace := ht.mem hmem
  rw [if_pos ⟨rfl, hid⟩] at hplace
  have hcalled := hkeyed.called_eq_some_iff.mpr
    ⟨hplace, (id?_enrolled fun _ hx => field_ne_id hg hr (fun _ ha => ha) hx).trans hide⟩
  obtain ⟨o, ho, hname, htext⟩ := hindexed r.name _ hplace
  obtain rfl : o = r := hg.eq_of_name ho hr hname
  exact ⟨_, hcalled, revises_enrolled hg hdistinct hr hnow (hstamped o.name d hmem) he htext⟩

/-- An owner that was there has the record in its list, and its time of change is bumped already. -/
theorem settled_owner (hs : s.Intact g) (hintact : t.Intact g) (hfits : Document.Fits r e)
    {a : Attribute} (ha : a ∈ r.attributes) {owner field x : String}
    (htype : a.type = .relation (.parent owner field)) (hx : reference? (q.value? a) = some x)
    (hholds : s.Holds owner x) :
    ∃ f, t.called owner x = some f ∧ Document.id? f = some x ∧ withListed field id now f = f := by
  have hfields : ∀ y ∈ enrolments s q.value? (fun _ => now) n r.attributes, y.1.field ≠ idField :=
    fun _ hy => field_ne_id hg hr (fun _ ha => ha) hy
  obtain ⟨d₀, hd₀, hid₀⟩ := hholds
  obtain ⟨o, ho, rfl, b, hb, rfl, hc⟩ :=
    hg.owner_of_relation hr (Resource.mem_relations.mpr ⟨a, ha, rfl, htype⟩)
  -- The owner's document before the enrolments: the revised one where the record is its own owner.
  obtain ⟨y, hplace, hy, hyfits, hystamped⟩ : ∃ y, enrolled id
      (enrolments s q.value? (fun _ => now) n r.attributes) o.name y ∈ t.documents o.name ∧
        Document.id? y = some x ∧ Document.Fits o y ∧ y.Stamped := by
    have hplace := ht.mem hd₀
    by_cases hself : o.name = r.name ∧ Document.id? d₀ = some id
    · obtain rfl : o = r := hg.eq_of_name ho hr hself.1
      rw [if_pos hself] at hplace
      refine ⟨e, hplace, he.id?_eq.trans (hid.trans (hself.2.symm.trans hid₀)), hfits, ?_⟩
      exact (hstamped o.name d hmem).bump hnow he.updatedAt
    · rw [if_neg hself] at hplace
      exact ⟨d₀, hplace, hid₀, hs.forms o ho d₀ hd₀, hstamped o.name d₀ hd₀⟩
  have hyid : Document.id? (enrolled id (enrolments s q.value? (fun _ => now) n r.attributes) o.name y) =
      some x := (id?_enrolled hfields).trans hy
  refine ⟨_, hkeyed.called_eq_some_iff.mpr ⟨hplace, hyid⟩, hyid, ?_⟩
  have hroll : ((⟨o.name, x, b.name⟩ : Roll), now) ∈
      enrolments s q.value? (fun _ => now) n r.attributes :=
    mem_enrolments_of ha htype hx ⟨d₀, hd₀, hid₀⟩
  rw [withListed_eq_enrolled (hdistinct o ho) (hg.namesFree ho) (hintact.forms o ho _ hplace) hyid hb hc,
    ← enrolled_append hfields, enrolled_again (fun _ => time_of_mem_enrolments) hnow
      (hyfits.nodup_keys (hdistinct o ho) (hg.namesFree ho)) hystamped hroll]

end

/-- References that hold still hold where no record is gone. -/
theorem ReferencesHold.of_holds {params : Members} {relations : List (String × Relation)} {s t : Store}
    (h : ReferencesHold params relations s) (hs : s.Keyed) (ht : t.Keyed)
    (hst : ∀ collection id, s.Holds collection id → t.Holds collection id) :
    ReferencesHold params relations t := fun name relation id hrel hchildren href =>
  ht.holds_iff.mp (hst _ _ (hs.holds_iff.mpr (h name relation id hrel hchildren href)))

section
variable {env : Environment} {i : Interface} {r : Resource} {id : String} {request : Request} {w : World}
variable (hdistinct : ∀ o ∈ i.registry.resources, (o.attributes.map (·.name)).Nodup)
variable (hplain : ∀ o ∈ i.registry.resources, o.PlainText)
variable (hg : i.registry.Consistent) (hr : r ∈ i.registry.resources)
variable (hintact : w.store.Intact i.registry) (hkeyed : w.store.Keyed)

include hdistinct hplain hg hr hintact hkeyed

/-- An update that succeeds has passed its checks, passes them again, and leaves nothing to do. -/
theorem settled_of_update (hindexed : w.store.Indexed i.registry) (hstamped : w.store.Stamped)
    {now : Instant} (hnow : now.Ticked) (hclock : ∀ n, env.clock n = now)
    (hok : (run env (update i r id request).run w).1 = .ok ()) :
    Record.checkUnique r (updateParams r request) = [] ∧ i.validator r (updateParams r request) true = [] ∧
      ReferencesHold (updateParams r request) r.relations (run env (update i r id request).run w).2.store ∧
        Settled r id request now (run env (update i r id request).run w).2.store := by
  obtain ⟨hunique, hcheck, hrefs, d, hcalled, hreplaced⟩ := achieves_update hg hdistinct hr hintact () hok
  have hd : d ∈ w.store.documents r.name := Store.mem_of_called hcalled
  have hid : Document.id? d = some id := hintact.id?_of_called hr hcalled
  have hfits : Document.Fits r d := hintact.forms r hr d hd
  have hrevises := revises_merge (hdistinct r hr) (hg.namesFree hr) hfits request now
  have hfun : env.clock = fun _ => now := funext hclock
  rw [hclock, hfun] at hreplaced
  have hide := hrevises.id?_eq.trans hid
  -- The writes of the update keep what every operation keeps.
  have hkeyed' : (run env (update i r id request).run w).2.store.Keyed :=
    Service.store_of_keeps (keeps_keyed hg hr (.update id request)) hkeyed
  have hintact' : (run env (update i r id request).run w).2.store.Intact i.registry :=
    Service.store_of_keeps (keeps_intact hg (hdistinct r hr) hr (.update id request)) hintact
  have hindexed' : (run env (update i r id request).run w).2.store.Indexed i.registry :=
    Service.store_of_keeps (keeps_indexed hg hdistinct hplain hr (.update id request)) hindexed
  refine ⟨hunique, hcheck, hrefs.of_holds hkeyed hkeyed' fun collection x => ?_, ?_⟩
  · exact (Store.holds_iff_of_ids (hreplaced.ids (fun _ hx => field_ne_id hg hr (fun _ ha => ha) hx) hide collection) x).mpr
  · exact {
      record := settled_record hg hdistinct hr hnow hrevises hstamped hd hid hkeyed' hreplaced hindexed'
      owners := fun a ha owner field x htype hx =>
        settled_owner hg hdistinct hr hnow hrevises hstamped hd hid hkeyed' hreplaced hintact hintact'
          (hfits.merge (hdistinct r hr) (hg.namesFree hr)) ha htype hx
          (hrefs.holds_owner hg hr hintact (hdistinct r hr) ha htype hx) }

end

/-- If no list of children is part of the searchable text and clocks read instants of a clock, then an update
that succeeded in a reached store succeeds again at the same instant, if no call is refused, and leaves the
store as it is: no list gets a child twice, and no time of change is bumped again. -/
theorem update_again_changes_nothing {ds : List Schema.ResourceDeclaration} {i : Interface} {h : History}
    (hdistinct : Schema.Distinct ds) (hresolve : Schema.resolve ds = .ok i.registry)
    (hplain : ∀ r ∈ i.registry.resources, r.PlainText) (hon : h.On i.registry)
    (hticked : ∀ x ∈ h, ∀ n, (x.env.clock n).Ticked) {r : Resource} (hr : r ∈ i.registry.resources)
    {id : String} {request : Request} {now : Instant} (hnow : now.Ticked) {env env' : Environment}
    (hclock : ∀ n, env.clock n = now) (hclock' : ∀ n, env'.clock n = now) (henv' : env'.Accepts)
    {w w' : World} (hw : w.store = h.after i Store.empty)
    (hok : (run env (update i r id request).run w).1 = .ok ())
    (hw' : w'.store = (run env (update i r id request).run w).2.store) :
    (run env' (update i r id request).run w').1 = .ok () ∧
      (run env' (update i r id request).run w').2.store = w'.store := by
  have hg : i.registry.Consistent := Schema.consistent_of_resolve hresolve
  have hnodup := Schema.distinct_of_resolve hdistinct hresolve
  have hintact : w.store.Intact i.registry := hw ▸ History.intact hg hnodup hon
  have hkeyed : w.store.Keyed := hw ▸ History.keyed hg hon
  have hindexed : w.store.Indexed i.registry := by
    rw [hw]
    refine History.after_of_keeps (fun x hx => ?_) fun c d hd => by cases hd
    exact keeps_indexed hg hnodup hplain (hon x hx) x.command
  have hstamped : w.store.Stamped := hw ▸ History.stamped hg hnodup hon hticked
  obtain ⟨hunique, hcheck, hrefs, hsettled⟩ :=
    settled_of_update hnodup hplain hg hr hintact hkeyed hindexed hstamped hnow hclock hok
  have hintact' : (run env (update i r id request).run w).2.store.Intact i.registry :=
    Service.store_of_keeps (keeps_intact hg (hnodup r hr) hr (.update id request)) hintact
  have hends : Service.Ends env' w'.store (update i r id request) (fun _ u => u = w'.store)
      fun _ _ => False := by
    rw [hw']
    exact Service.ends_mono
      (ends_update_settled hg (hnodup r hr) hr hintact' hclock' hunique hcheck hrefs hsettled)
      (fun _ _ h => h) fun e _ he => absurd he (not_refused henv' e)
  obtain ⟨_, hrun, hstore⟩ := Service.success_of_ends hends
  exact ⟨hrun, hstore⟩

/-- Fifty years after she was made, the person moves to the second group and belongs to herself. -/
def movedAnn : World :=
  (run (standing 1600000000 250000001) (update Groups.interface Groups.person "ann" moveAnn).run
    { store := annAndDev.after Groups.interface Store.empty }).2

theorem update_again_changes_nothing_groups :
    Schema.Distinct Groups.declarations ∧
      Schema.resolve Groups.declarations = .ok Groups.interface.registry ∧
      (∀ r ∈ Groups.interface.registry.resources, r.PlainText) ∧
      annAndDev.On Groups.interface.registry ∧ (∀ x ∈ annAndDev, ∀ n, (x.env.clock n).Ticked) ∧
      Instant.Ticked ⟨1600000000, 250000001⟩ ∧ (standing 1600000000 250000001).Accepts ∧
      (movedAnn.store.documents "person").map (fun d => (Members.get? d updatedAtField).bind Value.string?) =
        [some "2020-09-13T12:26:40.250Z"] ∧
      (run (standing 1600000000 250000001) (update Groups.interface Groups.person "ann" moveAnn).run
        movedAnn).1 = .ok () ∧
      (run (standing 1600000000 250000001) (update Groups.interface Groups.person "ann" moveAnn).run
        movedAnn).2.store = movedAnn.store := by
  have hplain : ∀ r ∈ Groups.interface.registry.resources, r.PlainText := by
    simp [Groups.interface, Groups.group, Groups.person, Resource.PlainText, FieldType.isChildren]
  have hon : annAndDev.On Groups.interface.registry := by
    simp [History.On, annAndDev, annInOps, Groups.newGroup, Groups.interface]
  have hticked : ∀ x ∈ annAndDev, ∀ n, (x.env.clock n).Ticked := by
    simp [annAndDev, annInOps, Groups.newGroup, Groups.refusing, Instant.Ticked]
  have hnow : Instant.Ticked ⟨1600000000, 250000001⟩ := .inl (by decide)
  have haccepts : (standing 1600000000 250000001).Accepts := fun _ _ => rfl
  have hok : (run (standing 1600000000 250000001)
      (update Groups.interface Groups.person "ann" moveAnn).run
        { store := annAndDev.after Groups.interface Store.empty }).1 = .ok () := rfl
  refine ⟨Groups.distinct_declarations, Groups.resolve_declarations, hplain, hon, hticked, hnow, haccepts,
    by decide +kernel, ?_⟩
  exact update_again_changes_nothing Groups.distinct_declarations Groups.resolve_declarations hplain hon
    hticked (List.mem_cons_of_mem _ (List.mem_cons_self ..)) hnow (fun _ => rfl) (fun _ => rfl) haccepts
    (w := { store := annAndDev.after Groups.interface Store.empty }) rfl hok rfl

end Operation

end Hypermedia
