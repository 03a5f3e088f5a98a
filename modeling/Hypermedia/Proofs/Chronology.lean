import Hypermedia.Proofs.Conflict
import Hypermedia.Proofs.Intact
import Hypermedia.Proofs.Timestamp
import Hypermedia.Proofs.Writes

/-!
# The times of records

A record keeps the time of its creation, and its time of change never goes back, even where the clock
does. Both are canonical texts of whole milliseconds, so that a time which was written is read again as
it was.
-/

namespace Hypermedia

open Store (Document)
open Operation (Change Newcomer completePatch withListed)

open Time (Instant)

/-! ### Records -/

/-- A record was created and last changed at these instants. -/
structure Store.Document.Timed (d : Document) (created updated : Instant) : Prop where
  createdAt : Members.get? d createdAtField = some (.string created.text)
  updatedAt : Members.get? d updatedAtField = some (.string updated.text)
  wholeCreated : created.Whole
  wholeUpdated : updated.Whole
  order : created ≤ updated

theorem Record.bumped_text {u now : Instant} (hu : u.Whole) (hnow : now.Dated) :
    ∃ v : Instant, v.Whole ∧ u ≤ v ∧ now.truncated ≤ v ∧
      Record.bumped (some (.string u.text)) now = v.text := by
  have hread : Time.instant? u.text = some u := hu.instant?_text
  have hbumped : Record.bumped (some (.string u.text)) now = if u.isAfter now then u.text else now.text := by
    simp only [Record.bumped, Option.bind_some, Value.string?, hread]
  by_cases hafter : u.isAfter now = true
  · refine ⟨u, hu, Instant.le_refl u, ?_, by rw [hbumped, if_pos hafter]⟩
    exact Instant.le_trans now.truncated_le (Instant.le_of_isAfter hafter)
  · have hle : u ≤ now := Instant.le_of_not_isAfter hafter
    refine ⟨now.truncated, hnow.whole_truncated, hu.le_truncated hle, Instant.le_refl _, ?_⟩
    rw [hbumped, if_neg hafter, Instant.text_truncated]

theorem Record.timed_new (params : Members) (id : String) {r : Resource} (hnames : r.NamesFree)
    {now : Instant} (hnow : now.Dated) :
    Document.Timed (Record.new r params id now.text) now.truncated now.truncated := by
  refine ⟨?_, ?_, hnow.whole_truncated, hnow.whole_truncated, Instant.le_refl _⟩
  · rw [Instant.text_truncated, Record.get?_new_reserved hnames _ _ _ (by decide) (by decide)]
    rfl
  · rw [Instant.text_truncated, Record.get?_new_reserved hnames _ _ _ (by decide) (by decide)]
    rfl

section
variable {d : Document} {created updated : Instant} (h : d.Timed created updated)
variable {now : Instant} (hnow : now.Dated)

include h hnow

theorem Store.Document.Timed.withListed {field : String} (hfield : field ∉ Schema.reserved)
    (child : String) :
    ∃ v, updated ≤ v ∧ (withListed field child now d).Timed created v := by
  have hcreated : createdAtField ≠ field := fun he => hfield (he ▸ by decide)
  have hupdated : field ≠ updatedAtField := fun he => hfield (he ▸ by decide)
  obtain ⟨v, hv, hle, -, hbumped⟩ := Record.bumped_text h.wholeUpdated hnow
  refine ⟨v, hle, ?_, ?_, h.wholeCreated, hv, Instant.le_trans h.order hle⟩
  · rw [Operation.get?_withListed (by decide) hcreated, h.createdAt]
  · rw [Operation.withListed, Members.get?_set, if_pos rfl, Members.get?_set, if_neg hupdated, h.updatedAt, hbumped]

theorem Store.Document.Timed.merge {r : Resource} (hdistinct : (r.attributes.map (·.name)).Nodup)
    (hnames : r.NamesFree) (params : Members) :
    ∃ v, updated ≤ v ∧ Document.Timed (Members.merge d (completePatch r params d now)) created v := by
  obtain ⟨v, hv, hle, -, hbumped⟩ := Record.bumped_text h.wholeUpdated hnow
  refine ⟨v, hle, ?_, ?_, h.wholeCreated, hv, Instant.le_trans h.order hle⟩
  · rw [Members.get?_merge_of_notMem d _ (Operation.reserved_notMem_completePatch hnames (by decide)
      (by decide) (by decide)), h.createdAt]
  · rw [Members.get?_merge d (Operation.nodup_keys_completePatch hdistinct),
      Operation.get?_completePatch_updatedAt, h.updatedAt, hbumped]
    rfl

end

namespace Operation

section
variable {env : Program.Environment} (hclock : ∀ n, (env.clock n).Dated)
variable {r : Resource} (hlists : r.ListsFree) (hdistinct : (r.attributes.map (·.name)).Nodup)
variable (hnames : r.NamesFree)

include hclock hlists hdistinct hnames

theorem Change.timed {collection : String} {d e : Document} (h : Change env r collection d e)
    {created updated : Instant} (hd : d.Timed created updated) :
    ∃ v, updated ≤ v ∧ e.Timed created v := by
  cases h with
  | same => exact ⟨updated, Instant.le_refl _, hd⟩
  | listed d child n relation => exact hd.withListed (hclock n) (hlists _ _ _ relation) child
  | patched d params n hname => exact hd.merge (hclock n) hdistinct hnames params

/-- Every record has its times. -/
def TimedStore (s : Store) : Prop :=
  ∀ collection, ∀ d ∈ s.documents collection, ∃ created updated, Document.Timed d created updated

theorem keeps_timed {i : Interface} (c : Command) : Service.Keeps env TimedStore (c.service i r) := by
  refine keeps_of_changes hlists (fun s t hs hst => ?_) hnames (fun s t hs hst => ?_) c
    fun _ s t hts hs collection d hd => hs collection d ((hts collection).subset hd)
  · intro collection e he
    obtain ⟨d, hd, hde⟩ := forall₂_mem_right (hst collection) he
    obtain ⟨created, updated, htimed⟩ := hs collection d hd
    obtain ⟨v, -, hv⟩ := hde.timed hclock hlists hdistinct hnames htimed
    exact ⟨created, v, hv⟩
  · obtain ⟨params, id, n, -, rfl⟩ := hst
    intro collection d hd
    rcases Store.mem_documents_append.mp hd with hd | ⟨-, rfl⟩
    · exact hs collection d hd
    · exact ⟨_, _, Record.timed_new params id hnames (hclock n)⟩

/-- The record of this identity, if it is there, was created at this instant and not changed last before
that one. -/
def Onward (collection id : String) (created updated : Instant) (s : Store) : Prop :=
  ∀ d ∈ s.documents collection, Document.id? d = some id →
    ∃ v, updated ≤ v ∧ Document.Timed d created v

/-- As long as a record is there, no operation but a delete takes it away, makes another one of its
identity, or takes its times back. -/
theorem keeps_onward {i : Interface} {collection id : String} {created updated : Instant} {c : Command}
    (hc : c.isDeletion = false) :
    Service.Keeps env (fun s => s.Holds collection id ∧ Onward collection id created updated s)
      (c.service i r) := by
  have hchange : ∀ s t : Store, s.Holds collection id ∧ Onward collection id created updated s →
      s.Related (Change env r) t → t.Holds collection id ∧ Onward collection id created updated t := by
    rintro s t ⟨⟨d, hd, hid⟩, hs⟩ hst
    constructor
    · obtain ⟨e, he, hde⟩ := forall₂_mem_left (hst collection) hd
      exact ⟨e, he, by rw [hde.id?_eq hlists hnames, hid]⟩
    · intro e he hid'
      obtain ⟨d', hd', hde⟩ := forall₂_mem_right (hst collection) he
      rw [hde.id?_eq hlists hnames] at hid'
      obtain ⟨v, hle, htimed⟩ := hs d' hd' hid'
      obtain ⟨v', hle', htimed'⟩ := hde.timed hclock hlists hdistinct hnames htimed
      exact ⟨v', Instant.le_trans hle hle', htimed'⟩
  have hnew : ∀ s t : Store, s.Holds collection id ∧ Onward collection id created updated s →
      Newcomer env r s t → t.Holds collection id ∧ Onward collection id created updated t := by
    rintro s _ ⟨⟨d, hd, hid⟩, hs⟩ ⟨params, rid, n, hfresh, rfl⟩
    constructor
    · exact ⟨d, Store.mem_documents_append.mpr (.inl hd), hid⟩
    · intro e he hid'
      rcases Store.mem_documents_append.mp he with he | ⟨rfl, rfl⟩
      · exact hs e he hid'
      · rw [Record.id?_new] at hid'
        cases hid'
        exact absurd ⟨d, hd, hid⟩ (Store.not_holds_of_called hfresh)
  refine keeps_of_changes hlists hchange hnames hnew c fun hd => ?_
  rw [hc] at hd
  cases hd

end

theorem History.onward {i : Interface} {h : History} {s : Store} {collection id : String}
    {created updated : Instant} (hg : i.registry.Consistent)
    (hdistinct : ∀ r ∈ i.registry.resources, (r.attributes.map (·.name)).Nodup)
    (hon : h.On i.registry) (hclock : ∀ x ∈ h, ∀ n, (x.env.clock n).Dated)
    (hspares : h.Spares i collection id s)
    (hs : s.Holds collection id ∧ Onward collection id created updated s) :
    Onward collection id created updated (h.after i s) := by
  induction h generalizing s with
  | nil => exact hs.2
  | cons x h ih =>
    have hx := hon x (List.mem_cons_self ..)
    have hstep : (x.after i s).Holds collection id ∧ Onward collection id created updated (x.after i s) := by
      cases hc : x.command.isDeletion with
      | true =>
        refine ⟨hspares.1 hc, Step.after_of_keeps (P := Onward collection id created updated) ?_ hs.2⟩
        exact keeps_deletion hc fun s t hts hs d hd hid => hs d ((hts collection).subset hd) hid
      | false =>
        exact Step.after_of_keeps (P := fun s => s.Holds collection id ∧ Onward collection id created updated s)
          (keeps_onward (hclock x (List.mem_cons_self ..)) (hg.listsFree hx) (hdistinct _ hx)
            (hg.namesFree hx) hc) hs
    exact ih (fun y hy => hon y (List.mem_cons_of_mem _ hy))
      (fun y hy => hclock y (List.mem_cons_of_mem _ hy)) hspares.2 hstep

/-- Whatever the clock shows in the years 0 to 9999 and whatever clients send, a record that a history
has reached and a later one spares keeps its time of creation, and its time of change has not gone back,
neither behind the one before nor behind its creation. All three are canonical timestamps. -/
theorem times_never_go_back {ds : List Schema.ResourceDeclaration} {i : Interface} {h h' : History}
    (hdistinct : Schema.Distinct ds) (hresolve : Schema.resolve ds = .ok i.registry)
    (hon : (h ++ h').On i.registry) (hclock : ∀ x ∈ h ++ h', ∀ n, (x.env.clock n).Dated)
    {r : Resource} (hr : r ∈ i.registry.resources) {id : String} {d e : Document}
    (hd : d ∈ (h.after i Store.empty).documents r.name) (hid : Document.id? d = some id)
    (hspares : h'.Spares i r.name id (h.after i Store.empty))
    (he : e ∈ ((h ++ h').after i Store.empty).documents r.name) (hid' : Document.id? e = some id) :
    ∃ created earlier later : String,
      Members.get? d createdAtField = some (.string created) ∧
      Members.get? e createdAtField = some (.string created) ∧
      Members.get? d updatedAtField = some (.string earlier) ∧
      Members.get? e updatedAtField = some (.string later) ∧
      Time.Canonical created ∧ Time.Canonical earlier ∧ Time.Canonical later ∧
      ∃ c u v, Time.instant? created = some c ∧ Time.instant? earlier = some u ∧
        Time.instant? later = some v ∧ c ≤ u ∧ u ≤ v := by
  have hg : i.registry.Consistent := Schema.consistent_of_resolve hresolve
  have hnodup := Schema.distinct_of_resolve hdistinct hresolve
  have hon₁ : ∀ x ∈ h, x.resource ∈ i.registry.resources := fun x hx => hon x (List.mem_append_left _ hx)
  have hclock₁ : ∀ x ∈ h, ∀ n, (x.env.clock n).Dated := fun x hx => hclock x (List.mem_append_left _ hx)
  have htimed : TimedStore (h.after i Store.empty) := by
    refine History.after_of_keeps (fun x hx => ?_) fun c d hd => by cases hd
    exact keeps_timed (hclock₁ x hx) (hg.listsFree (hon₁ x hx)) (hnodup _ (hon₁ x hx))
      (hg.namesFree (hon₁ x hx)) x.command
  have hintact : (h.after i Store.empty).Intact i.registry := by
    refine History.after_of_keeps (fun x hx => ?_) (Store.intact_empty _)
    exact keeps_intact hg (hnodup _ (hon₁ x hx)) (hon₁ x hx) x.command
  obtain ⟨c, u, hdtimed⟩ := htimed r.name d hd
  -- No other record has the identity, so what holds of `d` holds of every record that has it.
  have honward : Onward r.name id c u (h.after i Store.empty) := by
    intro d' hd' hid'
    obtain rfl : d' = d := List.inj_on_of_nodup_map (hintact.identities r hr) hd' hd (hid'.trans hid.symm)
    exact ⟨u, Instant.le_refl u, hdtimed⟩
  rw [show (h ++ h').after i Store.empty = h'.after i (h.after i Store.empty) from List.foldl_append ..] at he
  obtain ⟨v, hle, hetimed⟩ := History.onward hg hnodup
    (fun x hx => hon x (List.mem_append_right _ hx)) (fun x hx => hclock x (List.mem_append_right _ hx))
    hspares ⟨⟨d, hd, hid⟩, honward⟩ e he hid'
  refine ⟨c.text, u.text, v.text, hdtimed.createdAt, hetimed.createdAt, hdtimed.updatedAt,
    hetimed.updatedAt, hdtimed.wholeCreated.canonical_text, hdtimed.wholeUpdated.canonical_text,
    hetimed.wholeUpdated.canonical_text, c, u, v, hdtimed.wholeCreated.instant?_text,
    hdtimed.wholeUpdated.instant?_text, hetimed.wholeUpdated.instant?_text, hdtimed.order, hle⟩

/-! ### A clock that goes back -/

/-- An environment that refuses nothing and whose clock stands still. -/
def standing (seconds : Int) (nanos : Nat) : Program.Environment :=
  { Groups.refusing none with clock := fun _ => ⟨seconds, nanos⟩ }

def opsAt (seconds : Int) (nanos : Nat) : Step :=
  ⟨standing seconds nanos, Groups.group, .createItem (Groups.values [("name", .string "ops")])⟩

/-- While the clock is years behind, the group gets a member; later it gets an update within the
millisecond of its creation. -/
def behind : History :=
  [⟨standing 1500000000 0, Groups.person,
      .createItem (Groups.values [("name", .string "ann"), ("group", .string "ops")])⟩,
    ⟨standing 1600000000 250900000, Groups.group,
      .update "ops" (Groups.values [("updatedAt", .string "1999-01-01")])⟩]

theorem times_never_go_back_groups :
    Schema.Distinct Groups.declarations ∧
      Schema.resolve Groups.declarations = .ok Groups.interface.registry ∧
      (∀ x ∈ [opsAt 1600000000 250000001] ++ behind, ∀ n, (x.env.clock n).Dated) ∧
      ∃ d ∈ (History.after Groups.interface [opsAt 1600000000 250000001] Store.empty).documents "group",
      ∃ e ∈ (History.after Groups.interface ([opsAt 1600000000 250000001] ++ behind)
        Store.empty).documents "group",
      Document.id? d = some "ops" ∧ Document.id? e = some "ops" ∧
      ∃ created earlier later : String,
        Members.get? d createdAtField = some (.string created) ∧
        Members.get? e createdAtField = some (.string created) ∧
        Members.get? d updatedAtField = some (.string earlier) ∧
        Members.get? e updatedAtField = some (.string later) ∧
        Time.Canonical created ∧ Time.Canonical earlier ∧ Time.Canonical later ∧
        ∃ c u v, Time.instant? created = some c ∧ Time.instant? earlier = some u ∧
          Time.instant? later = some v ∧ c ≤ u ∧ u ≤ v := by
  have hon : History.On Groups.interface.registry ([opsAt 1600000000 250000001] ++ behind) := by
    simp [History.On, opsAt, behind, Groups.interface]
  have hdated : ∀ t ∈ [Instant.mk 1600000000 250000001, ⟨1500000000, 0⟩, ⟨1600000000, 250900000⟩],
      t.Dated := by
    have hall : ∀ t ∈ [Instant.mk 1600000000 250000001, ⟨1500000000, 0⟩, ⟨1600000000, 250900000⟩],
        0 ≤ (Time.Date.ofDays (t.seconds / 86400)).year ∧
          (Time.Date.ofDays (t.seconds / 86400)).year ≤ 9999 ∧ t.nanos < 1000000000 := by
      decide +kernel
    exact fun t ht => ⟨(hall t ht).1, (hall t ht).2.1, .inl (hall t ht).2.2⟩
  have hclock : ∀ x ∈ [opsAt 1600000000 250000001] ++ behind, ∀ n, (x.env.clock n).Dated := by
    intro x hx n
    apply hdated
    simp only [List.cons_append, List.nil_append, behind, List.mem_cons, List.not_mem_nil, or_false] at hx ⊢
    rcases hx with rfl | rfl | rfl
    · exact .inl rfl
    · exact .inr (.inl rfl)
    · exact .inr (.inr rfl)
  have hspares : behind.Spares Groups.interface "group" "ops"
      (History.after Groups.interface [opsAt 1600000000 250000001] Store.empty) := by
    refine ⟨fun h => ?_, fun h => ?_, trivial⟩
    · cases h
    · cases h
  have hfirst : ((History.after Groups.interface [opsAt 1600000000 250000001]
      Store.empty).documents "group").any (fun d => Document.id? d == some "ops") = true := by
    decide +kernel
  have hlast : ((History.after Groups.interface ([opsAt 1600000000 250000001] ++ behind)
      Store.empty).documents "group").any (fun d => Document.id? d == some "ops") = true := by
    decide +kernel
  obtain ⟨d, hd, hid⟩ := List.any_eq_true.mp hfirst
  obtain ⟨e, he, hid'⟩ := List.any_eq_true.mp hlast
  have hid : Document.id? d = some "ops" := by simpa using hid
  have hid' : Document.id? e = some "ops" := by simpa using hid'
  exact ⟨Groups.distinct_declarations, Groups.resolve_declarations, hclock, d, hd, e, he, hid, hid',
    times_never_go_back Groups.distinct_declarations Groups.resolve_declarations hon hclock
      (r := Groups.group) (List.mem_cons_self ..) hd hid hspares he hid'⟩

end Operation

end Hypermedia
