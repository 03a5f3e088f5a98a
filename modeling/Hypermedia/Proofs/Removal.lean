import Hypermedia.Proofs.Emission
import Hypermedia.Proofs.Keys

/-!
# What deletes remove

A delete of a selection finds the records that meet a condition, in whatever order and with their
identities only, and then removes them one by one. No two records share an identity, so this takes away
the records that meet the condition and no others.
-/

namespace Hypermedia

open Program (Environment World run)
open Store (Document)
open Hypermedia.Filter (Condition Matcher Request)

/-! ### Stores without some documents -/

/-- A store without the documents of a collection that pass a test: what is left stands in its order, and
no other collection has changed. -/
structure Store.Without (s : Store) (collection : String) (gone : Document → Bool) (t : Store) : Prop where
  left : t.documents collection = (s.documents collection).filter fun d => !gone d
  others : ∀ other ≠ collection, t.documents other = s.documents other

namespace Store

section
variable {s t u : Store} {collection : String} {gone more : Document → Bool}

theorem without_of_none (h : ∀ d ∈ s.documents collection, gone d = false) :
    s.Without collection gone s where
  left := (List.filter_eq_self.mpr fun d hd => by simp [h d hd]).symm
  others _ _ := rfl

theorem without_withDocuments (s : Store) (collection : String) (gone : Document → Bool) :
    s.Without collection gone
      (s.withDocuments collection ((s.documents collection).filter fun d => !gone d)) where
  left := by rw [documents_withDocuments, if_pos rfl]
  others other hother := by rw [documents_withDocuments, if_neg hother.symm]

theorem Without.congr (h : s.Without collection gone t)
    (hsame : ∀ d ∈ s.documents collection, more d = gone d) : s.Without collection more t where
  left := h.left.trans (List.filter_congr fun d hd => by rw [hsame d hd])
  others := h.others

theorem Without.trans (h : s.Without collection gone t) (h' : t.Without collection more u) :
    s.Without collection (fun d => gone d || more d) u where
  left := by
    rw [h'.left, h.left, List.filter_filter]
    exact List.filter_congr fun d _ => by rw [Bool.not_or, Bool.and_comm]
  others other hother := (h'.others other hother).trans (h.others other hother)

theorem Without.within (h : s.Without collection gone t) : t.Within s := by
  intro other
  by_cases hother : other = collection
  · subst hother
    rw [h.left]
    exact List.filter_sublist
  · rw [h.others other hother]

/-- Of what is gone nothing can be counted. -/
theorem Without.countP_eq_zero (h : s.Without collection gone t) :
    (t.documents collection).countP gone = 0 := by
  rw [h.left, List.countP_eq_zero]
  intro d hd hgone
  simp [hgone] at hd

end

theorem count_eq {s : Store} {collection : String} {c : Condition} {m : Matcher}
    (hm : Condition.prepare c = .ok m) :
    s.count collection c = .ok ((s.documents collection).countP (Matcher.accepts m)) := by
  simp only [count, matching, hm, Except.map, List.countP_eq_length_filter]

/-- Among documents with an identity each, the ones whose identity is one of a selection are selected. -/
theorem Keyed.mem_ids_iff {s : Store} (hs : s.Keyed) {collection : String} (test : Document → Bool)
    {d : Document} (hd : d ∈ s.documents collection) :
    Document.id? d ∈ ((s.documents collection).filter test).map Document.id? ↔ test d = true := by
  refine ⟨fun hm => ?_, fun ht => List.mem_map_of_mem (List.mem_filter.mpr ⟨hd, ht⟩)⟩
  obtain ⟨e, he, hid⟩ := List.mem_map.mp hm
  obtain ⟨he, ht⟩ := List.mem_filter.mp he
  rwa [List.inj_on_of_nodup_map (hs.distinct collection) hd he hid.symm]

end Store

/-! ### Deletes -/

namespace Operation

section
variable {env : Environment} {s : Store} {r : Resource} {request : Request} {m : Matcher}

/-- Documents that have identities are removed by them, and each counts. -/
theorem ends_removeEach_without {collection : String} {ds : List Document}
    (hds : ∀ d ∈ ds, (Document.id? d).isSome) {removed : Nat} :
    Service.Ends env s (removeEach collection removed ds)
      (fun n t => n = removed + ds.length ∧
        s.Without collection (fun d => decide (Document.id? d ∈ ds.map Document.id?)) t)
      (fun e _ => env.Refused e) := by
  induction ds generalizing s removed with
  | nil => exact Service.ends_pure ⟨rfl, Store.without_of_none fun _ _ => rfl⟩
  | cons d ds ih =>
    obtain ⟨hd, hds⟩ := List.forall_mem_cons.mp hds
    obtain ⟨id, hid⟩ := Option.isSome_iff_exists.mp hd
    simp only [removeEach, hid]
    refine Service.ends_bind (R := fun _ t => s.Without collection (fun e => Document.id? e == some id) t)
      (Service.ends_ask (fun _ he => he) (Store.without_withDocuments s collection _)) fun _ t hst => ?_
    refine Service.ends_mono (ih hds) (fun n u hu => ?_) fun _ _ he => he
    refine ⟨by rw [hu.1, List.length_cons]; omega, (hst.trans hu.2).congr fun e _ => ?_⟩
    rw [Bool.eq_iff_iff]
    simp [hid]

theorem ends_deleteCollection_without (hs : s.Keyed)
    (hm : Condition.prepare (Filter.condition r request) = .ok m) :
    Service.Ends env s (deleteCollection r request)
      (fun n t => n = (s.documents r.name).countP (Matcher.accepts m) ∧
        s.Without r.name (Matcher.accepts m) t) (fun e _ => env.Refused e) := by
  have hmatching : s.matching r.name (Filter.condition r request) =
      .ok ((s.documents r.name).filter (Matcher.accepts m)) := Store.matching_of_prepare hm s r.name
  obtain ⟨found, hfound⟩ := Store.find_ok hmatching { fields := some [idField] }
  have hperm := (Store.find_perm hmatching hfound).map Document.id?
  -- The projection keeps identities, so what is found has those of the selection.
  have hids : (((s.documents r.name).filter (Matcher.accepts m)).map
      (Document.project · (some [idField]))).map Document.id? =
        ((s.documents r.name).filter (Matcher.accepts m)).map Document.id? := by
    rw [List.map_map]
    refine List.map_congr_left fun d _ => Document.id?_project ?_
    rintro fs ⟨⟩
    exact List.mem_singleton.mpr rfl
  rw [hids] at hperm
  have hnamed : ∀ d ∈ found, (Document.id? d).isSome := by
    intro d hd
    obtain ⟨e, he, hid⟩ := List.mem_map.mp (hperm.subset (List.mem_map_of_mem hd))
    exact hid ▸ hs.named r.name e (List.mem_filter.mp he).1
  unfold deleteCollection
  refine Service.ends_bind (R := fun xs t => t = s ∧ xs = found)
    (Service.ends_ask (fun _ he => he) ?_) ?_
  · simp only [Call.perform, hfound]
    exact ⟨rfl, rfl⟩
  · rintro _ t ⟨rfl, rfl⟩
    refine Service.ends_mono (ends_removeEach_without hnamed) (fun n u hu => ?_) fun _ _ he => he
    have hlength := hperm.length_eq
    rw [List.length_map, List.length_map, ← List.countP_eq_length_filter] at hlength
    refine ⟨by rw [hu.1, Nat.zero_add, hlength], hu.2.congr fun d hd => ?_⟩
    rw [Bool.eq_iff_iff, decide_eq_true_iff, hperm.mem_iff, hs.mem_ids_iff _ hd]

/-- A condition that makes no sense removes nothing. -/
theorem ends_deleteCollection_senseless {reason : Store.Error}
    (hm : Condition.prepare (Filter.condition r request) = .error reason) :
    Service.Ends env s (deleteCollection r request) (fun _ _ => False)
      (fun e t => t = s ∧ (e = .store reason ∨ env.Refused e)) := by
  unfold deleteCollection
  refine Service.ends_bind (R := fun _ _ => False)
    (Service.ends_ask (fun _ he => ⟨rfl, .inr he⟩) ?_) fun _ _ hfalse => hfalse.elim
  simp only [Call.perform, Store.find, Store.matching, hm]
  exact ⟨rfl, .inl rfl⟩

theorem ends_deleteInstance_without (hs : s.Keyed) {id : String} :
    Service.Ends env s (deleteInstance r id)
      (fun _ t => s.Without r.name (fun d => Document.id? d == some id) t ∧
        (¬ s.Holds r.name id → t = s)) (fun e _ => env.Refused e) := by
  unfold deleteInstance
  refine Service.ends_bind (R := fun _ t =>
    s.Without r.name (fun d => Document.id? d == some id) t ∧ (¬ s.Holds r.name id → t = s))
    (Service.ends_ask (fun _ he => he) ?_) fun _ _ ht => Service.ends_pure ht
  simp only [Call.perform, Store.removeFirst_byId]
  cases hd : s.called r.name id with
  | none =>
    refine ⟨Store.without_of_none fun d hd' => ?_, fun _ => rfl⟩
    exact beq_eq_false_iff_ne.mpr fun hid => Store.not_holds_of_called hd ⟨d, hd', hid⟩
  | some d =>
    have hid : Document.id? d = some id := Store.id?_of_called hs.named hd
    have hdrop : Store.dropFirst (Document.isFoundBy id) (s.documents r.name) =
        (s.documents r.name).filter fun e => !(Document.id? e == some id) := by
      rw [dropFirst_eq_filter (hs.distinct r.name) hd, hid]
      exact List.filter_congr fun e _ => by rw [decide_not, beq_eq_decide]
    refine ⟨hdrop ▸ Store.without_withDocuments s r.name _, fun hno => absurd ?_ hno⟩
    exact ⟨d, Store.mem_of_called hd, hid⟩

end

/-- From every store that operations reach, if no call is refused, a delete of a selection answers how
many records meet its condition and removes these and no others: a count of them is zero then, and so is
the answer of the delete made again. If the condition makes no sense, it fails and removes nothing. A
delete of one record removes the record of this identity, or nothing where there is none. -/
theorem deletes_remove_the_matches {ds : List Schema.ResourceDeclaration} {i : Interface} {h : History}
    (hresolve : Schema.resolve ds = .ok i.registry) (hon : h.On i.registry) (r : Resource)
    (request : Request) {env : Environment} (henv : env.Accepts) {w : World}
    (hw : w.store = h.after i Store.empty) :
    (∀ m, Condition.prepare (Filter.condition r request) = .ok m →
      (run env (deleteCollection r request).run w).1 =
          .ok ((w.store.documents r.name).countP (Matcher.accepts m)) ∧
        w.store.Without r.name (Matcher.accepts m)
          (run env (deleteCollection r request).run w).2.store ∧
        (run env (deleteCollection r request).run w).2.store.count r.name
          (Filter.condition r request) = .ok 0 ∧
        ∀ (env' : Environment) (w' : World), env'.Accepts →
          w'.store = (run env (deleteCollection r request).run w).2.store →
          (run env' (deleteCollection r request).run w').1 = .ok 0) ∧
    (∀ e, Condition.prepare (Filter.condition r request) = .error e →
      (run env (deleteCollection r request).run w).1 = .error (.store e) ∧
        (run env (deleteCollection r request).run w).2.store = w.store) ∧
    ∀ id, (run env (deleteInstance r id).run w).1 = .ok () ∧
      w.store.Without r.name (fun d => Document.id? d == some id)
        (run env (deleteInstance r id).run w).2.store ∧
      (¬ w.store.Holds r.name id → (run env (deleteInstance r id).run w).2.store = w.store) := by
  have hg : i.registry.Consistent := Schema.consistent_of_resolve hresolve
  have hs : w.store.Keyed := hw ▸ History.keyed hg hon
  refine ⟨fun m hm => ?_, fun e hm => ?_, fun id => ?_⟩
  · obtain ⟨n, hn, rfl, hgone⟩ := Service.success_of_ends (Service.ends_mono
      (ends_deleteCollection_without hs hm) (fun _ _ h => h) fun e _ he => not_refused henv e he)
    refine ⟨hn, hgone, ?_, fun env' w' henv' hw' => ?_⟩
    · rw [Store.count_eq hm, hgone.countP_eq_zero]
    · rw [← hw'] at hgone
      obtain ⟨n, hn, rfl, -⟩ := Service.success_of_ends (Service.ends_mono
        (ends_deleteCollection_without (hs.within hgone.within) hm) (fun _ _ h => h)
        fun e _ he => not_refused henv' e he)
      rw [hn, hgone.countP_eq_zero]
  · obtain ⟨e', he', hsame, hreason⟩ := Service.failure_of_ends (ends_deleteCollection_senseless hm)
    obtain rfl : e' = .store e := hreason.resolve_right (not_refused henv e')
    exact ⟨he', hsame⟩
  · obtain ⟨_, hn, ht⟩ := Service.success_of_ends (Service.ends_mono
      (ends_deleteInstance_without hs) (fun _ _ h => h) fun e _ he => not_refused henv e he)
    exact ⟨hn, ht⟩

/-- Three people, of whom the first and the last belong to the group. -/
def twoInOps : History :=
  [Groups.newGroup "Ops",
    ⟨Groups.refusing none, Groups.person,
      .createItem (Groups.values [("name", .string "ann"), ("group", .string "ops")])⟩,
    ⟨Groups.refusing none, Groups.person, .createItem (Groups.values [("name", .string "bob")])⟩,
    ⟨Groups.refusing none, Groups.person,
      .createItem (Groups.values [("name", .string "cy"), ("group", .string "ops")])⟩]

/-- The delete of all people of the group. -/
def dissolve : Service Nat := deleteCollection Groups.person ⟨none, [], [("group", "ops")]⟩

theorem deletes_remove_the_matches_groups :
    Schema.resolve Groups.declarations = .ok Groups.interface.registry ∧
      twoInOps.On Groups.interface.registry ∧ (Groups.refusing none).Accepts ∧
      Condition.prepare (Filter.condition Groups.person ⟨none, [], [("group", "ops")]⟩) =
        .ok [("group", .exact (.string "ops"))] ∧
      ∃ t, (run (Groups.refusing none) dissolve.run
          { store := twoInOps.after Groups.interface Store.empty }).2.store = t ∧
        (run (Groups.refusing none) dissolve.run
          { store := twoInOps.after Groups.interface Store.empty }).1 = .ok 2 ∧
        (t.documents "person").map Document.id? = [some "bob"] ∧
        t.documents "group" = (twoInOps.after Groups.interface Store.empty).documents "group" ∧
        (run (Groups.refusing none) dissolve.run { store := t }).1 = .ok 0 := by
  have hon : twoInOps.On Groups.interface.registry := by
    simp [History.On, twoInOps, Groups.newGroup, Groups.interface]
  have hm : Condition.prepare (Filter.condition Groups.person ⟨none, [], [("group", "ops")]⟩) =
      .ok [("group", .exact (.string "ops"))] := by rfl
  obtain ⟨hn, hgone, -, hagain⟩ := (deletes_remove_the_matches Groups.resolve_declarations hon
    Groups.person ⟨none, [], [("group", "ops")]⟩ Groups.accepts
    (w := { store := twoInOps.after Groups.interface Store.empty }) rfl).1 _ hm
  have hcount : ((twoInOps.after Groups.interface Store.empty).documents "person").countP
      (Matcher.accepts [("group", .exact (.string "ops"))]) = 2 := by decide +kernel
  have hleft : (((twoInOps.after Groups.interface Store.empty).documents "person").filter fun d =>
      !Matcher.accepts [("group", .exact (.string "ops"))] d).map Document.id? = [some "bob"] := by
    decide +kernel
  refine ⟨Groups.resolve_declarations, hon, Groups.accepts, hm, _, rfl, ?_, ?_, ?_, ?_⟩
  · exact hn.trans (congrArg Except.ok hcount)
  · exact (congrArg _ hgone.left).trans hleft
  · exact hgone.others "group" (by decide)
  · exact hagain (Groups.refusing none) _ Groups.accepts rfl

end Operation

end Hypermedia
