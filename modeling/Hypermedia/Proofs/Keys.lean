import Hypermedia.Proofs.Catalog
import Hypermedia.Proofs.Writes

/-!
# Documents under their keys

In every store that operations reach, a collection and an identity are the key of one document at most, in
all collections. So a look for an identity finds the document that was saved last under this key.
-/

namespace Hypermedia

open Store (Document)

namespace Store

/-- Every document has a text for its identity, and no two of a collection have the same one. -/
structure Keyed (s : Store) : Prop where
  named : s.Named
  distinct : ∀ collection, ((s.documents collection).map Document.id?).Nodup

section
variable {s : Store} {a : Catalog}

theorem Keyed.models (hs : s.Keyed) : ∃ a, s.Models a :=
  ⟨fun collection => ⟨s.documents collection, hs.named collection, hs.distinct collection⟩, fun _ => rfl⟩

theorem Models.keyed (h : s.Models a) : s.Keyed where
  named collection d hd := (a collection).named d (h collection ▸ hd)
  distinct collection := h collection ▸ (a collection).distinct

/-- To look for an identity is to look it up in the map of the collection. -/
theorem Models.called_eq (h : s.Models a) (collection id : String) :
    s.called collection id = (a collection).get? id := by
  rw [called, Shelf.get?, h collection, ← List.head?_filter, ← List.head?_filter]
  refine congrArg List.head? (List.filter_congr fun d hd => ?_)
  obtain ⟨x, hx⟩ := Option.isSome_iff_exists.mp ((a collection).named d hd)
  rw [Document.isFoundBy_of_id? hx, hx, Bool.eq_iff_iff, beq_iff_eq, beq_iff_eq, Option.some.injEq]

variable (hs : s.Keyed) {collection id : String} {d e : Document}

include hs

theorem Keyed.called_eq_some_iff :
    s.called collection id = some d ↔ d ∈ s.documents collection ∧ Document.id? d = some id := by
  refine ⟨fun h => ⟨mem_of_called h, id?_of_called hs.named h⟩, fun ⟨hd, hid⟩ => ?_⟩
  cases hc : s.called collection id with
  | none => exact absurd ⟨d, hd, hid⟩ (not_holds_of_called hc)
  | some c =>
    have hcid : Document.id? c = some id := id?_of_called hs.named hc
    rw [List.inj_on_of_nodup_map (hs.distinct collection) (mem_of_called hc) hd (hcid.trans hid.symm)]

theorem Keyed.holds_iff : s.Holds collection id ↔ ∃ d, s.called collection id = some d :=
  exists_congr fun _ => hs.called_eq_some_iff.symm

theorem Keyed.lists_iff {field child : String} : s.Lists collection id field child ↔
    ∃ d, s.called collection id = some d ∧
      ∃ xs, Members.get? d field = some (.array xs) ∧ Value.string child ∈ xs := by
  refine exists_congr fun d => ?_
  rw [hs.called_eq_some_iff, and_assoc]

theorem Keyed.countP_eq_one (h : s.Holds collection id) :
    (s.documents collection).countP (fun d => Document.id? d == some id) = 1 := by
  obtain ⟨d, hd, hid⟩ := h
  have hmem : some id ∈ (s.documents collection).map Document.id? := hid ▸ List.mem_map_of_mem hd
  have hone := List.count_eq_one_of_mem (hs.distinct collection) hmem
  rwa [List.count, List.countP_map] at hone

/-- A saved document is the one that is found under its key; under all others the same is found as before. -/
theorem Keyed.save (collection : String) (hid : Document.id? e = some id) :
    ((Call.save collection e).perform s).2.Keyed ∧ ∀ other key,
      ((Call.save collection e).perform s).2.called other key =
        if other = collection ∧ key = id then some e else s.called other key := by
  obtain ⟨a, h⟩ := hs.models
  have hsave := save_of_id? s collection hid
  rw [h collection, Shelf.place_documents _ hid] at hsave
  have hset : ((Call.save collection e).perform s).2.Models
      (a.set collection ((a collection).put id e hid)) := by
    rw [Call.perform, hsave]
    exact h.set rfl
  refine ⟨hset.keyed, fun other key => ?_⟩
  rw [hset.called_eq, h.called_eq, Catalog.set, Function.update_apply]
  by_cases ho : other = collection
  · subst ho
    rw [if_pos rfl, Shelf.get?_put]
    simp only [true_and]
  · rw [if_neg ho, if_neg fun hk => ho hk.1]

theorem Keyed.holds_saved (collection : String) (hid : Document.id? e = some id) :
    ((Call.save collection e).perform s).2.Holds collection id := by
  obtain ⟨hkeyed, hcalled⟩ := hs.save collection hid
  exact hkeyed.holds_iff.mpr ⟨e, by rw [hcalled, if_pos ⟨rfl, rfl⟩]⟩

theorem Keyed.holds_save (collection : String) (hid : Document.id? e = some id) {other key : String}
    (h : s.Holds other key) : ((Call.save collection e).perform s).2.Holds other key := by
  obtain ⟨hkeyed, hcalled⟩ := hs.save collection hid
  by_cases hkey : other = collection ∧ key = id
  · obtain ⟨rfl, rfl⟩ := hkey
    exact hs.holds_saved other hid
  · obtain ⟨d, hd⟩ := hs.holds_iff.mp h
    exact hkeyed.holds_iff.mpr ⟨d, by rw [hcalled, if_neg hkey, hd]⟩

end

theorem keyed_empty : Store.empty.Keyed := models_empty.keyed

theorem Keyed.within {s t : Store} (hs : s.Keyed) (hts : t.Within s) : t.Keyed where
  named collection d hd := hs.named collection d ((hts collection).subset hd)
  distinct collection := ((hts collection).map _).nodup (hs.distinct collection)

end Store

/-! ### What operations keep -/

namespace Operation

section
variable {env : Program.Environment} {i : Interface} {g : Registry} {r : Resource}

/-- Changes keep identities, and a new record gets one that is not in use. -/
theorem keeps_keyed (hg : g.Consistent) (hr : r ∈ g.resources) (c : Command) :
    Service.Keeps env Store.Keyed (c.service i r) := by
  have hlists : r.ListsFree := hg.listsFree hr
  have hnames : r.NamesFree := hg.namesFree hr
  refine keeps_of_changes hlists (fun s t hs hst => ?_) hnames (fun s t hs hnew => ?_) c
    fun _ s t hts hs => hs.within hts
  · have hids : ∀ collection, (t.documents collection).map Document.id? =
        (s.documents collection).map Document.id? := fun collection =>
      forall₂_map_eq (fun _ _ hde => hde.id?_eq hlists hnames) (hst collection)
    refine ⟨fun collection e he => ?_, fun collection => (hids collection) ▸ hs.distinct collection⟩
    obtain ⟨d, hd, hde⟩ := forall₂_mem_right (hst collection) he
    exact hde.id?_eq hlists hnames ▸ hs.named collection d hd
  · obtain ⟨params, id, n, hfree, rfl⟩ := hnew
    have hsave := (hs.save r.name (Record.id?_new r params id (env.clock n).text)).1
    rwa [Call.perform, Store.save_of_id? s r.name (Record.id?_new r params id _),
      Store.place_of_fresh (Store.not_holds_of_called hfree)] at hsave

theorem History.keyed {h : History} (hg : i.registry.Consistent) (hon : h.On i.registry) :
    (h.after i Store.empty).Keyed :=
  History.after_of_keeps (fun x hx => keeps_keyed hg (hon x hx) x.command) Store.keyed_empty

end

end Operation

end Hypermedia
