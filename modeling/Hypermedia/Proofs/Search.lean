import Mathlib.Data.List.Infix
import Hypermedia.Proofs.Conditions
import Hypermedia.Proofs.Listing
import Hypermedia.Proofs.Literal
import Hypermedia.Proofs.Writes

/-!
# Free-text search

The searchable text of a record is a copy, taken when the record is created and again when an update
supplies a part of it. After every history of operations it is the one of the record's present values,
so a search for a text finds the records in whose values it stands.
-/

namespace Hypermedia

open Store (Document)
open Operation (Change Newcomer completePatch withListed)

/-- A document's searchable text is the one of its values. -/
def Store.Document.Indexed (r : Resource) (d : Document) : Prop :=
  Members.get? d searchField = some (.string (Record.searchText r d))

/-- Every document belongs to a registered resource and its searchable text is the one of its values. -/
def Store.Indexed (g : Registry) (s : Store) : Prop :=
  ∀ collection, ∀ d ∈ s.documents collection, ∃ r ∈ g.resources, r.name = collection ∧ d.Indexed r

/-- No list of children is part of the searchable text. -/
def Resource.PlainText (r : Resource) : Prop :=
  ∀ a ∈ r.attributes, a.text = true → a.type.isChildren = false

/-! ### Texts of records -/

section
variable {r : Resource}

theorem Record.searchText_congr {d e : Document}
    (h : ∀ a ∈ r.attributes, a.text = true → Members.get? e a.name = Members.get? d a.name) :
    Record.searchText r e = Record.searchText r d := by
  unfold Record.searchText
  congr 1
  refine List.filterMap_congr fun f hf => ?_
  obtain ⟨a, ha, rfl⟩ := List.mem_map.mp hf
  obtain ⟨ha, ht⟩ := List.mem_filter.mp ha
  rw [h a ha ht]

theorem Store.Document.Indexed.of_same {d e : Document} (h : Document.Indexed r d)
    (hq : Members.get? e searchField = Members.get? d searchField)
    (htexts : ∀ a ∈ r.attributes, a.text = true → Members.get? e a.name = Members.get? d a.name) :
    Document.Indexed r e := by
  unfold Document.Indexed
  rw [hq, Record.searchText_congr htexts]
  exact h

theorem Record.indexed_new (hnames : r.NamesFree) (params : Members) (id now : String) :
    Document.Indexed r (Record.new r params id now) := by
  have htext : Record.searchText r (Record.new r params id now) =
      Record.searchText r (Record.body r params id now) := by
    refine Record.searchText_congr fun a ha _ => ?_
    have hne : searchField ≠ a.name := Ne.symm (hnames.ne ha (by decide))
    rw [Record.new, Members.get?_append, Members.get?_cons, if_neg hne]
    exact Option.or_none
  unfold Document.Indexed
  rw [htext, Record.get?_new_reserved hnames _ _ _ (by decide) (by decide)]
  rfl

/-- A part of the searchable text is among the values that an update supplies. -/
def Record.SuppliesText (r : Resource) (value : Attribute → Option Value) : Prop :=
  ∃ a ∈ r.attributes, a.text = true ∧ a.type.isChildren = false ∧ (value a).isSome = true

section
variable (hdistinct : (r.attributes.map (·.name)).Nodup) (hnames : r.NamesFree)

include hdistinct hnames

theorem Record.any_textFields_patch (params : Members) (v : Value) :
    (r.textFields.any fun f => Members.has (Members.set (Record.patch r params) updatedAtField v) f) = true ↔
      SuppliesText r fun a => Members.get? params a.name := by
  have hhas : ∀ a ∈ r.attributes,
      Members.has (Members.set (Record.patch r params) updatedAtField v) a.name = true ↔
        a.type.isChildren = false ∧ (Members.get? params a.name).isSome = true := by
    intro a ha
    rw [Members.has, Members.get?_set, if_neg (hnames.ne ha (by decide)).symm]
    cases hc : a.type.isChildren with
    | true =>
      have hnone : a.name ∉ Members.keys (Record.patch r params) := by
        intro hm
        obtain ⟨b, hb, hbc, he⟩ := Record.mem_keys_patch hm
        rw [List.inj_on_of_nodup_map hdistinct hb ha he, hc] at hbc
        cases hbc
      simp [(Members.get?_eq_none_iff _ _).mpr hnone]
    | false => simp [Record.get?_patch hdistinct params ha hc]
  simp only [Resource.textFields, List.any_map, List.any_filter, List.any_eq_true, Function.comp_apply,
    Bool.and_eq_true, SuppliesText]
  refine exists_congr fun a => and_congr_right fun ha => and_congr_right fun _ => hhas a ha

/-- A patch sets the searchable text anew if it sets a part of it, and else leaves it. -/
theorem Operation.get?_merge_completePatch_search (params : Members) (d : Document) (now : Time.Instant) :
    (Record.SuppliesText r (fun a => Members.get? params a.name) →
      Document.Indexed r (Members.merge d (completePatch r params d now))) ∧
    (¬ Record.SuppliesText r (fun a => Members.get? params a.name) →
      Members.get? (Members.merge d (completePatch r params d now)) searchField =
        Members.get? d searchField) := by
  have hq : ∀ a ∈ r.attributes, searchField ≠ a.name := fun a ha => Ne.symm (hnames.ne ha (by decide))
  rw [← Record.any_textFields_patch hdistinct hnames params
    (.string (Record.bumped (Members.get? d updatedAtField) now))]
  unfold completePatch
  dsimp only
  generalize hpatch : Members.set (Record.patch r params) updatedAtField
    (.string (Record.bumped (Members.get? d updatedAtField) now)) = patch
  have hnodup : (Members.keys patch).Nodup :=
    hpatch ▸ Members.nodup_keys_set _ _ (Record.nodup_keys_patch hdistinct params)
  refine ⟨fun hany => ?_, fun hnone => ?_⟩
  · rw [if_pos hany]
    have htext : Record.searchText r (Members.merge d (Members.set patch searchField
        (.string (Record.searchText r (Members.merge d patch))))) =
        Record.searchText r (Members.merge d patch) := by
      refine Record.searchText_congr fun a ha _ => ?_
      rw [Members.get?_merge d (Members.nodup_keys_set _ _ hnodup), Members.get?_merge d hnodup,
        Members.get?_set, if_neg (hq a ha)]
    unfold Document.Indexed
    rw [htext, Members.get?_merge d (Members.nodup_keys_set _ _ hnodup), Members.get?_set, if_pos rfl]
    rfl
  · rw [if_neg hnone]
    refine Members.get?_merge_of_notMem d patch fun hm => ?_
    rw [← hpatch] at hm
    rcases Members.mem_keys_set hm with hm | hm
    · obtain ⟨a, ha, -, hname⟩ := Record.mem_keys_patch hm
      exact hq a ha hname.symm
    · exact absurd hm (by decide)

theorem Store.Document.Indexed.merge {d : Document} (h : Document.Indexed r d) (params : Members)
    (now : Time.Instant) : Document.Indexed r (Members.merge d (completePatch r params d now)) := by
  obtain ⟨hanew, hsame⟩ := Operation.get?_merge_completePatch_search hdistinct hnames params d now
  by_cases hsupplied : Record.SuppliesText r fun a => Members.get? params a.name
  · exact hanew hsupplied
  · refine h.of_same (hsame hsupplied) fun a ha ht => ?_
    cases hc : a.type.isChildren with
    | true =>
      exact Members.get?_merge_of_notMem d _
        (Operation.children_notMem_completePatch hdistinct hnames ha hc)
    | false =>
      have hnone : Members.get? params a.name = none := by
        by_contra hsome
        exact hsupplied ⟨a, ha, ht, hc, Option.isSome_iff_ne_none.mpr hsome⟩
      rw [Operation.get?_merge_completePatch hdistinct hnames ha hc, hnone]
      rfl

end

/-- The bookkeeping of owners changes a list of children, which is no part of the searchable text. -/
theorem Store.Document.Indexed.withListed (hdistinct : (r.attributes.map (·.name)).Nodup)
    (hnames : r.NamesFree) (hplain : r.PlainText) {d : Document} (h : Document.Indexed r d)
    {b : Attribute} (hb : b ∈ r.attributes) (hc : b.type.isChildren = true) (child : String)
    (now : Time.Instant) : Document.Indexed r (withListed b.name child now d) := by
  refine h.of_same (Operation.get?_withListed (by decide) (hnames.ne hb (by decide)).symm) ?_
  intro a ha ht
  have hne : a.name ≠ b.name := by
    intro he
    obtain rfl : a = b := List.inj_on_of_nodup_map hdistinct ha hb he
    rw [hplain a ha ht] at hc
    cases hc
  exact Operation.get?_withListed (hnames.ne ha (by decide)) hne

end

/-! ### Stores -/

namespace Operation

open Hypermedia.Filter (Request)

section
variable {g : Registry} (hg : g.Consistent)
variable (hdistinct : ∀ r ∈ g.resources, (r.attributes.map (·.name)).Nodup)
variable (hplain : ∀ r ∈ g.resources, r.PlainText)
variable {env : Program.Environment} {i : Interface} {r : Resource} (hr : r ∈ g.resources)

include hg hdistinct hplain hr

theorem Change.indexed {o : Resource} (ho : o ∈ g.resources) {d e : Document}
    (h : Change env r o.name d e) (hd : d.Indexed o) : e.Indexed o := by
  cases h with
  | same => exact hd
  | listed d child n relation =>
    obtain ⟨o', ho', hname, b, hb, rfl, hc⟩ := hg.owner_of_relation hr relation
    obtain rfl : o' = o := hg.eq_of_name ho' ho hname
    exact hd.withListed (hdistinct _ ho) (hg.namesFree ho) (hplain _ ho) hb hc child _
  | patched d params n hname =>
    obtain rfl : o = r := hg.eq_of_name ho hr hname
    exact hd.merge (hdistinct _ ho) (hg.namesFree ho) params _

theorem keeps_indexed (c : Command) : Service.Keeps env (Store.Indexed g) (c.service i r) := by
  refine keeps_of_changes (hg.listsFree hr) (fun s t hs hst => ?_) (hg.namesFree hr)
    (fun s t hs hst => ?_) c fun _ s t hts hs c d hd => hs c d ((hts c).subset hd)
  · intro collection e he
    obtain ⟨d, hd, hde⟩ := forall₂_mem_right (hst collection) he
    obtain ⟨o, ho, rfl, hindexed⟩ := hs collection d hd
    exact ⟨o, ho, rfl, hde.indexed hg hdistinct hplain hr ho hindexed⟩
  · obtain ⟨params, id, n, -, rfl⟩ := hst
    intro collection d hd
    rcases Store.mem_documents_append.mp hd with hd | ⟨rfl, rfl⟩
    · exact hs collection d hd
    · exact ⟨r, hr, rfl, Record.indexed_new (hg.namesFree hr) params id _⟩

end

/-! ### Searches -/

/-- A request for a text that supplies a value of no attribute. -/
structure SearchFor (r : Resource) (text : String) (request : Request) : Prop where
  asks : request.option? "q" = some text
  only : ∀ a ∈ Filter.conditionAttributes r, request.value? a = none

/-- The records whose searchable text has a text in it. -/
def containing (r : Resource) (text : String) (ds : List Document) : List Document :=
  ds.filter fun d => decide (text.toList <:+: (Record.searchText r d).toList)

section
variable {r : Resource} {request : Request} {text : String} (hsearch : SearchFor r text request)

include hsearch

theorem SearchFor.condition_eq (hdistinct : (r.attributes.map (·.name)).Nodup) (hnames : r.NamesFree) :
    Filter.condition r request = [(searchField, .pattern (Regex.escape text))] := by
  have hnone : (Filter.conditionAttributes r).filterMap (Filter.asked request) = [] := by
    refine List.filterMap_eq_nil_iff.mpr fun a ha => ?_
    rw [Filter.asked, hsearch.only a ha]
    rfl
  rw [Filter.condition_eq hdistinct hnames, hnone, Filter.freeText, hsearch.asks]
  rfl

/-- Among documents whose searchable text is the one of their values, a search finds those in whose
values the text stands. -/
theorem SearchFor.matching_eq (hdistinct : (r.attributes.map (·.name)).Nodup) (hnames : r.NamesFree)
    {s : Store} (hs : ∀ d ∈ s.documents r.name, d.Indexed r) :
    s.matching r.name (Filter.condition r request) = .ok (containing r text (s.documents r.name)) := by
  rw [hsearch.condition_eq hdistinct hnames]
  simp only [Store.matching, Filter.Condition.prepare, Filter.Predicate.prepare, Regex.ofString?_escape]
  refine congrArg Except.ok (List.filter_congr fun d hd => ?_)
  have htext : Members.get? d searchField = some (.string (Record.searchText r d)) := hs d hd
  rw [Bool.eq_iff_iff, decide_eq_true_iff, ← Regex.matchesIn_literals]
  simp [Filter.Matcher.accepts, htext, Filter.Test.holds, Filter.Test.holdsOf]

end

/-- If no list of children is part of the searchable text, then after every history, whichever calls of
the store were refused in it, each record's searchable text is the one of its present values. A listing
that asks for a text only selects the records in whose values the text stands, whatever characters it
has, and its page counts them. -/
theorem search_sees_current_text {ds : List Schema.ResourceDeclaration} {i : Interface} {h : History}
    (hdistinct : Schema.Distinct ds) (hresolve : Schema.resolve ds = .ok i.registry)
    (hplain : ∀ r ∈ i.registry.resources, r.PlainText) (hon : h.On i.registry) :
    (h.after i Store.empty).Indexed i.registry ∧
      ∀ r ∈ i.registry.resources, ∀ text request, SearchFor r text request →
        Service.selection (h.after i Store.empty) (list i r request) =
            .ok (containing r text ((h.after i Store.empty).documents r.name)) ∧
          ∀ (env : Program.Environment) (w : Program.World), env.Accepts →
            w.store = h.after i Store.empty →
            ∃ page, (Program.run env (list i r request).run w).1 = .ok page ∧
              page.size = (containing r text ((h.after i Store.empty).documents r.name)).length := by
  have hg : i.registry.Consistent := Schema.consistent_of_resolve hresolve
  have hnodup := Schema.distinct_of_resolve hdistinct hresolve
  have hindexed : (h.after i Store.empty).Indexed i.registry := by
    refine History.after_of_keeps (fun x hx => ?_) fun c d hd => by cases hd
    exact keeps_indexed hg hnodup hplain (hon x hx) x.command
  refine ⟨hindexed, fun r hr text request hsearch => ?_⟩
  have hselection : Service.selection (h.after i Store.empty) (list i r request) =
      .ok (containing r text ((h.after i Store.empty).documents r.name)) := by
    refine hsearch.matching_eq (hnodup r hr) (hg.namesFree hr) fun d hd => ?_
    obtain ⟨o, ho, hname, htext⟩ := hindexed r.name d hd
    obtain rfl : o = r := hg.eq_of_name ho hr hname
    exact htext
  refine ⟨hselection, fun env w henv hw => ?_⟩
  rw [← hw] at hselection ⊢
  exact page_of_selection henv hselection

/-! ### A search among notes -/

namespace Notes

def declarations : List Schema.ResourceDeclaration :=
  [("note", [("title", { Groups.declared .string none true with text := true }),
    ("body", { Groups.declared .string none false with text := true })])]

def note : Resource :=
  ⟨"note", "notes", [{ name := "title", type := .string, unique := true, text := true },
    { name := "body", type := .string, text := true }]⟩

def interface : Interface := { registry := ⟨[note]⟩, settings := {} }

/-- A note is made and gets another body, then a second note is made. -/
def history : History :=
  [⟨Groups.refusing none, note,
      .createItem (Groups.values [("title", .string "Draft"), ("body", .string "todo")])⟩,
    ⟨Groups.refusing none, note, .update "draft" (Groups.values [("body", .string "f(x) = [x]*")])⟩,
    ⟨Groups.refusing none, note, .createItem (Groups.values [("title", .string "Xs")])⟩]

/-- The first page of the notes in which a text stands. -/
def asking (text : String) : Request := ⟨none, [], [("q", text)]⟩

end Notes

theorem search_sees_current_text_notes :
    Schema.Distinct Notes.declarations ∧
      Schema.resolve Notes.declarations = .ok Notes.interface.registry ∧
      (∀ r ∈ Notes.interface.registry.resources, r.PlainText) ∧
      Notes.history.On Notes.interface.registry ∧
      SearchFor Notes.note "[x]*" (Notes.asking "[x]*") ∧
      (Notes.history.after Notes.interface Store.empty).Indexed Notes.interface.registry ∧
      ∃ page, (Program.run (Groups.refusing none)
          (list Notes.interface Notes.note (Notes.asking "[x]*")).run
          { store := Notes.history.after Notes.interface Store.empty }).1 = .ok page ∧ page.size = 1 := by
  have hdistinct : Schema.Distinct Notes.declarations := by
    simp [Schema.Distinct, Notes.declarations]
  have hresolve : Schema.resolve Notes.declarations = .ok Notes.interface.registry := rfl
  have hplain : ∀ r ∈ Notes.interface.registry.resources, r.PlainText := by
    simp [Notes.interface, Notes.note, Resource.PlainText, FieldType.isChildren]
  have hon : Notes.history.On Notes.interface.registry := by
    simp [History.On, Notes.history, Notes.interface]
  have hsearch : SearchFor Notes.note "[x]*" (Notes.asking "[x]*") := ⟨by decide, by decide⟩
  have hcount : (containing Notes.note "[x]*"
      ((Notes.history.after Notes.interface Store.empty).documents "note")).length = 1 := by
    decide +kernel
  obtain ⟨hindexed, hsearches⟩ := search_sees_current_text hdistinct hresolve hplain hon
  obtain ⟨-, hpage⟩ := hsearches Notes.note (List.mem_cons_self ..) "[x]*" _ hsearch
  obtain ⟨page, hrun, hsize⟩ := hpage (Groups.refusing none)
    { store := Notes.history.after Notes.interface Store.empty } Groups.accepts rfl
  exact ⟨hdistinct, hresolve, hplain, hon, hsearch, hindexed, page, hrun, hsize.trans hcount⟩

end Operation

end Hypermedia
