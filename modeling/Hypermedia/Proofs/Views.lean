import Hypermedia.Proofs.History
import Hypermedia.Proofs.Listing

/-!
# What shapes the view

Offset, limit, order, expansions and fields shape what a listing shows of its selection. Two queries that
differ in nothing else select the same documents and count them alike, as long as they agree where an
attribute that a condition may ask for has one of these five names. The check of declarations reserves
none of the five, and an attribute with such a name makes the parameter a filter too.
-/

namespace Hypermedia

open Store (Document)
open Program (Environment World run)
open Hypermedia.Filter (Condition Matcher Request Test Texts)

namespace Filter

def viewNames : List String := ["offset", "limit", "orderBy", "expands", "fields"]

/-- Two queries differ in the parameters of the view at most. -/
def Texts.SameFilters (query query' : Texts) : Prop :=
  ∀ name, name ∉ viewNames → query'.get? name = query.get? name

/-- A filter that a record without the field does not pass. -/
def strictText : FieldType → String
  | .geometry => "0,0,1"
  | _ => "x"

theorem strictText_ne (type : FieldType) : strictText type ≠ "" := by
  cases type <;> simp [strictText]

theorem coerce_strictText (type : FieldType) : coerce type (strictText type) = .string (strictText type) := by
  cases type with
  | number =>
    have hnumber : number? "x" = none := by decide +kernel
    simp [coerce, strictText, numberOrText, hnumber]
  | boolean =>
    have hlower : Text.lowerAscii "x" = "x" := by decide +kernel
    simp [coerce, strictText, hlower]
  | date =>
    have hnormalized : Time.normalized "x" = "x" := by decide +kernel
    simp [coerce, strictText, hnormalized]
  | _ => rfl

theorem resolve_strictText : ∃ c, (Near.ofText "0,0,1").resolve = .ok c := by
  cases h : (Near.ofText "0,0,1").resolve with
  | ok c => exact ⟨c, rfl⟩
  | error e =>
    have hok : (Near.ofText "0,0,1").resolve.toOption.isSome = true := by decide +kernel
    rw [h] at hok
    cases hok

/-- Such a filter makes sense, and null does not pass it. -/
theorem prepare_strictText (type : FieldType) :
    ∃ t, (predicate type (coerce type (strictText type))).prepare = .ok t ∧ t.holds .null = false := by
  rw [coerce_strictText]
  by_cases hgeometry : type = .geometry
  · obtain ⟨c, hc⟩ := resolve_strictText
    refine ⟨.near ⟨c.lng, c.lat⟩ c.maxDistance, ?_, rfl⟩
    simp [hgeometry, predicate, textPredicate, strictText, Predicate.prepare, hc, Except.map]
  · have hplain : predicate type (.string (strictText type)) = .exact (coerce type (strictText type)) := by
      have htext : strictText type = "x" := by cases type <;> first | rfl | exact absurd rfl hgeometry
      rw [predicate, textPredicate_plain hgeometry fun _ => by rw [htext]; rfl, htext]
      rfl
    rw [hplain, coerce_strictText]
    exact ⟨_, rfl, by cases type <;> rfl⟩

end Filter

namespace Operation

open Hypermedia.Filter (viewNames strictText)

/-! ### Two listings -/

section
variable {i : Interface} {r : Resource} {path query query' : Texts}

theorem condition_of_sameFilters (hsame : query.SameFilters query')
    (hagree : ∀ a ∈ r.attributes, a.type.isChildren = false → a.name ∈ viewNames →
      query'.get? a.name = query.get? a.name) :
    Filter.condition r ⟨none, path, query'⟩ = Filter.condition r ⟨none, path, query⟩ := by
  have hget : ∀ a ∈ Filter.conditionAttributes r, query'.get? a.name = query.get? a.name := by
    intro a ha
    by_cases hview : a.name ∈ viewNames
    · obtain ⟨ha, hplain⟩ := List.mem_filter.mp ha
      rcases Resource.declared_or_implicit ha with ha | himplicit
      · exact hagree a ha (by simpa using hplain) hview
      · have hdisjoint : ∀ name ∈ viewNames, name ∉ [idField, createdAtField, updatedAtField] := by decide
        exact absurd himplicit (hdisjoint a.name hview)
    · exact hsame a.name hview
  refine Filter.condition_congr (fun a ha => ?_) ?_
  · simp only [Request.value?, Request.option?, hget a ha]
  · simp only [Request.option?, hsame "q" (by decide)]

/-- The parameters of the view do not select, where no attribute that a condition may ask for takes one of
them for a filter: two listings whose queries differ in nothing else have the same selection, and both
pages report its size. -/
theorem views_share_selection (hsame : query.SameFilters query')
    (hagree : ∀ a ∈ r.attributes, a.type.isChildren = false → a.name ∈ viewNames →
      query'.get? a.name = query.get? a.name) :
    (∀ s, Service.selection s (list i r ⟨none, path, query'⟩) =
        Service.selection s (list i r ⟨none, path, query⟩)) ∧
      ∀ (env env' : Environment) (w w' : World) (page page' : Link.Page Document), w'.store = w.store →
        (run env (list i r ⟨none, path, query⟩).run w).1 = .ok page →
        (run env' (list i r ⟨none, path, query'⟩).run w').1 = .ok page' →
        ∃ ds, Service.selection w.store (list i r ⟨none, path, query⟩) = .ok ds ∧
          page.size = ds.length ∧ page'.size = ds.length := by
  have hselection : ∀ s, Service.selection s (list i r ⟨none, path, query'⟩) =
      Service.selection s (list i r ⟨none, path, query⟩) := by
    intro s
    rw [list, list, selection_listWhere, selection_listWhere, condition_of_sameFilters hsame hagree]
  refine ⟨hselection, fun env env' w w' page page' hstore hpage hpage' => ?_⟩
  obtain ⟨ds, hds, hsize⟩ := selection_of_page hpage
  obtain ⟨ds', hds', hsize'⟩ := selection_of_page hpage'
  have hsamestore : Service.selection w'.store (list i r ⟨none, path, query'⟩) = .ok ds := by
    rw [hstore, hselection]
    exact hds
  cases hsamestore.symm.trans hds'
  exact ⟨ds, hds, hsize, hsize'⟩

end

/-! ### Accounts with a limit of their own -/

namespace Accounts

def declarations : List Schema.ResourceDeclaration :=
  [("account", [("name", Groups.declared .string none true), ("limit", Groups.declared .number none false)])]

def account : Resource :=
  ⟨"account", "accounts", [{ name := "name", type := .string, unique := true },
    { name := "limit", type := .number }]⟩

def interface : Interface := { registry := ⟨[account]⟩, settings := {} }

theorem resolve_declarations : Schema.resolve declarations = .ok interface.registry := rfl

def opening (name : String) (limit : Nat) : Step :=
  ⟨Groups.refusing none, account,
    .createItem (Groups.values [("name", .string name), ("limit", .nat limit)])⟩

/-- The store after two accounts were opened, with the limits 1 and 2. -/
def opened : Store := History.after interface [opening "ann" 1, opening "bob" 2] Store.empty

/-- The size that a listing of the accounts reports. -/
def size? (query : Texts) : Option Nat :=
  (run (Groups.refusing none) (list interface account ⟨none, [], query⟩).run
    { store := opened }).1.toOption.map (·.size)

theorem page_of_size? {query : Texts} {size : Nat} (h : size? query = some size) :
    ∃ page, (run (Groups.refusing none) (list interface account ⟨none, [], query⟩).run
      { store := opened }).1 = .ok page ∧ page.size = size := by
  obtain ⟨page, hpage, hsize⟩ := Option.map_eq_some_iff.mp h
  refine ⟨page, ?_, hsize⟩
  revert hpage
  cases (run (Groups.refusing none) (list interface account ⟨none, [], query⟩).run { store := opened }).1 with
  | ok found => exact fun h => congrArg Except.ok (Option.some.inj h)
  | error e => exact fun h => nomatch h

end Accounts

/-- The limit of a window is a filter on the accounts here; the offset is none. -/
theorem views_share_selection_accounts :
    Texts.SameFilters [("limit", "1")] [("limit", "1"), ("offset", "7")] ∧
      (∀ a ∈ Accounts.account.attributes, a.type.isChildren = false → a.name ∈ viewNames →
        Texts.get? [("limit", "1"), ("offset", "7")] a.name = Texts.get? [("limit", "1")] a.name) ∧
      ∃ page page' ds, (run (Groups.refusing none) (list Accounts.interface Accounts.account
          ⟨none, [], [("limit", "1")]⟩).run { store := Accounts.opened }).1 = .ok page ∧
        (run (Groups.refusing none) (list Accounts.interface Accounts.account
          ⟨none, [], [("limit", "1"), ("offset", "7")]⟩).run { store := Accounts.opened }).1 = .ok page' ∧
        Service.selection Accounts.opened (list Accounts.interface Accounts.account
          ⟨none, [], [("limit", "1")]⟩) = .ok ds ∧
        page.size = ds.length ∧ page'.size = ds.length ∧ ds.length = 1 := by
  have hsame : Texts.SameFilters [("limit", "1")] [("limit", "1"), ("offset", "7")] := by
    intro name hname
    have hne : "offset" ≠ name := fun he => hname (he ▸ by decide)
    by_cases hl : "limit" = name <;> simp [Texts.get?, hne, hl]
  have hagree : ∀ a ∈ Accounts.account.attributes, a.type.isChildren = false → a.name ∈ viewNames →
      Texts.get? [("limit", "1"), ("offset", "7")] a.name = Texts.get? [("limit", "1")] a.name := by
    decide
  have hone : Accounts.size? [("limit", "1")] = some 1 := by decide +kernel
  have hmoved : Accounts.size? [("limit", "1"), ("offset", "7")] = some 1 := by decide +kernel
  obtain ⟨page, hpage, hone⟩ := Accounts.page_of_size? hone
  obtain ⟨page', hpage', -⟩ := Accounts.page_of_size? hmoved
  obtain ⟨ds, hds, hsize, hsize'⟩ :=
    (views_share_selection hsame hagree).2 _ _ _ _ page page' rfl hpage hpage'
  exact ⟨hsame, hagree, page, page', ds, hpage, hpage', hds, hsize, hsize', hsize.symm.trans hone⟩

/-- A parameter of the view selects wherever an attribute that a condition may ask for has its name. -/
theorem named_view_selects {ds : List Schema.ResourceDeclaration} {i : Interface}
    (hdistinct : Schema.Distinct ds) (hresolve : Schema.resolve ds = .ok i.registry) {r : Resource}
    (hr : r ∈ i.registry.resources) {a : Attribute} (ha : a ∈ r.attributes)
    (hplain : a.type.isChildren = false) (hview : a.name ∈ viewNames) :
    ∃ (s : Store) (query query' : Texts), query.SameFilters query' ∧
      ∀ (env : Environment) (w : World), env.Accepts → w.store = s → ∃ page page' : Link.Page Document,
        (run env (list i r ⟨none, [], query⟩).run w).1 = .ok page ∧ page.size = 1 ∧
        (run env (list i r ⟨none, [], query'⟩).run w).1 = .ok page' ∧ page'.size = 0 := by
  have hg : i.registry.Consistent := Schema.consistent_of_resolve hresolve
  have hnodup := Schema.distinct_of_resolve hdistinct hresolve r hr
  have hcondition : a ∈ Filter.conditionAttributes r :=
    List.mem_filter.mpr ⟨Resource.mem_allAttributes ha, by simp [hplain]⟩
  obtain ⟨t, ht, hnull⟩ := Filter.prepare_strictText a.type
  -- One document that has its identity only passes no filter on the attribute.
  let s : Store := Store.empty.withDocuments r.name [[(idField, .string "a")]]
  have hdocuments : s.documents r.name = [[(idField, .string "a")]] := by
    rw [Store.documents_withDocuments, if_pos rfl]
  have hmissing : Members.get? [(idField, .string "a")] a.name = none := by
    have hne : a.name ≠ idField := (hg.namesFree hr).ne ha (by decide)
    simp [Members.get?, Ne.symm hne]
  have hall : Service.selection s (list i r ⟨none, [], []⟩) = .ok [[(idField, .string "a")]] := by
    rw [list, selection_listWhere, Filter.condition_eq hnodup (hg.namesFree hr)]
    have hnone : (Filter.conditionAttributes r).filterMap (Filter.asked ⟨none, [], []⟩) = [] :=
      List.filterMap_eq_nil_iff.mpr fun _ _ => rfl
    rw [hnone]
    exact (Store.matching_nil s r.name).trans (congrArg _ hdocuments)
  have hnone : Service.selection s (list i r ⟨none, [], [(a.name, strictText a.type)]⟩) = .ok [] := by
    have hq : a.name ≠ "q" := fun he => absurd (he ▸ hview) (by decide)
    rw [list, selection_listWhere, Filter.condition_single hnodup (hg.namesFree hr) hcondition
      (Filter.strictText_ne a.type) hq, Store.matching, hdocuments]
    simp [Condition.prepare, ht, bind, Except.bind, pure, Except.pure, Except.map, Matcher.accepts,
      hmissing, hnull]
  refine ⟨s, [], [(a.name, strictText a.type)], fun name hname => ?_, fun env w henv hw => ?_⟩
  · have hne : a.name ≠ name := fun he => hname (he ▸ hview)
    simp [Texts.get?, hne]
  · obtain ⟨page, hpage, hsize⟩ := page_of_selection henv (hw ▸ hall)
    obtain ⟨page', hpage', hsize'⟩ := page_of_selection henv (hw ▸ hnone)
    exact ⟨page, page', hpage, hsize, hpage', hsize'⟩

/-- The window filters the accounts by their limit. -/
theorem limit_selects_accounts :
    Schema.Distinct Accounts.declarations ∧
      Schema.resolve Accounts.declarations = .ok Accounts.interface.registry ∧
      Texts.SameFilters [] [("limit", "1")] ∧
      Accounts.size? [] = some 2 ∧ Accounts.size? [("limit", "1")] = some 1 := by
  refine ⟨by simp [Schema.Distinct, Accounts.declarations], Accounts.resolve_declarations,
    fun name hname => ?_, by decide +kernel, by decide +kernel⟩
  have hne : "limit" ≠ name := fun he => hname (he ▸ by decide)
  simp [Texts.get?, hne]

end Operation

end Hypermedia
