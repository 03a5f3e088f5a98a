import Hypermedia.Proofs.Conditions
import Hypermedia.Proofs.Resolution

/-!
# Listings

A listing reads twice with one condition, once for the records of its window and once for the number of
all that meet it. Unless a call is refused, a listing whose condition makes sense answers the page of its
window: what the whole selection in its order has there, each record shown as the store has it. The size
of the page is the number of documents that the condition selects.
-/

namespace Hypermedia

open Store (Document)

/-- What the first read of a service selects in a store, before order and window. -/
def Service.selection {α : Type} (s : Store) (x : Service α) : Except Store.Error (List Document) :=
  match x.run with
  | .call (.find collection c _) _ => s.matching collection c
  | _ => .ok []

section
variable {env : Program.Environment} {s : Store}

/-! ### Pages -/

namespace Operation

/-- The options of an unwindowed read in the order of a request. -/
def wholeRead (request : Filter.Request) : Store.Options where
  fields := projection request
  sort := (request.option? "orderBy").elim [] Filter.order

theorem find_windowed (s : Store) (collection : String) (c : Filter.Condition) (o : Store.Options)
    (skip limit : Nat) :
    s.find collection c { fields := o.fields, skip := skip, limit := some limit, sort := o.sort } =
      (s.find collection c { fields := o.fields, sort := o.sort }).map
        fun found => (found.drop skip).take limit := by
  simp only [Store.find]
  cases s.matching collection c with
  | error e => rfl
  | ok ds =>
    simp only [bind, Except.bind]
    cases Store.ordered o.sort c ds with
    | error e => rfl
    | ok xs => simp [pure, Except.pure, Except.map, List.map_drop, List.map_take]

theorem find_projected (s : Store) (collection : String) (c : Filter.Condition) (fields : Option (List String))
    (sort : List (String × Filter.Direction)) :
    s.find collection c { fields, sort } =
      (s.find collection c { sort }).map (List.map (Document.project · fields)) := by
  simp only [Store.find]
  cases s.matching collection c with
  | error e => rfl
  | ok ds =>
    simp only [bind, Except.bind]
    cases Store.ordered sort c ds with
    | error e => rfl
    | ok xs => simp [pure, Except.pure, Except.map, Document.project]

variable {i : Interface} {r : Resource} {c : Filter.Condition} {request : Filter.Request} {base : String}

theorem selection_listWhere (s : Store) :
    Service.selection s (listWhere i r c request base) = s.matching r.name c := rfl

/-- The page that a listing answers. -/
def pageOf (s : Store) (i : Interface) (r : Resource) (request : Filter.Request) (base : String)
    (w : Filter.Window) (size : Nat) (found : List Document) : Link.Page Document :=
  Link.page base w size (((found.drop w.offset).take w.limit).map
    (Link.shown s (place i) r r.plural (expansions request) (projection request)))

theorem ends_listWhere {ds found : List Document} (h : s.matching r.name c = .ok ds)
    (hfound : s.find r.name c (wholeRead request) = .ok found) :
    Service.Ends env s (listWhere i r c request base)
      (fun page t => t = s ∧ page = pageOf s i r request base
        (Filter.Window.ofQuery request.query i.settings.defaultLimit) ds.length found)
      (fun err _ => env.Refused err) := by
  unfold listWhere
  dsimp only
  generalize Filter.Window.ofQuery request.query i.settings.defaultLimit = w
  refine Service.ends_bind (R := fun part t => t = s ∧ part = (found.drop w.offset).take w.limit) ?_ ?_
  · refine Service.ends_ask (fun _ he => he) ?_
    have hpart : s.find r.name c (Store.Options.mk (projection request) w.offset (some w.limit)
        ((request.option? "orderBy").elim [] Filter.order)) =
          .ok ((found.drop w.offset).take w.limit) :=
      (find_windowed s r.name c (wholeRead request) w.offset w.limit).trans (congrArg _ hfound)
    simp only [Call.perform, hpart]
    exact ⟨rfl, rfl⟩
  · rintro part t ⟨rfl, rfl⟩
    refine Service.ends_bind (R := fun size u => u = t ∧ size = ds.length) ?_ ?_
    · refine Service.ends_ask (fun _ he => he) ?_
      simp only [Call.perform, Store.count, h]
      exact ⟨rfl, rfl⟩
    · rintro size u ⟨rfl, rfl⟩
      refine Service.ends_bind (Link.ends_resolve _) ?_
      rintro items v ⟨rfl, rfl⟩
      exact Service.ends_pure ⟨rfl, rfl⟩

theorem page_of_selection (henv : env.Accepts) {w : Program.World} {ds : List Document}
    (h : Service.selection w.store (listWhere i r c request base) = .ok ds) :
    ∃ page, (Program.run env (listWhere i r c request base).run w).1 = .ok page ∧
      page.size = ds.length := by
  obtain ⟨found, hfound⟩ := Store.find_ok h (wholeRead request)
  have hend : Service.Ends env w.store (listWhere i r c request base) _ _ := ends_listWhere h hfound
  obtain ⟨page, hpage, -, rfl⟩ := Service.success_of_accepts henv hend
  exact ⟨_, hpage, rfl⟩

/-- A listing that answers a page has a selection, and answers what the window has of it in its order. -/
theorem pageOf_of_run {w : Program.World} {page : Link.Page Document}
    (h : (Program.run env (listWhere i r c request base).run w).1 = .ok page) :
    ∃ ds found, w.store.matching r.name c = .ok ds ∧
      w.store.find r.name c (wholeRead request) = .ok found ∧
      page = pageOf w.store i r request base
        (Filter.Window.ofQuery request.query i.settings.defaultLimit) ds.length found := by
  cases hm : w.store.matching r.name c with
  | error e =>
    -- The first call fails already.
    have hend : Service.Ends env w.store (listWhere i r c request base) (fun _ _ => False)
        (fun _ _ => True) := by
      refine Service.ends_bind (R := fun _ _ => False) (Service.ends_ask (fun _ _ => trivial) ?_)
        fun _ _ hfalse => hfalse.elim
      simp only [Call.perform, Store.find, hm]
      trivial
    obtain ⟨e, he, -⟩ := Service.failure_of_ends hend
    cases h.symm.trans he
  | ok ds =>
    obtain ⟨found, hfound⟩ := Store.find_ok hm (wholeRead request)
    have hend : Service.Ends env w.store (listWhere i r c request base) _ _ := ends_listWhere hm hfound
    have hpage := hend w rfl
    rw [h] at hpage
    exact ⟨ds, found, rfl, hfound, hpage.2⟩

/-- A listing that answers a page has a selection, and counts it. -/
theorem selection_of_page {w : Program.World} {page : Link.Page Document}
    (h : (Program.run env (listWhere i r c request base).run w).1 = .ok page) :
    ∃ ds, Service.selection w.store (listWhere i r c request base) = .ok ds ∧ page.size = ds.length := by
  obtain ⟨ds, found, hds, -, rfl⟩ := pageOf_of_run h
  exact ⟨ds, (selection_listWhere w.store).trans hds, rfl⟩

end Operation

end

end Hypermedia
