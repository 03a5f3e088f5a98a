import Hypermedia.Operation.Read
import Hypermedia.Proofs.History
import Hypermedia.Proofs.Links
import Hypermedia.Proofs.Listing

/-!
# Walking the pages of a listing

A client that asks for the first window and then follows the link to the next page, as long as there is
one, gets every record that the request selects once and in order.
-/

namespace Hypermedia

open Store (Document)
open Program (Environment World run)
open Hypermedia.Filter (Request Window)

/-! ### Requests for windows -/

/-- A request for another window of the same records. -/
def Filter.Request.windowed (request : Request) (w : Window) : Request :=
  { request with query := ("offset", toString w.offset) :: ("limit", toString w.limit) ::
      (request.query.without "offset").without "limit" }

namespace Filter

variable {request : Request} {w : Window}

theorem Request.option?_windowed {name : String} (ho : name ≠ "offset") (hl : name ≠ "limit") :
    (request.windowed w).option? name = request.option? name := by
  have hget : (request.windowed w).query.get? name = request.query.get? name := by
    have hrest : ((request.query.without "offset").without "limit").get? name = request.query.get? name := by
      rw [Texts.get?_without, if_neg hl, Texts.get?_without, if_neg ho]
    rw [← hrest]
    simp [Request.windowed, Texts.get?, Ne.symm ho, Ne.symm hl]
  rw [Request.option?, hget]
  rfl

theorem Window.ofQuery_windowed (h : w.Fits) (defaultLimit : Nat) :
    Window.ofQuery (request.windowed w).query defaultLimit = w := h.ofQuery rfl rfl defaultLimit

/-- The window takes no part in the selection where no attribute has its names. -/
theorem condition_windowed {r : Resource}
    (h : ∀ a ∈ r.attributes, a.name ≠ "offset" ∧ a.name ≠ "limit") :
    condition r (request.windowed w) = condition r request := by
  refine condition_of_others ["offset", "limit"] rfl rfl (fun name hname => ?_) (by decide) fun a ha => ?_
  · obtain ⟨ho, hl⟩ : name ≠ "offset" ∧ name ≠ "limit" := by simpa using hname
    exact Request.option?_windowed ho hl
  · simpa using h a ha

end Filter

/-! ### Parts of a list -/

/-- The number of pages of so many records; there is always a first one. -/
def Link.pageCount (size limit : Nat) : Nat := max 1 ((size + limit - 1) / limit)

theorem Link.pageCount_pos (size limit : Nat) : 0 < pageCount size limit := Nat.le_max_left ..

theorem Link.lt_pageCount_iff {size limit k : Nat} (h : 0 < limit) :
    k + 1 < pageCount size limit ↔ (k + 1) * limit < size := by
  have hdiv : k + 2 ≤ (size + limit - 1) / limit ↔ (k + 2) * limit ≤ size + limit - 1 :=
    Nat.le_div_iff_mul_le h
  have hmul : (k + 2) * limit = (k + 1) * limit + limit := Nat.succ_mul (k + 1) limit
  unfold pageCount
  omega

theorem Link.last_add_one {size limit : Nat} (h : 0 < limit) (hsize : 0 < size) :
    (size - 1) / limit + 1 = pageCount size limit := by
  have hsum : size + limit - 1 = size - 1 + limit := by omega
  have hdiv : (size - 1 + limit) / limit = (size - 1) / limit + 1 := Nat.add_div_right _ h
  rw [pageCount, hsum, hdiv]
  exact (Nat.max_eq_right (Nat.le_add_left 1 _)).symm

theorem Link.size_le_pageCount_mul {size limit : Nat} (h : 0 < limit) :
    size ≤ pageCount size limit * limit := by
  obtain ⟨k, hk⟩ : ∃ k, pageCount size limit = k + 1 :=
    Nat.exists_eq_succ_of_ne_zero (Nat.ne_of_gt (pageCount_pos size limit))
  have hnot : ¬ k + 1 < pageCount size limit := by omega
  rw [hk]
  exact Nat.not_lt.mp fun hlt => hnot ((lt_pageCount_iff h).mpr hlt)

theorem flatMap_parts {α : Type} (xs : List α) (limit k count : Nat) :
    ((List.range' k count).flatMap fun j => (xs.drop (j * limit)).take limit) =
      (xs.drop (k * limit)).take (count * limit) := by
  induction count generalizing k with
  | zero => simp
  | succ count ih =>
    have hmul : (count + 1) * limit = limit + count * limit := by rw [Nat.succ_mul, Nat.add_comm]
    rw [List.range'_succ, List.flatMap_cons, ih, hmul, List.take_add, List.drop_drop, Nat.succ_mul]

/-! ### One page -/

namespace Operation

/-- A listing of this window from a store answers a page. -/
def Answers (i : Interface) (r : Resource) (request : Request) (s : Store) (w : Window)
    (page : Link.Page Document) : Prop :=
  ∃ (env : Environment) (world : World), world.store = s ∧
    (run env (list i r (request.windowed w)).run world).1 = .ok page

section
variable {i : Interface} {r : Resource} {request : Request} {s : Store} {w : Window}
variable {ds found : List Document}
variable (hfree : ∀ a ∈ r.attributes, a.name ≠ "offset" ∧ a.name ≠ "limit")
variable (hds : s.matching r.name (Filter.condition r request) = .ok ds)
variable (hfound : s.find r.name (Filter.condition r request) (wholeRead request) = .ok found)

include hfree hds hfound

/-- Every listing of a window ends in the same page, or a call of it was refused. -/
theorem ends_windowed (hw : w.Fits) {env : Environment} :
    Service.Ends env s (list i r (request.windowed w))
      (fun page _ => page = pageOf s i r request (i.settings.basePath ++ "/" ++ r.plural) w ds.length found)
      (fun err _ => env.Refused err) := by
  have hcondition : Filter.condition r (request.windowed w) = Filter.condition r request :=
    Filter.condition_windowed hfree
  have hfields : projection (request.windowed w) = projection request := by
    rw [projection, Filter.Request.option?_windowed (by decide) (by decide)]
    rfl
  have hexpands : expansions (request.windowed w) = expansions request := by
    rw [expansions, Filter.Request.option?_windowed (by decide) (by decide)]
    rfl
  have hwhole : wholeRead (request.windowed w) = wholeRead request := by
    rw [wholeRead, hfields, Filter.Request.option?_windowed (by decide) (by decide)]
    rfl
  have hend : Service.Ends env s (listWhere i r (Filter.condition r request) (request.windowed w)
      (i.settings.basePath ++ "/" ++ r.plural)) _ _ := ends_listWhere hds (hwhole ▸ hfound)
  rw [Filter.Window.ofQuery_windowed hw, pageOf, hexpands, hfields] at hend
  rw [list, hcondition]
  exact Service.ends_mono hend (fun _ _ h => h.2) fun _ _ h => h

theorem Answers.page_eq {page : Link.Page Document} (h : Answers i r request s w page) (hw : w.Fits) :
    page = pageOf s i r request (i.settings.basePath ++ "/" ++ r.plural) w ds.length found := by
  obtain ⟨env, world, hworld, hrun⟩ := h
  have hend : Service.Ends env s (list i r (request.windowed w)) _ _ := ends_windowed hfree hds hfound hw
  have hend := hend world hworld
  rw [hrun] at hend
  exact hend

theorem answers_pageOf (hw : w.Fits) : Answers i r request s w
    (pageOf s i r request (i.settings.basePath ++ "/" ++ r.plural) w ds.length found) := by
  -- In an environment that refuses no call.
  let env : Environment := ⟨fun _ _ => none, fun _ => ⟨0, 0⟩, fun _ => 0⟩
  have henv : env.Accepts := fun _ _ => rfl
  have hend : Service.Ends env s (list i r (request.windowed w)) _ _ := ends_windowed hfree hds hfound hw
  obtain ⟨page, hpage, rfl⟩ := Service.success_of_accepts (w := { store := s }) henv hend
  exact ⟨env, { store := s }, rfl, hpage⟩

end

/-! ### Walks -/

/-- The pages that a client gets who begins with a window and follows the link to the next page as long
as there is one. -/
inductive Walk (i : Interface) (r : Resource) (request : Request) (s : Store) :
    Window → List (Link.Page Document) → Prop where
  | last {w : Window} {page : Link.Page Document} (answer : Answers i r request s w page)
      (stop : page.next = none) : Walk i r request s w [page]
  | step {w : Window} {page : Link.Page Document} {link : String} {pages : List (Link.Page Document)}
      (answer : Answers i r request s w page) (next : page.next = some link)
      (rest : Walk i r request s (Link.window (i.settings.basePath ++ "/" ++ r.plural)
        i.settings.defaultLimit link) pages) : Walk i r request s w (page :: pages)

section
variable (i : Interface) (r : Resource) (request : Request) (s : Store) {limit : Nat}
variable {ds : List Document} (found : List Document)

/-- The page of this number, counted from zero. -/
def pageNumber (i : Interface) (r : Resource) (request : Request) (s : Store) (limit size : Nat)
    (found : List Document) (k : Nat) : Link.Page Document :=
  pageOf s i r request (i.settings.basePath ++ "/" ++ r.plural) ⟨k * limit, limit⟩ size found

variable (hpos : 0 < limit) (hlimit : limit ≤ Window.largest)
variable (hsize : ds.length ≤ Decimal.twoTo 63)

include hpos hlimit hsize

omit i r request s found in
theorem fits_pageNumber {k : Nat} (hk : k < Link.pageCount ds.length limit) :
    Window.Fits ⟨k * limit, limit⟩ := by
  refine ⟨?_, hlimit, hpos⟩
  cases k with
  | zero => simp
  | succ k =>
    have hlt := (Link.lt_pageCount_iff hpos).mp hk
    have hlargest : Decimal.twoTo 63 = Window.largest + 1 := by decide
    dsimp only
    omega

/-- A page that is not the last one links to the page after it, and the last one to none. -/
theorem next_pageNumber {k : Nat} (hk : k < Link.pageCount ds.length limit) :
    (k + 1 < Link.pageCount ds.length limit ∧ ∃ link,
        (pageNumber i r request s limit ds.length found k).next = some link ∧
        Link.window (i.settings.basePath ++ "/" ++ r.plural) i.settings.defaultLimit link =
          ⟨(k + 1) * limit, limit⟩) ∨
      k + 1 = Link.pageCount ds.length limit ∧
        (pageNumber i r request s limit ds.length found k).next = none := by
  have hmax : max limit 1 = limit := Nat.max_eq_left hpos
  have hstop : k * limit + limit = (k + 1) * limit := (Nat.succ_mul k limit).symm
  have hnext : (pageNumber i r request s limit ds.length found k).next =
      if (k + 1) * limit < Decimal.twoTo 64 ∧ (k + 1) * limit < ds.length then
        some (Link.windowLink (i.settings.basePath ++ "/" ++ r.plural) limit ((k + 1) * limit))
      else none := by
    simp only [pageNumber, pageOf, Link.page, hmax, hstop]
  by_cases hmore : k + 1 < Link.pageCount ds.length limit
  · have hlt := (Link.lt_pageCount_iff hpos).mp hmore
    have htwo : Decimal.twoTo 63 ≤ Decimal.twoTo 64 := by decide
    have hword : (k + 1) * limit < Decimal.twoTo 64 := Nat.lt_of_lt_of_le hlt (Nat.le_trans hsize htwo)
    rw [if_pos ⟨hword, hlt⟩] at hnext
    refine .inl ⟨hmore, _, hnext, ?_⟩
    have hfits : Window.Fits ⟨(k + 1) * limit, limit⟩ := fits_pageNumber hpos hlimit hsize hmore
    exact Link.window_windowLink _ _ hfits
  · have hnot : ¬ (k + 1) * limit < ds.length := fun h => hmore ((Link.lt_pageCount_iff hpos).mpr h)
    exact .inr ⟨by omega, hnext.trans (if_neg fun h => hnot h.2)⟩

/-- Every page links to the last one, if there are records. -/
theorem last_pageNumber (hsome : 0 < ds.length) (k : Nat) :
    ∃ link, (pageNumber i r request s limit ds.length found k).last = some link ∧
      Link.window (i.settings.basePath ++ "/" ++ r.plural) i.settings.defaultLimit link =
        ⟨(Link.pageCount ds.length limit - 1) * limit, limit⟩ := by
  have hmax : max limit 1 = limit := Nat.max_eq_left hpos
  have hlast : (ds.length - 1) / limit = Link.pageCount ds.length limit - 1 :=
    Nat.eq_sub_of_add_eq (Link.last_add_one hpos hsome)
  have hlink : (pageNumber i r request s limit ds.length found k).last =
      some (Link.windowLink (i.settings.basePath ++ "/" ++ r.plural) limit
        ((Link.pageCount ds.length limit - 1) * limit)) := by
    simp only [pageNumber, pageOf, Link.page, hmax, hlast, if_pos hsome]
  have hfits : Window.Fits ⟨(Link.pageCount ds.length limit - 1) * limit, limit⟩ :=
    fits_pageNumber hpos hlimit hsize (Nat.sub_one_lt_of_lt (Link.pageCount_pos ..))
  exact ⟨_, hlink, Link.window_windowLink _ _ hfits⟩

/-- A page that is not the first one links to the page before it. -/
theorem prev_pageNumber {k : Nat} (hk : k + 1 < Link.pageCount ds.length limit) :
    ∃ link, (pageNumber i r request s limit ds.length found (k + 1)).prev = some link ∧
      Link.window (i.settings.basePath ++ "/" ++ r.plural) i.settings.defaultLimit link =
        ⟨k * limit, limit⟩ := by
  have hmax : max limit 1 = limit := Nat.max_eq_left hpos
  have hsome : 0 < ds.length := Nat.lt_of_le_of_lt (Nat.zero_le _) ((Link.lt_pageCount_iff hpos).mp hk)
  have hne : (k + 1) * limit ≠ 0 := Nat.ne_of_gt (Nat.mul_pos (Nat.succ_pos k) hpos)
  have hback : (k + 1) * limit - limit = k * limit := by rw [Nat.succ_mul, Nat.add_sub_cancel]
  have hlink : (pageNumber i r request s limit ds.length found (k + 1)).prev =
      some (Link.windowLink (i.settings.basePath ++ "/" ++ r.plural) limit (k * limit)) := by
    simp only [pageNumber, pageOf, Link.page, hmax, hback, if_pos (And.intro hsome hne)]
  have hfits : Window.Fits ⟨k * limit, limit⟩ := fits_pageNumber hpos hlimit hsize (by omega)
  exact ⟨_, hlink, Link.window_windowLink _ _ hfits⟩

variable {i r request s found}
variable (hfree : ∀ a ∈ r.attributes, a.name ≠ "offset" ∧ a.name ≠ "limit")
variable (hds : s.matching r.name (Filter.condition r request) = .ok ds)
variable (hfound : s.find r.name (Filter.condition r request) (wholeRead request) = .ok found)

include hfree hds hfound

/-- From a page on, the walk gets that page and all pages after it. -/
theorem Walk.eq_pageNumber {k : Nat} (hk : k < Link.pageCount ds.length limit)
    {pages : List (Link.Page Document)} (h : Walk i r request s ⟨k * limit, limit⟩ pages) :
    pages = (List.range' k (Link.pageCount ds.length limit - k)).map
      (pageNumber i r request s limit ds.length found) := by
  generalize hw : Window.mk (k * limit) limit = w at h
  induction h generalizing k with
  | last answer stop =>
    subst hw
    have hpage := answer.page_eq hfree hds hfound (fits_pageNumber hpos hlimit hsize hk)
    rcases next_pageNumber i r request s found hpos hlimit hsize hk with ⟨-, link, hnext, -⟩ | ⟨hlast, -⟩
    · rw [hpage] at stop
      exact absurd (stop.symm.trans hnext) (by simp)
    · rw [show Link.pageCount ds.length limit - k = 1 by omega]
      exact congrArg (fun page => [page]) hpage
  | step answer next _ ih =>
    subst hw
    have hpage := answer.page_eq hfree hds hfound (fits_pageNumber hpos hlimit hsize hk)
    rcases next_pageNumber i r request s found hpos hlimit hsize hk with ⟨hmore, link, hnext, hwindow⟩ | ⟨-, hnone⟩
    · rw [hpage] at next
      cases next.symm.trans hnext
      rw [ih hmore hwindow.symm, hpage,
        show Link.pageCount ds.length limit - k = Link.pageCount ds.length limit - (k + 1) + 1 by omega,
        List.range'_succ, List.map_cons]
      rfl
    · rw [hpage] at next
      exact absurd (next.symm.trans hnone) (by simp)

theorem walk_pageNumber {k count : Nat} (hcount : k + count + 1 = Link.pageCount ds.length limit) :
    Walk i r request s ⟨k * limit, limit⟩
      ((List.range' k (count + 1)).map (pageNumber i r request s limit ds.length found)) := by
  induction count generalizing k with
  | zero =>
    have hk : k < Link.pageCount ds.length limit := by omega
    have hfits : Window.Fits ⟨k * limit, limit⟩ := fits_pageNumber hpos hlimit hsize hk
    rcases next_pageNumber i r request s found hpos hlimit hsize hk with ⟨hmore, -⟩ | ⟨-, hnone⟩
    · omega
    · exact .last (answers_pageOf hfree hds hfound hfits) hnone
  | succ count ih =>
    have hk : k < Link.pageCount ds.length limit := by omega
    have hfits : Window.Fits ⟨k * limit, limit⟩ := fits_pageNumber hpos hlimit hsize hk
    rcases next_pageNumber i r request s found hpos hlimit hsize hk with
      ⟨hmore, link, hlink, hwindow⟩ | ⟨hlast, -⟩
    · rw [List.range'_succ, List.map_cons]
      refine .step (answers_pageOf hfree hds hfound hfits) hlink ?_
      rw [hwindow]
      exact ih (by omega)
    · omega

end

section
variable {i : Interface} {r : Resource} {request : Request} {s : Store} {limit size : Nat}
variable {found : List Document} (hpos : 0 < limit)

include hpos

theorem items_pageNumber (hfound : found.length = size) :
    ((List.range' 0 (Link.pageCount size limit)).map
        (pageNumber i r request s limit size found)).flatMap (·.items) =
      found.map (Link.shown s (place i) r r.plural (expansions request) (projection request)) := by
  have hall : (found.drop (0 * limit)).take (Link.pageCount size limit * limit) = found := by
    rw [Nat.zero_mul, List.drop_zero]
    exact List.take_of_length_le (hfound ▸ Link.size_le_pageCount_mul hpos)
  calc
    _ = ((List.range' 0 (Link.pageCount size limit)).flatMap fun k =>
          (found.drop (k * limit)).take limit).map
            (Link.shown s (place i) r r.plural (expansions request) (projection request)) := by
      rw [List.flatMap_map, List.map_flatMap]
      rfl
    _ = _ := by rw [flatMap_parts, hall]

theorem window_pageNumber (k : Nat) :
    Window.mk (pageNumber i r request s limit size found k).offset
      (pageNumber i r request s limit size found k).limit = ⟨k * limit, limit⟩ :=
  congrArg (Window.mk (k * limit)) (Nat.max_eq_left hpos)

omit hpos in
theorem of_getElem?_pageNumber {count k : Nat} {page : Link.Page Document}
    (h : ((List.range' 0 count).map (pageNumber i r request s limit size found))[k]? = some page) :
    k < count ∧ page = pageNumber i r request s limit size found k := by
  rw [List.getElem?_map, Option.map_eq_some_iff] at h
  obtain ⟨j, hj, rfl⟩ := h
  obtain ⟨hk, hj⟩ := List.getElem?_eq_some_iff.mp hj
  rw [List.length_range'] at hk
  rw [List.getElem_range', Nat.zero_add, Nat.one_mul] at hj
  exact ⟨hk, hj ▸ rfl⟩

end

/-- Walking the pages of a listing from the first one on, in a store that does not change, gives every
selected record once and in order, shown as an unwindowed listing would show it. The walk ends after as
many pages as the records need. Every page counts the same records and links to the last page, and a page
that was reached by a link links back to the page before it. A collection is a list in memory, so 63 bits
count its records. -/
theorem pages_lose_and_repeat_nothing {i : Interface} {r : Resource} {request : Request} {s : Store}
    {ds : List Document} {limit : Nat} (hfree : ∀ a ∈ r.attributes, a.name ≠ "offset" ∧ a.name ≠ "limit")
    (hds : Service.selection s (list i r request) = .ok ds) (hsize : ds.length ≤ Decimal.twoTo 63)
    (hpos : 0 < limit) (hlimit : limit ≤ Window.largest) :
    ∃ found, s.find r.name (Filter.condition r request) (wholeRead request) = .ok found ∧
      found.Perm (ds.map (Document.project · (projection request))) ∧
      (∃ pages, Walk i r request s ⟨0, limit⟩ pages) ∧
      ∀ pages, Walk i r request s ⟨0, limit⟩ pages →
        pages.length = Link.pageCount ds.length limit ∧
        (∀ (env : Environment) (world : World), env.Accepts → world.store = s →
          (run env (Link.resolve (place i) r r.plural (expansions request) (projection request) found).run
            world).1 = .ok (pages.flatMap (·.items))) ∧
        (∀ page ∈ pages, page.size = ds.length) ∧
        (0 < ds.length → ∃ final, pages.getLast? = some final ∧ ∀ page ∈ pages, ∃ link,
          page.last = some link ∧ Link.window (i.settings.basePath ++ "/" ++ r.plural)
            i.settings.defaultLimit link = ⟨final.offset, final.limit⟩) ∧
        ∀ (k : Nat) (page after : Link.Page Document), pages[k]? = some page →
          pages[k + 1]? = some after → ∃ link, after.prev = some link ∧
            Link.window (i.settings.basePath ++ "/" ++ r.plural) i.settings.defaultLimit link =
              ⟨page.offset, page.limit⟩ := by
  obtain ⟨found, hfound⟩ := Store.find_ok hds (wholeRead request)
  have hperm : found.Perm (ds.map (Document.project · (projection request))) :=
    Store.find_perm hds hfound
  have hlength : found.length = ds.length := by rw [hperm.length_eq, List.length_map]
  obtain ⟨last, hlast⟩ : ∃ last, last + 1 = Link.pageCount ds.length limit :=
    ⟨Link.pageCount ds.length limit - 1, Nat.sub_add_cancel (Link.pageCount_pos ..)⟩
  have hexists : Walk i r request s ⟨0 * limit, limit⟩
      ((List.range' 0 (last + 1)).map (pageNumber i r request s limit ds.length found)) :=
    walk_pageNumber hpos hlimit hsize hfree hds hfound (by omega)
  rw [Nat.zero_mul] at hexists
  refine ⟨found, hfound, hperm, ⟨_, hexists⟩, fun pages hwalk => ?_⟩
  rw [← Nat.zero_mul limit] at hwalk
  have hpages := hwalk.eq_pageNumber hpos hlimit hsize hfree hds hfound (by omega)
  rw [Nat.sub_zero] at hpages
  subst hpages
  refine ⟨by simp, ?_, ?_, ?_, ?_⟩
  · intro env world henv hworld
    have hend : Service.Ends env world.store (Link.resolve (place i) r r.plural (expansions request)
      (projection request) found) _ _ := Link.ends_resolve found
    obtain ⟨items, hitems, -, rfl⟩ := Service.success_of_ends
      (Service.ends_mono hend (fun _ _ h => h) fun e _ he => absurd he (not_refused henv e))
    rw [hitems, items_pageNumber hpos hlength, hworld]
  · intro page hpage
    obtain ⟨k, -, rfl⟩ := List.mem_map.mp hpage
    rfl
  · intro hsome
    refine ⟨pageNumber i r request s limit ds.length found last, ?_, fun page hpage => ?_⟩
    · rw [← hlast, List.range'_1_concat, List.map_append, Nat.zero_add]
      exact List.getLast?_concat ..
    · obtain ⟨k, -, rfl⟩ := List.mem_map.mp hpage
      rw [window_pageNumber hpos, ← Nat.add_sub_cancel (n := last) (m := 1), hlast]
      exact last_pageNumber i r request s found hpos hlimit hsize hsome k
  · intro k page after hpage hafter
    obtain ⟨-, rfl⟩ := of_getElem?_pageNumber hpage
    obtain ⟨hk, rfl⟩ := of_getElem?_pageNumber hafter
    rw [window_pageNumber hpos]
    exact prev_pageNumber i r request s found hpos hlimit hsize hk

/-! ### Three people on two pages -/

def hire (name : String) : Step :=
  ⟨Groups.refusing none, Groups.person, .createItem (Groups.values [("name", .string name)])⟩

/-- The store after three people were created. -/
def threePeople : Store := History.after Groups.interface [hire "ann", hire "bob", hire "cat"] Store.empty

/-- People in the order of their names, the last one first. -/
def backwards : Request := ⟨none, [], [("orderBy", "-name"), ("fields", "name")]⟩

theorem pages_lose_and_repeat_nothing_groups :
    (∀ a ∈ Groups.person.attributes, a.name ≠ "offset" ∧ a.name ≠ "limit") ∧
      ∃ ds, Service.selection threePeople (list Groups.interface Groups.person backwards) = .ok ds ∧
        ds.length = 3 ∧ ∃ pages,
          Walk Groups.interface Groups.person backwards threePeople ⟨0, 2⟩ pages ∧ pages.length = 2 ∧
          (∀ page ∈ pages, page.size = 3) ∧
          (pages.flatMap (·.items)).map Document.id? = [some "cat", some "bob", some "ann"] := by
  have hfree : ∀ a ∈ Groups.person.attributes, a.name ≠ "offset" ∧ a.name ≠ "limit" := by
    decide
  have hcount : (Service.selection threePeople (list Groups.interface Groups.person backwards)).toOption.map
      List.length = some 3 := by
    decide +kernel
  have hids : ((threePeople.find "person" (Filter.condition Groups.person backwards)
      (wholeRead backwards)).toOption.bind fun found => (run (Groups.refusing none)
        (Link.resolve (place Groups.interface) Groups.person "people" (expansions backwards)
          (projection backwards) found).run { store := threePeople }).1.toOption.map fun items =>
            items.map Document.id?) = some [some "cat", some "bob", some "ann"] := by
    decide +kernel
  cases hds : Service.selection threePeople (list Groups.interface Groups.person backwards) with
  | error e =>
    rw [hds] at hcount
    cases hcount
  | ok ds =>
    rw [hds] at hcount
    have hlength : ds.length = 3 := Option.some.inj hcount
    have hsize : ds.length ≤ Decimal.twoTo 63 := by
      rw [hlength]
      decide
    obtain ⟨found, hfound, -, ⟨pages, hwalk⟩, hall⟩ :=
      pages_lose_and_repeat_nothing hfree hds hsize (show 0 < 2 by decide) (by decide)
    obtain ⟨hpages, hitems, hsizes, -⟩ := hall pages hwalk
    have hitems := hitems (Groups.refusing none) { store := threePeople } Groups.accepts rfl
    rw [hlength] at hpages hsizes
    refine ⟨hfree, ds, rfl, hlength, pages, hwalk, hpages, hsizes, ?_⟩
    rw [show threePeople.find "person" (Filter.condition Groups.person backwards) (wholeRead backwards) =
      .ok found from hfound] at hids
    exact Option.some.inj ((congrArg (fun x => x.toOption.map fun items =>
      items.map Document.id?) hitems).symm.trans hids)

end Operation

end Hypermedia
