import Mathlib.Data.List.TakeWhile
import Hypermedia.Proofs.ChildCount
import Hypermedia.Proofs.Emission
import Hypermedia.Proofs.Routes

/-!
# Following links

A client that follows a link of an answer gets what the link was made for: the record, the collection,
or a window of it. This takes names that need no escape in a path, a base path made of such names, and
no fixed path in the way of a collection.
-/

namespace Hypermedia

open Program (Environment World run)
open Store (Document)
open Hypermedia.Filter (Texts Window)
open Text (IsName)

/-! ### Links to windows -/

/-- A link to a collection, or to a window of it. -/
def Link.Views (base link : String) : Prop :=
  link = base ∨ ∃ limit offset, link = windowLink base limit offset

/-- A query that asks for a window at most. -/
def Filter.Texts.OnlyWindow (query : Texts) : Prop := ∀ x ∈ query, x.1 = "offset" ∨ x.1 = "limit"

theorem Filter.Texts.OnlyWindow.silent {query : Texts} (h : query.OnlyWindow) {name : String}
    (ho : name ≠ "offset") (hl : name ≠ "limit") : query.Silent name := by
  have hnone : query.get? name = none := by
    rw [Texts.get?, Option.map_eq_none_iff, List.find?_eq_none]
    intro x hx he
    have hname : x.1 = name := by simpa using he
    rcases h x hx with h | h
    · exact ho (hname ▸ h)
    · exact hl (hname ▸ h)
  rw [Silent, hnone]
  rfl

namespace Link

theorem onlyWindow_of_views {base link : String} (h : Views base link) :
    (Web.decodeForm (String.ofList (link.toList.drop (base.length + 1)))).OnlyWindow := by
  rcases h with rfl | ⟨limit, offset, rfl⟩
  · have hnil : link.toList.drop (link.length + 1) = [] :=
      List.drop_eq_nil_of_le (by rw [String.length_toList]; exact Nat.le_succ _)
    rw [hnil]
    intro x hx
    cases hx
  · rw [decodeForm_windowLink]
    intro x hx
    rcases List.mem_pair.mp hx with rfl | rfl
    · exact .inl rfl
    · exact .inr rfl

/-- After its base, a link has nothing or a query. -/
theorem toList_of_views {base link : String} (h : Views base link) : ∃ suffix,
    link.toList = base.toList ++ suffix ∧ (suffix = [] ∨ ∃ query, suffix = '?' :: query ∧ '#' ∉ query) := by
  rcases h with rfl | ⟨limit, offset, rfl⟩
  · exact ⟨[], (List.append_nil _).symm, .inl rfl⟩
  · refine ⟨_, toList_windowLink base limit offset, .inr ⟨_, rfl, fun hm => ?_⟩⟩
    have hdigits : ∀ n : Nat, '#' ∉ (toString n).toList := by
      intro n hn
      exact absurd (isDigit_of_mem_toString hn) (by decide)
    simp only [List.mem_append, List.mem_cons] at hm
    rcases hm with (hm | hm | hm) | hm | hm | hm | hm
    · exact absurd hm (by decide)
    · exact absurd hm (by decide)
    · exact hdigits offset hm
    · exact absurd hm (by decide)
    · exact absurd hm (by decide)
    · exact absurd hm (by decide)
    · exact hdigits limit hm

end Link

namespace Web

/-! ### The request of a link -/

/-- A `GET` of a link, with no header and no body. -/
def following (link : String) : Request := ⟨"GET", link, [], ""⟩

theorem notMem_slashed {segments : List String} (h : ∀ s ∈ segments, IsSegment s) {c : Char}
    (hc : c ∈ ['?', '#']) : c ∉ slashed segments := by
  intro hm
  obtain ⟨s, hs, hm⟩ := List.mem_flatMap.mp hm
  rcases List.mem_cons.mp hm with rfl | hm
  · exact absurd hc (by decide)
  · refine notMem_of_isSegment (h s hs) ?_ hm
    exact List.mem_cons_of_mem '%' (List.mem_cons_of_mem '/' hc)

/-- A path of segments is what the link begins with, and its query is what comes after a question
mark. -/
theorem path_following {segments : List String} {link : String} {suffix : List Char}
    (h : ∀ s ∈ segments, IsSegment s) (hne : segments ≠ [])
    (hlink : link.toList = slashed segments ++ suffix)
    (hsuffix : suffix = [] ∨ ∃ query, suffix = '?' :: query ∧ '#' ∉ query) :
    (following link).path = slashed segments ∧
      (following link).query = String.ofList (suffix.drop 1) := by
  have hpath : ∀ c ∈ slashed segments, decide (c ≠ '?') = true := by
    intro c hc
    rw [decide_eq_true_eq]
    rintro rfl
    exact notMem_slashed h (by decide) hc
  have haddress : (following link).address = slashed segments ++ suffix := by
    have hfragment : link.toList.takeWhile (· ≠ '#') = slashed segments ++ suffix := by
      rw [hlink, List.takeWhile_eq_self_iff]
      intro c hc
      rw [decide_eq_true_eq]
      rintro rfl
      rcases List.mem_append.mp hc with hc | hc
      · exact notMem_slashed h (by decide) hc
      · rcases hsuffix with rfl | ⟨query, rfl, hquery⟩
        · cases hc
        · rcases List.mem_cons.mp hc with hc | hc
          · exact absurd hc (by decide)
          · exact hquery hc
    obtain ⟨s, rest, rfl⟩ := List.exists_cons_of_ne_nil hne
    rw [Request.address, following, hfragment]
    rfl
  constructor
  · rw [Request.path, haddress, List.takeWhile_append_of_pos hpath]
    rcases hsuffix with rfl | ⟨query, rfl, -⟩
    · rw [List.takeWhile_nil, List.append_nil]
    · rw [List.takeWhile_cons_of_neg (by decide), List.append_nil]
  · rw [Request.query, haddress, List.dropWhile_append_of_pos hpath]
    rcases hsuffix with rfl | ⟨query, rfl, -⟩
    · rfl
    · rw [List.dropWhile_cons_of_neg (by decide)]

/-- What makes it possible to follow the links of an interface: names that need no escape, of which none
asks for a window; a base path of such names, and no fixed path where a collection is; and no need of
credentials. -/
structure Navigable (i : Interface) : Prop where
  base : IsBase i.settings.basePath
  names : ∀ r ∈ i.registry.resources, IsName r.name ∧
    ∀ a ∈ r.attributes, IsName a.name ∧ a.name ≠ "offset" ∧ a.name ≠ "limit"
  free : i.settings.basePath = "" → ∀ r ∈ i.registry.resources, r.plural ≠ "health" ∧ r.plural ≠ "version"
  unguarded : i.settings.credentials = none

section
variable {i : Interface} {base link : String} {segments : List String} (hnav : Navigable i)

include hnav

/-- A link under the base path is served by the action of its segments, with the query of the link. -/
theorem handle_following (target : Target) (action : Action) (h : ∀ s ∈ segments, IsSegment s)
    (hfree : i.settings.basePath = "" → segments ≠ ["health"] ∧ segments ≠ ["version"])
    (hbase : base.toList = i.settings.basePath.toList ++ slashed segments)
    (htarget : Target.ofSegments? segments = some target) (haction : target.action? "GET" = some action)
    (hlink : Link.Views base link) :
    handle { interface := i } (following link) = perform { interface := i } (following link) action ∧
      (following link).query = String.ofList (link.toList.drop (base.length + 1)) := by
  obtain ⟨names, hnames, hprefix⟩ := hnav.base
  obtain ⟨suffix, hsplit, hsuffix⟩ := Link.toList_of_views hlink
  have hall : ∀ s ∈ names ++ segments, IsSegment s := by
    intro s hs
    exact (List.mem_append.mp hs).elim (fun hs => isSegment_of_isName (hnames s hs)) (h s)
  have hne : names ++ segments ≠ [] := by
    rintro hnil
    rw [(List.append_eq_nil_iff.mp hnil).2] at htarget
    cases htarget
  have hslashed : base.toList = slashed (names ++ segments) := by
    rw [hbase, hprefix, slashed_append]
  obtain ⟨hpath, hquery⟩ := path_following hall hne (hslashed ▸ hsplit) hsuffix
  have hrest : suffix.drop 1 = link.toList.drop (base.length + 1) := by
    rw [hsplit, ← String.length_toList, List.drop_append]
    simp
  refine ⟨?_, hrest ▸ hquery⟩
  rw [slashed_append, ← hprefix] at hpath
  have hserved : handle { interface := i } (following link) = _ :=
    handle_slashed hnav.base h hfree hpath htarget haction (show "GET" ≠ "HEAD" by decide)
  exact hserved.trans (if_neg nofun)

theorem isAuthorized_following : isAuthorized i.settings (following link) = true := by
  rw [isAuthorized, hnav.unguarded]

theorem isSegment_plural {ds : List Schema.ResourceDeclaration}
    (hresolve : Schema.resolve ds = .ok i.registry) {r : Resource} (hr : r ∈ i.registry.resources) :
    IsSegment r.plural := by
  rw [(Schema.plural_of_resolve hresolve hr).1]
  exact isSegment_of_isName (Plural.isName_ofName (hnav.names r hr).1)

end

/-! ### Answers to a `GET` -/

/-- In a store, a link leads to a value: a server without hooks answers a `GET` of it with this value,
unless a call of the store is refused. -/
def LeadsTo (i : Interface) (s : Store) (link : String) (v : Value) : Prop :=
  ∀ (env : Environment) (w : World), env.Accepts → w.store = s →
    (run env (handle { interface := i } (following link)) w).1 = { status := 200, body := .json v }

section
variable {i : Interface} {s : Store} {r : Resource} {q : Request}

theorem run_answered_of_ok {env : Environment} {w : World} {x : Service Response} {response : Response}
    (h : (run env x.run w).1 = .ok response) : (run env (answered x) w).1 = response := by
  have hrun : (Program.run env x w).1 = .ok response := h
  rw [answered, Program.run_bind, hrun]
  rfl

theorem leadsTo_of_ends {α : Type} {x : Service α} {a : α} {f : α → Value} {link : String}
    (hhandle : handle { interface := i } (following link) =
      answered (x >>= fun out => pure { status := 200, body := .json (f out) }))
    (hx : ∀ env, Service.Ends env s x (fun out _ => out = a) (fun e _ => env.Refused e)) :
    LeadsTo i s link (f a) := by
  rintro env w henv rfl
  obtain ⟨out, hout, rfl⟩ := Service.success_of_accepts henv (hx env)
  rw [hhandle]
  exact run_answered_of_ok (congrArg Prod.fst (Service.run_bind_of_ok hout))

variable (hpath : i.registry.byPath? r.plural = some r)

include hpath

theorem resourceAt_plural : resourceAt { interface := i } r.plural = pure r := by
  rw [resourceAt, hpath]

theorem read_plain (id : String) (query : Texts) :
    read { interface := i } q r.plural id query =
      Operation.read i r id ⟨none, idPath id, query⟩ >>= fun d =>
        pure { status := 200, body := .json (.object d) } := by
  rw [read, resourceAt_plural hpath]
  rfl

theorem listChildren_plain (id field : String) (query : Texts) :
    listChildren { interface := i } q r.plural id field query =
      Operation.listChildren i r id field ⟨none, idPath id, query⟩ >>= fun page =>
        pure { status := 200, body := .json page.ofDocuments } := by
  rw [listChildren, resourceAt_plural hpath]
  rfl

theorem list_plain (link : String) (query : Texts) :
    list { interface := i } (following link) r.plural query =
      Operation.list i r ⟨none, [], query⟩ >>= fun page =>
        pure { status := 200, body := .json page.ofDocuments } := by
  rw [list, resourceAt_plural hpath]
  rfl

end

end Web

/-! ### Pages of whole collections -/

namespace Operation

/-- The page of some records that is answered where nothing but a window is asked for. -/
def recordsPage (s : Store) (i : Interface) (r : Resource) (base : String) (w : Window)
    (ds : List Document) : Link.Page Document := pageOf s i r ⟨none, [], []⟩ base w ds.length ds

section
variable {env : Environment} {i : Interface} {s : Store} {r : Resource} {query : Texts}
variable {ds : List Document} {base : String} (hquery : query.OnlyWindow)

include hquery

theorem wholeRead_of_onlyWindow (path : Texts) :
    expansions ⟨none, path, query⟩ = [] ∧ wholeRead ⟨none, path, query⟩ = {} := by
  have hoption : ∀ name, name ≠ "offset" → name ≠ "limit" →
      (⟨none, path, query⟩ : Filter.Request).option? name = none := fun _ => hquery.silent
  have hprojection : projection ⟨none, path, query⟩ = none := by
    rw [projection, hoption "fields" (by decide) (by decide)]
    rfl
  constructor
  · rw [expansions, hoption "expands" (by decide) (by decide)]
    rfl
  · rw [wholeRead, hprojection, hoption "orderBy" (by decide) (by decide)]
    rfl

theorem ends_listWhere_of_onlyWindow {c : Filter.Condition} (path : Texts)
    (hds : s.matching r.name c = .ok ds) (hnear : Filter.Condition.near? c = none) :
    Service.Ends env s (listWhere i r c ⟨none, path, query⟩ base)
      (fun page _ => page = recordsPage s i r base (Window.ofQuery query i.settings.defaultLimit) ds)
      (fun e _ => env.Refused e) := by
  obtain ⟨hexpansions, hwhole⟩ := wholeRead_of_onlyWindow hquery path
  have hprojection : projection ⟨none, path, query⟩ = none := congrArg Store.Options.fields hwhole
  have hfound : s.find r.name c (wholeRead ⟨none, path, query⟩) = .ok ds := by
    have hordered : Store.ordered [] c ds = .ok ds := by
      simp only [Store.ordered, hnear]
      rfl
    rw [hwhole]
    simp only [Store.find, hds, bind, Except.bind, hordered, List.drop_zero, Document.project, pure,
      Except.pure, List.map_id']
  have hend : Service.Ends env s (listWhere i r c ⟨none, path, query⟩ base) _ _ := ends_listWhere hds hfound
  rw [pageOf, hexpansions, hprojection] at hend
  exact Service.ends_mono hend (fun _ _ h => h.2) fun _ _ h => h

theorem unfiltered_of_onlyWindow (hfree : ∀ a ∈ r.attributes, a.name ≠ "offset" ∧ a.name ≠ "limit") :
    Unfiltered r query := by
  refine ⟨hquery.silent (by decide) (by decide), fun name hname => ?_⟩
  obtain ⟨a, ha, rfl⟩ := List.mem_map.mp hname
  rcases Resource.declared_or_implicit ha with ha | himplicit
  · exact hquery.silent (hfree a ha).1 (hfree a ha).2
  · refine hquery.silent ?_ ?_ <;> exact fun he => absurd (he ▸ himplicit) (by decide)

end

section
variable {declarations : List Schema.ResourceDeclaration} {env : Environment} {i : Interface} {s : Store}
variable {query : Texts} (hresolve : Schema.resolve declarations = .ok i.registry)
variable (hdistinct : Schema.Distinct declarations) (hquery : query.OnlyWindow)

include hresolve hdistinct hquery

theorem ends_list_of_onlyWindow {r : Resource} (hr : r ∈ i.registry.resources)
    (hfree : ∀ a ∈ r.attributes, a.name ≠ "offset" ∧ a.name ≠ "limit") :
    Service.Ends env s (list i r ⟨none, [], query⟩)
      (fun page _ => page = recordsPage s i r (i.settings.basePath ++ "/" ++ r.plural)
        (Window.ofQuery query i.settings.defaultLimit) (s.documents r.name))
      (fun e _ => env.Refused e) := by
  rw [list, condition_of_unfiltered (Schema.distinct_of_resolve hdistinct hresolve r hr)
    ((Schema.consistent_of_resolve hresolve).namesFree hr) (unfiltered_of_onlyWindow hquery hfree)]
  exact ends_listWhere_of_onlyWindow hquery [] (s.matching_nil r.name) rfl

theorem ends_listChildren_of_onlyWindow {owner child : Resource} {field : String} {p : Attribute}
    (hinv : i.registry.Inverse owner field child p)
    (hfree : ∀ a ∈ child.attributes, a.name ≠ "offset" ∧ a.name ≠ "limit") (id : String) :
    Service.Ends env s (listChildren i owner id field ⟨none, Web.idPath id, query⟩)
      (fun page _ => page = recordsPage s i child (i.href owner.plural id ++ "/" ++ field)
        (Window.ofQuery query i.settings.defaultLimit)
        ((s.documents child.name).filter fun d => Document.Has d p.name id))
      (fun e _ => env.Refused e) := by
  have hg : i.registry.Consistent := Schema.consistent_of_resolve hresolve
  have hchild := Schema.distinct_of_resolve hdistinct hresolve child hinv.mem_resources
  have hunfiltered : Unfiltered child query := unfiltered_of_onlyWindow hquery hfree
  have hds := selection_unfiltered hg hchild hinv id hunfiltered s
  rw [listChildren_eq hinv, selection_listWhere] at hds
  have hcondition : childrenCondition child p id ⟨none, Web.idPath id, query⟩ =
      [(p.name, .exact (.string id))] := by
    have hnames : child.NamesFree := hg.namesFree hinv.mem_resources
    have hp : query.Silent p.name := hunfiltered.2 p.name hinv.mem_fieldNames
    refine (childrenCondition_eq hinv hg hchild hp).trans ?_
    rw [Filter.condition_without hchild hnames (hunfiltered.2 idField (List.mem_cons_self ..)),
      condition_of_unfiltered hchild hnames hunfiltered]
    rfl
  rw [listChildren_eq hinv]
  rw [hcondition] at hds ⊢
  exact ends_listWhere_of_onlyWindow hquery _ hds rfl

end

end Operation

namespace Web

/-! ### What links lead to -/

section
variable {declarations : List Schema.ResourceDeclaration} {i : Interface} {s : Store} {link id : String}
variable {r : Resource} (hnav : Navigable i) (hresolve : Schema.resolve declarations = .ok i.registry)

include hnav hresolve

/-- The path of a record leads to it, if its identity needs no escape. -/
theorem leadsTo_record (hr : r ∈ i.registry.resources) (hid : IsSegment id) {d : Document}
    (hd : s.called r.name id = some d) : LeadsTo i s (i.href r.plural id)
      (.object (Link.shown s (Operation.place i) r r.plural [] none d)) := by
  have hplural : IsSegment r.plural := isSegment_plural hnav hresolve hr
  have hsegments : ∀ x ∈ [r.plural, id], IsSegment x := by
    intro x hx
    rcases List.mem_pair.mp hx with rfl | rfl
    · exact hplural
    · exact hid
  have hbase : (i.href r.plural id).toList =
      i.settings.basePath.toList ++ slashed [r.plural, id] := by
    simp [Interface.href, slashed]
  obtain ⟨hhandle, hquery⟩ := handle_following hnav (.record r.plural id)
    (.read r.plural id) hsegments (fun _ => ⟨by simp, by simp⟩) hbase rfl rfl (.inl rfl)
  have hnone : decodeForm (following (i.href r.plural id)).query = [] := by
    rw [hquery, List.drop_eq_nil_of_le (by rw [String.length_toList]; exact Nat.le_succ _)]
    rfl
  have hread : perform { interface := i } (following (i.href r.plural id)) (.read r.plural id) =
      answered (read { interface := i } (following (i.href r.plural id)) r.plural id
        (decodeForm (following (i.href r.plural id)).query)) := by
    rw [perform, guarded_of_isSegment (isAuthorized_following hnav) hsegments]
    rfl
  rw [hnone, read_plain (Schema.plural_of_resolve hresolve hr).2] at hread
  have hpresent : s.called r.name id ≠ none := by
    rw [hd]
    exact Option.some_ne_none d
  refine leadsTo_of_ends (hhandle.trans hread) fun env => ?_
  refine Service.ends_mono Operation.ends_read ?_ fun e _ he => he.resolve_right hpresent
  rintro out t ⟨found, hfound, rfl⟩
  obtain rfl : found = d := Option.some.inj (hfound.symm.trans hd)
  rfl

variable (hdistinct : Schema.Distinct declarations)

include hdistinct

/-- The path of a collection, or of a window of it, leads to the page of all its records there. -/
theorem leadsTo_collection (hr : r ∈ i.registry.resources)
    (hlink : Link.Views (i.settings.basePath ++ "/" ++ r.plural) link) : LeadsTo i s link
      (Operation.recordsPage s i r (i.settings.basePath ++ "/" ++ r.plural)
        (Link.window (i.settings.basePath ++ "/" ++ r.plural) i.settings.defaultLimit link)
        (s.documents r.name)).ofDocuments := by
  have hsegments : ∀ x ∈ [r.plural], IsSegment x := by
    intro x hx
    rw [List.mem_singleton.mp hx]
    exact isSegment_plural hnav hresolve hr
  have hbase : (i.settings.basePath ++ "/" ++ r.plural).toList =
      i.settings.basePath.toList ++ slashed [r.plural] := by
    simp [slashed]
  have hfree : i.settings.basePath = "" → [r.plural] ≠ ["health"] ∧ [r.plural] ≠ ["version"] := by
    intro hb
    exact ⟨fun he => (hnav.free hb r hr).1 (List.cons.inj he).1,
      fun he => (hnav.free hb r hr).2 (List.cons.inj he).1⟩
  obtain ⟨hhandle, hquery⟩ := handle_following hnav (.collection r.plural)
    (.list r.plural) hsegments hfree hbase rfl rfl hlink
  have hread : perform { interface := i } (following link) (.list r.plural) =
      answered (list { interface := i } (following link) r.plural (decodeForm (following link).query)) := by
    rw [perform, guarded_of_isSegment (isAuthorized_following hnav) hsegments]
    rfl
  rw [hquery, list_plain (Schema.plural_of_resolve hresolve hr).2] at hread
  exact leadsTo_of_ends (hhandle.trans hread) fun env => Operation.ends_list_of_onlyWindow hresolve hdistinct
    (Link.onlyWindow_of_views hlink) hr fun a ha => ((hnav.names r hr).2 a ha).2

/-- The path of a list of children, or of a window of it, leads to the page of the records there that name
their owner by its identity, if that needs no escape. -/
theorem leadsTo_children {child : Resource} {field : String} {p : Attribute}
    (hr : r ∈ i.registry.resources) (hinv : i.registry.Inverse r field child p) (hid : IsSegment id)
    (hlink : Link.Views (i.href r.plural id ++ "/" ++ field) link) : LeadsTo i s link
      (Operation.recordsPage s i child (i.href r.plural id ++ "/" ++ field)
        (Link.window (i.href r.plural id ++ "/" ++ field) i.settings.defaultLimit link)
        ((s.documents child.name).filter fun d => Document.Has d p.name id)).ofDocuments := by
  have hfield : IsSegment field := by
    obtain ⟨target, hlist, -⟩ := hinv.list
    obtain ⟨a, ha, -⟩ := Option.bind_eq_some_iff.mp hlist
    have hname : a.name = field := by simpa using List.find?_some ha
    rw [← hname]
    exact isSegment_of_isName ((hnav.names r hr).2 a (List.mem_of_find?_eq_some ha)).1
  have hsegments : ∀ x ∈ [r.plural, id, field], IsSegment x := by
    intro x hx
    simp only [List.mem_cons, List.not_mem_nil, or_false] at hx
    rcases hx with rfl | rfl | rfl
    · exact isSegment_plural hnav hresolve hr
    · exact hid
    · exact hfield
  have hbase : (i.href r.plural id ++ "/" ++ field).toList =
      i.settings.basePath.toList ++ slashed [r.plural, id, field] := by
    simp [Interface.href, slashed]
  obtain ⟨hhandle, hquery⟩ := handle_following hnav (.field r.plural id field)
    (.listChildren r.plural id field) hsegments (fun _ => ⟨by simp, by simp⟩) hbase rfl rfl hlink
  have hread : perform { interface := i } (following link) (.listChildren r.plural id field) =
      answered (listChildren { interface := i } (following link) r.plural id field
        (decodeForm (following link).query)) := by
    rw [perform, guarded_of_isSegment (isAuthorized_following hnav) hsegments]
    rfl
  rw [hquery, listChildren_plain (Schema.plural_of_resolve hresolve hr).2] at hread
  have hfree := fun a ha => ((hnav.names child hinv.mem_resources).2 a ha).2
  exact leadsTo_of_ends (hhandle.trans hread) fun env => Operation.ends_listChildren_of_onlyWindow hresolve
    hdistinct (Link.onlyWindow_of_views hlink) hinv hfree id

end

/-- In a store, a link leads to a record: the record is there, and a `GET` of the link is answered with
it. -/
def LeadsToRecord (i : Interface) (s : Store) (link : String) (r : Resource) (id : String) : Prop :=
  ∃ d, s.called r.name id = some d ∧ Document.id? d = some id ∧
    LeadsTo i s link (.object (Link.shown s (Operation.place i) r r.plural [] none d))

/-- In a store, a link that begins with a base leads to the page of some records in the window that it
names. -/
def LeadsToPage (i : Interface) (s : Store) (link : String) (r : Resource) (base : String)
    (ds : List Document) : Prop :=
  LeadsTo i s link
    (Operation.recordsPage s i r base (Link.window base i.settings.defaultLimit link) ds).ofDocuments

theorem leadsToRecord_of_holds {declarations : List Schema.ResourceDeclaration} {i : Interface}
    (hnav : Navigable i) (hresolve : Schema.resolve declarations = .ok i.registry) {s : Store}
    (hnamed : s.Named) (hs : s.Intact i.registry) {r : Resource} (hr : r ∈ i.registry.resources)
    {id : String} (hholds : s.Holds r.name id) : LeadsToRecord i s (i.href r.plural id) r id := by
  cases hcalled : s.called r.name id with
  | none => exact absurd hholds (Store.not_holds_of_called hcalled)
  | some d =>
    have hid : Document.id? d = some id := Store.id?_of_called hnamed hcalled
    obtain ⟨x, hx, hfit⟩ := (hs.forms r hr d (Store.mem_of_called hcalled)).identity
    obtain rfl : x = id := Option.some.inj (hx.symm.trans hid)
    exact ⟨d, hcalled, hid, leadsTo_record hnav hresolve hr (isSegment_of_fit hfit) hcalled⟩

/-- The links of answers from a reached store can be followed in any reached store, later or not: the path
of a created record and the link of a reference lead to just that record, if it is there; the link of a
list of children leads to the page of the children of just that record; and the links of a page lead to
pages of just that collection. For a page of children this takes an identity of the owner that needs no
escape, as all identities of records have. -/
theorem emitted_links_followed {declarations : List Schema.ResourceDeclaration} {i : Interface}
    (hresolve : Schema.resolve declarations = .ok i.registry) (hdistinct : Schema.Distinct declarations)
    (hnav : Navigable i) {h k : Operation.History} (hon : h.On i.registry) (kon : k.On i.registry)
    {s t : Store} (hs : s = h.after i Store.empty) (ht : t = k.after i Store.empty) :
    (∀ r ∈ i.registry.resources, ∀ env w body request created,
      (run env (Operation.create i r body request).run w).1 = .ok created → ∀ c ∈ created.toList,
        t.Holds r.name c.id → LeadsToRecord i t c.href r c.id) ∧
    (∀ r out, Operation.Emitted i s r out → ∀ name relation target link v,
      (name, relation) ∈ r.relations → relation.isChildren = false →
      i.registry.get? relation.target = some target →
      Members.get? out name = some (.object [("href", .string link), ("id", v)]) →
        t.Holds target.name v.plainText → LeadsToRecord i t link target v.plainText) ∧
    (∀ r out, Operation.Emitted i s r out → ∀ field child p link,
      i.registry.Inverse r field child p →
      Members.get? out field = some (.object [("href", .string link)]) →
        ∃ id, Document.id? out = some id ∧ LeadsToPage i t link child (i.href r.plural id ++ "/" ++ field)
          ((t.documents child.name).filter fun d => Document.Has d p.name id)) ∧
    (∀ r ∈ i.registry.resources, ∀ env w request page link,
      (run env (Operation.list i r request).run w).1 = .ok page →
      some link ∈ [page.first, page.last, page.prev, page.next] →
        LeadsToPage i t link r (i.settings.basePath ++ "/" ++ r.plural) (t.documents r.name)) ∧
    ∀ r ∈ i.registry.resources, ∀ field child p, i.registry.Inverse r field child p → ∀ id,
      IsSegment id → ∀ env w request page link,
      (run env (Operation.listChildren i r id field request).run w).1 = .ok page →
      some link ∈ [page.first, page.last, page.prev, page.next] →
        LeadsToPage i t link child (i.href r.plural id ++ "/" ++ field)
          ((t.documents child.name).filter fun d => Document.Has d p.name id) := by
  have hg : i.registry.Consistent := Schema.consistent_of_resolve hresolve
  have hreached : ∀ {x : Operation.History}, x.On i.registry →
      (x.after i Store.empty).Intact i.registry := by
    intro x hx
    refine Operation.History.after_of_keeps (fun y hy => ?_) (Store.intact_empty _)
    exact Operation.keeps_intact hg (Schema.distinct_of_resolve hdistinct hresolve _ (hx y hy)) (hx y hy)
      y.command
  have hsource : s.Intact i.registry := hs ▸ hreached hon
  have hintact : t.Intact i.registry := ht ▸ hreached kon
  have hnamed : t.Named := ht ▸ Operation.History.named hg kon
  refine ⟨?created, ?references, ?lists, ?pages, ?children⟩
  case created =>
    intro r hr env w body request created hcreate c hc hholds
    rw [Operation.href_of_create hcreate c hc]
    exact leadsToRecord_of_holds hnav hresolve hnamed hintact hr hholds
  case references =>
    intro r out hout name relation target link v hx hc htarget hv hholds
    rw [hout.reference_link hresolve hdistinct hsource hx hc htarget hv]
    exact leadsToRecord_of_holds hnav hresolve hnamed hintact (List.mem_of_find?_eq_some htarget) hholds
  case lists =>
    intro r out hout field child p link hinv hv
    obtain ⟨target, hx⟩ := hinv.mem_relations
    obtain ⟨id, hid, hfit, rfl⟩ := hout.list_link hresolve hdistinct hsource hx hv
    exact ⟨id, hid, leadsTo_children hnav hresolve hdistinct hout.mem hinv (isSegment_of_fit hfit) (.inl rfl)⟩
  case pages =>
    intro r hr env w request page link hpage hlink
    obtain ⟨limit, offset, rfl⟩ := Operation.window_link_of_run hpage hlink
    exact leadsTo_collection hnav hresolve hdistinct hr (.inr ⟨limit, offset, rfl⟩)
  case children =>
    intro r hr field child p hinv id hid env w request page link hpage hlink
    rw [Operation.listChildren_eq hinv] at hpage
    obtain ⟨limit, offset, rfl⟩ := Operation.window_link_of_run hpage hlink
    exact leadsTo_children hnav hresolve hdistinct hr hinv hid (.inr ⟨limit, offset, rfl⟩)

/-! ### Two people in a group, and an owner that is not there -/

/-- The store of a group of two under a base path. -/
def staffedStore : Store := Operation.staffed.after basedServer.interface Store.empty

theorem navigable_basedServer : Navigable basedServer.interface where
  base := ⟨["api", "v1"], by decide, rfl⟩
  names := by
    simp only [basedServer, Groups.interface, List.mem_cons, List.not_mem_nil, or_false, forall_eq_or_imp,
      forall_eq]
    decide
  free := nofun
  unguarded := rfl

theorem emitted_links_followed_groups :
    Schema.resolve Groups.declarations = .ok basedServer.interface.registry ∧
      Schema.Distinct Groups.declarations ∧ Navigable basedServer.interface ∧
      Operation.staffed.On basedServer.interface.registry ∧
      LeadsToRecord basedServer.interface staffedStore "/api/v1/people/ann" Groups.person "ann" ∧
      LeadsToRecord basedServer.interface staffedStore "/api/v1/groups/ops" Groups.group "ops" ∧
      LeadsToPage basedServer.interface staffedStore "/api/v1/groups/ops/members" Groups.person
        "/api/v1/groups/ops/members"
        ((staffedStore.documents "person").filter fun d => Document.Has d "group" "ops") ∧
      LeadsToPage basedServer.interface staffedStore "/api/v1/people?offset=2&limit=2" Groups.person
        "/api/v1/people" (staffedStore.documents "person") ∧
      LeadsToPage basedServer.interface staffedStore "/api/v1/groups/ops/members?offset=1&limit=1"
        Groups.person "/api/v1/groups/ops/members"
        ((staffedStore.documents "person").filter fun d => Document.Has d "group" "ops") := by
  have hresolve : Schema.resolve Groups.declarations = .ok basedServer.interface.registry :=
    Groups.resolve_declarations
  have hon : Operation.staffed.On basedServer.interface.registry := by
    simp [Operation.History.On, Operation.staffed, Groups.newGroup, basedServer, Groups.interface]
  have hgroup : Groups.group ∈ basedServer.interface.registry.resources := List.mem_cons_self ..
  have hperson : Groups.person ∈ basedServer.interface.registry.resources :=
    List.mem_cons_of_mem _ (List.mem_cons_self ..)
  obtain ⟨hcreated, hreferences, hlists, hpages, hchildren⟩ := emitted_links_followed hresolve
    Groups.distinct_declarations navigable_basedServer hon hon rfl (rfl : staffedStore = _)
  have hheld : staffedStore.Holds "person" "ann" ∧ staffedStore.Holds "group" "ops" := by
    have hids : (staffedStore.documents "person").map Document.id? = [some "ann", some "bob", some "cat"] ∧
        (staffedStore.documents "group").map Document.id? = [some "ops"] := by
      decide +kernel
    have hann : some "ann" ∈ (staffedStore.documents "person").map Document.id? := by
      rw [hids.1]
      decide
    have hops : some "ops" ∈ (staffedStore.documents "group").map Document.id? := by
      rw [hids.2]
      decide
    exact ⟨List.mem_map.mp hann, List.mem_map.mp hops⟩
  refine ⟨hresolve, Groups.distinct_declarations, navigable_basedServer, hon, ?_, ?_, ?_, ?_, ?_⟩
  · -- Ann's path, as her create tells it.
    exact hcreated Groups.person hperson (Groups.refusing none) { store := Store.empty }
      (.object [("name", .string "Ann")]) (Groups.values []) (.one ⟨"ann", "/api/v1/people/ann"⟩) rfl _
      (List.mem_singleton_self _) hheld.1
  · -- The link to her group, as her record shows it.
    obtain ⟨out, hread, hlink⟩ : ∃ out, (run (Groups.refusing none)
        (Operation.read basedServer.interface Groups.person "ann" ⟨none, [], []⟩).run
          { store := staffedStore }).1 = .ok out ∧ Members.get? out "group" =
            some (.object [("href", .string "/api/v1/groups/ops"), ("id", .string "ops")]) := ⟨_, rfl, rfl⟩
    exact hreferences _ out (.read (w := { store := staffedStore }) hperson rfl hread) "group"
      (.parent "group" "members") Groups.group _ (.string "ops") (by decide) rfl rfl hlink hheld.2
  · obtain ⟨out, hread, hid, hlink⟩ : ∃ out, (run (Groups.refusing none)
        (Operation.read basedServer.interface Groups.group "ops" ⟨none, [], []⟩).run
          { store := staffedStore }).1 = .ok out ∧ Document.id? out = some "ops" ∧
            Members.get? out "members" = some (.object [("href", .string "/api/v1/groups/ops/members")]) :=
      ⟨_, rfl, rfl, rfl⟩
    obtain ⟨id, hid', hleads⟩ := hlists _ out (.read (w := { store := staffedStore }) hgroup rfl hread)
      "members" Groups.person Operation.groupAttribute _ Operation.inverse_members hlink
    obtain rfl : "ops" = id := Option.some.inj (hid.symm.trans hid')
    exact hleads
  · obtain ⟨page, hpage, hnext⟩ : ∃ page, (run (Groups.refusing none) (Operation.list basedServer.interface
        Groups.person ⟨none, [], [("limit", "2")]⟩).run { store := staffedStore }).1 = .ok page ∧
        page.next = some "/api/v1/people?offset=2&limit=2" := ⟨_, rfl, rfl⟩
    exact hpages _ hperson _ _ _ page _ hpage (by simp [hnext])
  · obtain ⟨page, hpage, hlast⟩ : ∃ page, (run (Groups.refusing none)
        (Operation.listChildren basedServer.interface Groups.group "ops" "members"
          ⟨none, idPath "ops", [("limit", "1")]⟩).run { store := staffedStore }).1 = .ok page ∧
        page.last = some "/api/v1/groups/ops/members?offset=1&limit=1" := ⟨_, rfl, rfl⟩
    exact hchildren _ hgroup _ _ _ Operation.inverse_members "ops" (isSegment_of_isName (by decide)) _ _ _
      page _ hpage (by simp [hlast])

/-- Declarations where a person belongs to a group that is not there, if nothing else is said. -/
def strayDeclarations : List Schema.ResourceDeclaration :=
  [("group", [("name", Groups.declared .string none true),
      ("members", Groups.declared .children (some "person") false)]),
    ("person", [("name", Groups.declared .string none true),
      ("group", { Groups.declared .parent (some "group.members") false with
        default := some (.string "a?b") })])]

def strayPerson : Resource :=
  ⟨"person", "people", [{ name := "name", type := .string, unique := true },
    { name := "group", type := .relation (.parent "group" "members"), default := some (.string "a?b") }]⟩

def strayInterface : Interface := { registry := ⟨[Groups.group, strayPerson]⟩, settings := {} }

/-- Ann is created, and nothing is said of her group. -/
def strayHistory : Operation.History :=
  [⟨Groups.refusing none, strayPerson, .createItem (Groups.values [("name", .string "ann")])⟩]

/-- The answer to a `GET` of a link after that. -/
def strayAnswer (link : String) : Response :=
  (run (Groups.refusing none) (handle { interface := strayInterface } (following link))
    { store := strayHistory.after strayInterface Store.empty }).1

/-- The link to the first page that an answer carries. -/
def Response.first? (response : Response) : Option String :=
  match response.body with
  | .json (.object ms) => (Members.get? ms "first").bind Value.string?
  | _ => none

/-- The children of an owner that is not there are answered under its identity, but the links of that page
carry the identity unescaped and lead nowhere. -/
theorem stray_page_lost :
    Schema.resolve strayDeclarations = .ok strayInterface.registry ∧
      Schema.Distinct strayDeclarations ∧ Navigable strayInterface ∧
      strayHistory.On strayInterface.registry ∧
      strayInterface.registry.Inverse Groups.group "members" strayPerson
        { name := "group", type := .relation (.parent "group" "members"), default := some (.string "a?b") } ∧
      (strayAnswer "/groups/a%3Fb/members").status = 200 ∧
      (strayAnswer "/groups/a%3Fb/members").first? = some "/groups/a?b/members?offset=0&limit=25" ∧
      (strayAnswer "/groups/a?b/members?offset=0&limit=25").status = 404 := by
  have hnav : Navigable strayInterface := by
    refine ⟨⟨[], nofun, rfl⟩, ?_, fun _ => ?_, rfl⟩
    · simp only [strayInterface, List.mem_cons, List.not_mem_nil, or_false, forall_eq_or_imp, forall_eq]
      decide
    · simp only [strayInterface, List.mem_cons, List.not_mem_nil, or_false, forall_eq_or_imp, forall_eq]
      decide
  refine ⟨rfl, ?_, hnav, ?_, ⟨⟨"person", rfl, rfl⟩, rfl⟩, ?_, ?_, ?_⟩
  · simp [Schema.Distinct, strayDeclarations]
  · simp [Operation.History.On, strayHistory, strayInterface]
  · decide +kernel
  · decide +kernel
  · decide +kernel

end Web

end Hypermedia
