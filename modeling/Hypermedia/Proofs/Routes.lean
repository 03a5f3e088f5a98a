import Hypermedia.Proofs.History
import Hypermedia.Proofs.Identity
import Hypermedia.Proofs.Links
import Hypermedia.Proofs.Plural
import Hypermedia.Web.Server

/-!
# Routes to collections

A path is made of segments with a slash before each. Segments of characters that need no escape are
found in it again, undecoded and decoded alike, so the path of a collection leads to its resource. Only
at the root a collection can be hidden: by the fixed path of the same name.
-/

namespace Hypermedia

namespace Web

open Text (IsName isNameChar)

/-! ### Segments -/

/-- The marks that stand for themselves in a segment of a path. -/
def segmentMarks : List Char :=
  ['-', '.', '~', '!', '$', '&', Char.ofNat 39, '(', ')', '*', '+', ',', ';', '=', ':', '@']

/-- A character that stands for itself in a segment of a path. -/
def isSegmentChar (c : Char) : Bool := isNameChar c || segmentMarks.contains c

/-- A text that can stand in a path as it is. -/
structure IsSegment (s : String) : Prop where
  nonempty : s ≠ ""
  chars : ∀ c ∈ s.toList, isSegmentChar c = true

theorem isSegmentChar_spec {c : Char} (h : isSegmentChar c = true) :
    c.toNat < 128 ∧ c ∉ ['%', '/', '?', '#'] := by
  rcases Bool.or_eq_true_iff.mp h with hc | hc
  · refine ⟨Text.ascii_of_isNameChar hc, ?_⟩
    exact Text.forall_nameChar (P := fun c => c ∉ ['%', '/', '?', '#']) (by decide +kernel) hc
  · have hall : segmentMarks.all (fun x => x.toNat < 128 ∧ x ∉ ['%', '/', '?', '#']) = true := by
      decide
    exact of_decide_eq_true (List.all_eq_true.mp hall c (List.contains_iff_mem.mp hc))

theorem isSegment_of_isName {s : String} (h : IsName s) : IsSegment s :=
  ⟨h.nonempty, fun c hc => Bool.or_eq_true_iff.mpr (.inl (h.chars c hc))⟩

theorem isSegment_of_fit {s : String} (h : Identity.Fit s) : IsSegment s := by
  refine ⟨h.1, fun c hc => ?_⟩
  rcases h.2 c hc with h | h | rfl | rfl
  · simp [isSegmentChar, isNameChar, h]
  · simp [isSegmentChar, isNameChar, h]
  · decide
  · decide

section
variable {s : String} (h : IsSegment s)

include h

theorem ascii_of_isSegment : ∀ c ∈ s.toList, c.toNat < 128 :=
  fun c hc => (isSegmentChar_spec (h.chars c hc)).1

/-- No segment has a character that ends a segment, a path or an address, or begins an escape. -/
theorem notMem_of_isSegment {c : Char} (hc : c ∈ ['%', '/', '?', '#']) : c ∉ s.toList :=
  fun hm => (isSegmentChar_spec (h.chars c hm)).2 hc

theorem decodeSegment?_of_isSegment : decodeSegment? s = some s := by
  have hbytes := Text.toUTF8_ascii (ascii_of_isSegment h)
  rw [String.ofList_toList] at hbytes
  rw [decodeSegment?, hbytes,
    percentDecode_ascii (ascii_of_isSegment h) (notMem_of_isSegment h (by decide)),
    Text.decode?_ascii (ascii_of_isSegment h), String.ofList_toList]

end

theorem decodeSegments_of_isSegment {segments : List String} (h : ∀ s ∈ segments, IsSegment s) :
    decodeSegments segments = .ok segments := by
  induction segments with
  | nil => rfl
  | cons s rest ih =>
    rw [decodeSegments, decodeSegment?_of_isSegment (h s (List.mem_cons_self ..)),
      ih fun x hx => h x (List.mem_cons_of_mem _ hx)]
    rfl

/-! ### Paths -/

/-- Segments with a slash before each. -/
def slashed (segments : List String) : List Char := segments.flatMap fun s => '/' :: s.toList

theorem slashed_cons (s : String) (rest : List String) :
    slashed (s :: rest) = '/' :: (s.toList ++ slashed rest) := rfl

theorem slashed_append (a b : List String) : slashed (a ++ b) = slashed a ++ slashed b :=
  List.flatMap_append ..

/-- What a base path is made of: nothing, or names with a slash before each. -/
def IsBase (base : String) : Prop :=
  ∃ names : List String, (∀ n ∈ names, IsName n) ∧ base.toList = slashed names

theorem splitChars_slashed {s : String} {rest : List String} (h : ∀ x ∈ s :: rest, IsSegment x) :
    Text.splitChars '/' (s.toList ++ slashed rest) = s.toList :: rest.map String.toList := by
  have hs : Text.splitChars '/' s.toList = [s.toList] :=
    Text.splitChars_of_notMem (notMem_of_isSegment (h s (List.mem_cons_self ..)) (by decide))
  induction rest generalizing s with
  | nil =>
    rw [slashed, List.flatMap_nil, List.append_nil]
    exact hs
  | cons x rest ih =>
    have hrest : ∀ y ∈ x :: rest, IsSegment y := fun y hy => h y (List.mem_cons_of_mem _ hy)
    have hx := Text.splitChars_of_notMem (notMem_of_isSegment (hrest x (List.mem_cons_self ..))
      (by decide : '/' ∈ ['%', '/', '?', '#']))
    rw [slashed_cons, Text.splitChars_append, hs, ih hrest hx]
    rfl

/-- Different segments make different paths. -/
theorem slashed_injective {a b : List String} (ha : ∀ s ∈ a, IsSegment s) (hb : ∀ s ∈ b, IsSegment s)
    (h : slashed a = slashed b) : a = b := by
  cases a with
  | nil =>
    cases b with
    | nil => rfl
    | cons y b => cases h
  | cons x a =>
    cases b with
    | nil => cases h
    | cons y b =>
      rw [slashed_cons, slashed_cons] at h
      have hsplit := congrArg (Text.splitChars '/') (List.cons.inj h).2
      rw [splitChars_slashed ha, splitChars_slashed hb] at hsplit
      exact List.map_injective_iff.mpr (fun _ _ => String.toList_injective) hsplit

/-- What the segments under a base path address. -/
def Target.ofSegments? : List String → Option Target
  | [segment] => some (.collection segment)
  | [segment, id] => some (.record segment id)
  | [segment, id, name] => some (.field segment id name)
  | _ => none

section
variable {base : String} {segments : List String}

theorem segments?_slashed {s : String} {rest : List String} (h : ∀ x ∈ s :: rest, IsSegment x) :
    segments? base.toList (base.toList ++ slashed (s :: rest)) =
      some ((s :: rest).map String.toList) := by
  have hprefix : base.toList.isPrefixOf (base.toList ++ slashed (s :: rest)) = true :=
    List.isPrefixOf_iff_prefix.mpr (List.prefix_append ..)
  rw [segments?, if_pos hprefix, List.drop_left]
  exact congrArg some (splitChars_slashed h)

variable (hbase : IsBase base)

include hbase

/-- A path is a fixed one only if it is at the root and has that one segment. -/
theorem slashed_ne_fixed (h : ∀ s ∈ segments, IsSegment s) (hne : segments ≠ []) {fixed : String}
    (hf : IsName fixed) (hfree : base = "" → segments ≠ [fixed]) :
    base.toList ++ slashed segments ≠ slashed [fixed] := by
  obtain ⟨names, hnames, hbase⟩ := hbase
  intro he
  have hall : ∀ s ∈ names ++ segments, IsSegment s := by
    intro s hs
    exact (List.mem_append.mp hs).elim (fun hs => isSegment_of_isName (hnames s hs)) (h s)
  have hfixed : ∀ s ∈ [fixed], IsSegment s := by
    intro s hs
    rw [List.mem_singleton.mp hs]
    exact isSegment_of_isName hf
  have hpath : slashed (names ++ segments) = slashed [fixed] := by
    rw [slashed_append, ← hbase, he]
  have hsame := slashed_injective hall hfixed hpath
  cases names with
  | nil => exact hfree (String.toList_eq_nil_iff.mp hbase) hsame
  | cons x names =>
    have hlength := congrArg List.length hsame
    simp only [List.length_append, List.length_cons, List.length_nil] at hlength
    exact hne (List.length_eq_zero_iff.mp (by omega))

theorem ofPath?_slashed (h : ∀ s ∈ segments, IsSegment s) (hne : segments ≠ [])
    (hfree : base = "" → segments ≠ ["health"] ∧ segments ≠ ["version"]) :
    Target.ofPath? base (base.toList ++ slashed segments) = Target.ofSegments? segments := by
  have hhealth : base.toList ++ slashed segments ≠ slashed ["health"] :=
    slashed_ne_fixed hbase h hne (by decide) fun hb => (hfree hb).1
  have hversion : base.toList ++ slashed segments ≠ slashed ["version"] :=
    slashed_ne_fixed hbase h hne (by decide) fun hb => (hfree hb).2
  have hchars : slashed ["health"] = "/health".toList ∧ slashed ["version"] = "/version".toList := by
    decide
  rw [hchars.1] at hhealth
  rw [hchars.2] at hversion
  rw [Target.ofPath?, if_neg hhealth, if_neg hversion]
  obtain ⟨s, rest, rfl⟩ := List.exists_cons_of_ne_nil hne
  have hempty : ((s :: rest).map String.toList).any List.isEmpty = false := by
    rw [List.any_eq_false]
    intro cs hcs hnil
    obtain ⟨x, hx, rfl⟩ := List.mem_map.mp hcs
    exact (h x hx).nonempty (String.toList_eq_nil_iff.mp (List.isEmpty_iff.mp hnil))
  have hparts : ((s :: rest).map String.toList).map String.ofList = s :: rest := by
    simp [Function.comp_def]
  rw [segments?_slashed h]
  dsimp only
  rw [hempty, hparts]
  rfl

end

/-! ### Requests on routes -/

section
variable {server : Server} {q : Request}

theorem guarded_of_isSegment (hauth : isAuthorized server.interface.settings q = true)
    {segments : List String} (h : ∀ s ∈ segments, IsSegment s)
    (work : List String → Filter.Texts → Program Response) :
    guarded server q segments work = work segments (decodeForm q.query) := by
  unfold guarded
  rw [if_neg (not_not_intro hauth), decodeSegments_of_isSegment h]
  rfl

/-- A request whose path has these segments under the base path is served by the action of its
method. -/
theorem handle_slashed {segments : List String} {target : Target} {action : Action}
    (hbase : IsBase server.interface.settings.basePath) (h : ∀ s ∈ segments, IsSegment s)
    (hfree : server.interface.settings.basePath = "" → segments ≠ ["health"] ∧ segments ≠ ["version"])
    (hpath : q.path = server.interface.settings.basePath.toList ++ slashed segments)
    (htarget : Target.ofSegments? segments = some target)
    (haction : target.action? q.method = some action) (hmethod : q.method ≠ "HEAD") :
    handle server q =
      if q.declaresTooMuch then .done { status := 413, body := .text } else perform server q action := by
  have hne : segments ≠ [] := by
    rintro rfl
    cases htarget
  rw [handle, if_neg hmethod, route, hpath, ofPath?_slashed hbase h hne hfree, htarget]
  dsimp only
  rw [haction]

/-- A collection is served under the plural of its resource's name, if that is a name of ASCII letters,
digits and underscores and the base path is made of such names: a `GET` is answered by the listing of just
this resource, and a `POST` reaches its create. Only a resource of the name `health` at the root is left
out. -/
theorem every_collection_served {ds : List Schema.ResourceDeclaration}
    (hresolve : Schema.resolve ds = .ok server.interface.registry)
    (hbase : IsBase server.interface.settings.basePath) {r : Resource}
    (hr : r ∈ server.interface.registry.resources) (hname : IsName r.name)
    (hfree : server.interface.settings.basePath = "" → r.name ≠ "health")
    (hpath : q.path = (server.interface.settings.basePath ++ "/" ++ r.plural).toList)
    (hauth : isAuthorized server.interface.settings q = true) :
    resourceAt server r.plural = pure r ∧
      (q.method = "GET" → handle server q =
        if q.declaresTooMuch then .done { status := 413, body := .text }
        else orRefuse (wholeBody q) fun _ => answered (list server q r.plural (decodeForm q.query))) ∧
      (q.method = "POST" → handle server q =
        if q.declaresTooMuch then .done { status := 413, body := .text }
        else orRefuse (jsonBody q) fun body =>
          answered (create server q r.plural (decodeForm q.query) body)) := by
  obtain ⟨hplural, hfound⟩ := Schema.plural_of_resolve hresolve hr
  have hsegment : ∀ s ∈ [r.plural], IsSegment s := by
    intro s hs
    rw [List.mem_singleton.mp hs, hplural]
    exact isSegment_of_isName (Plural.isName_ofName hname)
  have hfixed : server.interface.settings.basePath = "" →
      [r.plural] ≠ ["health"] ∧ [r.plural] ≠ ["version"] := by
    intro hb
    rw [hplural]
    refine ⟨fun he => hfree hb ?_, fun he => ?_⟩
    · exact Plural.eq_health_of_ofName hname (List.cons.inj he).1
    · exact Plural.ofName_ne_version hname (List.cons.inj he).1
  have hpath : q.path = server.interface.settings.basePath.toList ++ slashed [r.plural] := by
    rw [hpath]
    simp [slashed]
  refine ⟨?_, fun hmethod => ?_, fun hmethod => ?_⟩
  · rw [resourceAt, hfound]
  · have haction : (Target.collection r.plural).action? q.method = some (.list r.plural) := by
      rw [hmethod]
      rfl
    rw [handle_slashed hbase hsegment hfixed hpath rfl haction (by rw [hmethod]; decide), perform,
      guarded_of_isSegment hauth hsegment]
    rfl
  · have haction : (Target.collection r.plural).action? q.method = some (.create r.plural) := by
      rw [hmethod]
      rfl
    rw [handle_slashed hbase hsegment hfixed hpath rfl haction (by rw [hmethod]; decide), perform,
      guarded_of_isSegment hauth hsegment]
    rfl

end

/-! ### Groups under a base path, and a collection that is hidden -/

/-- The server of groups and people under `/api/v1`. -/
def basedServer : Server :=
  { interface := { Groups.interface with settings := { basePath := "/api/v1" } } }

def getGroups : Request := ⟨"GET", "/api/v1/groups?name=ops", [], ""⟩

def postGroup : Request := ⟨"POST", "/api/v1/groups", [("content-type", "application/json")], "{}"⟩

theorem every_collection_served_groups :
    IsBase basedServer.interface.settings.basePath ∧ IsName Groups.group.name ∧
      getGroups.path = "/api/v1/groups".toList ∧ postGroup.path = "/api/v1/groups".toList ∧
      handle basedServer getGroups =
        answered (list basedServer getGroups "groups" [("name", "ops")]) ∧
      handle basedServer postGroup = answered (create basedServer postGroup "groups" [] (.object [])) := by
  have hbase : IsBase basedServer.interface.settings.basePath := ⟨["api", "v1"], by decide, rfl⟩
  have hmem : Groups.group ∈ basedServer.interface.registry.resources := by
    simp [basedServer, Groups.interface]
  have hname : IsName Groups.group.name := by decide
  have hget : getGroups.path = "/api/v1/groups".toList := by decide +kernel
  have hpost : postGroup.path = "/api/v1/groups".toList := by decide +kernel
  refine ⟨hbase, hname, hget, hpost, ?_, ?_⟩
  · obtain ⟨-, hlist, -⟩ := @every_collection_served basedServer getGroups _
      Groups.resolve_declarations hbase _ hmem hname nofun hget rfl
    have hshort : getGroups.declaresTooMuch = false ∧ getGroups.bodyTooLong = false := by decide +kernel
    have hquery : decodeForm getGroups.query = [("name", "ops")] := by decide +kernel
    rw [hlist rfl, hshort.1, hquery, wholeBody, hshort.2]
    rfl
  · obtain ⟨-, -, hcreate⟩ := @every_collection_served basedServer postGroup _
      Groups.resolve_declarations hbase _ hmem hname nofun hpost rfl
    have hshort : postGroup.declaresTooMuch = false ∧ decodeForm postGroup.query = [] := by decide +kernel
    have hbody : jsonBody postGroup = .ok (.object []) := by rfl
    rw [hcreate rfl, hshort.1, hshort.2, hbody]
    rfl

/-- A server with a resource that has the name of a fixed path. -/
def healthServer : Server where
  interface :=
    { registry := ⟨[⟨"health", "health", [{ name := "name", type := .string, unique := true }]⟩]⟩
      settings := {} }

/-- The registry is accepted, but its collection is not served: a `GET` is answered from the fixed path,
and a `POST` is refused. -/
theorem health_collection_hidden :
    Schema.resolve [("health", [("name", Groups.declared .string none true)])] =
        .ok healthServer.interface.registry ∧
      handle healthServer ⟨"GET", "/health", [], ""⟩ =
        .done { status := 200, body := .json (.object [("status", .string "ok")]) } ∧
      handle healthServer ⟨"POST", "/health", [("content-type", "application/json")], "{}"⟩ =
        .done { status := 405 } :=
  ⟨rfl, rfl, rfl⟩

end Web

end Hypermedia
