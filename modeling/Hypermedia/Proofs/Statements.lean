import Hypermedia.Proofs.Digits
import Hypermedia.Sql.Query

/-!
# What a statement says and what it is given

The text of a statement is laid out by the kinds of predicates alone. Names and values are its
parameters, and the slots of the text are the numbers of the parameters.
-/

namespace Hypermedia

namespace Filter

inductive Kind where
  | exact
  | pattern
  | numericRange
  | textRange
  | oneOf
  | near
  deriving DecidableEq

/-- A range is one of numbers when both bounds are numbers. -/
def Predicate.kind : Predicate → Kind
  | .exact _ => .exact
  | .pattern _ => .pattern
  | .range (.number _) (.number _) => .numericRange
  | .range _ _ => .textRange
  | .oneOf _ => .oneOf
  | .near _ => .near

def Condition.kinds (c : Condition) : List Kind := c.map (·.2.kind)

end Filter

namespace Sql

open Hypermedia.Filter (Predicate Condition Direction Kind)

/-- A call of one of the builders. -/
inductive Ask where
  | select (collection : String) (c : Condition) (o : Store.Options)
  | count (collection : String) (c : Condition)
  | updateFirst (collection : String) (c : Condition) (patch : Members)
  | deleteFirst (collection : String) (c : Condition)
  | upsert (collection id : String) (document : Members)
  | deleteById (collection id : String)

/-- What a statement may be laid out by. -/
inductive Form where
  | select (kinds : List Kind) (directions : List Direction) (skip : Nat) (limit : Option Nat)
  | count (kinds : List Kind)
  | updateFirst (kinds : List Kind)
  | deleteFirst (kinds : List Kind)
  | upsert
  | deleteById

namespace Ask

def statement : Ask → Except Store.Error Statement
  | select collection c o => Sql.select collection c o
  | count collection c => Sql.count collection c
  | updateFirst collection c patch => Sql.updateFirst collection c patch
  | deleteFirst collection c => Sql.deleteFirst collection c
  | upsert collection id document => .ok (Sql.upsert collection id document)
  | deleteById collection id => .ok (Sql.deleteById collection id)

def form : Ask → Form
  | select _ c o => .select c.kinds (o.sort.map (·.2)) o.skip o.limit
  | count _ c => .count c.kinds
  | updateFirst _ c _ => .updateFirst c.kinds
  | deleteFirst _ c => .deleteFirst c.kinds
  | upsert .. => .upsert
  | deleteById .. => .deleteById

end Ask

/-- The name and the point that a distance is measured from. -/
def centre (name : String) (n : Filter.Near) : List Param :=
  match n.resolve with
  | .error _ => []
  | .ok c => [.text name, .float c.lng, .float c.lat]

/-- A field, and the values it is asked for. -/
def supplied (name : String) : Predicate → List Param
  | .exact v => [.text name, .json v]
  | .pattern source => [.text name, .text source]
  | .range (.number least) (.number greatest) =>
    [.text name, .text name, .float least.toFloat, .float greatest.toFloat]
  | .range least greatest => [.text name, .text least.plainText, .text greatest.plainText]
  | .oneOf vs => [.text name, .json (.array vs)]
  | .near n =>
    match n.resolve with
    | .error _ => []
    | .ok c => [.text name, .float c.lng, .float c.lat, .float c.maxDistance]

def asked (collection : String) (c : Condition) : List Param :=
  .text collection :: c.flatMap fun (name, p) => supplied name p

def sortedBy (c : Condition) (o : Store.Options) : List Param :=
  if o.sort.isEmpty then
    match Filter.Condition.near? c with
    | none => []
    | some (name, n) => centre name n
  else o.sort.map fun (name, _) => .text name

/-- The names and values of a call, in the order of the slots. -/
def Ask.given : Ask → List Param
  | .select collection c o => asked collection c ++ sortedBy c o
  | .count collection c => asked collection c
  | .updateFirst collection c patch =>
    .json (.object patch) :: .text collection :: asked collection c
  | .deleteFirst collection c => .text collection :: asked collection c
  | .upsert collection id document => [.text collection, .text id, .json (.object document)]
  | .deleteById collection id => [.text collection, .text id]

/-- The numbers that stand after a dollar sign. -/
def placeholders : List Char → List Nat
  | [] => []
  | c :: cs =>
    if c = '$' then (Decimal.natural? (cs.takeWhile Decimal.isDigit)).toList ++ placeholders cs
    else placeholders cs

def outsideTable : List Piece → List (List Char)
  | [] => [[]]
  | .table :: ps => [] :: outsideTable ps
  | p :: ps => ((p.write "").toList ++ (outsideTable ps).headD []) :: (outsideTable ps).tail

/-- The text before, between and after the places where the name of the table stands. -/
def Statement.outside (s : Statement) : List (List Char) := outsideTable s.pieces

/-! ## Drafts -/

namespace Draft

variable {d d' e e' : Draft} {use use' : Piece → Draft} {old old' : List Nat} {xs ys : List Param}

theorem append_eq_ok {ps qs : List Param} {parts : List Piece} (h : (d ++ e) ps = .ok (parts, qs)) :
    ∃ left right mid, d ps = .ok (left, mid) ∧ e mid = .ok (right, qs) ∧ parts = left ++ right := by
  change Draft.append d e ps = _ at h
  unfold Draft.append at h
  cases hleft : d ps with
  | error => rw [hleft] at h; cases h
  | ok first =>
    obtain ⟨left, mid⟩ := first
    rw [hleft] at h
    cases hright : e mid with
    | error => simp only [hright] at h; cases h
    | ok second =>
      obtain ⟨right, last⟩ := second
      simp only [hright] at h
      cases h
      exact ⟨left, right, mid, rfl, hright, rfl⟩

theorem statement_eq_ok {s : Statement} (h : d.statement = .ok s) : d [] = .ok (s.pieces, s.params) := by
  unfold Draft.statement at h
  cases hd : d [] with
  | error => rw [hd] at h; cases h
  | ok r => rw [hd] at h; cases h; rfl

/-! ### Two drafts of one layout -/

/-- Whenever both succeed, they lay out the same parts and bind equally many values. -/
def Alike (d e : Draft) : Prop :=
  ∀ ps qs, ps.length = qs.length → ∀ parts parts' ps' qs',
    d ps = .ok (parts, ps') → e qs = .ok (parts', qs') → parts = parts' ∧ ps'.length = qs'.length

theorem Alike.pieces (parts : List Piece) : Alike (.pieces parts) (.pieces parts) := by
  intro ps qs hlen _ _ _ _ hd he
  cases hd
  cases he
  exact ⟨rfl, hlen⟩

theorem Alike.refuse_left (x : Store.Error) : Alike (.refuse x) e := fun _ _ _ _ _ _ _ hd => nomatch hd

theorem Alike.refuse_right (x : Store.Error) : Alike d (.refuse x) :=
  fun _ _ _ _ _ _ _ _ he => nomatch he

theorem Alike.append (hd : Alike d d') (he : Alike e e') : Alike (d ++ e) (d' ++ e') := by
  intro ps qs hlen parts parts' ps' qs' h h'
  obtain ⟨left, right, mid, hleft, hright, rfl⟩ := append_eq_ok h
  obtain ⟨left', right', mid', hleft', hright', rfl⟩ := append_eq_ok h'
  obtain ⟨rfl, hmid⟩ := hd ps qs hlen left left' mid mid' hleft hleft'
  obtain ⟨rfl, hlast⟩ := he mid mid' hmid right right' ps' qs' hright hright'
  exact ⟨rfl, hlast⟩

theorem Alike.bound (h : ∀ k, Alike (use k) (use' k)) (p q : Param) :
    Alike (.bound p use) (.bound q use') := by
  intro ps qs hlen parts parts' ps' qs' hd he
  have hlen' : (ps ++ [p]).length = (qs ++ [q]).length := by simp [hlen]
  simp only [Draft.bound, hlen] at hd he
  exact h _ _ _ hlen' _ _ _ _ hd he

theorem Alike.statement (h : Alike d e) {s t : Statement} (hs : d.statement = .ok s)
    (ht : e.statement = .ok t) : s.pieces = t.pieces :=
  (h [] [] rfl _ _ _ _ (statement_eq_ok hs) (statement_eq_ok ht)).1

/-! ### What a draft binds and uses -/

end Draft

/-- Text that neither has a dollar sign nor carries a number on. -/
def Piece.plain : Piece → Bool
  | .text s => !s.toList.contains '$' && (s.toList.takeWhile Decimal.isDigit).isEmpty
  | _ => true

def slots (parts : List Piece) : List Nat :=
  parts.filterMap fun
    | .slot n => some n
    | _ => none

theorem slots_append (ps qs : List Piece) : slots (ps ++ qs) = slots ps ++ slots qs :=
  List.filterMap_append

namespace Draft

variable {d e : Draft} {use : Piece → Draft} {old old' : List Nat} {xs ys : List Param}

/-- A draft that binds `xs` and uses them all, as well as the `old` slots, and no others. -/
def Binds (d : Draft) (old : List Nat) (xs : List Param) : Prop :=
  ∀ ps parts qs, d ps = .ok (parts, qs) →
    qs = ps ++ xs ∧ (∀ p ∈ parts, p.plain) ∧
      ∀ n, n ∈ slots parts ↔ n ∈ old ∨ ps.length < n ∧ n ≤ ps.length + xs.length

theorem Binds.congr (h : Binds d old xs) (hold : ∀ n, n ∈ old ↔ n ∈ old') : Binds d old' xs := by
  intro ps parts qs hd
  obtain ⟨hqs, hplain, hslots⟩ := h ps parts qs hd
  exact ⟨hqs, hplain, fun n => by rw [hslots n, hold n]⟩

theorem binds_pieces {parts : List Piece} (h : parts.all Piece.plain) :
    Binds (.pieces parts) (slots parts) [] := by
  intro ps _ _ hd
  cases hd
  refine ⟨(List.append_nil ps).symm, List.all_eq_true.mp h, fun n => ?_⟩
  have : ¬ (ps.length < n ∧ n ≤ ps.length + ([] : List Param).length) := by
    rw [List.length_nil]
    omega
  exact (or_iff_left this).symm

theorem Binds.append (hd : Binds d old xs) (he : Binds e old' ys) :
    Binds (d ++ e) (old ++ old') (xs ++ ys) := by
  intro ps parts qs h
  obtain ⟨left, right, mid, hleft, hright, rfl⟩ := append_eq_ok h
  obtain ⟨rfl, hplain, hslots⟩ := hd ps left mid hleft
  obtain ⟨rfl, hplain', hslots'⟩ := he (ps ++ xs) right qs hright
  refine ⟨List.append_assoc .., fun p hp => ?_, fun n => ?_⟩
  · exact (List.mem_append.mp hp).elim (hplain p) (hplain' p)
  -- The slots that the second draft binds go on where those of the first one end.
  · rw [slots_append, List.mem_append, hslots n, hslots' n, List.mem_append, List.length_append,
      List.length_append]
    grind

theorem Binds.after_words {parts : List Piece} (h : Binds d old xs) (hplain : parts.all Piece.plain)
    (hslots : slots parts = []) : Binds (.pieces parts ++ d) old xs := by
  have hwords := (binds_pieces hplain).append h
  rwa [hslots, List.nil_append, List.nil_append] at hwords

theorem Binds.before_words {parts : List Piece} (h : Binds d old xs) (hplain : parts.all Piece.plain)
    (hslots : slots parts = []) : Binds (d ++ .pieces parts) old xs := by
  have hwords := h.append (binds_pieces hplain)
  rwa [hslots, List.append_nil, List.append_nil] at hwords

theorem binds_refuse (x : Store.Error) : Binds (.refuse x) old xs := fun _ _ _ hd => nomatch hd

theorem Binds.append_new {x : Param} (hd : Binds d [] [x]) (he : Binds e [] ys) :
    Binds (d ++ e) [] (x :: ys) := hd.append he

theorem binds_bound {p : Param} (h : ∀ n, Binds (use (.slot n)) (n :: old) xs) :
    Binds (.bound p use) old (p :: xs) := by
  intro ps parts qs hd
  -- The new slot is old for what uses it.
  obtain ⟨rfl, hplain, hslots⟩ := h _ _ _ _ hd
  refine ⟨List.append_assoc .., hplain, fun n => ?_⟩
  rw [hslots n, List.mem_cons, List.length_append, List.length_singleton, List.length_cons]
  grind

end Draft

/-! ## The builders -/

/-- The key of an order that nobody asked for. -/
def nearest (c : Condition) : Draft :=
  match Filter.Condition.near? c with
  | none => .pieces []
  | some (name, n) =>
    match n.resolve with
    | .error e => .refuse e
    | .ok circle => distance name circle fun ps => .pieces (ps ++ [.text ", "])

theorem ordered_nil (c : Condition) :
    ordered c [] = .text " ORDER BY " ++ nearest c ++ .text "seq" := rfl

theorem ordered_cons (c : Condition) (x : String × Direction) (ks : List (String × Direction)) :
    ordered c (x :: ks) = .text " ORDER BY " ++ orderKeys (x :: ks) ++ .text "seq" := rfl

theorem predicate_texts (name : String) {least greatest : Value}
    (h : ∀ a b, least = .number a → greatest = .number b → False) :
    predicate name (.range least greatest) =
      .bound (.text name) fun key =>
        .bound (.text least.plainText) fun lo => .bound (.text greatest.plainText) fun hi =>
          .pieces (fieldText key ++ [.text " BETWEEN ", lo, .text " AND ", hi]) := by
  cases least <;> cases greatest <;> first | rfl | exact (h _ _ rfl rfl).elim

open Draft (Alike Binds binds_pieces binds_bound binds_refuse)

/-! ### Their layout -/

theorem distance_alike {use use' : List Piece → Draft} (h : ∀ parts, Alike (use parts) (use' parts))
    (a b : String) (c c' : Filter.Circle) : Alike (distance a c use) (distance b c' use') :=
  .bound (fun _ => .bound (fun _ => .bound (fun _ => h _) _ _) _ _) _ _

theorem predicate_alike (a b : String) {p q : Predicate} (h : p.kind = q.kind) :
    Alike (predicate a p) (predicate b q) := by
  revert h
  -- Of all pairs of cases, those of one kind are left.
  fun_cases Predicate.kind p <;> fun_cases Predicate.kind q <;> intro h <;> try cases h
  · rw [predicate, predicate]
    exact .bound (fun _ => .bound (fun _ => .pieces _) _ _) _ _
  · rw [predicate, predicate]
    exact .bound (fun _ => .bound (fun _ => .pieces _) _ _) _ _
  · rw [predicate, predicate]
    dsimp only [Value.float?]
    exact .bound (fun _ => .bound (fun _ => .bound (fun _ => .bound (fun _ => .pieces _) _ _) _ _) _ _) _ _
  · rename_i hp _ _ hq
    rw [predicate_texts a hp, predicate_texts b hq]
    exact .bound (fun _ => .bound (fun _ => .bound (fun _ => .pieces _) _ _) _ _) _ _
  · rw [predicate, predicate]
    exact .bound (fun _ => .bound (fun _ => .pieces _) _ _) _ _
  · rename_i n m
    rw [predicate, predicate]
    cases n.resolve with
    | error => exact .refuse_left _
    | ok c =>
      cases m.resolve with
      | error => exact .refuse_right _
      | ok c' => exact distance_alike (fun _ => .bound (fun _ => .pieces _) _ _) a b c c'

theorem predicates_alike {c c' : Condition} (h : c.kinds = c'.kinds) :
    Alike (predicates c) (predicates c') := by
  induction c generalizing c' with
  | nil =>
    obtain rfl : c' = [] := List.map_eq_nil_iff.mp h.symm
    exact .pieces _
  | cons x c ih =>
    cases c' with
    | nil => cases h
    | cons y c' =>
      obtain ⟨hhead, htail⟩ := List.cons.inj h
      exact ((Alike.pieces _).append (predicate_alike x.1 y.1 hhead)).append (ih htail)

theorem matching_alike (a b : String) {c c' : Condition} (h : c.kinds = c'.kinds) :
    Alike (matching a c) (matching b c') :=
  .append (.bound (fun _ => .pieces _) _ _) (predicates_alike h)

theorem firstId_alike (a b : String) {c c' : Condition} (h : c.kinds = c'.kinds) :
    Alike (firstId a c) (firstId b c') :=
  .append (.append (.pieces _) (matching_alike a b h)) (.pieces _)

theorem orderKeys_alike {ks ks' : List (String × Direction)} (h : ks.map (·.2) = ks'.map (·.2)) :
    Alike (orderKeys ks) (orderKeys ks') := by
  induction ks generalizing ks' with
  | nil =>
    obtain rfl : ks' = [] := List.map_eq_nil_iff.mp h.symm
    exact .pieces _
  | cons x ks ih =>
    cases ks' with
    | nil => cases h
    | cons y ks' =>
      obtain ⟨hhead, htail⟩ := List.cons.inj h
      obtain ⟨name, direction⟩ := x
      obtain ⟨name', direction'⟩ := y
      obtain rfl : direction = direction' := hhead
      exact .append (.bound (fun _ => .pieces _) _ _) (ih htail)

theorem isSome_near? (c : Condition) :
    (Filter.Condition.near? c).isSome = decide (Kind.near ∈ c.kinds) := by
  induction c with
  | nil => rfl
  | cons x c ih =>
    obtain ⟨name, p⟩ := x
    have hkinds : Filter.Condition.kinds ((name, p) :: c) = p.kind :: Filter.Condition.kinds c := rfl
    fun_cases Predicate.kind p <;> simp [hkinds, Filter.Condition.near?, Predicate.kind, ih]

theorem nearest_alike {c c' : Condition} (h : c.kinds = c'.kinds) : Alike (nearest c) (nearest c') := by
  have hsome : (Filter.Condition.near? c).isSome = (Filter.Condition.near? c').isSome := by
    rw [isSome_near?, isSome_near?, h]
  rw [nearest, nearest]
  cases hc : Filter.Condition.near? c <;> cases hc' : Filter.Condition.near? c' <;>
    rw [hc, hc'] at hsome <;> try cases hsome
  · exact .pieces _
  · rename_i x y
    dsimp only
    cases x.2.resolve with
    | error => exact .refuse_left _
    | ok =>
      cases y.2.resolve with
      | error => exact .refuse_right _
      | ok => exact distance_alike (fun _ => .pieces _) _ _ _ _

theorem ordered_alike {c c' : Condition} (h : c.kinds = c'.kinds) {ks ks' : List (String × Direction)}
    (hks : ks.map (·.2) = ks'.map (·.2)) : Alike (ordered c ks) (ordered c' ks') := by
  cases ks with
  | nil =>
    obtain rfl : ks' = [] := List.map_eq_nil_iff.mp hks.symm
    rw [ordered_nil, ordered_nil]
    exact .append (.append (.pieces _) (nearest_alike h)) (.pieces _)
  | cons x ks =>
    cases ks' with
    | nil => cases hks
    | cons y ks' =>
      rw [ordered_cons, ordered_cons]
      exact .append (.append (.pieces _) (orderKeys_alike hks)) (.pieces _)

theorem pieces_eq_of_form {a b : Ask} {s t : Statement} (ha : a.statement = .ok s)
    (hb : b.statement = .ok t) (h : a.form = b.form) : s.pieces = t.pieces := by
  cases a with
  | select collection c o =>
    cases b <;> try cases h
    rename_i collection' c' o'
    simp only [Ask.form, Form.select.injEq] at h
    obtain ⟨hkinds, hsort, hskip, hlimit⟩ := h
    refine Alike.statement (.append (.append (.append (.pieces _) (matching_alike _ _ hkinds))
      (ordered_alike hkinds hsort)) ?_) ha hb
    rw [window, window, hskip, hlimit]
    exact .pieces _
  | count collection c =>
    cases b <;> try cases h
    rename_i collection' c'
    exact Alike.statement (.append (.pieces _) (matching_alike _ _ (Form.count.inj h))) ha hb
  | updateFirst collection c patch =>
    cases b <;> try cases h
    rename_i collection' c' patch'
    have hid := firstId_alike collection collection' (Form.updateFirst.inj h)
    exact Alike.statement (.bound (fun _ => .bound (fun _ =>
      .append (.append (.pieces _) hid) (.pieces _)) _ _) _ _) ha hb
  | deleteFirst collection c =>
    cases b <;> try cases h
    rename_i collection' c'
    have hid := firstId_alike collection collection' (Form.deleteFirst.inj h)
    exact Alike.statement (.bound (fun _ => .append (.append (.pieces _) hid) (.pieces _)) _ _) ha hb
  | upsert collection id document =>
    cases b <;> cases h
    cases ha
    cases hb
    rfl
  | deleteById collection id =>
    cases b <;> cases h
    cases ha
    cases hb
    rfl

/-! ### Their parameters -/

theorem distance_binds {use : List Piece → Draft} {xs : List Param}
    (h : ∀ parts, parts.all Piece.plain → Binds (use parts) (slots parts) xs) (name : String)
    (c : Filter.Circle) :
    Binds (distance name c use) [] (.text name :: .float c.lng :: .float c.lat :: xs) := by
  refine binds_bound fun key => binds_bound fun lng => binds_bound fun lat =>
    (h _ (by rfl)).congr fun n => ?_
  show n ∈ [key, lat, lat, key, key, lng] ↔ n ∈ [lat, lng, key]
  grind

theorem nearest_binds (c : Condition) : Binds (nearest c) [] (match Filter.Condition.near? c with
    | none => []
    | some (name, n) => centre name n) := by
  rw [nearest]
  cases Filter.Condition.near? c with
  | none => exact binds_pieces rfl
  | some x =>
    dsimp only [centre]
    cases x.2.resolve with
    | error => exact binds_refuse _
    | ok circle =>
      refine distance_binds (fun parts hparts => ?_) x.1 circle
      refine (binds_pieces ?_).congr fun n => ?_
      · rw [List.all_append, hparts]
        rfl
      · rw [slots_append]
        exact iff_of_eq (congrArg (n ∈ ·) (List.append_nil _))

theorem predicate_binds (name : String) (p : Predicate) :
    Binds (predicate name p) [] (supplied name p) := by
  fun_cases supplied name p with
  | case1 v =>
    rw [predicate]
    refine binds_bound fun key => binds_bound fun slot => (binds_pieces (by rfl)).congr fun n => ?_
    show n ∈ [key, slot, key, key, slot] ↔ n ∈ [slot, key]
    grind
  | case2 source =>
    rw [predicate]
    refine binds_bound fun key => binds_bound fun slot => (binds_pieces (by rfl)).congr fun n => ?_
    show n ∈ [key, slot] ↔ n ∈ [slot, key]
    grind
  | case3 least greatest =>
    rw [predicate]
    dsimp only [Value.float?]
    refine binds_bound fun key => binds_bound fun key' => binds_bound fun lo => binds_bound fun hi =>
      (binds_pieces (by rfl)).congr fun n => ?_
    show n ∈ [key, key', lo, hi] ↔ n ∈ [hi, lo, key', key]
    grind
  | case4 least greatest h =>
    rw [predicate_texts name h]
    refine binds_bound fun key => binds_bound fun lo => binds_bound fun hi =>
      (binds_pieces (by rfl)).congr fun n => ?_
    show n ∈ [key, lo, hi] ↔ n ∈ [hi, lo, key]
    grind
  | case5 vs =>
    rw [predicate]
    exact binds_bound fun key => binds_bound fun slot => binds_pieces (by rfl)
  | case6 n x h =>
    rw [predicate, h]
    exact binds_refuse _
  | case7 n c h =>
    rw [predicate, h]
    refine distance_binds (fun parts hparts => binds_bound fun slot => ?_) name c
    refine (binds_pieces ?_).congr fun n => ?_
    · rw [List.all_append, hparts]
      rfl
    · show n ∈ slots (parts ++ [.text " <= ", .slot slot, .text "::float8"]) ↔ n ∈ [slot] ++ slots parts
      rw [slots_append, List.mem_append, List.mem_append, or_comm]
      rfl

theorem predicates_binds (c : Condition) :
    Binds (predicates c) [] (c.flatMap fun (name, p) => supplied name p) := by
  induction c with
  | nil => exact binds_pieces rfl
  | cons x c ih => exact ((predicate_binds x.1 x.2).after_words rfl rfl).append ih

theorem matching_binds (collection : String) (c : Condition) :
    Binds (matching collection c) [] (asked collection c) := by
  refine .append_new (binds_bound fun slot => ?_) (predicates_binds c)
  exact binds_pieces (by rfl)

theorem firstId_binds (collection : String) (c : Condition) :
    Binds (firstId collection c) [] (asked collection c) :=
  ((matching_binds collection c).after_words rfl rfl).before_words rfl rfl

theorem orderKeys_binds (ks : List (String × Direction)) :
    Binds (orderKeys ks) [] (ks.map fun (name, _) => .text name) := by
  induction ks with
  | nil => exact binds_pieces rfl
  | cons x ks ih =>
    obtain ⟨name, direction⟩ := x
    refine .append_new (binds_bound fun key => ?_) ih
    cases direction <;> exact binds_pieces (by rfl)

theorem ordered_binds (c : Condition) (o : Store.Options) :
    Binds (ordered c o.sort) [] (sortedBy c o) := by
  rw [sortedBy]
  cases o.sort with
  | nil => exact ((nearest_binds c).after_words rfl rfl).before_words rfl rfl
  | cons x ks => exact ((orderKeys_binds (x :: ks)).after_words rfl rfl).before_words rfl rfl

theorem plain_text {s : String} : (Piece.text s).plain ↔
    '$' ∉ s.toList ∧ s.toList.takeWhile Decimal.isDigit = [] := by
  simp [Piece.plain]

theorem takeWhile_append_nil {as bs : List Char} (ha : as.takeWhile Decimal.isDigit = [])
    (hb : bs.takeWhile Decimal.isDigit = []) : (as ++ bs).takeWhile Decimal.isDigit = [] := by
  rw [List.takeWhile_append, ha, hb, List.append_nil]
  split
  · rename_i hlen
    exact List.length_eq_zero_iff.mp hlen.symm
  · rfl

theorem plain_append {s t : String} (hs : (Piece.text s).plain) (ht : (Piece.text t).plain) :
    (Piece.text (s ++ t)).plain := by
  rw [plain_text] at hs ht ⊢
  rw [String.toList_append]
  exact ⟨fun h => (List.mem_append.mp h).elim hs.1 ht.1, takeWhile_append_nil hs.2 ht.2⟩

theorem dollar_not_mem_toDigits (n : Nat) : '$' ∉ Nat.toDigits 10 n := fun h =>
  absurd (Decimal.isDigit_of_mem_toDigits h) (by decide)

theorem toList_toString (n : Nat) : (toString n).toList = Nat.toDigits 10 n := Nat.toList_repr

theorem plain_append_number {s : String} (hs : (Piece.text s).plain)
    (hne : s ≠ "") (n : Nat) : (Piece.text (s ++ toString n)).plain := by
  rw [plain_text] at hs ⊢
  rw [String.toList_append, toList_toString]
  refine ⟨fun h => (List.mem_append.mp h).elim hs.1 (dollar_not_mem_toDigits n), ?_⟩
  have hlen : ¬ ([] : List Char).length = s.toList.length := by
    intro h
    exact hne (String.toList_eq_nil_iff.mp (List.length_eq_zero_iff.mp h.symm))
  rw [List.takeWhile_append, hs.2, if_neg hlen]

theorem window_binds (o : Store.Options) : Binds (window o) [] [] := by
  rw [window]
  refine binds_pieces (List.all_eq_true.mpr fun p hp => ?_)
  rw [List.mem_singleton.mp hp]
  refine plain_append ?_ ?_
  · cases o.limit with
    | none => rfl
    | some n => exact plain_append_number rfl (by decide) n
  · split
    · exact plain_append_number rfl (by decide) o.skip
    · rfl

/-! ### Their statements -/

/-- The parameters are `xs`, and the parts use each of them and nothing else. -/
structure Statement.Carries (s : Statement) (xs : List Param) : Prop where
  params : s.params = xs
  plain : ∀ p ∈ s.pieces, p.plain
  slots : ∀ n, n ∈ slots s.pieces ↔ 0 < n ∧ n ≤ xs.length

theorem Draft.Binds.carries {d : Draft} {xs : List Param} (h : Binds d [] xs) {s : Statement}
    (hs : d.statement = .ok s) : s.Carries xs := by
  obtain ⟨hparams, hplain, hslots⟩ := h [] _ _ (Draft.statement_eq_ok hs)
  refine ⟨hparams, hplain, fun n => (hslots n).trans ?_⟩
  rw [List.length_nil, Nat.zero_add]
  exact or_iff_right (List.not_mem_nil)

theorem select_binds (collection : String) (c : Condition) (o : Store.Options) :
    Binds (.pieces [.text "SELECT doc FROM ", .table] ++ matching collection c ++ ordered c o.sort ++
      window o) [] (asked collection c ++ sortedBy c o) := by
  have hwhere : Binds (.pieces [.text "SELECT doc FROM ", .table] ++ matching collection c) []
      (asked collection c) := (matching_binds collection c).after_words rfl rfl
  have hall := (hwhere.append (ordered_binds c o)).append (window_binds o)
  simpa only [List.append_nil] using hall

theorem carries_of_statement {a : Ask} {s : Statement} (h : a.statement = .ok s) : s.Carries a.given := by
  cases a with
  | select collection c o => exact (select_binds collection c o).carries h
  | count collection c => exact Draft.Binds.carries ((matching_binds collection c).after_words rfl rfl) h
  | updateFirst collection c patch =>
    refine Draft.Binds.carries (binds_bound fun p => binds_bound fun slot => ?_) h
    refine Draft.Binds.before_words (.congr ((binds_pieces (by rfl)).append (firstId_binds collection c))
      fun n => ?_) rfl rfl
    show n ∈ [p, slot] ++ [] ↔ n ∈ [slot, p]
    grind
  | deleteFirst collection c =>
    refine Draft.Binds.carries (binds_bound fun slot => ?_) h
    exact Draft.Binds.before_words ((binds_pieces (by rfl)).append (firstId_binds collection c)) rfl rfl
  | upsert collection id document =>
    cases h
    refine ⟨rfl, List.all_eq_true.mp (by rfl), fun n => ?_⟩
    show n ∈ [1, 2, 3] ↔ 0 < n ∧ n ≤ 3
    grind
  | deleteById collection id =>
    cases h
    refine ⟨rfl, List.all_eq_true.mp (by rfl), fun n => ?_⟩
    show n ∈ [1, 2] ↔ 0 < n ∧ n ≤ 2
    grind

/-! ## The text -/

theorem placeholders_append {cs : List Char} (h : '$' ∉ cs) (rest : List Char) :
    placeholders (cs ++ rest) = placeholders rest := by
  induction cs with
  | nil => rfl
  | cons c cs ih =>
    rw [List.mem_cons, not_or] at h
    rw [List.cons_append, placeholders, if_neg (Ne.symm h.1), ih h.2]

theorem placeholders_slot (n : Nat) {rest : List Char} (h : rest.takeWhile Decimal.isDigit = []) :
    placeholders (((Piece.slot n).write "").toList ++ rest) = n :: placeholders rest := by
  have hwrite : ((Piece.slot n).write "").toList = '$' :: Nat.toDigits 10 n := by
    rw [Piece.write, String.toList_append, toList_toString]
    rfl
  have hdigits : (Nat.toDigits 10 n ++ rest).takeWhile Decimal.isDigit = Nat.toDigits 10 n := by
    rw [List.takeWhile_append_of_pos fun c hc => Decimal.isDigit_of_mem_toDigits hc, h, List.append_nil]
  rw [hwrite, List.cons_append, placeholders, if_pos rfl, hdigits, Decimal.natural?_toDigits,
    placeholders_append (dollar_not_mem_toDigits n)]
  rfl

theorem outsideTable_eq_cons (parts : List Piece) :
    outsideTable parts = (outsideTable parts).headD [] :: (outsideTable parts).tail := by
  fun_cases outsideTable parts <;> rfl

/-- No part of a text carries on a number that ends right before it. -/
theorem takeWhile_outsideTable {parts : List Piece} (h : ∀ p ∈ parts, p.plain) :
    ((outsideTable parts).headD []).takeWhile Decimal.isDigit = [] := by
  fun_induction outsideTable parts with
  | case1 => rfl
  | case2 parts ih => rfl
  | case3 p parts hp ih =>
    rw [List.headD_cons]
    refine takeWhile_append_nil ?_ (ih fun q hq => h q (List.mem_cons_of_mem p hq))
    cases p with
    | text s => exact (plain_text.mp (h _ (List.mem_cons_self ..))).2
    | table => exact (hp rfl).elim
    | slot n =>
      rw [Piece.write, String.toList_append]
      rfl

theorem placeholders_outsideTable {parts : List Piece} (h : ∀ p ∈ parts, p.plain) :
    (outsideTable parts).flatMap placeholders = slots parts := by
  fun_induction outsideTable parts with
  | case1 => rfl
  | case2 parts ih => exact ih fun q hq => h q (List.mem_cons_of_mem _ hq)
  | case3 p parts hp ih =>
    have hparts : ∀ q ∈ parts, q.plain := fun q hq => h q (List.mem_cons_of_mem p hq)
    have hhead := takeWhile_outsideTable hparts
    have ih := ih hparts
    rw [outsideTable_eq_cons, List.flatMap_cons] at ih
    rw [List.flatMap_cons]
    -- A slot is read with its own digits only, since no digit follows.
    cases p with
    | text s =>
      rw [Piece.write, placeholders_append (plain_text.mp (h _ (List.mem_cons_self ..))).1, ih]
      rfl
    | table => exact (hp rfl).elim
    | slot n =>
      rw [placeholders_slot n hhead, List.cons_append, ih]
      rfl

theorem intercalate_append_cons (sep as bs : List Char) (rest : List (List Char)) :
    sep.intercalate ((as ++ bs) :: rest) = as ++ sep.intercalate (bs :: rest) := by
  cases rest with
  | nil => rw [List.intercalate_singleton, List.intercalate_singleton]
  | cons c rest =>
    rw [List.intercalate_cons_cons, List.intercalate_cons_cons, List.append_assoc, List.append_assoc,
      List.append_assoc]

theorem toList_sql (s : Statement) (table : String) :
    (s.sql table).toList = table.toList.intercalate s.outside := by
  rw [Statement.sql, Statement.outside, String.toList_join, List.flatMap_map]
  fun_induction outsideTable s.pieces with
  | case1 => rfl
  | case2 parts ih =>
    rw [outsideTable_eq_cons, List.intercalate_cons_cons, ← outsideTable_eq_cons, ← ih]
    rfl
  | case3 p parts hp ih =>
    have hwrite : p.write table = p.write "" := by
      cases p with
      | table => exact (hp rfl).elim
      | text => rfl
      | slot => rfl
    rw [List.flatMap_cons, hwrite, ih, intercalate_append_cons, ← outsideTable_eq_cons]

/-- The text of a statement depends on what kind of thing is asked, whatever the names and values are;
these are its parameters, and outside the name of the table it refers to each of them and to nothing
else. -/
theorem text_carries_no_data (a b : Ask) (s : Statement) (ha : a.statement = .ok s) :
    (∀ t, b.statement = .ok t → a.form = b.form → ∀ table, s.sql table = t.sql table) ∧
    s.params = a.given ∧
    (∀ table, (s.sql table).toList = table.toList.intercalate s.outside) ∧
    ∀ n, n ∈ s.outside.flatMap placeholders ↔ 0 < n ∧ n ≤ s.params.length := by
  obtain ⟨hparams, hplain, hslots⟩ := carries_of_statement ha
  refine ⟨fun t hb hform table => ?_, hparams, toList_sql s, fun n => ?_⟩
  · rw [Statement.sql, Statement.sql, pieces_eq_of_form ha hb hform]
  · rw [Statement.outside, placeholders_outsideTable hplain, hslots n, hparams]

/-- People near a place by name and age, and groups near another by a hostile title and size. -/
theorem text_carries_no_data_places :
    let a : Ask := .select "person" [("name", .pattern "^A"), ("age", .range (.nat 1) (.nat 9)),
      ("home", .near ⟨"1.5", "2", "300"⟩)] ⟨none, 5, some 10, []⟩
    let b : Ask := .select "group" [("title' --", .pattern "$7"), ("size", .range (.nat 0) (.nat 2)),
      ("place", .near ⟨"40", "-3", "1"⟩)] ⟨none, 5, some 10, []⟩
    ∃ s t, a.statement = .ok s ∧ b.statement = .ok t ∧ a.form = b.form ∧
      (∀ table, s.sql table = t.sql table) ∧ s.params = a.given ∧
      ∀ n, n ∈ s.outside.flatMap placeholders ↔ 0 < n ∧ n ≤ s.params.length := by
  intro a b
  obtain ⟨s, hs⟩ : ∃ s, a.statement = .ok s := ⟨_, rfl⟩
  obtain ⟨t, ht⟩ : ∃ t, b.statement = .ok t := ⟨_, rfl⟩
  obtain ⟨htext, hparams, -, hslots⟩ := text_carries_no_data a b s hs
  exact ⟨s, t, hs, ht, rfl, htext t ht rfl, hparams, hslots⟩

end Sql

end Hypermedia
