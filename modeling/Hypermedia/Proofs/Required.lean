import Hypermedia.Proofs.Origin

/-!
# Required values

A create asks for a value of every required attribute, unless a default is declared; the default stands in
for a value that was left out. Where null is supplied instead the default is not taken, although it was
counted on: that is how a required attribute gets to be null.
-/

namespace Hypermedia

open Store (Document)

/-- The attribute declares a default, and null was supplied, or nothing was and null is the default. -/
def Record.NullBesideDefault (a : Attribute) (params : Members) : Prop :=
  a.default.isSome = true ∧ Members.get? params a.name = some .null ∨
    a.default = some .null ∧ Members.get? params a.name = none

/-- A document has a value in each required attribute, which is null beside a default only. -/
def Record.RequiredFilled (r : Resource) (params : Members) (d : Document) : Prop :=
  ∀ a ∈ r.attributes, a.required = true → a.type.isChildren = false →
    ∃ v, Members.get? d a.name = some v ∧ (v = .null ↔ NullBesideDefault a params)

namespace Record

theorem point?_ne_null (v : Value) : point? v ≠ some .null := by
  cases v with
  | object ms =>
    simp only [point?]
    split <;> simp
  | _ => simp [point?, Geo.Position.toPoint]

theorem stored_eq_null_iff (type : FieldType) (v : Value) : stored type v = .null ↔ v = .null := by
  have hpoint : (point? v).getD v = .null ↔ v = .null := by
    cases hp : point? v with
    | none => rfl
    | some p =>
      have hne : p ≠ .null := fun he => point?_ne_null v (he ▸ hp)
      have hv : v ≠ .null := by
        rintro rfl
        cases hp
      simp [hne, hv]
  cases type with
  | geometry => exact hpoint
  | date => cases v <;> simp [stored]
  | _ => exact Iff.rfl

theorem initial_eq_null_iff {r : Resource} {params : Members} (hcheck : check r params false = [])
    {a : Attribute} (ha : a ∈ r.attributes) (hrequired : a.required = true)
    (hc : a.type.isChildren = false) : initial params a = .null ↔ NullBesideDefault a params := by
  have hfails : fails a (Members.get? params a.name) false = false := by
    have hnone := List.filterMap_eq_nil_iff.mp hcheck a ha
    simpa using hnone
  rw [initial, hc, if_neg (by decide), NullBesideDefault]
  cases hv : Members.get? params a.name with
  | none =>
    obtain ⟨d, hd⟩ : ∃ d, a.default = some d := by
      rw [hv] at hfails
      simpa [fails, hrequired, ← Option.isSome_iff_exists] using hfails
    simp [hd]
  | some v =>
    rw [hv] at hfails
    simp only [stored_eq_null_iff]
    cases v with
    | null => simpa [fails, hrequired, Option.isSome_iff_ne_none] using hfails
    | _ => simp

end Record

namespace Operation

open Program (Environment World run)
open Hypermedia.Filter (Request)

theorem Made.requiredFilled {i : Interface} {r : Resource} {s t : Store} {params : Members} {id : String}
    (hcheck : i.validator = Record.check) (h : Made i r params id s t) {d : Document}
    (hd : ∀ a ∈ r.attributes, a.type.isChildren = false →
      Members.get? d a.name = some (Record.initial params a)) : Record.RequiredFilled r params d := by
  have hchecked : Record.check r params false = [] := hcheck ▸ h.checked
  intro a ha hrequired hc
  exact ⟨_, hd a ha hc, Record.initial_eq_null_iff hchecked ha hrequired hc⟩

/-- In every reached store and with the declared rules as the check, each record that a create makes, of one
item or of several, has a value in every required attribute that lists no children, and the value is not
null; except that null is stored where it was supplied for an attribute with a default, and where it is
itself the default. -/
theorem required_values_filled {ds : List Schema.ResourceDeclaration} {i : Interface} {h : History}
    (hdistinct : Schema.Distinct ds) (hresolve : Schema.resolve ds = .ok i.registry)
    (hcheck : i.validator = Record.check) (hon : h.On i.registry) {r : Resource}
    (hr : r ∈ i.registry.resources) (env : Environment) (w : World)
    (hw : w.store = h.after i Store.empty) (request : Request) :
    (∀ c, (run env (createItem i r request).run w).1 = .ok c →
      Appears r c.id (Record.RequiredFilled r (request.params r.attributes)) w.store
        (run env (createItem i r request).run w).2.store) ∧
      ∀ body created, (run env (create i r body request).run w).1 = .ok created →
        ∃ items, Batch.ofBody body = .ok items ∧
          List.Forall₂ (fun item c =>
              Appears r c.id (Record.RequiredFilled r (itemParams r request item)) w.store
                (run env (create i r body request).run w).2.store)
            items.toList created.toList := by
  have hg : i.registry.Consistent := Schema.consistent_of_resolve hresolve
  have hnames := Schema.distinct_of_resolve hdistinct hresolve
  have hs : w.store.Intact i.registry := hw ▸ History.intact hg hnames hon
  constructor
  · intro c hok
    exact appears_of_createItem hg hr (hnames r hr) env hs request
      (P := fun params _ => Record.RequiredFilled r params)
      (fun _ _ _ hmade _ => hmade.requiredFilled hcheck) hok
  · intro body created hok
    exact appears_of_create hg hr (hnames r hr) env hs request
      (P := fun params _ => Record.RequiredFilled r params)
      (fun _ _ _ hmade _ => hmade.requiredFilled hcheck) hok

/-! ### Players whose rank is required -/

namespace Ranked

def declarations : List Schema.ResourceDeclaration :=
  [("player", [("name", Groups.declared .string none true),
    ("rank", { Groups.declared .string none false with
        required := true
        default := some (.string "low") })])]

def rank : Attribute := { name := "rank", type := .string, required := true, default := some (.string "low") }

def player : Resource := ⟨"player", "players", [{ name := "name", type := .string, unique := true }, rank]⟩

def interface : Interface := { registry := ⟨[player]⟩, settings := {} }

/-- One player without a rank and one with a rank of her own. -/
def body : Value :=
  .object [("items", .array [.object [("name", .string "ann")],
    .object [("name", .string "bea"), ("rank", .string "high")]])]

/-- A third player, who was there before. -/
def history : History :=
  [⟨Groups.refusing none, player, .createItem (Groups.values [("name", .string "cid")])⟩]

/-- A create in the store where the third player is. -/
def createOf (body : Value) : Except ServiceError (Batch Created) × World :=
  run (Groups.refusing none) (create interface player body (Groups.values [])).run
    { store := history.after interface Store.empty }

end Ranked

theorem required_values_filled_ranked :
    Schema.Distinct Ranked.declarations ∧
      Schema.resolve Ranked.declarations = .ok Ranked.interface.registry ∧
      (Ranked.createOf Ranked.body).1 =
        .ok (.many [⟨"ann", "/players/ann"⟩, ⟨"bea", "/players/bea"⟩]) ∧
      Ranked.history.On Ranked.interface.registry ∧
      ∀ d ∈ (Ranked.createOf Ranked.body).2.store.documents "player", Document.id? d = some "ann" →
        ∃ v, Members.get? d "rank" = some v ∧ v ≠ .null := by
  have hdistinct : Schema.Distinct Ranked.declarations := by
    simp [Schema.Distinct, Ranked.declarations]
  have hresolve : Schema.resolve Ranked.declarations = .ok Ranked.interface.registry := rfl
  have hmade : (Ranked.createOf Ranked.body).1 =
      .ok (.many [⟨"ann", "/players/ann"⟩, ⟨"bea", "/players/bea"⟩]) := rfl
  have hr : Ranked.player ∈ Ranked.interface.registry.resources := by simp [Ranked.interface]
  have hrank : Ranked.rank ∈ Ranked.player.attributes := by simp [Ranked.player]
  have hon : Ranked.history.On Ranked.interface.registry := by
    simp [History.On, Ranked.history, Ranked.interface]
  obtain ⟨-, hcreate⟩ := required_values_filled hdistinct hresolve rfl hon hr (Groups.refusing none)
    { store := Ranked.history.after Ranked.interface Store.empty } rfl (Groups.values [])
  obtain ⟨items, hbody, hall⟩ := hcreate Ranked.body _ hmade
  refine ⟨hdistinct, hresolve, hmade, hon, fun d hd hid => ?_⟩
  cases hbody
  cases hall with
  | cons hann _ =>
    obtain ⟨v, hv, hnull⟩ := hann.holds d hd hid Ranked.rank hrank rfl rfl
    have hsilent : Members.get? (itemParams Ranked.player (Groups.values []) [("name", .string "ann")])
        Ranked.rank.name = none := rfl
    refine ⟨v, hv, fun he => ?_⟩
    rcases hnull.mp he with ⟨-, hsent⟩ | ⟨hdefault, -⟩
    · rw [hsilent] at hsent
      cases hsent
    · cases hdefault

/-- The default is not taken where null was supplied: the player is created with null for a required rank. -/
theorem required_value_null :
    Schema.resolve Ranked.declarations = .ok Ranked.interface.registry ∧
      Ranked.rank ∈ Ranked.player.attributes ∧ Ranked.rank.required = true ∧
      (Ranked.createOf (.object [("name", .string "ann"), ("rank", .null)])).1 =
        .ok (.one ⟨"ann", "/players/ann"⟩) ∧
      ((Ranked.createOf (.object [("name", .string "ann"), ("rank", .null)])).2.store.documents
        "player").map (fun d => (Document.id? d, Members.get? d "rank")) =
          [(some "cid", some (.string "low")), (some "ann", some .null)] :=
  ⟨rfl, by simp [Ranked.player], rfl, rfl, rfl⟩

end Operation

end Hypermedia
