import Hypermedia.Proofs.Alphabet
import Hypermedia.Proofs.Values

/-!
# The storage form of dates and positions

A date is stored as a canonical timestamp where the supplied text denotes a time, and a position as a
point. Bringing a value into this form once more changes nothing, so every value that was supplied is
stored in it. A declared default is stored as it was declared.
-/

namespace Hypermedia

open Store (Document)

namespace Time

open Decimal (isDigit digitsValue tenTo)

/-! ### Instants that texts denote -/

/-- An instant of a clock: a leap second follows the last second of a minute only. -/
def Instant.Ticked (t : Instant) : Prop :=
  t.nanos < 1000000000 ∨ t.nanos < 2000000000 ∧ t.seconds % 60 = 59

theorem fractionNanos_lt {ds : List Char} (h : ∀ c ∈ ds, isDigit c = true) :
    fractionNanos ds < 1000000000 := by
  have hlength : (ds.take 9).length ≤ 9 := List.length_take_le ..
  have hvalue : digitsValue (ds.take 9) < tenTo (ds.take 9).length :=
    Decimal.digitsValue_lt fun c hc => h c (List.mem_of_mem_take hc)
  have hsplit : tenTo (ds.take 9).length * tenTo (9 - (ds.take 9).length) = 1000000000 := by
    rw [tenTo, tenTo, Nat.pow_eq, Nat.pow_eq, ← Nat.pow_add, Nat.add_sub_cancel' hlength]
  rw [fractionNanos, ← hsplit]
  exact Nat.mul_lt_mul_of_pos_right hvalue (Decimal.tenTo_pos _)

theorem fraction_lt {cs rest : List Char} {n : Nat} (h : fraction cs = some (n, rest)) :
    n < 1000000000 := by
  unfold fraction at h
  split at h
  · dsimp only at h
    split at h
    · cases h
    · cases h
      exact fractionNanos_lt fun c hc => List.all_eq_true.mp List.all_takeWhile c hc
  · cases h
    decide

theorem stamp?_nanos {cs : List Char} {s : Stamp} (h : stamp? cs = some s) : s.nanos < 1000000000 := by
  obtain ⟨_, _, -, hfraction, -⟩ := stamp?_ends h
  exact fraction_lt hfraction

theorem Stamp.ticked_instant {s : Stamp} (hnanos : s.nanos < 1000000000) : s.instant.Ticked := by
  by_cases hleap : s.second = 60
  · simp only [Instant.Ticked, Stamp.instant, if_pos hleap]
    omega
  · simp only [Instant.Ticked, Stamp.instant, if_neg hleap]
    exact .inl hnanos

theorem ticked_of_denoted? {s : String} {t : Instant} (h : denoted? s = some t) : t.Ticked := by
  rcases Option.or_eq_some_iff.mp h with h | ⟨-, h⟩
  · obtain ⟨stamp, hs, rfl⟩ := Option.map_eq_some_iff.mp h
    exact Stamp.ticked_instant (stamp?_nanos hs)
  · obtain ⟨date, -, rfl⟩ := Option.map_eq_some_iff.mp h
    exact .inl (Nat.zero_lt_succ _)

/-! ### Canonical texts once more -/

theorem trimChars_of_ends {c : Char} {cs : List Char} (hc : Text.isBlank c = false) :
    Text.trimChars (c :: cs ++ ['Z']) = c :: cs ++ ['Z'] := by
  refine Text.trimChars_eq_self ?_ ?_
  · simpa using hc
  · rw [List.getLast?_concat]
    simp [show Text.isBlank 'Z' = false by decide]

theorem padded_ne_nil (width n : Nat) : padded width n ≠ [] := by
  simp [padded, Nat.toDigits_ne_nil]

/-- The text of an instant begins with a digit where the year has four of them, else with a sign. -/
theorem Instant.exists_text (t : Instant) : ∃ c cs, t.text.toList = c :: cs ++ ['Z'] ∧
    Text.isBlank c = false ∧
      (isDigit c = false ∨ 0 ≤ (Date.ofDays (t.seconds / 86400)).year ∧
        (Date.ofDays (t.seconds / 86400)).year ≤ 9999) := by
  simp only [Instant.text, String.toList_ofList, Date.chars, yearText]
  split
  · rename_i hyear
    obtain ⟨c, cs, hcs⟩ := List.exists_cons_of_ne_nil
      (padded_ne_nil 4 (Date.ofDays (t.seconds / 86400)).year.toNat)
    have hdigit : isDigit c = true := isDigit_of_mem_padded (hcs ▸ List.mem_cons_self ..)
    rw [hcs]
    exact ⟨c, _, rfl, Text.isBlank_of_isDigit hdigit, .inr hyear⟩
  · refine ⟨_, _, rfl, ?_, .inl ?_⟩ <;> split <;> decide

theorem digitsOf_of_not_digit {c : Char} (hc : isDigit c = false) (n : Nat) (cs : List Char) :
    digitsOf (n + 1) (c :: cs) = none := by
  simp [digitsOf, hc]

theorem stamp?_of_not_digit {c : Char} (hc : isDigit c = false) (cs : List Char) :
    stamp? (c :: cs) = none := by
  rw [stamp?, digitsOf_of_not_digit hc 3]
  rfl

/-- A canonical text is canonical already: it denotes its instant in whole milliseconds, or, of a year
without four digits, nothing. -/
theorem normalized_text {t : Instant} (h : t.Ticked) : normalized t.text = t.text := by
  obtain ⟨c, cs, htext, hblank, hyear⟩ := t.exists_text
  have htrim : Text.trimChars t.text.toList = t.text.toList := by
    rw [htext]
    exact trimChars_of_ends hblank
  rcases hyear with hsign | ⟨hfirst, hlast⟩
  · have hstamp : stamp? t.text.toList = none := by
      rw [htext]
      exact stamp?_of_not_digit hsign _
    have hdate : date? t.text.toList = none := Option.eq_none_iff_forall_ne_some.mpr fun d hd => by
      have hletter := isDateChar_of_date? hd 'Z' (by simp [htext])
      exact absurd hletter (by decide)
    have hnone : denoted? t.text = none := by
      simp only [denoted?, htrim, hstamp, hdate, Option.map_none, Option.or_none]
    rw [normalized, hnone]
  · have hdated : t.Dated := ⟨hfirst, hlast, h⟩
    have hread : (stamp? t.text.toList).map Stamp.instant = some t.truncated := hdated.instant?_text
    have hsome : denoted? t.text = some t.truncated := by
      simp only [denoted?, htrim, hread, Option.some_or]
    rw [normalized, hsome]
    exact t.text_truncated

theorem normalized_normalized (s : String) : normalized (normalized s) = normalized s := by
  cases h : denoted? s with
  | none =>
    have hsame : normalized s = s := by rw [normalized, h]
    rw [hsame, hsame]
  | some t =>
    have htext : normalized s = t.text := by rw [normalized, h]
    rw [htext, normalized_text (ticked_of_denoted? h)]

end Time

/-! ### Stored values -/

namespace Record

/-- What a value is read as is a point, and a point is read as itself. -/
theorem point?_point? {v w : Value} (h : point? v = some w) : point? w = some w := by
  have hpoint : ∀ p : Geo.Position, point? p.toPoint = some p.toPoint := fun p => rfl
  cases v with
  | object ms =>
    simp only [point?] at h
    split at h
    · rename_i hms
      cases h
      exact if_pos hms
    · cases h
  | _ =>
    simp only [point?, Option.map_eq_some_iff] at h
    obtain ⟨p, -, rfl⟩ := h
    exact hpoint p

/-- The stored form of a value is in stored form. -/
theorem stored_stored (t : FieldType) (v : Value) : stored t (stored t v) = stored t v := by
  cases t with
  | date =>
    cases v with
    | string s => simp only [stored, Time.normalized_normalized]
    | _ => rfl
  | geometry =>
    simp only [stored]
    cases h : point? v with
    | none => simp only [Option.getD_none, h]
    | some w => simp only [Option.getD_some, point?_point? h]
  | _ => cases v <;> rfl

end Record

theorem Interface.Provides.stored {i : Interface} {r : Resource} {a : Attribute} {v : Value}
    (h : i.Provides r a v) (hnull : v ≠ .null) :
    Record.stored a.type v = v ∨ a.default = some v := by
  cases h with
  | missing => exact absurd rfl hnull
  | default hd => exact .inr hd
  | supplied => exact .inl (Record.stored_stored ..)

namespace Operation

/-- In every reached store, a value of a date or of a geometry is in storage form, or it is the declared
default as it stands. Where that is in storage form, so are all values. -/
theorem stored_values_in_storage_form {ds : List Schema.ResourceDeclaration} {i : Interface} {h : History}
    (hdistinct : Schema.Distinct ds) (hresolve : Schema.resolve ds = .ok i.registry)
    (hon : h.On i.registry) :
    ∀ r ∈ i.registry.resources, ∀ d ∈ (h.after i Store.empty).documents r.name,
      ∀ a ∈ r.attributes, a.type = .date ∨ a.type = .geometry →
        ∀ v, Members.get? d a.name = some v → v ≠ .null →
          (Record.stored a.type v = v ∨ a.default = some v) ∧
            ((∀ w, a.default = some w → Record.stored a.type w = w) → Record.stored a.type v = v) := by
  intro r hr d hd a ha htype v hv hnull
  have hc : a.type.isChildren = false := by
    rcases htype with ht | ht <;> rw [ht] <;> rfl
  have hprovided : i.Provides r a v := History.provided hdistinct hresolve hon r hr d hd a ha hc v hv
  have hstored := hprovided.stored hnull
  exact ⟨hstored, fun hdefault => hstored.elim id (hdefault v)⟩

end Operation

/-! ### Trips with a default day and place -/

namespace Trips

open Operation (History)

def declarations : List Schema.ResourceDeclaration :=
  [("trip", [("name", Groups.declared .string none true),
    ("day", { Groups.declared .date none false with default := some (.string "2024-1-1") }),
    ("place", { Groups.declared .geometry none false with default := some (.string "35,139") })])]

def day : Attribute := { name := "day", type := .date, default := some (.string "2024-1-1") }

def place : Attribute := { name := "place", type := .geometry, default := some (.string "35,139") }

def trip : Resource :=
  ⟨"trip", "trips", [{ name := "name", type := .string, unique := true }, day, place]⟩

def interface : Interface := { registry := ⟨[trip]⟩, settings := {} }

theorem distinct_declarations : Schema.Distinct declarations := by
  simp [Schema.Distinct, declarations]

theorem resolve_declarations : Schema.resolve declarations = .ok interface.registry := rfl

/-- A trip with a day of its own, and one with the defaults. -/
def history : History :=
  [⟨Groups.refusing none, trip,
      .createItem (Groups.values [("name", .string "a"), ("day", .string "2024-3-4")])⟩,
    ⟨Groups.refusing none, trip, .createItem (Groups.values [("name", .string "b")])⟩]

/-- The texts that the trips hold under a name. -/
def texts (name : String) : List (Option String) :=
  ((history.after interface Store.empty).documents "trip").map fun d =>
    (Members.get? d name).bind Value.string?

end Trips

theorem Operation.stored_values_in_storage_form_trips :
    Schema.Distinct Trips.declarations ∧
      Schema.resolve Trips.declarations = .ok Trips.interface.registry ∧
      Trips.history.On Trips.interface.registry ∧
      Trips.texts "day" = [some "2024-03-04T00:00:00.000Z", some "2024-1-1"] ∧
      ∀ d ∈ (Trips.history.after Trips.interface Store.empty).documents "trip",
        ∀ v, Members.get? d "day" = some v → v ≠ .null →
          Record.stored .date v = v ∨ some (.string "2024-1-1") = some v := by
  have hdistinct : Schema.Distinct Trips.declarations := by
    simp [Schema.Distinct, Trips.declarations]
  have hresolve : Schema.resolve Trips.declarations = .ok Trips.interface.registry := rfl
  have hon : Trips.history.On Trips.interface.registry := by
    simp [History.On, Trips.history, Trips.interface]
  have hmem : Trips.trip ∈ Trips.interface.registry.resources := by simp [Trips.interface]
  have hday : Trips.day ∈ Trips.trip.attributes := by simp [Trips.trip]
  refine ⟨hdistinct, hresolve, hon, by decide +kernel, fun d hd v hv hnull => ?_⟩
  have hform := stored_values_in_storage_form hdistinct hresolve hon Trips.trip hmem d hd
  exact (hform Trips.day hday (.inl rfl) v hv hnull).1

/-- A default is stored as it is declared: a day that is no timestamp yet, and a place that is no
point yet. -/
theorem Operation.defaults_keep_their_form :
    Trips.texts "day" = [some "2024-03-04T00:00:00.000Z", some "2024-1-1"] ∧
      Time.normalized "2024-1-1" = "2024-01-01T00:00:00.000Z" ∧
      Trips.texts "place" = [some "35,139", some "35,139"] ∧
      (Record.point? (.string "35,139")).isSome = true := by
  decide +kernel

end Hypermedia
