import Hypermedia.Proofs.NormalizedDates
import Hypermedia.Proofs.Wildcard
import Hypermedia.Record.Form

/-!
# Ranges of dates

A range of dates is cut at its comma, for no text that denotes a time holds one. Its bounds are trimmed and
brought into storage form, so a stored date is in the range if its instant is between theirs, all three
cut off to milliseconds.
-/

namespace Hypermedia

namespace Text

/-- Blanks within a line. -/
def Spaces (cs : List Char) : Prop := ∀ c ∈ cs, isBlank c = true ∧ c ≠ '\n'

theorem Spaces.notMem {cs : List Char} (h : Spaces cs) {c : Char} (hc : isBlank c = false) : c ∉ cs := by
  intro hm
  rw [(h c hm).1] at hc
  cases hc

end Text

namespace Time

open Text (Spaces)

/-- A text within a line that denotes an instant of a year with four digits in UTC. -/
structure Denotes (s : String) (t : Instant) : Prop where
  line : '\n' ∉ s.toList
  reads : denoted? s = some t
  first : 0 ≤ t.year
  last : t.year ≤ 9999

namespace Denotes

variable {s : String} {t : Instant} (h : Denotes s t)

include h

theorem ne_nil : s.toList ≠ [] := by
  intro hnil
  have hnone : denoted? s = none := by
    rw [denoted?, hnil]
    rfl
  cases hnone.symm.trans h.reads

theorem comma_notMem : ',' ∉ s.toList := by
  intro hm
  cases (denoted?_of_mem hm (by decide) (by decide)).symm.trans h.reads

theorem dated : t.Dated := ⟨h.first, h.last, ticked_of_denoted? h.reads⟩

theorem normalized_eq : normalized s = t.truncated.text := by
  rw [Instant.text_truncated, normalized, h.reads]

end Denotes

theorem normalized_le_iff {s s' : String} {t t' : Instant} (h : Denotes s t) (h' : Denotes s' t') :
    normalized s ≤ normalized s' ↔ t.truncated ≤ t'.truncated := by
  rw [h.normalized_eq, h'.normalized_eq]
  exact h.dated.whole_truncated.text_le_iff h'.dated.whole_truncated

end Time

namespace Filter

open Text (Spaces)
open Time (Instant Denotes normalized)

def spaced (before : List Char) (s : String) (after : List Char) : List Char := before ++ s.toList ++ after

section
variable {before after : List Char} {s : String} {t : Instant}
variable (hbefore : Spaces before) (hafter : Spaces after) (h : Denotes s t)

include hbefore hafter h

theorem notMem_spaced : '\n' ∉ spaced before s after ∧ ',' ∉ spaced before s after := by
  have hcomma : ∀ {cs}, Spaces cs → ',' ∉ cs := fun hs => hs.notMem (by decide)
  have hline : ∀ {cs}, Spaces cs → '\n' ∉ cs := fun hs hm => (hs _ hm).2 rfl
  simp only [spaced, List.mem_append, not_or]
  exact ⟨⟨⟨hline hbefore, h.line⟩, hline hafter⟩, ⟨hcomma hbefore, h.comma_notMem⟩, hcomma hafter⟩

theorem bound_spaced : bound .date (spaced before s after) = .string (normalized s) := by
  have htrim : Text.trimChars (spaced before s after) = Text.trimChars s.toList :=
    Text.trimChars_pad s.toList (fun c hc => (hbefore c hc).1) (fun c hc => (hafter c hc).1)
  have hreads : Time.denoted? (String.ofList (Text.trimChars s.toList)) = some t := by
    rw [← h.reads, Time.denoted?, String.toList_ofList, Text.trimChars_trimChars]
    rfl
  simp only [bound, htrim, normalized, hreads, h.reads]

end

/-- The text of a range: two bounds between brackets, with a comma between them. -/
def rangeText (low high : List Char) : String := String.ofList ('[' :: low ++ ',' :: high ++ [']'])

theorem predicate_rangeText {low high : List Char} (hlow : low ≠ []) (hhigh : high ≠ [])
    (hlines : '\n' ∉ low ∧ '\n' ∉ high) (hcomma : ',' ∉ high) :
    predicate .date (.string (rangeText low high)) = .range (bound .date low) (bound .date high) := by
  obtain ⟨high, last, rfl⟩ := (List.eq_nil_or_concat' high).resolve_left hhigh
  simp only [List.mem_append, List.mem_singleton, not_or] at hlines hcomma
  have hwhole : '\n' ∉ low ++ ',' :: high := by simp [hlines.1, hlines.2.1]
  have hbounds := bounds?_of_cut hlow hwhole (Ne.symm hlines.2.2) hcomma.1
  simp only [predicate, textPredicate, rangeText, String.toList_ofList, hbounds]
  rfl

/-- Whatever spaces stand around its bounds, a range of dates whose instants are of years with four digits
is always accepted. A record with a stored date of such a year meets it exactly when the date is not
before the first bound and not after the second, by instants cut off to milliseconds. -/
theorem date_ranges_select_by_instant {a b d : String} {i j k : Instant} (ha : Denotes a i)
    (hb : Denotes b j) (hd : Denotes d k) {p p' q q' : List Char} (hp : Spaces p) (hp' : Spaces p')
    (hq : Spaces q) (hq' : Spaces q') {document : Members} {field : String}
    (hfield : Members.get? document field = some (Record.stored .date (.string d))) :
    ∃ m, Condition.prepare
        [(field, predicate .date (.string (rangeText (spaced p a p') (spaced q b q'))))] = .ok m ∧
      (Matcher.accepts m document = true ↔ i.truncated ≤ k.truncated ∧ k.truncated ≤ j.truncated) := by
  have hpredicate : predicate .date (.string (rangeText (spaced p a p') (spaced q b q'))) =
      .range (.string (normalized a)) (.string (normalized b)) := by
    obtain ⟨hline, -⟩ := notMem_spaced hp hp' ha
    obtain ⟨hline', hcomma⟩ := notMem_spaced hq hq' hb
    rw [predicate_rangeText (by simp [spaced, ha.ne_nil]) (by simp [spaced, hb.ne_nil]) ⟨hline, hline'⟩
      hcomma, bound_spaced hp hp' ha, bound_spaced hq hq' hb]
  refine ⟨[(field, .range (.string (normalized a)) (.string (normalized b)))], ?_, ?_⟩
  · rw [hpredicate]
    rfl
  · have hstored : Record.stored .date (.string d) = .string (normalized d) := rfl
    rw [Matcher.accepts_cons, hfield, hstored, ← Time.normalized_le_iff ha hd, ← Time.normalized_le_iff hd hb]
    simpa [Matcher.accepts] using holds_range_normalized a b d

/-- January of 2024 from its first hour in Tokyo on, and the first moment of its last day in Greenwich, written
west of it with more digits than are kept. -/
theorem date_ranges_select_by_instant_january :
    Denotes "2024-01-01T00:00:00+09:00" ⟨1704034800, 0⟩ ∧ Denotes " 2024-1-31" ⟨1706659200, 0⟩ ∧
      Denotes "2024-01-30T15:00:00.0009-09:00" ⟨1706659200, 900000⟩ ∧
      Members.get? [("day", Record.stored .date (.string "2024-01-30T15:00:00.0009-09:00"))] "day" =
        some (Record.stored .date (.string "2024-01-30T15:00:00.0009-09:00")) ∧
      ∃ m, Condition.prepare [("day",
          predicate .date (.string "[2024-01-01T00:00:00+09:00 ,  2024-1-31]"))] = .ok m ∧
        Matcher.accepts m [("day", Record.stored .date (.string "2024-01-30T15:00:00.0009-09:00"))] =
          true := by
  have hfirst : Denotes "2024-01-01T00:00:00+09:00" ⟨1704034800, 0⟩ :=
    ⟨by decide, by decide +kernel, by decide +kernel, by decide +kernel⟩
  have hlast : Denotes " 2024-1-31" ⟨1706659200, 0⟩ :=
    ⟨by decide, by decide +kernel, by decide +kernel, by decide +kernel⟩
  have hday : Denotes "2024-01-30T15:00:00.0009-09:00" ⟨1706659200, 900000⟩ :=
    ⟨by decide, by decide +kernel, by decide +kernel, by decide +kernel⟩
  have hblank : Spaces [' '] := by simp [Spaces, Text.isBlank]
  have hnone : Spaces [] := by simp [Spaces]
  have hfield :
      Members.get? [("day", Record.stored .date (.string "2024-01-30T15:00:00.0009-09:00"))] "day" =
        some (Record.stored .date (.string "2024-01-30T15:00:00.0009-09:00")) := rfl
  obtain ⟨m, hprepare, hmeets⟩ :=
    date_ranges_select_by_instant hfirst hlast hday hnone hblank hblank hnone hfield
  exact ⟨hfirst, hlast, hday, hfield, m, hprepare, hmeets.mpr ⟨.inl (by decide), .inr ⟨rfl, by decide⟩⟩⟩

end Filter

end Hypermedia
