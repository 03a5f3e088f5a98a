import Hypermedia.Json.Reader
import Hypermedia.Proofs.Members

/-!
# Values with names that stand once

An object that was read from a text has each of its names once, whatever the text repeats: a repeated member
takes the place of the first. So have all objects inside.
-/

namespace Hypermedia

/-- Each object in the value has each of its names once. -/
inductive Value.Proper : Value → Prop where
  | null : Proper .null
  | bool (b : Bool) : Proper (.bool b)
  | number (n : Number) : Proper (.number n)
  | string (s : String) : Proper (.string s)
  | array {xs : List Value} (items : ∀ x ∈ xs, Proper x) : Proper (.array xs)
  | object {ms : Members} (names : (Members.keys ms).Nodup) (values : ∀ m ∈ ms, Proper m.2) :
    Proper (.object ms)

theorem Members.mem_set {ms : Members} {a : String} {v : Value} {m : String × Value} (h : m ∈ set ms a v) :
    m ∈ ms ∨ m = (a, v) := by
  induction ms with
  | nil => exact .inr (List.mem_singleton.mp h)
  | cons n ms ih =>
    obtain ⟨k, w⟩ := n
    unfold set at h
    split at h
    · exact (List.mem_cons.mp h).symm.imp_left (List.mem_cons_of_mem _)
    · rcases List.mem_cons.mp h with rfl | h
      · exact .inl (List.mem_cons_self ..)
      · exact (ih h).imp_left (List.mem_cons_of_mem _)

theorem Value.proper_empty : Proper (.object []) := .object List.nodup_nil nofun

theorem Value.Proper.set {ms : Members} {v : Value} (h : Proper (.object ms)) (a : String) (hv : Proper v) :
    Proper (.object (Members.set ms a v)) := by
  cases h with
  | object names values =>
    refine .object (Members.nodup_keys_set a v names) fun m hm => ?_
    rcases Members.mem_set hm with hm | rfl
    · exact values m hm
    · exact hv

namespace Json

/-- What is read with so much fuel is proper, where the parts read before are. -/
structure ReadsProper (fuel : Nat) : Prop where
  value : ∀ depth cs v rest, readValue fuel depth cs = some (v, rest) → v.Proper
  items : ∀ depth done cs xs rest, (∀ x ∈ done, Value.Proper x) →
    readItems fuel depth done cs = some (xs, rest) → ∀ x ∈ xs, Value.Proper x
  members : ∀ depth done cs ms rest, Value.Proper (.object done) →
    readMembers fuel depth done cs = some (ms, rest) → Value.Proper (.object ms)

section
variable {fuel depth : Nat} {cs rest : List Char}

theorem ReadsProper.value_succ (hreads : ReadsProper fuel) {v : Value}
    (h : readValue (fuel + 1) depth cs = some (v, rest)) : v.Proper := by
  unfold readValue at h
  split at h
  · cases h
    exact .null
  · cases h
    exact .bool true
  · cases h
    exact .bool false
  · obtain ⟨⟨text, _⟩, -, he⟩ := Option.map_eq_some_iff.mp h
    cases he
    exact .string text
  · split at h
    · cases h
    split at h
    · cases h
      exact .array nofun
    · obtain ⟨⟨xs, _⟩, hxs, he⟩ := Option.map_eq_some_iff.mp h
      cases he
      exact .array (hreads.items _ [] _ _ _ nofun hxs)
  · split at h
    · split at h
      · cases h
      split at h
      · cases h
      split at h
      · cases h
        exact Value.proper_empty
      · obtain ⟨⟨ms, _⟩, hms, he⟩ := Option.map_eq_some_iff.mp h
        cases he
        exact hreads.members _ [] _ _ _ Value.proper_empty hms
    · obtain ⟨⟨n, _⟩, -, he⟩ := Option.map_eq_some_iff.mp h
      cases he
      exact .number n
  · cases h

theorem ReadsProper.items_succ (hreads : ReadsProper fuel) {done xs : List Value}
    (hdone : ∀ x ∈ done, Value.Proper x) (h : readItems (fuel + 1) depth done cs = some (xs, rest)) :
    ∀ x ∈ xs, Value.Proper x := by
  unfold readItems at h
  split at h
  · cases h
  rename_i v _ hv
  have hall : ∀ x ∈ v :: done, Value.Proper x :=
    List.forall_mem_cons.mpr ⟨hreads.value _ _ _ _ hv, hdone⟩
  split at h
  · exact hreads.items _ _ _ _ _ hall h
  · cases h
    exact fun x hx => hall x (List.mem_reverse.mp hx)
  · cases h

theorem ReadsProper.members_succ (hreads : ReadsProper fuel) {done ms : Members}
    (hdone : Value.Proper (.object done)) (h : readMembers (fuel + 1) depth done cs = some (ms, rest)) :
    Value.Proper (.object ms) := by
  unfold readMembers at h
  split at h
  · split at h
    · cases h
    rename_i key _ _
    split at h
    · split at h
      · cases h
      rename_i v _ hv
      have hset : Value.Proper (.object (Members.set done key v)) :=
        hdone.set key (hreads.value _ _ _ _ hv)
      split at h
      · exact hreads.members _ _ _ _ _ hset h
      · split at h
        · cases h
          exact hset
        · cases h
      · cases h
    · cases h
  · cases h

end

theorem readsProper (fuel : Nat) : ReadsProper fuel := by
  induction fuel with
  | zero => exact ⟨nofun, nofun, nofun⟩
  | succ fuel ih =>
    exact ⟨fun _ _ _ _ => ih.value_succ, fun _ _ _ _ _ => ih.items_succ, fun _ _ _ _ _ => ih.members_succ⟩

/-- A text gives a proper value, whatever it repeats. -/
theorem proper_of_read? {s : String} {v : Value} (h : read? s = some v) : v.Proper := by
  unfold read? readStart at h
  split at h
  · rename_i hread
    split at h
    · cases h
      exact (readsProper _).value _ _ _ _ hread
    · cases h
  · cases h

end Json

end Hypermedia
