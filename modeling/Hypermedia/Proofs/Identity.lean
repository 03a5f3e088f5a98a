import Hypermedia.Record.Identity

/-!
# The form of identities

Every identity that is made for a record is fit for a path, whether it is a unique value, a digest of
several, or drawn. It depends on the unique values by their normalized forms alone.
-/

namespace Hypermedia

/-! ### Hexadecimal digits -/

namespace Digest

/-- A lower-case hexadecimal digit. -/
def IsHex (c : Char) : Prop := ('a' ≤ c ∧ c ≤ 'f') ∨ ('0' ≤ c ∧ c ≤ '9')

instance (c : Char) : Decidable (IsHex c) := by unfold IsHex; infer_instance

theorem isHex_digit : ∀ n < 16, IsHex (if n < 10 then Char.ofNat (48 + n) else Char.ofNat (87 + n)) := by
  decide

theorem isHex_of_mem_hexPair {b : UInt8} {c : Char} (h : c ∈ hexPair b) : IsHex c := by
  have hb : b.toNat < 256 := b.toNat_lt
  simp only [hexPair, List.mem_cons, List.not_mem_nil, or_false] at h
  rcases h with rfl | rfl
  · exact isHex_digit _ (by omega)
  · exact isHex_digit _ (by omega)

theorem length_md5 (message : List UInt8) : (md5 message).length = 16 := by
  simp [md5, length_littleEndian]

theorem length_hexDigest (s : String) : (hexDigest s).length = 32 := by
  have hp : ∀ bs : List UInt8, (bs.flatMap hexPair).length = 2 * bs.length := by
    intro bs
    induction bs with
    | nil => rfl
    | cons b bs ih =>
      simp only [List.flatMap_cons, List.length_append, ih, List.length_cons, hexPair]
      simp only [List.length_nil]
      omega
  rw [hexDigest, hp, length_md5]

theorem isHex_of_mem_hexDigest {s : String} {c : Char} (h : c ∈ hexDigest s) : IsHex c := by
  obtain ⟨b, -, hc⟩ := List.mem_flatMap.mp h
  exact isHex_of_mem_hexPair hc

end Digest

namespace Identity

/-- A text that is not empty and has only lower-case letters, digits, underscores and hyphens. -/
def Fit (s : String) : Prop :=
  s ≠ "" ∧ ∀ c ∈ s.toList, ('a' ≤ c ∧ c ≤ 'z') ∨ ('0' ≤ c ∧ c ≤ '9') ∨ c = '_' ∨ c = '-'

theorem fit_of_isSafe {s : String} (h : isSafe s = true) : Fit s := by
  obtain ⟨hne, hall⟩ : s.isEmpty = false ∧ s.toList.all isSafeChar = true := by simpa [isSafe] using h
  refine ⟨fun he => ?_, fun c hc => ?_⟩
  · subst he
    cases hne
  · have hs := List.all_eq_true.mp hall c hc
    simp only [isSafeChar, Bool.or_eq_true, Bool.and_eq_true, decide_eq_true_eq, beq_iff_eq] at hs
    rcases hs with ((h | h) | h) | h
    · exact .inl h
    · exact .inr (.inr (.inl h))
    · exact .inr (.inl h)
    · exact .inr (.inr (.inr h))

theorem fit_shortHash (s : String) : Fit (shortHash s) := by
  have hl := Digest.length_hexDigest s
  refine ⟨fun he => ?_, fun c hc => ?_⟩
  · have ht : ((Digest.hexDigest s).take 7).length = 0 := by
      rw [← String.toList_ofList (l := (Digest.hexDigest s).take 7), ← shortHash, he]
      rfl
    rw [List.length_take] at ht
    omega
  · rw [shortHash, String.toList_ofList] at hc
    rcases Digest.isHex_of_mem_hexDigest (List.mem_of_mem_take hc) with h | h
    · exact .inl ⟨h.1, Char.le_trans h.2 (by decide)⟩
    · exact .inr (.inl h)

theorem fit_derived? {fields : List String} {params : Members} {id : String}
    (h : derived? fields params = some id) : Fit id := by
  unfold derived? at h
  split at h
  · cases h
  · rename_i field
    dsimp only at h
    obtain rfl := Option.some.inj h
    split
    · exact fit_of_isSafe (by assumption)
    · exact fit_shortHash _
  · obtain rfl := Option.some.inj h
    exact fit_shortHash _

theorem fit_drawn (t : Time.Instant) (x : Float) : Fit (drawn t x) := fit_shortHash _

theorem derived?_isSome {fields : List String} (h : fields ≠ []) (params : Members) :
    ∃ id, derived? fields params = some id := by
  unfold derived?
  split
  · exact absurd rfl h
  · exact ⟨_, rfl⟩
  · exact ⟨_, rfl⟩

/-- Unique values of the same normalized forms give the same identity. -/
theorem derived?_congr {fields : List String} {params params' : Members}
    (h : ∀ f ∈ fields, normalized (Members.get? params' f) = normalized (Members.get? params f)) :
    derived? fields params' = derived? fields params := by
  have hmap : (fields.map fun f => normalized (Members.get? params' f)) =
      fields.map fun f => normalized (Members.get? params f) := List.map_congr_left h
  unfold derived?
  split
  · rfl
  · rename_i field
    rw [h field (List.mem_cons_self ..)]
  · simp only [joined, hmap]

end Identity

end Hypermedia
