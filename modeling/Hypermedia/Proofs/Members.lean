import Mathlib.Data.List.Basic
import Mathlib.Data.List.Nodup
import Hypermedia.Proofs.Lists

/-!
# Members under change

Setting, merging and joining members: which names stand where afterwards, and what is read under a
name. A change of a name that is there keeps all names in their places.
-/

namespace Hypermedia.Members

theorem get?_cons (k : String) (v : Value) (ms : Members) (b : String) :
    get? ((k, v) :: ms) b = if k = b then some v else get? ms b := rfl

theorem get?_append (ms ns : Members) (b : String) :
    get? (ms ++ ns) b = (get? ms b).or (get? ns b) := by
  induction ms with
  | nil => simp [get?]
  | cons m ms ih =>
    obtain ⟨k, v⟩ := m
    by_cases hk : k = b <;> simp [get?, hk, ih]

theorem get?_eq_none_iff (ms : Members) (b : String) : get? ms b = none ↔ b ∉ keys ms := by
  rw [← get?_isSome_iff]
  cases get? ms b <;> simp

theorem mem_of_get? {ms : Members} {b : String} {v : Value} (h : get? ms b = some v) : (b, v) ∈ ms := by
  fun_induction get? ms b with
  | case1 => cases h
  | case2 =>
    cases h
    exact List.mem_cons_self ..
  | case3 _ _ _ _ _ ih => exact List.mem_cons_of_mem _ (ih h)

theorem keys_set (ms : Members) (a : String) (v : Value) :
    keys (set ms a v) = if a ∈ keys ms then keys ms else keys ms ++ [a] := by
  induction ms with
  | nil => simp [set, keys]
  | cons m ms ih =>
    obtain ⟨k, w⟩ := m
    by_cases hk : k = a
    · subst hk
      simp [set, keys]
    · have hs : keys (set ((k, w) :: ms) a v) = k :: keys (set ms a v) := by simp [set, keys, hk]
      have hm : a ∈ keys ((k, w) :: ms) ↔ a ∈ keys ms := by simp [keys, Ne.symm hk]
      rw [hs, ih, if_congr hm rfl rfl]
      split <;> simp [keys]

theorem keys_set_of_mem {ms : Members} {a : String} (v : Value) (h : a ∈ keys ms) :
    keys (set ms a v) = keys ms := by
  rw [keys_set, if_pos h]

theorem nodup_keys_set {ms : Members} (a : String) (v : Value) (h : (keys ms).Nodup) :
    (keys (set ms a v)).Nodup := by
  rw [keys_set]
  split
  · exact h
  · rename_i ha
    exact List.nodup_append.mpr ⟨h, List.nodup_singleton a, fun x hx y hy he =>
      ha (List.mem_singleton.mp hy ▸ he ▸ hx)⟩

theorem mem_keys_set {ms : Members} {a b : String} {v : Value} (h : b ∈ keys (set ms a v)) :
    b ∈ keys ms ∨ b = a := by
  rw [keys_set] at h
  split at h
  · exact .inl h
  · rcases List.mem_append.mp h with hm | hm
    · exact .inl hm
    · exact .inr (List.mem_singleton.mp hm)

theorem merge_cons (ms : Members) (k : String) (v : Value) (patch : Members) :
    merge ms ((k, v) :: patch) = merge (set ms k v) patch := rfl

theorem get?_merge_of_notMem (ms patch : Members) {b : String} (h : b ∉ keys patch) :
    get? (merge ms patch) b = get? ms b := by
  induction patch generalizing ms with
  | nil => rfl
  | cons m patch ih =>
    obtain ⟨k, v⟩ := m
    have hk : k ≠ b ∧ b ∉ keys patch := by simpa [keys, eq_comm] using h
    rw [merge_cons, ih (set ms k v) hk.2, get?_set, if_neg hk.1]

/-- Each name of a patch stands for its value in the patch, any other name for what it was. -/
theorem get?_merge (ms : Members) {patch : Members} (h : (keys patch).Nodup) (b : String) :
    get? (merge ms patch) b = (get? patch b).or (get? ms b) := by
  induction patch generalizing ms with
  | nil => simp [merge, get?]
  | cons m patch ih =>
    obtain ⟨k, v⟩ := m
    have hn : k ∉ keys patch ∧ (keys patch).Nodup := by simpa [keys] using h
    rw [merge_cons, ih (set ms k v) hn.2, get?_set, get?_cons]
    by_cases hk : k = b
    · subst hk
      have hp : get? patch k = none := (get?_eq_none_iff patch k).mpr hn.1
      simp [hp]
    · simp [hk]

theorem keys_merge (ms patch : Members) (h : ∀ b ∈ keys patch, b ∈ keys ms) :
    keys (merge ms patch) = keys ms := by
  induction patch generalizing ms with
  | nil => rfl
  | cons m patch ih =>
    obtain ⟨k, v⟩ := m
    have hk : k ∈ keys ms := h k (by simp [keys])
    have hs : keys (set ms k v) = keys ms := keys_set_of_mem v hk
    rw [merge_cons, ih (set ms k v) (fun b hb => ?_), hs]
    rw [hs]
    exact h b (by simpa [keys] using Or.inr (by simpa [keys] using hb))

/-! ### Where each name stands once -/

section
variable {ms : Members} {a : String} {v : Value}

theorem get?_of_mem (h : (keys ms).Nodup) (hm : (a, v) ∈ ms) : get? ms a = some v := by
  induction ms with
  | nil => cases hm
  | cons m ms ih =>
    obtain ⟨k, w⟩ := m
    have hn : k ∉ keys ms ∧ (keys ms).Nodup := by simpa [keys] using h
    rw [get?_cons]
    rcases List.mem_cons.mp hm with he | hm
    · cases he
      rw [if_pos rfl]
    · have hk : k ≠ a := fun he => hn.1 (he ▸ List.mem_map_of_mem hm)
      rw [if_neg hk]
      exact ih hn.2 hm

/-- Members are told by their names in order and by what is read under each. -/
theorem eq_of_get? {ns : Members} (hkeys : keys ns = keys ms) (h : (keys ms).Nodup)
    (hget : ∀ b ∈ keys ms, get? ns b = get? ms b) : ns = ms := by
  induction ms generalizing ns with
  | nil => exact List.map_eq_nil_iff.mp hkeys
  | cons m ms ih =>
    obtain ⟨k, v⟩ := m
    have hn : k ∉ keys ms ∧ (keys ms).Nodup := by simpa [keys] using h
    cases ns with
    | nil => cases hkeys
    | cons n ns =>
      obtain ⟨l, w⟩ := n
      obtain ⟨rfl, hrest⟩ : l = k ∧ keys ns = keys ms := by simpa [keys] using hkeys
      have hhead := hget l (List.mem_cons_self ..)
      rw [get?_cons, get?_cons, if_pos rfl, if_pos rfl] at hhead
      rw [Option.some.inj hhead, ih hrest hn.2 fun b hb => ?_]
      have hne : l ≠ b := fun he => hn.1 (he ▸ hb)
      have htail := hget b (List.mem_cons_of_mem _ hb)
      rwa [get?_cons, get?_cons, if_neg hne, if_neg hne] at htail

/-- To set a value is to change the one entry of its name. -/
theorem set_eq_map (h : (keys ms).Nodup) (hm : a ∈ keys ms) (v : Value) :
    set ms a v = ms.map fun m => (m.1, if m.1 = a then v else m.2) := by
  induction ms with
  | nil => cases hm
  | cons m ms ih =>
    obtain ⟨k, w⟩ := m
    have hn : k ∉ keys ms ∧ (keys ms).Nodup := by simpa [keys] using h
    by_cases hk : k = a
    · subst hk
      have hrest : ms.map (fun m => (m.1, if m.1 = k then v else m.2)) = ms := by
        refine (List.map_congr_left fun m hm => ?_).trans (List.map_id ms)
        have hne : m.1 ≠ k := fun he => hn.1 (he ▸ List.mem_map_of_mem hm)
        rw [if_neg hne]
        rfl
      simp [set, hrest]
    · have hm : a ∈ keys ms := by simpa [keys, Ne.symm hk] using hm
      simp [set, hk, ih hn.2 hm]

end

/-! ### Members picked by name, and values changed -/

theorem get?_filter (p : String → Bool) (ms : Members) (b : String) :
    get? (ms.filter fun m => p m.1) b = if p b then get? ms b else none := by
  induction ms with
  | nil => simp [get?]
  | cons m ms ih =>
    obtain ⟨k, v⟩ := m
    by_cases hk : k = b
    · subst hk
      by_cases hp : p k = true <;> simp [hp, get?, ih]
    · by_cases hp : p k = true <;> simp [hp, get?, hk, ih]

theorem keys_restrict (ms : Members) (names : List String) :
    keys (restrict ms names) = (keys ms).filter names.contains := by
  simp only [restrict, keys, List.filter_map, Function.comp_def]

theorem get?_restrict (ms : Members) {names : List String} {b : String} (h : b ∈ names) :
    get? (restrict ms names) b = get? ms b :=
  (get?_filter names.contains ms b).trans (if_pos (List.contains_iff_mem.mpr h))

theorem get?_map_named (f : String → Value → Value) (ms : Members) (b : String) :
    get? (ms.map fun m => (m.1, f m.1 m.2)) b = (get? ms b).map (f b) := by
  induction ms with
  | nil => rfl
  | cons m ms ih =>
    obtain ⟨k, v⟩ := m
    by_cases hk : k = b
    · subst hk
      simp [get?]
    · simp [get?, hk, ih]

theorem get?_map_snd (f : Value → Value) (ms : Members) (b : String) :
    get? (ms.map fun m => (m.1, f m.2)) b = (get? ms b).map f := get?_map_named (fun _ => f) ms b

/-! ### Members made from a list of names -/

section
variable {α : Type} (name : α → String) (f : α → Value)

theorem get?_map {as : List α} (h : (as.map name).Nodup) {a : α} (ha : a ∈ as) :
    get? (as.map fun a => (name a, f a)) (name a) = some (f a) := by
  induction as with
  | nil => cases ha
  | cons x as ih =>
    have hn : name x ∉ as.map name ∧ (as.map name).Nodup := by simpa using h
    rw [List.map_cons, get?_cons]
    rcases List.mem_cons.mp ha with rfl | ha
    · simp
    · have hx : name x ≠ name a := fun he => hn.1 (he ▸ List.mem_map_of_mem ha)
      rw [if_neg hx]
      exact ih hn.2 ha

/-! ### Members made from those names that have a value -/

variable (f? : α → Option Value)

theorem keys_filterMap_sublist (as : List α) :
    (keys (as.filterMap fun a => (f? a).map fun v => (name a, v))).Sublist (as.map name) :=
  map_fst_filterMap_sublist name f? as

theorem get?_filterMap {as : List α} (h : (as.map name).Nodup) {a : α} (ha : a ∈ as) :
    get? (as.filterMap fun a => (f? a).map fun v => (name a, v)) (name a) = f? a := by
  induction as with
  | nil => cases ha
  | cons x as ih =>
    have hn : name x ∉ as.map name ∧ (as.map name).Nodup := by simpa using h
    rcases List.mem_cons.mp ha with rfl | ha
    · cases hv : f? a with
      | some v => simp [hv, get?]
      | none =>
        rw [List.filterMap_cons, hv, Option.map_none]
        apply (get?_eq_none_iff _ _).mpr
        exact fun hm => hn.1 ((keys_filterMap_sublist name f? as).subset hm)
    · have hx : name x ≠ name a := fun he => hn.1 (he ▸ List.mem_map_of_mem ha)
      cases hv : f? x with
      | none =>
        rw [List.filterMap_cons, hv, Option.map_none]
        exact ih hn.2 ha
      | some v =>
        rw [List.filterMap_cons, hv, Option.map_some, get?_cons, if_neg hx]
        exact ih hn.2 ha

end

end Hypermedia.Members
