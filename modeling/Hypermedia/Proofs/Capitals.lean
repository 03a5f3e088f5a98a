import Hypermedia.Text.Case
import Hypermedia.Proofs.Categories

/-!
# Capitals and small letters

No lower case is a capital, and a small letter is its own lower case. A capital comes back from its lower
case, up to the choice among capitals with one lower case. The sharp s is the exception: its capital is one
letter and its upper case two.
-/

namespace Hypermedia.Text

/-! ### Sets as numbers -/

/-- The members of a list as the bits of one number. -/
def bits : List Nat → Nat
  | [] => 0
  | n :: ns => bits ns ||| 1 <<< n

theorem testBit_bits {ns : List Nat} {n : Nat} : (bits ns).testBit n = true ↔ n ∈ ns := by
  induction ns with
  | nil => simp [bits]
  | cons m ns ih =>
    rw [bits, Nat.testBit_or, Bool.or_eq_true, ih, Nat.one_shiftLeft, Nat.testBit_two_pow,
      decide_eq_true_eq, List.mem_cons, or_comm, eq_comm (a := m)]

/-- Lists without a common bit have no common member. -/
theorem notMem_of_bits {ns ms : List Nat} (h : bits ns &&& bits ms = 0) {n : Nat} (hn : n ∈ ns) :
    n ∉ ms := by
  intro hm
  have hbit := congrArg (Nat.testBit · n) h
  simp [Nat.testBit_and, testBit_bits.mpr hn, testBit_bits.mpr hm] at hbit

/-! ### Runs of a mapping -/

namespace CaseRun

variable {r : CaseRun} {n : Nat}

/-- The characters that a run moves. -/
def points (r : CaseRun) : List Nat := List.range' r.first ((r.last - r.first) / r.step + 1) r.step

def moved (r : CaseRun) (n : Nat) : Nat := ((n : Int) + r.shift).toNat

theorem covers_iff :
    r.covers n = true ↔ (r.first ≤ n ∧ n ≤ r.last) ∧ (n - r.first) % r.step = 0 := by
  simp [covers]

theorem mem_points (h : r.covers n = true) : n ∈ r.points := by
  obtain ⟨⟨hfirst, hlast⟩, hstep⟩ := covers_iff.mp h
  refine List.mem_range'.mpr ⟨(n - r.first) / r.step, ?_, ?_⟩
  · exact Nat.lt_succ_of_le (Nat.div_le_div_right (Nat.sub_le_sub_right hlast _))
  · rw [Nat.mul_div_cancel' (Nat.dvd_of_mod_eq_zero hstep)]
    omega

end CaseRun

def sources (runs : List CaseRun) : List Nat := runs.flatMap (·.points)

def targets (runs : List CaseRun) : List Nat := runs.flatMap fun r => r.points.map r.moved

section
variable {runs : List CaseRun} {n m : Nat}

theorem movedBy_cases (runs : List CaseRun) (n : Nat) :
    movedBy runs n = none ∨
      ∃ r ∈ runs, r.covers n = true ∧ movedBy runs n = some (r.moved n) := by
  unfold movedBy
  cases h : runs.find? (·.covers n) with
  | none => exact .inl rfl
  | some r =>
    have hcovers := List.find?_some h
    exact .inr ⟨r, List.mem_of_find?_eq_some h, hcovers, rfl⟩

/-- The runs are in order and do not meet, the first from `start` on. -/
def apart (start : Nat) : List CaseRun → Bool
  | [] => true
  | r :: runs => Nat.ble start r.first && Nat.ble r.first r.last && apart (r.last + 1) runs

theorem apart_cons {start : Nat} {r : CaseRun} : apart start (r :: runs) = true ↔
    start ≤ r.first ∧ r.first ≤ r.last ∧ apart (r.last + 1) runs = true := by
  simp [apart, Nat.ble_eq, and_assoc]

theorem first_of_apart {start : Nat} (h : apart start runs = true) : ∀ q ∈ runs, start ≤ q.first := by
  induction runs generalizing start with
  | nil => simp
  | cons r runs ih =>
    obtain ⟨hstart, hlast, hrest⟩ := apart_cons.mp h
    intro q hq
    rcases List.mem_cons.mp hq with rfl | hq
    · exact hstart
    · have := ih hrest q hq
      omega

/-- Of runs that do not meet, any that covers a character is the first. -/
theorem movedBy_of_covers {start : Nat} (h : apart start runs = true) {q : CaseRun} (hq : q ∈ runs)
    (hn : q.covers n = true) : movedBy runs n = some (q.moved n) := by
  have hfind : runs.find? (·.covers n) = some q := by
    induction runs generalizing start with
    | nil => cases hq
    | cons r runs ih =>
      obtain ⟨-, -, hrest⟩ := apart_cons.mp h
      rw [List.find?_cons]
      rcases List.mem_cons.mp hq with rfl | hq
      · rw [hn]
      · cases hr : r.covers n with
        | true =>
          have hfirst := first_of_apart hrest q hq
          obtain ⟨⟨hlow, -⟩, -⟩ := CaseRun.covers_iff.mp hn
          obtain ⟨⟨-, hhigh⟩, -⟩ := CaseRun.covers_iff.mp hr
          omega
        | false => exact ih hrest hq
  rw [movedBy, hfind]
  rfl

theorem mem_sources {r : CaseRun} (hr : r ∈ runs) (h : r.covers n = true) : n ∈ sources runs :=
  List.mem_flatMap.mpr ⟨r, hr, CaseRun.mem_points h⟩

theorem mem_targets {r : CaseRun} (hr : r ∈ runs) (h : r.covers n = true) : r.moved n ∈ targets runs :=
  List.mem_flatMap.mpr ⟨r, hr, List.mem_map_of_mem (CaseRun.mem_points h)⟩

theorem movedBy_eq_none (h : n ∉ sources runs) : movedBy runs n = none := by
  rcases movedBy_cases runs n with hnone | ⟨r, hr, hcovers, -⟩
  · exact hnone
  · exact absurd (mem_sources hr hcovers) h

end

/-! ### What the tables say -/

/-- The numbers of the capitals. -/
def capitals : List Nat :=
  pointsOf .lu categoryList ++ otherUpper.flatMap fun (lo, hi) => List.range' lo (hi + 1 - lo)

/-- The numbers of the digraphs that begin with a capital. -/
def titles : List Nat := pointsOf .lt categoryList

theorem mem_capitals {c : Char} (hc : 128 ≤ c.toNat) (h : isUpper c = true) : c.toNat ∈ capitals := by
  rw [isUpper, if_neg (Nat.not_lt_of_le hc), Bool.or_eq_true, beq_iff_eq] at h
  rcases h with hlu | hother
  · have hmem := toNat_mem_pointsOf c
    rw [hlu] at hmem
    exact List.mem_append_left _ hmem
  · obtain ⟨⟨lo, hi⟩, hrange, hin⟩ := List.any_eq_true.mp hother
    rw [Bool.and_eq_true, decide_eq_true_eq, decide_eq_true_eq] at hin
    refine List.mem_append_right _ (List.mem_flatMap.mpr ⟨_, hrange, ?_⟩)
    exact List.mem_range'_1.mpr ⟨hin.1, by omega⟩

/-- No capital is a lower case, none has an upper case of its own, and none is a digraph. -/
theorem capitals_apart : bits capitals &&&
    bits (targets lowerRuns ++ (sources upperRuns ++ (upperExpansions.map (·.1) ++ titles))) = 0 := by
  decide +kernel

/-- No lower case is moved again. Lower cases are characters, and the only one in ASCII is that of the Kelvin
sign. -/
theorem targets_unmoved : bits (targets lowerRuns) &&& bits (sources lowerRuns) = 0 ∧
    (targets lowerRuns).all (fun m => (Nat.blt m 0xD800 || Nat.blt 0xDFFF m && Nat.blt m 0x110000) &&
      (Nat.ble 128 m || Nat.beq m 0x6B) && !Nat.beq m 0x130) = true := by
  decide +kernel

theorem upperRuns_apart : apart 0 upperRuns = true := by
  decide

/-- One run of the upper case moves everything back that a run moves, beyond ASCII. -/
def CaseRun.undone (r : CaseRun) : Bool :=
  Nat.ble 128 (r.moved r.first) &&
  (upperExpansions.all fun x => Nat.blt x.1 (r.moved r.first) || Nat.blt (r.moved r.last) x.1) &&
  (upperRuns.any fun q => Nat.ble q.first (r.moved r.first) && Nat.ble (r.moved r.last) q.last &&
    q.shift == -r.shift && Nat.beq ((r.moved r.first - q.first) % q.step) 0 && Nat.beq (r.step % q.step) 0)

/-- The capitals theta, sharp s, Ohm, Kelvin and Angstrom have the lower case of other capitals. -/
def unpaired : List Nat := [0x3F4, 0x1E9E, 0x2126, 0x212A, 0x212B]

theorem lowerRuns_undone : lowerRuns.all (fun r => r.undone || r.points.all fun n =>
    unpaired.contains n || titles.contains n || upperChar (Char.ofNat (r.moved n)) == [Char.ofNat n]) =
      true := by
  decide +kernel

/-! ### Small letters -/

/-- A character that a change to lower case leaves, and no capital. -/
structure IsLowered (c : Char) : Prop where
  notUpper : isUpper c = false
  lower : lowerChar c = [c]

/-- A sigma, the dotted I, and the sharp s, which is a capital, of two letters when made one from the small
letter. -/
theorem letters : (isUpper 'Σ' = true ∧ lowerChar 'Σ' = ['σ']) ∧
    (lowerChar 'İ' = ['i', '\u0307'] ∧ isUpper 'İ' = true ∧ isUpper '\u0307' = false ∧
      lowerChar '\u0307' = ['\u0307']) ∧
    isUpper 'ẞ' = true ∧ lowerChar 'ẞ' = ['ß'] ∧ upperChar 'ß' = ['S', 'S'] ∧ isUpper 'ß' = false ∧
      isWord 'ß' = true := by
  decide +kernel

theorem lowerChar_sigma : isUpper 'Σ' = true ∧ lowerChar 'Σ' = ['σ'] := letters.1

theorem dotted : lowerChar 'İ' = ['i', '\u0307'] ∧ isUpper 'İ' = true ∧ isUpper '\u0307' = false ∧
    lowerChar '\u0307' = ['\u0307'] := letters.2.1

theorem sharp : isUpper 'ẞ' = true ∧ lowerChar 'ẞ' = ['ß'] ∧ upperChar 'ß' = ['S', 'S'] ∧
    isUpper 'ß' = false ∧ isWord 'ß' = true := letters.2.2

/-- What holds of the first 128 characters holds of every one of them. -/
theorem forall_ascii {P : Char → Prop} (h : ∀ n < 128, P (Char.ofNat n)) {c : Char} (hc : c.toNat < 128) :
    P c := by
  have hn := h c.toNat hc
  rwa [Char.ofNat_toNat] at hn

theorem lowerChar_ascii {c : Char} (hc : c.toNat < 128) :
    (∀ d ∈ lowerChar c, IsLowered d ∧ (d = '_' → c = '_')) ∧
      (isUpper c = true → ∃ d ∈ lowerChar c, lowerChar c = [d] ∧ upperChar d = [c]) := by
  have hall := forall_ascii (P := fun c =>
    ((lowerChar c).all fun d => !isUpper d && lowerChar d == [d] && (d != '_' || c == '_')) = true ∧
      (isUpper c = true → ((lowerChar c).any fun d => lowerChar c == [d] && upperChar d == [c]) = true))
    (by decide +kernel) hc
  simp only [List.all_eq_true, List.any_eq_true, Bool.and_eq_true, Bool.not_eq_true', Bool.or_eq_true,
    bne_iff_ne, beq_iff_eq, ne_eq, ← Decidable.imp_iff_not_or] at hall
  exact ⟨fun d hd => ⟨⟨(hall.1 d hd).1.1, (hall.1 d hd).1.2⟩, (hall.1 d hd).2⟩, hall.2⟩

theorem toNat_ofNat {n : Nat} (h : n.isValidChar) : (Char.ofNat n).toNat = n := by
  rw [Char.ofNat, dif_pos h]
  rfl

section
variable {c : Char} {r : CaseRun} {n : Nat}

theorem toNat_target (hr : r ∈ lowerRuns) (h : r.covers n = true) :
    (Char.ofNat (r.moved n)).toNat = r.moved n ∧ (128 ≤ r.moved n ∨ r.moved n = 0x6B) ∧
      r.moved n ≠ 0x130 := by
  have hall := List.all_eq_true.mp targets_unmoved.2 _ (mem_targets hr h)
  simp only [Bool.and_eq_true, Bool.or_eq_true, Nat.blt_eq, Nat.ble_eq, Nat.beq_eq, Bool.not_eq_true']
    at hall
  exact ⟨toNat_ofNat hall.1.1, hall.1.2, Nat.ne_of_beq_eq_false hall.2⟩

/-- Beyond ASCII and but for the dotted I, a character stays, or a run moves it. -/
theorem lowerChar_cases (hc : 128 ≤ c.toNat) (hdot : c.toNat ≠ 0x130) :
    lowerChar c = [c] ∨
      ∃ r ∈ lowerRuns, r.covers c.toNat = true ∧ lowerChar c = [Char.ofNat (r.moved c.toNat)] := by
  rw [lowerChar, if_neg (Nat.not_lt_of_le hc), if_neg hdot]
  rcases movedBy_cases lowerRuns c.toNat with hnone | ⟨r, hr, hcovers, hsome⟩
  · rw [hnone, Option.getD_none, Char.ofNat_toNat]
    exact .inl rfl
  · rw [hsome]
    exact .inr ⟨r, hr, hcovers, rfl⟩

theorem isLowered_target (hr : r ∈ lowerRuns) (h : r.covers n = true) :
    IsLowered (Char.ofNat (r.moved n)) ∧ Char.ofNat (r.moved n) ≠ '_' := by
  obtain ⟨hnat, hlarge | hk, hdot⟩ := toNat_target hr h
  · have hmem := mem_targets hr h
    have hrange : 128 ≤ (Char.ofNat (r.moved n)).toNat := by rwa [hnat]
    refine ⟨⟨?_, ?_⟩, ?_⟩
    · refine Bool.eq_false_iff.mpr fun hupper => ?_
      have hcapital := mem_capitals hrange hupper
      rw [hnat] at hcapital
      exact notMem_of_bits capitals_apart hcapital (List.mem_append_left _ hmem)
    · rcases lowerChar_cases hrange (by rwa [hnat]) with hsame | ⟨r', hr', hcovers, -⟩
      · exact hsame
      · rw [hnat] at hcovers
        exact absurd (mem_sources hr' hcovers) (notMem_of_bits targets_unmoved.1 hmem)
    · intro he
      rw [he] at hrange
      exact absurd hrange (by decide)
  · rw [hk]
    exact ⟨⟨by decide, by decide⟩, by decide⟩

end

/-- The lower case of anything but a capital has no capital, and an underscore only for an underscore. -/
theorem isLowered_of_mem_lowerChar {c d : Char} (h : isUpper c = false) (hd : d ∈ lowerChar c) :
    IsLowered d ∧ (d = '_' → c = '_') := by
  by_cases hascii : c.toNat < 128
  · exact (lowerChar_ascii hascii).1 d hd
  by_cases hdot : c.toNat = 0x130
  · have hc : c = 'İ' := Char.toNat_inj.mp hdot
    rw [hc, dotted.2.1] at h
    cases h
  rcases lowerChar_cases (Nat.le_of_not_lt hascii) hdot with hsame | ⟨r, hr, hcovers, hmoved⟩
  · rw [hsame, List.mem_singleton] at hd
    rw [hd]
    exact ⟨⟨h, hsame⟩, id⟩
  · rw [hmoved, List.mem_singleton] at hd
    rw [hd]
    obtain ⟨hlowered, hne⟩ := isLowered_target hr hcovers
    exact ⟨hlowered, fun he => absurd he hne⟩

/-! ### Capitals -/

/-- The lower case of a capital begins with a small letter. The upper case of that is one capital, which has
the same small letter. -/
structure IsCapital (c small capital : Char) (rest : List Char) : Prop where
  lower : lowerChar c = small :: rest
  lowered : ∀ x ∈ rest, IsLowered x ∧ x ≠ '_'
  upper : upperChar small = [capital]
  isUpper : isUpper capital = true
  back : lowerChar capital = [small]

theorem isCapital_of_back {c d : Char} (h : isUpper c = true) (hlower : lowerChar c = [d])
    (hupper : upperChar d = [c]) : IsCapital c d c [] :=
  ⟨hlower, by simp, hupper, h, hlower⟩

section
variable {r q : CaseRun} {n : Nat}

/-- The images of a run begin above zero, at equal distances. -/
theorem CaseRun.moved_eq (h : r.covers n = true) (hpos : 0 < r.moved r.first) :
    (r.moved n : Int) = n + r.shift ∧ r.moved n = r.moved r.first + (n - r.first) ∧
      r.moved n ≤ r.moved r.last := by
  obtain ⟨⟨hfirst, hlast⟩, -⟩ := covers_iff.mp h
  unfold moved at *
  omega

theorem CaseRun.moved_back (h : r.covers n = true) (hpos : 0 < r.moved r.first)
    (hshift : q.shift = -r.shift) : q.moved (r.moved n) = n := by
  obtain ⟨himage, -⟩ := moved_eq h hpos
  rw [moved, himage, hshift]
  omega

theorem upperChar_of_undone (hr : r ∈ lowerRuns) (h : r.covers n = true) (hundone : r.undone = true) :
    upperChar (Char.ofNat (r.moved n)) = [Char.ofNat n] := by
  simp only [CaseRun.undone, Bool.and_eq_true, Nat.blt_eq, Nat.ble_eq, Nat.beq_eq, List.all_eq_true,
    List.any_eq_true, Bool.or_eq_true, beq_iff_eq] at hundone
  obtain ⟨⟨hlarge, hexpansions⟩, q, hq, ⟨⟨⟨hlow, hhigh⟩, hshift⟩, hplace⟩, hstep⟩ := hundone
  obtain ⟨hnat, -⟩ := toNat_target hr h
  have hpos : 0 < r.moved r.first := by omega
  obtain ⟨-, hdistance, hle⟩ := CaseRun.moved_eq h hpos
  have hfind : upperExpansions.find? (·.1 == r.moved n) = none := by
    refine List.find?_eq_none.mpr fun x hx he => ?_
    rw [beq_iff_eq] at he
    have := hexpansions x hx
    omega
  have hcovers : q.covers (r.moved n) = true := by
    refine CaseRun.covers_iff.mpr ⟨⟨by omega, by omega⟩, ?_⟩
    obtain ⟨-, hn⟩ := CaseRun.covers_iff.mp h
    have hsplit : r.moved n - q.first = (r.moved r.first - q.first) + (n - r.first) := by omega
    have hdvd : q.step ∣ n - r.first :=
      Nat.dvd_trans (Nat.dvd_of_mod_eq_zero hstep) (Nat.dvd_of_mod_eq_zero hn)
    rw [hsplit]
    exact Nat.mod_eq_zero_of_dvd (Nat.dvd_add (Nat.dvd_of_mod_eq_zero hplace) hdvd)
  have hmoved := movedBy_of_covers upperRuns_apart hq hcovers
  rw [CaseRun.moved_back h hpos hshift] at hmoved
  rw [upperChar, hnat, if_neg (by omega), hfind, hmoved]
  rfl

end

/-- The capitals that share a small letter with another, and are not the upper case of it. -/
theorem unpaired_capital : ∀ n ∈ unpaired, n ≠ 0x1E9E → ∃ small capital : Char,
    lowerChar (Char.ofNat n) = [small] ∧ upperChar small = [capital] ∧ isUpper capital = true ∧
      lowerChar capital = [small] := by
  have hall : ∀ n ∈ unpaired, n ≠ 0x1E9E → ((lowerChar (Char.ofNat n)).any fun small =>
      (upperChar small).any fun capital => lowerChar (Char.ofNat n) = [small] ∧ upperChar small = [capital] ∧
        isUpper capital = true ∧ lowerChar capital = [small]) = true := by
    decide +kernel
  intro n hn hne
  obtain ⟨small, -, hsmall⟩ := List.any_eq_true.mp (hall n hn hne)
  obtain ⟨capital, -, h⟩ := List.any_eq_true.mp hsmall
  exact ⟨small, capital, of_decide_eq_true h⟩

/-- Every capital but the sharp s comes back. -/
theorem isCapital_of_isUpper {c : Char} (h : isUpper c = true) (hsharp : c ≠ 'ẞ') :
    ∃ small capital rest, IsCapital c small capital rest := by
  by_cases hascii : c.toNat < 128
  · obtain ⟨d, -, hlower, hupper⟩ := (lowerChar_ascii hascii).2 h
    exact ⟨d, c, [], isCapital_of_back h hlower hupper⟩
  have hlarge := Nat.le_of_not_lt hascii
  by_cases hdot : c.toNat = 0x130
  · have hc : c = 'İ' := Char.toNat_inj.mp hdot
    subst hc
    refine ⟨'i', 'I', ['\u0307'], dotted.1, ?_, by decide, by decide, by decide⟩
    rintro x hx
    rw [List.mem_singleton.mp hx]
    exact ⟨⟨dotted.2.2.1, dotted.2.2.2⟩, by decide⟩
  have hcapital := notMem_of_bits capitals_apart (mem_capitals hlarge h)
  simp only [List.mem_append, not_or] at hcapital
  obtain ⟨-, hsource, hexpansion, htitle⟩ := hcapital
  rcases lowerChar_cases hlarge hdot with hsame | ⟨r, hr, hcovers, hmoved⟩
  · refine ⟨c, c, [], isCapital_of_back h hsame ?_⟩
    have hfind : upperExpansions.find? (·.1 == c.toNat) = none := by
      refine List.find?_eq_none.mpr fun x hx he => hexpansion ?_
      rw [← beq_iff_eq.mp he]
      exact List.mem_map_of_mem hx
    rw [upperChar, if_neg hascii, hfind, movedBy_eq_none hsource, Option.getD_none, Char.ofNat_toNat]
  · have hundone := List.all_eq_true.mp lowerRuns_undone r hr
    simp only [Bool.or_eq_true, List.all_eq_true, beq_iff_eq, List.contains_eq_mem, decide_eq_true_eq] at hundone
    by_cases hunpaired : c.toNat ∈ unpaired
    · obtain ⟨small, capital, hlower, hupper, hup, hback⟩ :=
        unpaired_capital _ hunpaired fun he => hsharp (Char.toNat_inj.mp he)
      rw [Char.ofNat_toNat] at hlower
      exact ⟨small, capital, [], hlower, by simp, hupper, hup, hback⟩
    · refine ⟨_, c, [], isCapital_of_back h hmoved ?_⟩
      rcases hundone with hundone | hpoints
      · rw [upperChar_of_undone hr hcovers hundone, Char.ofNat_toNat]
      · rcases hpoints _ (CaseRun.mem_points hcovers) with (hmem | hmem) | hupper
        · exact absurd hmem hunpaired
        · exact absurd hmem htitle
        · rw [hupper, Char.ofNat_toNat]

end Hypermedia.Text
