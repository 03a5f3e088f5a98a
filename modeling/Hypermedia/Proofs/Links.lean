import Hypermedia.Link.Page
import Hypermedia.Proofs.Digits
import Hypermedia.Web.Encoding

/-!
# Links to windows

The query that a page's link carries is read as the window that the link was made for, so a client that
follows it asks for just that window.
-/

namespace Hypermedia

/-! ### ASCII texts as bytes -/

namespace Text

theorem toList_loop (bytes : ByteArray) (i : Nat) (done : List UInt8) :
    ByteArray.toList.loop bytes i done = done.reverse ++ bytes.data.toList.drop i := by
  fun_induction ByteArray.toList.loop bytes i done with
  | case1 i done h ih =>
    have hi : i < bytes.data.toList.length := by simpa using h
    rw [ih, List.drop_eq_getElem_cons hi]
    simp [ByteArray.get!, h]
  | case2 i done h =>
    rw [List.drop_eq_nil_of_le (by simpa using Nat.le_of_not_lt h)]
    simp

theorem toUTF8_ascii {cs : List Char} (h : ∀ c ∈ cs, c.toNat < 128) :
    (String.ofList cs).toUTF8.toList = cs.map fun c => UInt8.ofNat c.toNat := by
  have hbytes : cs.flatMap String.utf8EncodeChar = cs.map fun c => UInt8.ofNat c.toNat := by
    induction cs with
    | nil => rfl
    | cons c cs ih =>
      have hc : c.val.toNat ≤ 127 := Nat.le_of_lt_succ (h c (List.mem_cons_self ..))
      have hchar : String.utf8EncodeChar c = [UInt8.ofNat c.toNat] := by
        simp only [String.utf8EncodeChar, if_pos hc]
        rfl
      rw [List.flatMap_cons, hchar, ih fun x hx => h x (List.mem_cons_of_mem _ hx)]
      rfl
  rw [ByteArray.toList, toList_loop, String.toUTF8_eq_toByteArray, String.toByteArray_ofList,
    List.utf8Encode, hbytes, List.toList_data_toByteArray]
  rfl

theorem toNat_of_ascii {c : Char} (h : c.toNat < 128) : (UInt8.ofNat c.toNat).toNat = c.toNat := by
  rw [UInt8.toNat_ofNat']
  omega

theorem decodeParts_ascii {cs : List Char} (h : ∀ c ∈ cs, c.toNat < 128) :
    decodeParts cs.length (cs.map fun c => UInt8.ofNat c.toNat) = cs.map some := by
  induction cs with
  | nil => rfl
  | cons c cs ih =>
    have hc : c.toNat < 128 := h c (List.mem_cons_self ..)
    have hnext : ∀ rest, nextChar (UInt8.ofNat c.toNat) rest = (some c, rest) := by
      intro rest
      simp only [nextChar, toNat_of_ascii hc, if_pos (show c.toNat < 0x80 from hc), Char.ofNat_toNat]
    simp only [List.length_cons, List.map_cons, decodeParts, hnext,
      ih fun x hx => h x (List.mem_cons_of_mem _ hx)]

theorem decode?_ascii {cs : List Char} (h : ∀ c ∈ cs, c.toNat < 128) :
    decode? (cs.map fun c => UInt8.ofNat c.toNat) = some (String.ofList cs) := by
  simp only [decode?, List.length_map, decodeParts_ascii h]
  simp

theorem decodeLossy_ascii {cs : List Char} (h : ∀ c ∈ cs, c.toNat < 128) :
    decodeLossy (cs.map fun c => UInt8.ofNat c.toNat) = String.ofList cs := by
  rw [decodeLossy, List.length_map, decodeParts_ascii h, List.map_map]
  simp [Function.comp_def]

end Text

/-! ### Queries without escapes -/

namespace Web

/-- Without a percent sign there are no escapes. -/
theorem percentDecode_ascii {cs : List Char} (h : ∀ c ∈ cs, c.toNat < 128) (hescape : '%' ∉ cs) :
    percentDecode (cs.map fun c => UInt8.ofNat c.toNat) = cs.map fun c => UInt8.ofNat c.toNat := by
  induction cs with
  | nil => rfl
  | cons c cs ih =>
    have hrest := ih (fun x hx => h x (List.mem_cons_of_mem _ hx)) fun hm =>
      hescape (List.mem_cons_of_mem _ hm)
    have hc : UInt8.ofNat c.toNat ≠ 37 := by
      intro he
      have hcode : c.toNat = 37 := by
        have := congrArg UInt8.toNat he
        rwa [Text.toNat_of_ascii (h c (List.mem_cons_self ..))] at this
      have hpercent : c = '%' := by rw [← Char.ofNat_toNat c, hcode]
      exact hescape (hpercent ▸ List.mem_cons_self ..)
    rw [List.map_cons, percentDecode, hrest]
    exact fun _ _ _ he => absurd he hc

/-- An ASCII character that stands for itself wherever it comes in a query. -/
def isPlain (c : Char) : Bool :=
  decide (c.toNat < 128) && c != '%' && c != '+' && c != '&' && c != '='

section
variable {cs : List Char} (h : ∀ c ∈ cs, isPlain c = true)

include h

theorem plain_ascii : ∀ c ∈ cs, c.toNat < 128 := by
  intro c hc
  have hplain := h c hc
  simp only [isPlain, Bool.and_eq_true, decide_eq_true_eq] at hplain
  exact hplain.1.1.1.1

theorem notMem_of_plain {c : Char} (hc : isPlain c = false) : c ∉ cs := by
  intro hm
  rw [h c hm] at hc
  cases hc

theorem percentDecode_plain :
    percentDecode (cs.map fun c => UInt8.ofNat c.toNat) = cs.map fun c => UInt8.ofNat c.toNat :=
  percentDecode_ascii (plain_ascii h) (notMem_of_plain h (by decide))

theorem decodeFormPart_plain : decodeFormPart cs = String.ofList cs := by
  have hspaced : cs.map (fun c => if c = '+' then ' ' else c) = cs := by
    refine (List.map_congr_left fun c hc => if_neg ?_).trans (List.map_id cs)
    rintro rfl
    exact notMem_of_plain h (by decide) hc
  rw [decodeFormPart, hspaced, Text.toUTF8_ascii (plain_ascii h), percentDecode_plain h,
    Text.decodeLossy_ascii (plain_ascii h)]

end

theorem isPlain_of_isDigit {c : Char} (h : Decimal.isDigit c = true) : isPlain c = true := by
  have hrange := Decimal.toNat_of_isDigit h
  have hne : ∀ x : Char, x.toNat < 48 ∨ 57 < x.toNat → c ≠ x := by
    rintro x hx rfl
    omega
  simp only [isPlain, Bool.and_eq_true, decide_eq_true_eq, bne_iff_ne]
  exact ⟨⟨⟨⟨by omega, hne _ (by decide)⟩, hne _ (by decide)⟩, hne _ (by decide)⟩, hne _ (by decide)⟩

theorem formPair_plain {name value : List Char} (hname : ∀ c ∈ name, isPlain c = true)
    (hvalue : ∀ c ∈ value, isPlain c = true) :
    formPair (name ++ '=' :: value) = (String.ofList name, String.ofList value) := by
  rw [formPair, Text.cutFirst_of_notMem (notMem_of_plain hname (by decide))]
  dsimp only
  rw [decodeFormPart_plain hname, decodeFormPart_plain hvalue]

theorem decodeForm_pair {a b x y : List Char} (ha : ∀ c ∈ a, isPlain c = true)
    (hb : ∀ c ∈ b, isPlain c = true) (hx : ∀ c ∈ x, isPlain c = true) (hy : ∀ c ∈ y, isPlain c = true)
    (hab : String.ofList a ≠ String.ofList b) :
    decodeForm (String.ofList ((a ++ '=' :: x) ++ '&' :: (b ++ '=' :: y))) =
      [(String.ofList a, String.ofList x), (String.ofList b, String.ofList y)] := by
  have hsplit : ∀ {name value : List Char}, (∀ c ∈ name, isPlain c = true) →
      (∀ c ∈ value, isPlain c = true) →
      Text.splitChars '&' (name ++ '=' :: value) = [name ++ '=' :: value] := by
    intro name value hname hvalue
    refine Text.splitChars_of_notMem fun hm => ?_
    rcases List.mem_append.mp hm with hm | hm
    · exact notMem_of_plain hname (by decide) hm
    · rcases List.mem_cons.mp hm with hm | hm
      · exact absurd hm (by decide)
      · exact notMem_of_plain hvalue (by decide) hm
  rw [decodeForm, String.toList_ofList, Text.splitChars_append, hsplit ha hx, hsplit hb hy]
  simp [formPair_plain ha hx, formPair_plain hb hy, putText, hab]

end Web

/-! ### Windows of links -/

/-- A window that can be asked for as it is: its numbers are no larger than the largest, and its limit is
not zero. -/
structure Filter.Window.Fits (w : Filter.Window) : Prop where
  offset : w.offset ≤ Filter.Window.largest
  limit : w.limit ≤ Filter.Window.largest
  pos : 0 < w.limit

theorem Filter.Window.Fits.ofQuery {w : Filter.Window} (h : w.Fits) {query : Filter.Texts}
    (ho : query.get? "offset" = some (toString w.offset))
    (hl : query.get? "limit" = some (toString w.limit)) (defaultLimit : Nat) :
    Filter.Window.ofQuery query defaultLimit = w := by
  have hread : ∀ n, n ≤ Filter.Window.largest → Decimal.uint64? (Text.trim (toString n)) = some n := by
    intro n hn
    have hlargest : Filter.Window.largest < Decimal.twoTo 64 := by decide
    rw [Text.trim_toString, Decimal.uint64?_toString (Nat.lt_of_le_of_lt hn hlargest)]
  simp only [Filter.Window.ofQuery, ho, hl, Option.bind_some, hread _ h.offset, hread _ h.limit]
  simp [Option.filter, h.pos, Nat.min_eq_left h.limit, Nat.min_eq_left h.offset]

namespace Link

/-- The window that the query of a link asks for, where the link begins with `base` and a question
mark. -/
def window (base : String) (defaultLimit : Nat) (link : String) : Filter.Window :=
  Filter.Window.ofQuery
    (Web.decodeForm (String.ofList (link.toList.drop (base.length + 1)))) defaultLimit

theorem toList_windowLink (base : String) (limit offset : Nat) :
    (windowLink base limit offset).toList = base.toList ++ '?' ::
      (("offset".toList ++ '=' :: (toString offset).toList) ++
        '&' :: ("limit".toList ++ '=' :: (toString limit).toList)) := by
  simp [windowLink]

/-- Behind the base and the question mark stands the query. -/
theorem drop_windowLink (base : String) (limit offset : Nat) :
    (windowLink base limit offset).toList.drop (base.length + 1) =
      ("offset".toList ++ '=' :: (toString offset).toList) ++
        '&' :: ("limit".toList ++ '=' :: (toString limit).toList) := by
  rw [toList_windowLink, ← String.length_toList, List.drop_append]
  simp

theorem isDigit_of_mem_toString {n : Nat} {c : Char} (h : c ∈ (toString n).toList) :
    Decimal.isDigit c = true := by
  have hchars : (toString n).toList = Nat.toDigits 10 n := Nat.toList_repr
  exact Decimal.isDigit_of_mem_toDigits (hchars ▸ h)

theorem decodeForm_windowLink (base : String) (limit offset : Nat) :
    Web.decodeForm (String.ofList ((windowLink base limit offset).toList.drop (base.length + 1))) =
      [("offset", toString offset), ("limit", toString limit)] := by
  have hdigits : ∀ n : Nat, ∀ c ∈ (toString n).toList, Web.isPlain c = true :=
    fun n c hc => Web.isPlain_of_isDigit (isDigit_of_mem_toString hc)
  have hoffset : ∀ c ∈ "offset".toList, Web.isPlain c = true := List.all_eq_true.mp (by decide)
  have hlimit : ∀ c ∈ "limit".toList, Web.isPlain c = true := List.all_eq_true.mp (by decide)
  rw [drop_windowLink, Web.decodeForm_pair hoffset hlimit (hdigits offset) (hdigits limit) (by decide)]
  simp only [String.ofList_toList]

/-- A link to a window that fits leads to that window. -/
theorem window_windowLink (base : String) (defaultLimit : Nat) {offset limit : Nat}
    (h : Filter.Window.Fits ⟨offset, limit⟩) :
    window base defaultLimit (windowLink base limit offset) = ⟨offset, limit⟩ := by
  rw [window, decodeForm_windowLink]
  exact h.ofQuery rfl rfl defaultLimit

end Link

end Hypermedia
