import IncrementalGlr.Text.Utf8

/-!
Character boundaries. An offset is a boundary if it does not stand within a character. From a
boundary the first byte of a character says how far the next one is
(`IsBoundary.add_charWidth`), texts that are matched as a whole lead from boundary to boundary
(`IsBoundary.of_extract`), and slices between boundaries put together give the text again
(`slice_append`).

Where two texts begin alike, having so many bytes in common (`Agree`), they have the same boundaries before
the last of these bytes, the same characters as far as these bytes go, and the same slices
(`Agree.isBoundary_iff`, `Agree.charAt?_eq`, `Agree.slice_eq`).
-/
namespace IncrementalGlr.Text

/-- The offset stands between two characters, or at an end of the text. -/
def IsBoundary (text : String) (offset : Nat) : Prop := (⟨offset⟩ : String.Pos.Raw).IsValid text

variable {text : String} {p q r : Nat}

theorem isBoundary_zero : IsBoundary text 0 := String.Pos.Raw.isValid_zero

theorem isBoundary_size : IsBoundary text text.utf8ByteSize := String.Pos.Raw.isValid_rawEndPos

theorem IsBoundary.le_size (h : IsBoundary text p) : p ≤ text.utf8ByteSize := h.le_utf8ByteSize

/-- Bytes that are a text of their own lead from boundary to boundary. -/
theorem IsBoundary.of_extract (h : IsBoundary text p) (hpq : p ≤ q) (hq : q ≤ text.utf8ByteSize)
    (hu : (text.toByteArray.extract p q).IsValidUTF8) : IsBoundary text q := by
  rcases (String.Pos.Raw.isValidUTF8_extract_iff (s := text) ⟨p⟩ ⟨q⟩ hpq hq).1 hu with heq | ⟨-, hq⟩
  · cases heq
    exact h
  · exact hq

/-! ## Characters -/

theorem charWidth_eq (b : UInt8) (h : b.IsUTF8FirstByte) : charWidth b = b.utf8ByteSize h := by
  have all : ∀ n : Fin 256, ∀ h : (UInt8.ofNat n).IsUTF8FirstByte,
      charWidth (UInt8.ofNat n) = (UInt8.ofNat n).utf8ByteSize h := by decide +kernel
  have := all ⟨b.toNat, b.toNat_lt⟩
  simp only [UInt8.ofNat_toNat] at this
  exact this h

theorem IsBoundary.pos?_eq (h : IsBoundary text p) : text.pos? ⟨p⟩ = some (text.pos ⟨p⟩ h) := by
  simp only [String.pos?, String.Slice.pos?]
  rw [dif_pos (String.Pos.Raw.isValidForSlice_eq_true_iff.2 h.toSlice)]
  rfl

/-- At a boundary a character begins, and its first byte says how many bytes it has. -/
theorem IsBoundary.exists_char (h : IsBoundary text p) (hp : p < text.toByteArray.size) :
    ∃ c : Char, charAt? text p = some c ∧ charWidth text.toByteArray[p] = c.utf8Size ∧
      IsBoundary text (p + c.utf8Size) := by
  have hne : text.pos ⟨p⟩ h ≠ text.endPos := by
    intro heq
    have : p = text.utf8ByteSize := congrArg (fun x : text.Pos => x.offset.byteIdx) heq
    rw [String.size_toByteArray] at hp
    omega
  have hbyte : (text.pos ⟨p⟩ h).byte hne = text.toByteArray[p] := by
    simp only [String.Pos.byte, String.Slice.Pos.byte, String.Slice.getUTF8Byte,
      String.getUTF8Byte, String.str_toSlice, String.Pos.offset_toSlice,
      String.startInclusive_toSlice, String.offset_startPos, String.Pos.Raw.offsetBy_zero]
    rfl
  refine ⟨(text.pos ⟨p⟩ h).get hne, ?_, ?_, ?_⟩
  · rw [charAt?, h.pos?_eq, Option.bind_some]
    exact String.Pos.get?_eq_some_get hne
  · rw [← String.Pos.utf8ByteSize_byte, ← hbyte]
    exact charWidth_eq _ String.Pos.isUTF8FirstByte_byte
  · have := ((text.pos ⟨p⟩ h).next hne).isValid
    rwa [String.Pos.offset_next] at this

theorem isBoundary_of_pos? {pos : text.Pos} (h : text.pos? ⟨p⟩ = some pos) : IsBoundary text p := by
  simp only [String.pos?, String.Slice.pos?] at h
  split at h
  · next hvalid =>
    have hslice := String.Pos.Raw.isValidForSlice_eq_true_iff.1 hvalid
    exact String.Pos.Raw.isValidForSlice_toSlice_iff.1 hslice
  · cases h

/-- Only at a boundary there is a character. -/
theorem isBoundary_of_charAt? {c : Char} (h : charAt? text p = some c) : IsBoundary text p := by
  obtain ⟨pos, hpos, -⟩ := Option.bind_eq_some_iff.1 h
  exact isBoundary_of_pos? hpos

theorem IsBoundary.add_charWidth (h : IsBoundary text p) (hp : p < text.toByteArray.size) :
    IsBoundary text (p + charWidth text.toByteArray[p]) := by
  obtain ⟨c, -, hwidth, hnext⟩ := h.exists_char hp
  rwa [hwidth]

/-! ## Slices -/

theorem toByteArray_slice (hp : IsBoundary text p) (hq : IsBoundary text q) :
    (slice text p q).toByteArray = text.toByteArray.extract p q := by
  rw [slice, hp.pos?_eq, hq.pos?_eq]
  rfl

/-- A slice has no more bytes than lie between its ends. -/
theorem utf8ByteSize_slice_le (text : String) (p q : Nat) :
    (slice text p q).utf8ByteSize ≤ q - p := by
  cases hp : text.pos? ⟨p⟩ with
  | none =>
    rw [slice, hp]
    exact Nat.zero_le _
  | some a =>
    cases hq : text.pos? ⟨q⟩ with
    | none =>
      rw [slice, hp, hq]
      exact Nat.zero_le _
    | some b =>
      rw [← String.size_toByteArray,
        toByteArray_slice (isBoundary_of_pos? hp) (isBoundary_of_pos? hq), ByteArray.size_extract]
      omega

theorem slice_append (hp : IsBoundary text p) (hq : IsBoundary text q) (hr : IsBoundary text r)
    (hpq : p ≤ q) (hqr : q ≤ r) : slice text p q ++ slice text q r = slice text p r := by
  rw [← String.toByteArray_inj, String.toByteArray_append, toByteArray_slice hp hq,
    toByteArray_slice hq hr, toByteArray_slice hp hr]
  exact (ByteArray.extract_eq_extract_append_extract q hpq hqr).symm

theorem slice_self (hp : IsBoundary text p) : slice text p p = "" := by
  rw [← String.toByteArray_inj, toByteArray_slice hp hp, ByteArray.extract_same]
  rfl

theorem slice_zero_size : slice text 0 text.utf8ByteSize = text := by
  rw [← String.toByteArray_inj, toByteArray_slice isBoundary_zero isBoundary_size,
    ← String.size_toByteArray, ByteArray.extract_zero_size]

/-! ## Texts that begin alike -/

/-- Both have so many bytes, and these are the same. -/
structure Agree (a b : ByteArray) (n : Nat) : Prop where
  left : n ≤ a.size
  right : n ≤ b.size
  same : ∀ i < n, a[i]? = b[i]?

namespace Agree

variable {a b : ByteArray} {n : Nat}

theorem symm (h : Agree a b n) : Agree b a n := ⟨h.right, h.left, fun i hi => (h.same i hi).symm⟩

theorem getElem (h : Agree a b n) (hp : p < n) (ha : p < a.size) (hb : p < b.size) :
    a[p] = b[p] := by
  have same := h.same p hp
  rw [getElem?_pos a p ha, getElem?_pos b p hb] at same
  exact Option.some.inj same

theorem extract (h : Agree a b n) (hq : q ≤ n) : a.extract p q = b.extract p q := by
  have left := h.left
  have right := h.right
  refine ByteArray.ext_getElem ?_ fun i hi hi' => ?_
  · rw [ByteArray.size_extract, ByteArray.size_extract]
    omega
  · rw [ByteArray.size_extract] at hi
    rw [ByteArray.getElem_extract, ByteArray.getElem_extract]
    exact h.getElem (by omega) _ _

/-- A character of one is a character of the other. -/
theorem utf8DecodeChar? (h : Agree a b n) {c : Char} (hc : a.utf8DecodeChar? p = some c)
    (hn : p + c.utf8Size ≤ n) : b.utf8DecodeChar? p = some c := by
  have begins := hc
  rw [ByteArray.utf8DecodeChar?_eq_utf8DecodeChar?_extract] at begins
  have encoded : a.extract p (p + c.utf8Size) = (String.utf8EncodeChar c).toByteArray := by
    have size : (String.utf8EncodeChar c).toByteArray.size = c.utf8Size := by simp
    have front := ByteArray.eq_of_utf8DecodeChar?_eq_some begins
    calc
      a.extract p (p + c.utf8Size) = (a.extract p a.size).extract 0 c.utf8Size := by
        have := h.left
        rw [ByteArray.extract_extract, Nat.add_zero, Nat.min_eq_left (by omega)]
      _ = (String.utf8EncodeChar c).toByteArray := by
        rw [front, ByteArray.extract_append_eq_left size.symm]
  rw [ByteArray.utf8DecodeChar?_eq_utf8DecodeChar?_extract,
    ByteArray.extract_eq_extract_append_extract (p + c.utf8Size) (Nat.le_add_right _ _)
      (Nat.le_trans hn h.right), ← h.extract hn, encoded]
  exact ByteArray.utf8DecodeChar?_utf8EncodeChar_append

end Agree

variable {text text' : String} {n p q : Nat}

theorem charAt?_eq_utf8DecodeChar? (text : String) (p : Nat) :
    charAt? text p = text.toByteArray.utf8DecodeChar? p := by
  cases hdecode : text.toByteArray.utf8DecodeChar? p with
  | some c =>
    have hbound : IsBoundary text p :=
      String.Pos.Raw.isValid_iff_isSome_utf8DecodeChar?.2 (.inr (by rw [hdecode]; rfl))
    have hlt : p < text.utf8ByteSize := by
      have := ByteArray.le_size_of_utf8DecodeChar?_eq_some hdecode
      have := c.utf8Size_pos
      rw [String.size_toByteArray] at *
      omega
    have hne : text.pos ⟨p⟩ hbound ≠ text.endPos := by
      intro heq
      have : p = text.utf8ByteSize := congrArg (fun x : text.Pos => x.offset.byteIdx) heq
      omega
    have hget := String.Slice.Pos.get_eq_utf8DecodeChar (text.pos ⟨p⟩ hbound).toSlice
      (by simpa using hne)
    simp only [String.Pos.get_toSlice, String.str_toSlice, String.startInclusive_toSlice,
      String.offset_startPos, String.Pos.Raw.byteIdx_zero, String.Pos.offset_toSlice,
      Nat.zero_add] at hget
    rw [charAt?, hbound.pos?_eq, Option.bind_some, String.Pos.get?_eq_some_get hne, hget,
      ByteArray.utf8DecodeChar, Option.some_get]
    exact hdecode
  | none =>
    cases hchar : charAt? text p with
    | none => rfl
    | some c =>
      have hbound := isBoundary_of_charAt? hchar
      rcases String.Pos.Raw.isValid_iff_isSome_utf8DecodeChar?.1 hbound with hend | hsome
      · have heq : text.pos ⟨p⟩ hbound = text.endPos := String.Pos.ext hend
        rw [charAt?, hbound.pos?_eq, heq] at hchar
        simp at hchar
      · rw [hdecode] at hsome
        cases hsome

/-- A character ends within the text. -/
theorem add_utf8Size_le_of_charAt? {c : Char} (h : charAt? text p = some c) :
    p + c.utf8Size ≤ text.utf8ByteSize := by
  rw [charAt?_eq_utf8DecodeChar?] at h
  rw [← String.size_toByteArray]
  exact ByteArray.le_size_of_utf8DecodeChar?_eq_some h

theorem pos?_eq_none (h : ¬ IsBoundary text p) : text.pos? ⟨p⟩ = none := by
  cases hpos : text.pos? ⟨p⟩ with
  | none => rfl
  | some _ => exact absurd (isBoundary_of_pos? hpos) h

theorem slice_eq_empty (h : ¬ (IsBoundary text p ∧ IsBoundary text q)) : slice text p q = "" := by
  by_cases hp : IsBoundary text p
  · rw [slice, pos?_eq_none fun hq => h ⟨hp, hq⟩]
    cases text.pos? ⟨p⟩ <;> rfl
  · rw [slice, pos?_eq_none hp]

/-- Whether a character begins at a byte is told by that byte. -/
theorem isBoundary_iff_isUTF8FirstByte (hp : p < text.toByteArray.size) :
    IsBoundary text p ↔ text.toByteArray[p].IsUTF8FirstByte := by
  have inside : (⟨p⟩ : String.Pos.Raw) < text.rawEndPos := by
    rwa [String.size_toByteArray] at hp
  have hne : (⟨p⟩ : String.Pos.Raw) ≠ text.rawEndPos := by
    rintro heq
    exact Nat.lt_irrefl _ (heq ▸ inside : text.rawEndPos < text.rawEndPos)
  unfold IsBoundary
  rw [String.Pos.Raw.isValid_iff_isUTF8FirstByte]
  constructor
  · rintro (heq | ⟨_, hfirst⟩)
    · exact absurd heq hne
    · exact hfirst
  · exact fun hfirst => .inr ⟨inside, hfirst⟩

namespace Agree

variable (h : Agree text.toByteArray text'.toByteArray n)
include h

theorem isBoundary_iff (hp : p < n) : IsBoundary text p ↔ IsBoundary text' p := by
  have inside := Nat.lt_of_lt_of_le hp h.left
  have inside' := Nat.lt_of_lt_of_le hp h.right
  rw [isBoundary_iff_isUTF8FirstByte inside, isBoundary_iff_isUTF8FirstByte inside',
    h.getElem hp inside inside']

theorem charAt?_eq {c : Char} (hc : charAt? text p = some c) (hn : p + c.utf8Size ≤ n) :
    charAt? text' p = some c := by
  rw [charAt?_eq_utf8DecodeChar?] at hc ⊢
  exact h.utf8DecodeChar? hc hn

/-- Where no character begins in one, none begins in the other. -/
theorem charAt?_eq_none (hc : charAt? text p = none) (hp : p < n) : charAt? text' p = none := by
  cases hc' : charAt? text' p with
  | none => rfl
  | some c =>
    have hbound := (h.isBoundary_iff hp).2 (isBoundary_of_charAt? hc')
    obtain ⟨c, hsome, -⟩ := hbound.exists_char (Nat.lt_of_lt_of_le hp h.left)
    cases hc.symm.trans hsome

theorem slice_eq (hp : p < n) (hq : q < n) : slice text p q = slice text' p q := by
  by_cases bounds : IsBoundary text p ∧ IsBoundary text q
  · have bounds' := bounds
    rw [h.isBoundary_iff hp, h.isBoundary_iff hq] at bounds'
    rw [← String.toByteArray_inj, toByteArray_slice bounds.1 bounds.2,
      toByteArray_slice bounds'.1 bounds'.2]
    exact h.extract (Nat.le_of_lt hq)
  · have bounds' := bounds
    rw [h.isBoundary_iff hp, h.isBoundary_iff hq] at bounds'
    rw [slice_eq_empty bounds, slice_eq_empty bounds']

end Agree

end IncrementalGlr.Text
