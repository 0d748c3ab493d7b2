import IncrementalGlr.Proofs.Text.Boundary
import IncrementalGlr.Regex.Pattern

/-!
Matches end at character boundaries. A run that begins at a boundary reads character by character:
between characters it stands at a boundary, and within one it knows how many bytes are missing to
the next (`State.At`). It accepts between characters only (`isBoundary_of_run`).
-/
namespace IncrementalGlr.Pattern

open Text

/-- Where the state of a run can stand in a text. -/
def State.At (text : String) (offset : Nat) (s : State) : Prop :=
  match s.inside with
  | none => IsBoundary text offset
  | some c => 0 < c.missing ∧ IsBoundary text (offset + c.missing)

/-- The first byte of a character of several bytes says how many are missing. -/
theorem missing_begin {b : UInt8} (h : 0x80 ≤ b) :
    (Partial.begin b).missing + 1 = charWidth b ∧ 0 < (Partial.begin b).missing := by
  have h : 128 ≤ b.toNat := UInt8.le_iff_toNat_le.1 h
  simp only [Partial.begin, charWidth, UInt8.lt_iff_toNat_lt, UInt8.reduceToNat]
  rw [if_neg (Nat.not_lt.2 h)]
  split
  · exact ⟨rfl, Nat.one_pos⟩
  · split
    · exact ⟨rfl, Nat.two_pos⟩
    · exact ⟨rfl, Nat.succ_pos 2⟩

theorem State.At.next {text : String} {offset : Nat} {s : State} (h : s.At text offset)
    (ho : offset < text.toByteArray.size) :
    (s.next text.toByteArray[offset]).At text (offset + 1) := by
  obtain ⟨before, threads, inside⟩ := s
  cases inside with
  | none =>
    have hnext := IsBoundary.add_charWidth h ho
    unfold State.next
    dsimp only
    split
    · next hascii =>
      rw [charWidth, if_pos hascii] at hnext
      exact hnext
    · next hascii =>
      obtain ⟨hwidth, hpos⟩ := missing_begin (UInt8.not_lt.1 hascii)
      refine ⟨hpos, ?_⟩
      rw [← hwidth] at hnext
      rw [Nat.add_right_comm]
      exact hnext
  | some c =>
    obtain ⟨hpos, hnext⟩ := h
    unfold State.next
    dsimp only
    split
    · next hone =>
      have : c.missing = 1 := by omega
      rw [this] at hnext
      exact hnext
    · next hmore =>
      refine ⟨by dsimp only; omega, ?_⟩
      dsimp only
      rwa [show offset + 1 + (c.missing - 1) = offset + c.missing by omega]

theorem State.At.of_accepts {text : String} {offset : Nat} {s : State} (h : s.At text offset)
    {after : Option UInt8} (ha : s.accepts after = true) : IsBoundary text offset := by
  unfold State.At at h
  simp only [State.accepts, Bool.and_eq_true, Option.isNone_iff_eq_none] at ha
  rwa [ha.1] at h

theorem isBoundary_of_runFrom {text : String} (p : Pattern) {bytes : ByteArray}
    (hb : bytes = text.toByteArray) {start offset : Nat} {s : State} {last : Option Nat}
    (hs : s.At text offset) (ho : start ≤ offset)
    (hlast : ∀ n, last = some n → IsBoundary text (start + n)) {n : Nat}
    (h : (p.runFrom bytes start offset s last).longest = some n) :
    IsBoundary text (start + n) := by
  subst hb
  fun_induction Pattern.runFrom p text.toByteArray start offset s last with
  | case1 => exact hlast n h
  | case2 offset s last hlt b hascii matched next hm ih =>
    refine ih (hs.next hlt) (by omega) ?_ h
    rintro _ ⟨⟩
    rw [Nat.add_sub_cancel' ho]
    exact hs.of_accepts hm
  | case3 offset s last hlt b hascii matched next hm halive ih =>
    exact ih (hs.next hlt) (by omega) hlast h
  | case4 => exact hlast n h
  | case5 offset s last hend =>
    dsimp only at h
    split at h
    · next ha =>
      obtain rfl := Option.some.inj h
      have hbound := hs.of_accepts ha
      have hle := hbound.le_size
      rw [String.size_toByteArray] at hend ⊢
      rw [show start + (text.utf8ByteSize - start) = text.utf8ByteSize by omega]
      exact isBoundary_size
    · exact hlast n h

/-- From a boundary every match leads to one. -/
theorem isBoundary_of_run {text : String} (p : Pattern) {bytes : ByteArray}
    (hb : bytes = text.toByteArray) {start : Nat} (hs : IsBoundary text start) {n : Nat}
    (h : (p.run bytes start).longest = some n) : IsBoundary text (start + n) :=
  isBoundary_of_runFrom p hb (s := ⟨_, [p.regex], none⟩) hs (Nat.le_refl start)
    (fun _ h => by cases h) h

theorem le_size_of_runFrom (p : Pattern) {bytes : ByteArray} {start offset : Nat} {s : State}
    {last : Option Nat} (ho : start ≤ offset) (hstart : start ≤ bytes.size)
    (hlast : ∀ n, last = some n → start + n ≤ bytes.size) {n : Nat}
    (h : (p.runFrom bytes start offset s last).longest = some n) : start + n ≤ bytes.size := by
  fun_induction Pattern.runFrom p bytes start offset s last with
  | case1 => exact hlast n h
  | case2 offset s last hlt b hascii matched next hm ih =>
    refine ih (by omega) ?_ h
    rintro _ ⟨⟩
    omega
  | case3 offset s last hlt b hascii matched next hm halive ih => exact ih (by omega) hlast h
  | case4 => exact hlast n h
  | case5 offset s last hend =>
    dsimp only at h
    split at h
    · obtain rfl := Option.some.inj h
      omega
    · exact hlast n h

/-- No match goes beyond the text, wherever it begins. -/
theorem le_size_of_run (p : Pattern) {bytes : ByteArray} {start : Nat} (hstart : start ≤ bytes.size)
    {n : Nat} (h : (p.run bytes start).longest = some n) : start + n ≤ bytes.size :=
  p.le_size_of_runFrom (Nat.le_refl start) hstart (fun _ h => by cases h) h

/-- Behind the text nothing but the empty text matches. -/
theorem eq_zero_of_run (p : Pattern) {bytes : ByteArray} {start n : Nat} (hsize : bytes.size ≤ start)
    (h : (p.run bytes start).longest = some n) : n = 0 := by
  unfold run at h
  dsimp only at h
  generalize (if start = 0 then none else bytes[start - 1]?) = before at h
  rw [runFrom, dif_neg (Nat.not_lt.2 hsize)] at h
  dsimp only at h
  split at h
  · have := Option.some.inj h
    omega
  · cases h

end IncrementalGlr.Pattern
