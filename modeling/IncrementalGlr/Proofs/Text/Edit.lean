import IncrementalGlr.Parse.Reuse
import IncrementalGlr.Proofs.Text.Boundary

/-!
Offsets across an edit. Splicing leaves the bytes in front of the replaced part where they stand and
moves those behind it by one distance (`Edit.Shifts`). From this follows all that reuse relies on at
the borders of the replaced part, whether it is empty or not, and wherever it lies: offsets are
carried over in order and back again, and a range that was not touched stands in the new text with
the byte next to it (`Edit.carries_of_splice`).
-/
namespace IncrementalGlr.Edit

/-- The edit fits into the old bytes, and the new bytes are the old ones with the replaced part
exchanged. -/
structure Shifts (e : Edit) (old new : ByteArray) : Prop where
  start_le_oldEnd : e.start ≤ e.oldEnd
  start_le_newEnd : e.start ≤ e.newEnd
  oldEnd_le : e.oldEnd ≤ old.size
  size : new.size + e.oldEnd = old.size + e.newEnd
  before : ∀ i < e.start, new[i]? = old[i]?
  after : ∀ i, new[e.newEnd + i]? = old[e.oldEnd + i]?

/-- Offsets of the old text and of the new one go together. -/
structure Carries (e : Edit) (old new : ByteArray) : Prop where
  length : e.newTextLen old.size = some new.size
  monotone : ∀ i j, i ≤ j → j ≤ old.size → e.mapOffset i ≤ e.mapOffset j
  bytes : ∀ (i : Nat) (h : i < old.size), i < e.start ∨ e.oldEnd ≤ i →
    new[e.mapOffset i]? = some old[i]
  back : ∀ p, p < e.start ∨ e.newEnd ≤ p →
    ∃ i, ReuseCursor.oldOffset e p = some i ∧ e.mapOffset i = p
  untouched : ∀ s t, s ≤ t → t ≤ old.size → e.touches s t = false →
    (t < e.start ∧ ∀ i ≤ t, ∃ b, old[i]? = some b ∧ new[i]? = some b) ∨
    (e.oldEnd < s ∧ ∀ (i : Nat) (h : i < old.size), s - 1 ≤ i →
      ∃ j : Nat, (j : Int) = i + e.delta ∧ new[j]? = some old[i])

variable {e : Edit} {old new : ByteArray}

/-! ## Offsets -/

theorem mapOffset_of_lt {i : Nat} (h : i < e.start) : e.mapOffset i = i := if_pos h

/-- Behind the replaced part offsets keep their distance to its end. -/
theorem mapOffset_of_le {i : Nat} (hstart : e.start ≤ e.oldEnd) (h : e.oldEnd ≤ i) :
    e.mapOffset i = e.newEnd + (i - e.oldEnd) := by
  rw [mapOffset, if_neg (by omega), if_pos h, delta]
  omega

theorem mapOffset_of_inside {i : Nat} (hstart : e.start ≤ i) (hend : i < e.oldEnd) :
    e.mapOffset i = e.newEnd := by
  rw [mapOffset, if_neg (by omega), if_neg (by omega)]

theorem mapOffset_mono (hstart : e.start ≤ e.oldEnd) (hnew : e.start ≤ e.newEnd) {i j : Nat}
    (h : i ≤ j) : e.mapOffset i ≤ e.mapOffset j := by
  rcases Nat.lt_or_ge j e.start with hj | hj
  · rwa [mapOffset_of_lt hj, mapOffset_of_lt (by omega)]
  rcases Nat.lt_or_ge i e.start with hi | hi
  · -- What lies before the start stays there, and nothing else gets there.
    rw [mapOffset_of_lt hi]
    rcases Nat.lt_or_ge j e.oldEnd with hj' | hj'
    · rw [mapOffset_of_inside hj hj']
      omega
    · rw [mapOffset_of_le hstart hj']
      omega
  rcases Nat.lt_or_ge i e.oldEnd with hi' | hi'
  · rw [mapOffset_of_inside hi hi']
    rcases Nat.lt_or_ge j e.oldEnd with hj' | hj'
    · exact Nat.le_of_eq (mapOffset_of_inside hj hj').symm
    · rw [mapOffset_of_le hstart hj']
      omega
  · rw [mapOffset_of_le hstart hi', mapOffset_of_le hstart (by omega)]
    omega

/-- Behind the replacement there is an old offset for each new one. -/
theorem oldOffset_of_le {p : Nat} (hnew : e.start ≤ e.newEnd) (h : e.newEnd ≤ p) :
    ReuseCursor.oldOffset e p = some (e.oldEnd + (p - e.newEnd)) := by
  rw [ReuseCursor.oldOffset, if_neg (by omega), if_pos h, delta]
  exact congrArg some (by omega)

theorem mapOffset_oldOffset (hstart : e.start ≤ e.oldEnd) (hnew : e.start ≤ e.newEnd) {p : Nat}
    (h : p < e.start ∨ e.newEnd ≤ p) :
    ∃ i, ReuseCursor.oldOffset e p = some i ∧ e.mapOffset i = p := by
  rcases h with h | h
  · exact ⟨p, if_pos h, mapOffset_of_lt h⟩
  · refine ⟨_, oldOffset_of_le hnew h, ?_⟩
    rw [mapOffset_of_le hstart (Nat.le_add_right _ _)]
    omega

theorem touches_eq_false {s t : Nat} : e.touches s t = false ↔ e.oldEnd < s ∨ t < e.start := by
  simp only [touches, Bool.and_eq_false_iff, decide_eq_false_iff_not, Nat.not_le]

/-! ## Bytes -/

namespace Shifts

variable (h : e.Shifts old new)
include h

/-- A byte behind the replaced part moves by the difference in length. -/
theorem getElem?_of_le {i : Nat} (hi : e.oldEnd ≤ i) (hsize : i < old.size) :
    new[e.newEnd + (i - e.oldEnd)]? = some old[i] := by
  rw [h.after, Nat.add_sub_cancel' hi, getElem?_pos old i hsize]

theorem getElem?_of_lt {i : Nat} (hi : i < e.start) (hsize : i < old.size) :
    new[i]? = some old[i] := by
  rw [h.before i hi, getElem?_pos old i hsize]

theorem newTextLen_eq : e.newTextLen old.size = some new.size := by
  have wellFormed : e.isWellFormed = true := by
    simp [isWellFormed, h.start_le_oldEnd, h.start_le_newEnd]
  have := h.size
  have := h.start_le_oldEnd
  have := h.start_le_newEnd
  have := h.oldEnd_le
  rw [newTextLen, if_neg (by simp [wellFormed, h.oldEnd_le]), oldLen, newLen]
  exact congrArg some (by omega)

theorem getElem?_mapOffset {i : Nat} (hsize : i < old.size) (hi : i < e.start ∨ e.oldEnd ≤ i) :
    new[e.mapOffset i]? = some old[i] := by
  rcases hi with hi | hi
  · rw [mapOffset_of_lt hi, h.getElem?_of_lt hi hsize]
  · rw [mapOffset_of_le h.start_le_oldEnd hi, h.getElem?_of_le hi hsize]

/-- A range that was not touched lies before the replaced part or behind it, and at least one byte
more than the range is left as it was. -/
theorem untouched {s t : Nat} (hst : e.touches s t = false) :
    (t < e.start ∧ ∀ i ≤ t, ∃ b, old[i]? = some b ∧ new[i]? = some b) ∨
    (e.oldEnd < s ∧ ∀ (i : Nat) (_ : i < old.size), s - 1 ≤ i →
      ∃ j : Nat, (j : Int) = i + e.delta ∧ new[j]? = some old[i]) := by
  rcases touches_eq_false.1 hst with behind | before
  · refine .inr ⟨behind, fun i hi hs => ⟨e.newEnd + (i - e.oldEnd), ?_, ?_⟩⟩
    · rw [delta]
      omega
    · exact h.getElem?_of_le (by omega) hi
  · refine .inl ⟨before, fun i hi => ?_⟩
    have inside : i < old.size := by
      have := h.start_le_oldEnd
      have := h.oldEnd_le
      omega
    exact ⟨old[i], getElem?_pos old i inside, h.getElem?_of_lt (by omega) inside⟩

theorem carries : e.Carries old new where
  length := h.newTextLen_eq
  monotone _ _ hij _ := mapOffset_mono h.start_le_oldEnd h.start_le_newEnd hij
  bytes _ hsize hi := h.getElem?_mapOffset hsize hi
  back _ hp := mapOffset_oldOffset h.start_le_oldEnd h.start_le_newEnd hp
  untouched _ _ _ _ hst := h.untouched hst

end Shifts

/-! ## Splicing -/

/-- A part of some bytes exchanged for others. -/
theorem shifts_extract (old replacement : ByteArray) {start stop : Nat} (hle : start ≤ stop)
    (hstop : stop ≤ old.size) : (replace start (stop - start) replacement.size).Shifts old
      (old.extract 0 start ++ replacement ++ old.extract stop old.size) := by
  have oldEnd : start + (stop - start) = stop := Nat.add_sub_cancel' hle
  have front : (old.extract 0 start).size = start := by
    rw [ByteArray.size_extract]
    omega
  have middle : (old.extract 0 start ++ replacement).size = start + replacement.size := by
    rw [ByteArray.size_append, front]
  have back : (old.extract stop old.size).size = old.size - stop := by
    rw [ByteArray.size_extract]
    omega
  have whole : (old.extract 0 start ++ replacement ++ old.extract stop old.size).size =
      start + replacement.size + (old.size - stop) := by
    rw [ByteArray.size_append, middle, back]
  refine ⟨Nat.le_add_right _ _, Nat.le_add_right _ _, ?_, ?_, fun i hi => ?_, fun i => ?_⟩
  · exact Nat.le_trans (Nat.le_of_eq oldEnd) hstop
  · rw [whole]
    simp only [replace]
    omega
  · simp only [replace] at hi
    rw [getElem?_pos _ i (by omega), getElem?_pos old i (by omega),
      ByteArray.getElem_append_left (by omega), ByteArray.getElem_append_left (by omega),
      ByteArray.getElem_extract]
    simp only [Nat.zero_add]
  · simp only [replace, oldEnd]
    rcases Nat.lt_or_ge (stop + i) old.size with hi | hi
    · rw [getElem?_pos _ _ (by omega), getElem?_pos old _ hi,
        ByteArray.getElem_append_right (by omega), ByteArray.getElem_extract]
      simp only [middle, Nat.add_sub_cancel_left]
    · rw [getElem?_neg _ _ (by omega), getElem?_neg old _ (by omega)]

variable {text text' replacement : String} {start stop : Nat}

/-- Splicing exchanges the bytes of the range for those of the replacement. -/
theorem exists_of_splice (h : splice text start stop replacement = some (e, text')) :
    start ≤ stop ∧ stop ≤ text.utf8ByteSize ∧
      e = replace start (stop - start) replacement.utf8ByteSize ∧
      text'.toByteArray = text.toByteArray.extract 0 start ++ replacement.toByteArray ++
        text.toByteArray.extract stop text.toByteArray.size := by
  unfold splice at h
  split at h
  · next hle =>
    split at h
    · next p q hp hq =>
      obtain ⟨rfl, rfl⟩ := Prod.mk.inj (Option.some.inj h)
      have hstart := Text.isBoundary_of_pos? hp
      have hstop := Text.isBoundary_of_pos? hq
      obtain rfl := Option.some.inj (hp.symm.trans hstart.pos?_eq)
      obtain rfl := Option.some.inj (hq.symm.trans hstop.pos?_eq)
      refine ⟨hle, hstop.le_size, rfl, ?_⟩
      rw [String.toByteArray_append, String.toByteArray_append, String.size_toByteArray]
      rfl
    · cases h
  · cases h

/-- The edit that splicing returns replaces the given range, and offsets of the old text and of the
new one go together across it. -/
theorem carries_of_splice (h : splice text start stop replacement = some (e, text')) :
    e.start = start ∧ e.oldEnd = stop ∧ e.Carries text.toByteArray text'.toByteArray := by
  obtain ⟨hle, hstop, rfl, bytes⟩ := exists_of_splice h
  rw [bytes, ← String.size_toByteArray]
  exact ⟨rfl, Nat.add_sub_cancel' hle, (shifts_extract _ _ hle (by simpa using hstop)).carries⟩

/-- A character of two bytes is replaced at the end of a text. -/
theorem carries_ending : splice "aé" 1 3 "xyz" = some (⟨1, 3, 4⟩, "axyz") ∧
    Carries ⟨1, 3, 4⟩ "aé".toByteArray "axyz".toByteArray := by
  have spliced : splice "aé" 1 3 "xyz" = some (⟨1, 3, 4⟩, "axyz") := by decide +kernel
  exact ⟨spliced, (carries_of_splice spliced).2.2⟩

end IncrementalGlr.Edit
