/-!
The choices by which heads part, the last one first. Of two heads the one that made the earlier
choice where they parted comes first, and one whose choices are the beginning of the other's comes
before it (`compare_eq`).
-/
namespace IncrementalGlr

/-- The choices that led to a head, the last one first. -/
abbrev Choices := List Nat

namespace Choices

/-- How the first choices that differ compare, in lists of one length; `found` if none do. -/
def firstDifference (found : Ordering) : Choices → Choices → Ordering
  | x :: xs, y :: ys => firstDifference ((Ord.compare x y).then found) xs ys
  | _, _ => found

/-- Compares choices in the order in which they were made. -/
def compare (a b : Choices) : Ordering :=
  (firstDifference .eq (a.drop (a.length - b.length)) (b.drop (b.length - a.length))).then
    (Ord.compare a.length b.length)

theorem compareLex_append (as bs cs ds : List Nat) (h : as.length = bs.length) :
    Ord.compare (as ++ cs) (bs ++ ds) = (Ord.compare as bs).then (Ord.compare cs ds) := by
  induction as generalizing bs with
  | nil =>
    cases bs with
    | nil => rfl
    | cons => simp at h
  | cons x xs ih =>
    cases bs with
    | nil => simp at h
    | cons y ys =>
      have rest := ih ys (by simpa using h)
      change List.compareLex Ord.compare (x :: (xs ++ cs)) (y :: (ys ++ ds)) =
        (List.compareLex Ord.compare (x :: xs) (y :: ys)).then (Ord.compare cs ds)
      rw [List.compareLex_cons_cons, List.compareLex_cons_cons]
      cases Ord.compare x y
      · rfl
      · exact rest
      · rfl

theorem compareLex_singleton (x y : Nat) : Ord.compare [x] [y] = Ord.compare x y := by
  change List.compareLex Ord.compare [x] [y] = _
  rw [List.compareLex_cons_cons, List.compareLex_nil_nil]
  cases Ord.compare x y <;> rfl

theorem firstDifference_eq (found : Ordering) (as bs : Choices) (h : as.length = bs.length) :
    firstDifference found as bs = (Ord.compare as.reverse bs.reverse).then found := by
  induction as generalizing bs found with
  | nil =>
    cases bs with
    | nil => cases found <;> rfl
    | cons => simp at h
  | cons x xs ih =>
    cases bs with
    | nil => simp at h
    | cons y ys =>
      have h : xs.length = ys.length := by simpa using h
      rw [firstDifference, ih _ ys h, List.reverse_cons, List.reverse_cons,
        compareLex_append _ _ _ _ (by simpa using h), compareLex_singleton]
      cases Ord.compare xs.reverse ys.reverse <;> rfl

/-- The beginning of a list comes before the list. -/
theorem compareLex_nil (cs : List Nat) : Ord.compare [] cs = Ord.compare 0 cs.length := by
  cases cs with
  | nil => rfl
  | cons c cs =>
    rw [Nat.compare_eq_lt.2 (by simp)]
    rfl

theorem compareLex_nil_right (cs : List Nat) : Ord.compare cs [] = Ord.compare cs.length 0 := by
  cases cs with
  | nil => rfl
  | cons c cs =>
    rw [Nat.compare_eq_gt.2 (by simp)]
    rfl

/-- Choices compare like the lists of them in the order in which they were made. -/
theorem compare_eq (a b : Choices) : compare a b = Ord.compare a.reverse b.reverse := by
  have split (c d : Choices) : c.reverse =
      (c.drop (c.length - d.length)).reverse ++ (c.take (c.length - d.length)).reverse := by
    rw [← List.reverse_append, List.take_append_drop]
  have rest : Ord.compare (a.take (a.length - b.length)).reverse
      (b.take (b.length - a.length)).reverse = Ord.compare a.length b.length := by
    rcases Nat.lt_trichotomy a.length b.length with h | h | h
    · have : a.length - b.length = 0 := by omega
      rw [this, List.take_zero, List.reverse_nil, compareLex_nil, Nat.compare_eq_lt.2 h,
        Nat.compare_eq_lt.2 (by simp; omega)]
    · simp [h]
    · have : b.length - a.length = 0 := by omega
      rw [this, List.take_zero, List.reverse_nil, compareLex_nil_right, Nat.compare_eq_gt.2 h,
        Nat.compare_eq_gt.2 (by simp; omega)]
  rw [split a b, split b a, compareLex_append _ _ _ _ (by simp; omega), compare,
    firstDifference_eq _ _ _ (by simp; omega), rest]
  cases Ord.compare (a.drop (a.length - b.length)).reverse
    (b.drop (b.length - a.length)).reverse <;> rfl

end Choices

end IncrementalGlr
