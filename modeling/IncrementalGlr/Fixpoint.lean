/-!
Repeating a step until it changes nothing. The fuel bounds the number of repetitions; callers give
as many as the step can make changes.
-/
namespace IncrementalGlr

/-- Applies `step` until nothing changes, at most `fuel` times. -/
def settle {α : Type} [DecidableEq α] (step : α → α) : Nat → α → α
  | 0, a => a
  | fuel + 1, a => if step a = a then a else settle step fuel (step a)

variable {α : Type} [DecidableEq α] {step : α → α}

/-- What a step keeps, settling keeps. -/
theorem settle_induction {p : α → Prop} (h : ∀ a, p a → p (step a)) (fuel : Nat) {a : α}
    (ha : p a) : p (settle step fuel a) := by
  induction fuel generalizing a with
  | zero => exact ha
  | succ fuel ih =>
    rw [settle]
    split
    · exact ha
    · exact ih (h a ha)

end IncrementalGlr
