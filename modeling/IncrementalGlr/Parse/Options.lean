import IncrementalGlr.Text.Edit

/-!
Limits of a parse, and why a parse can end without a tree. Wrong text is no such reason: it becomes
error nodes.
-/
namespace IncrementalGlr

/-- Limits of a parse. -/
structure ParseOptions where
  /-- The number of heads kept after a token; there is always room for one. -/
  maxHeads : Nat := 6
  maxHeads_pos : 0 < maxHeads := by decide
  /-- The number of symbols made up one after another. -/
  maxInsertions : Nat := 3
  /-- The number of actions, if it is limited. -/
  fuel : Option Nat := none
  deriving DecidableEq, Repr

instance : Inhabited ParseOptions := ⟨{}⟩

namespace ParseOptions

/-- Sets the number of heads, to one at least. -/
def withMaxHeads (o : ParseOptions) (n : Nat) : ParseOptions :=
  { o with maxHeads := max n 1, maxHeads_pos := Nat.lt_of_lt_of_le Nat.one_pos (Nat.le_max_right n 1) }

end ParseOptions

/-- Why a parse ended without a tree. -/
inductive ParseError where
  | cancelled
  | fuelExhausted
  /-- The edit does not lead from a text of the old length to one of the new. -/
  | editConflict (edit : Edit) (oldLength newLength : Nat)
  /-- The named grammar has external tokens, and nothing recognises them. -/
  | missingScanner (grammar : String)
  /-- The table takes the end of the text over and over. -/
  | endless
  deriving DecidableEq, Repr, Inhabited

def ParseError.message : ParseError → String
  | cancelled => "parse cancelled"
  | fuelExhausted => "parse step budget exhausted"
  | editConflict edit oldLength newLength =>
    s!"edit {edit.render} does not fit the old text ({oldLength} bytes) and the new text "
      ++ s!"({newLength} bytes)"
  | missingScanner grammar =>
    s!"grammar `{grammar}` declares external tokens but no external scanner is registered"
  | endless => "parse does not come to an end"

end IncrementalGlr
