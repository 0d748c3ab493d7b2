import IncrementalGlr.Json.Basic
import IncrementalGlr.Codec.Basic

/-!
Why a grammar could not be read.
-/
namespace IncrementalGlr

inductive GrammarError where
  | json (problem : Json.Problem)
  | binary (fault : Codec.Fault)
  /-- The grammar of this name has no rule to start from. -/
  | noRules (name : String)
  deriving DecidableEq, Repr, Inhabited

namespace GrammarError

/-- The text of the error, where it has one of its own. -/
def message : GrammarError → Option String
  | json problem => problem.message
  | binary fault => some ("grammar binary decode error: " ++ fault.message)
  | noRules name => some s!"invalid grammar: grammar '{name}' defines no rules"

end GrammarError

end IncrementalGlr
