import IncrementalGlr.Flat.OfGrammar
import IncrementalGlr.Table.OfActions

/-!
Compiling grammars. A grammar is flattened, its parser's states are found, their actions are
decided, and the table is filled. An error found while flattening stops the work there; that the
patterns of the extras cannot be tried as alternatives of one expression is found at the end.
-/
namespace IncrementalGlr

/-- A compiled grammar. -/
structure Compiled where
  table : TableData
  productionCount : Nat
  /-- The number of cells with more than one action. -/
  conflictCount : Nat
  deriving DecidableEq, Repr, Inhabited

namespace Grammar

/-- The table of a flat grammar, and what is to be said about it. -/
def compileFlat (g : FlatGrammar) : Option Compiled × List Diagnostic :=
  match Automaton.ofGrammar g (.ofGrammar g) with
  | none => (none, [{ finding := .tooManyStates maxStates }])
  | some automaton =>
    let actions := ActionTable.ofAutomaton g automaton
    let conflicts := ActionTable.conflictReports g automaton
    match g.padding.filter fun regex => (Regex.parse? regex).isNone with
    | some regex =>
      (none, conflicts ++ [{ finding := .invalidPadding regex, rule := some "extras" }])
    | none =>
      (some {
        table := .ofActions g actions
        productionCount := g.productions.size
        conflictCount := actions.conflictCount }, conflicts)

/-- Compiles a grammar as far as it goes. -/
def compileWithReports (g : Grammar) : Option Compiled × List Diagnostic :=
  let (flat, diagnostics) := g.flatten
  match flat with
  | none => (none, diagnostics)
  | some flat =>
    if diagnostics.any (·.isError) then (none, diagnostics)
    else
      let (compiled, conflicts) := compileFlat flat
      (compiled, diagnostics ++ conflicts)

/-- Everything there is to say about a grammar. -/
def check (g : Grammar) : List Diagnostic := g.compileWithReports.2

/-- The compiled grammar and warnings, or everything that is wrong with it. -/
def compile (g : Grammar) : Except (List Diagnostic) (Compiled × List Diagnostic) :=
  match g.compileWithReports with
  | (some compiled, diagnostics) => .ok (compiled, diagnostics)
  | (none, diagnostics) => .error diagnostics

end Grammar

end IncrementalGlr
