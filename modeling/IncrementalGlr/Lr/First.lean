import IncrementalGlr.Fixpoint
import IncrementalGlr.Flat.Basic
import IncrementalGlr.Lr.TerminalSet

/-!
For every nonterminal the terminals that a text derived from it can begin with, and whether the
empty text is among those texts. Both are found by going over the productions until nothing more
is learnt.
-/
namespace IncrementalGlr

/-- What is known of one nonterminal. -/
structure First where
  terminals : TerminalSet := .empty
  nullable : Bool := false
  deriving DecidableEq, Repr, Inhabited

/-- What is known of all symbols; `entries` has the nonterminals. -/
structure FirstSets where
  terminalCount : Nat
  entries : Array First
  deriving DecidableEq, Repr, Inhabited

namespace FirstSets

/-- A terminal begins with itself. -/
def ofSymbol (sets : FirstSets) (s : SymbolId) : First :=
  if s < sets.terminalCount then ⟨.singleton s, false⟩
  else (sets.entries[s - sets.terminalCount]?).getD {}

def isNullable (sets : FirstSets) (s : SymbolId) : Bool := (sets.ofSymbol s).nullable

/-- What a text derived from symbols one after another can begin with. -/
def ofSymbols (sets : FirstSets) : List SymbolId → First
  | [] => ⟨.empty, true⟩
  | s :: rest =>
    let first := sets.ofSymbol s
    if first.nullable then
      let others := ofSymbols sets rest
      ⟨first.terminals ∪ others.terminals, others.nullable⟩
    else first

/-- Adds what a production says of its nonterminal. -/
def learn (sets : FirstSets) (p : Production) : FirstSets :=
  let first := sets.ofSymbols p.rhs
  { sets with entries := sets.entries.modify (p.lhs - sets.terminalCount) fun e =>
      ⟨e.terminals ∪ first.terminals, e.nullable || first.nullable⟩ }

/-- Goes over all productions once. -/
def round (g : FlatGrammar) (sets : FirstSets) : FirstSets := g.productions.foldl learn sets

/-- Nothing is known of any nonterminal. -/
def initial (g : FlatGrammar) : FirstSets :=
  ⟨g.terminalCount, Array.replicate g.nonterminalCount {}⟩

/-- Every round but the last adds a terminal or the empty text to some nonterminal. -/
def ofGrammar (g : FlatGrammar) : FirstSets :=
  settle (round g) (g.nonterminalCount * (g.terminalCount + 1) + 1) (initial g)

end FirstSets

end IncrementalGlr
