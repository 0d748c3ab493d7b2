import IncrementalGlr.Symbol

/-!
Flat grammars: numbered symbols and productions without choices or repetitions. This is the form in
which a grammar is analysed.
-/
namespace IncrementalGlr

/-- How a token is recognised. -/
inductive TokenForm where
  | endOfText
  | literal (text : String)
  | regex (source : String)
  /-- By the external scanner, under this number. -/
  | external (index : Nat)
  deriving DecidableEq, Repr, Inhabited

/-- A token's form, and whether it must follow the token before it at once. -/
structure Terminal where
  form : TokenForm
  immediate : Bool := false
  deriving DecidableEq, Repr, Inhabited

/-- A grammar of numbered symbols and flat productions. -/
structure FlatGrammar where
  name : String
  /-- Terminals, then nonterminals, then names for nodes only. -/
  symbols : Array SymbolInfo
  terminalCount : Nat
  nonterminalCount : Nat
  externalCount : Nat
  /-- Field names; the first has number 1. -/
  fields : List String
  productions : Array Production
  start : SymbolId
  /-- One for every terminal. -/
  terminals : Array Terminal
  /-- Matches one piece of what may stand between tokens. -/
  padding : Option String
  extras : List SymbolId
  word : Option SymbolId
  recovery : List SymbolId
  conflicts : List (List SymbolId)
  /-- The rule that each symbol was made for. -/
  owners : Array SymbolId
  deriving DecidableEq, Repr, Inhabited

namespace FlatGrammar

def isTerminal (g : FlatGrammar) (s : SymbolId) : Bool := s < g.terminalCount

def nameOf (g : FlatGrammar) (s : SymbolId) : String := ((g.symbols[s]?).map (·.name)).getD ""

def ownerOf (g : FlatGrammar) (s : SymbolId) : SymbolId := (g.owners[s]?).getD s

/-- The symbols on the right of a production; the one after the last is `start` on its own. -/
def rhs (g : FlatGrammar) (p : ProductionId) : List SymbolId :=
  if p = g.productions.size then [g.start]
  else match g.productions[p]? with
    | some production => production.rhs
    | none => []

/-- The productions of a nonterminal, ascending. -/
def productionsOf (g : FlatGrammar) (s : SymbolId) : List ProductionId :=
  (List.range g.productions.size).filter fun p =>
    (g.productions[p]?).any fun production => production.lhs = s

end FlatGrammar

end IncrementalGlr
