import IncrementalGlr.Table.Data

/-!
Whether the parts of a table fit together. The checks are made in a fixed order, and the first that
fails is reported.
-/
namespace IncrementalGlr

/-- What does not fit in a table. -/
inductive Inconsistency where
  | firstSymbol
  | tooFewSymbols (terminals nonterminals symbols : Nat)
  | tokenCount (tokens terminals : Nat)
  | actionIndexSize (entries : Nat)
  | gotoIndexSize (entries : Nat)
  | firstListNotEmpty
  | actionList (index : Nat)
  | gotoTarget (state : StateId)
  | shiftTarget (state : StateId)
  | reduceTarget (id : ProductionId)
  | notNonterminal (symbol : SymbolId)
  | unknownSymbol (nonterminal : SymbolId)
  | noStates
  deriving DecidableEq, Repr, Inhabited

def Inconsistency.message : Inconsistency → String
  | firstSymbol => "symbol 0 must be end of input"
  | tooFewSymbols terminals nonterminals symbols =>
    s!"{terminals} terminals + {nonterminals} nonterminals exceed {symbols} symbols"
  | tokenCount tokens terminals => s!"{tokens} token definitions for {terminals} terminals"
  | actionIndexSize entries => s!"action index has {entries} entries"
  | gotoIndexSize entries => s!"goto index has {entries} entries"
  | firstListNotEmpty => "action list 0 must be empty"
  | actionList index => s!"action list {index} out of range"
  | gotoTarget state => s!"goto target {state} out of range"
  | shiftTarget state => s!"shift target {state} out of range"
  | reduceTarget id => s!"production {id} out of range"
  | notNonterminal symbol => s!"production lhs {symbol} is not a nonterminal"
  | unknownSymbol nonterminal =>
    s!"production for symbol {nonterminal} references unknown symbol"
  | noStates => "table has no states"

namespace TableData

/-- What is wrong with one action. -/
def actionProblem (d : TableData) : Action → Option Inconsistency
  | .shift state => if d.stateCount ≤ state then some (.shiftTarget state) else none
  | .reduce p => if d.productions.size ≤ p then some (.reduceTarget p) else none
  | .shiftExtra | .accept => none

/-- What is wrong with one production. -/
def productionProblem (d : TableData) (p : Production) : Option Inconsistency :=
  if p.lhs < d.terminalCount || d.terminalCount + d.nonterminalCount ≤ p.lhs then
    some (.notNonterminal p.lhs)
  else if p.children.any fun c =>
      d.symbols.size ≤ c.symbol || c.renamed.any (d.symbols.size ≤ ·) then
    some (.unknownSymbol p.lhs)
  else none

/-- The first thing wrong with a table. -/
def problem (d : TableData) : Option Inconsistency :=
  if d.terminalCount = 0 || (d.symbols[0]?).map (·.kind) != some .endOfText then
    some .firstSymbol
  else if d.symbols.size < d.terminalCount + d.nonterminalCount then
    some (.tooFewSymbols d.terminalCount d.nonterminalCount d.symbols.size)
  else if d.lex.tokens.size ≠ d.terminalCount then
    some (.tokenCount d.lex.tokens.size d.terminalCount)
  else if d.actionIndex.size ≠ d.stateCount * d.terminalCount then
    some (.actionIndexSize d.actionIndex.size)
  else if d.gotoIndex.size ≠ d.stateCount * d.nonterminalCount then
    some (.gotoIndexSize d.gotoIndex.size)
  else if d.actionLists[0]? != some [] then some .firstListNotEmpty
  else
    (((d.actionIndex.find? fun i => d.actionLists.size ≤ i).map Inconsistency.actionList).or
      ((d.gotoIndex.find? fun s => s != noGoto && d.stateCount ≤ s).map
        Inconsistency.gotoTarget)).or
    ((d.actionLists.toList.flatten.findSome? d.actionProblem).or
      ((d.productions.findSome? d.productionProblem).or
        (if d.stateCount = 0 then some .noStates else none)))

end TableData

end IncrementalGlr
