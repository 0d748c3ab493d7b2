import IncrementalGlr.Fixpoint
import IncrementalGlr.Lr.First
import IncrementalGlr.Lr.Item

/-!
The states of a parser. States are found from the start item on, breadth first and by ascending
symbol, one for every kernel. Then each item of each kernel gets its lookahead: the terminals that
may follow once its production is complete. Lookaheads are handed on within a state, to the items
that a nonterminal after the mark brings in, and from state to state, until nothing is new.
-/
namespace IncrementalGlr

/-- More states than this do not fit in a table. -/
def maxStates : Nat := 65534

namespace Lr

/-! ## States -/

/-- The nonterminals that items bring in, beyond those brought in already. -/
def predictStep (g : FlatGrammar) (found : List SymbolId) : List SymbolId :=
  let next := found.flatMap fun s => (g.productionsOf s).filterMap fun p => (⟨p, 0⟩ : Item).next g
  found ++ (next.filter fun s => !g.isTerminal s && !found.contains s).eraseDups

/-- The nonterminals after a mark, in the kernel or in the items brought in. -/
def predicted (g : FlatGrammar) (kernel : List Item) : List SymbolId :=
  settle (predictStep g) (g.nonterminalCount + 1)
    ((kernel.filterMap (Item.next g)).filter fun s => !g.isTerminal s).eraseDups

/-- The kernel and the items it brings in. -/
def closure (g : FlatGrammar) (kernel : List Item) : List Item :=
  kernel ++ (predicted g kernel).flatMap fun s => (g.productionsOf s).map fun p => ⟨p, 0⟩

/-- The kernel of the state that a symbol leads to. -/
def goto (g : FlatGrammar) (items : List Item) (s : SymbolId) : List Item :=
  ((items.filter fun i => i.next g = some s).map Item.advance).eraseDups.mergeSort Item.le

/-- The symbols after a mark, ascending. -/
def nextSymbols (g : FlatGrammar) (items : List Item) : List SymbolId :=
  (items.filterMap (Item.next g)).eraseDups.mergeSort

/-- The states found so far: their kernels, and the transitions of those that were visited. -/
structure Found where
  kernels : Array (List Item)
  transitions : Array (List (SymbolId × StateId))
  deriving DecidableEq, Repr, Inhabited

/-- Adds the transition to a kernel, which may be new. -/
def Found.addTransition (f : Array (List Item) × List (SymbolId × StateId))
    (t : SymbolId × List Item) : Array (List Item) × List (SymbolId × StateId) :=
  match f.1.findIdx? (· == t.2) with
  | some state => (f.1, f.2 ++ [(t.1, state)])
  | none => (f.1.push t.2, f.2 ++ [(t.1, f.1.size)])

/-- Visits the first state not visited yet. -/
def Found.visit (g : FlatGrammar) (f : Found) (kernel : List Item) : Found :=
  let items := closure g kernel
  let (kernels, transitions) := (nextSymbols g items).foldl
    (fun acc s => addTransition acc (s, goto g items s)) (f.kernels, [])
  ⟨kernels, f.transitions.push transitions⟩

/-- Visits states until none is left; none if there are too many. -/
def Found.explore (g : FlatGrammar) : Nat → Found → Option Found
  | 0, _ => none
  | fuel + 1, f =>
    match f.kernels[f.transitions.size]? with
    | none => some f
    | some kernel =>
      let f := f.visit g kernel
      if maxStates < f.kernels.size then none else explore g fuel f

/-- All states of the parser for a grammar, if there are not too many. -/
def states (g : FlatGrammar) : Option Found :=
  Found.explore g (maxStates + 1) ⟨#[[g.startItem]], #[]⟩

/-! ## Lookaheads -/

/-- What may follow each nonterminal that a state brings in. -/
abbrev Follow := Array TerminalSet

/-- What may follow the symbol after the mark of an item. -/
def followOf (g : FlatGrammar) (first : FirstSets) (i : Item) (lookahead : TerminalSet) :
    TerminalSet :=
  let f := first.ofSymbols (i.rest g)
  if f.nullable then f.terminals ∪ lookahead else f.terminals

/-- Lets an item say what may follow the nonterminal after its mark. -/
def handOn (g : FlatGrammar) (first : FirstSets) (follow : Follow) (i : Item)
    (lookahead : TerminalSet) : Follow :=
  match i.next g with
  | some s =>
    if g.isTerminal s then follow
    else follow.modify (s - g.terminalCount) (· ∪ followOf g first i lookahead)
  | none => follow

/-- The lookahead of a nonterminal's items in a state. -/
def lookaheadOf (g : FlatGrammar) (follow : Follow) (s : SymbolId) : TerminalSet :=
  (follow[s - g.terminalCount]?).getD .empty

/-- The kernel and all items it brings in speak once. -/
def followStep (g : FlatGrammar) (first : FirstSets) (kernel : List (Item × TerminalSet))
    (brought : List SymbolId) (follow : Follow) : Follow :=
  let follow := kernel.foldl (fun f e => handOn g first f e.1 e.2) follow
  brought.foldl (fun f s =>
    (g.productionsOf s).foldl (fun f p => handOn g first f ⟨p, 0⟩ (lookaheadOf g f s)) f) follow

/-- A kernel and all items it brings in, with their lookaheads. -/
def lookaheadClosure (g : FlatGrammar) (first : FirstSets) (kernel : List (Item × TerminalSet)) :
    List (Item × TerminalSet) :=
  let brought := predicted g (kernel.map Prod.fst)
  let follow := settle (followStep g first kernel brought)
    (g.nonterminalCount * g.terminalCount + 1)
    (Array.replicate g.nonterminalCount .empty)
  kernel ++ brought.flatMap fun s =>
    (g.productionsOf s).map fun p => (⟨p, 0⟩, lookaheadOf g follow s)

/-- The lookaheads of all kernels, in the order of their items. -/
abbrev Lookaheads := Array (List TerminalSet)

/-- The kernel of a state with its lookaheads. -/
def kernelWith (found : Found) (lookaheads : Lookaheads) (state : StateId) :
    List (Item × TerminalSet) :=
  ((found.kernels[state]?).getD []).zip ((lookaheads[state]?).getD [])

/-- Hands the lookaheads of a state on to the states that it leads to. -/
def propagate (g : FlatGrammar) (first : FirstSets) (found : Found) (lookaheads : Lookaheads)
    (state : StateId) : Lookaheads :=
  let items := lookaheadClosure g first (kernelWith found lookaheads state)
  ((found.transitions[state]?).getD []).foldl (fun las (s, target) =>
    las.modify target fun old =>
      (((found.kernels[target]?).getD []).zip old).map fun (item, set) =>
        (items.filter fun e => e.1.next g = some s && e.1.advance = item).foldl
          (fun acc e => acc ∪ e.2) set) lookaheads

/-- All states hand on their lookaheads once. -/
def propagateAll (g : FlatGrammar) (first : FirstSets) (found : Found) (lookaheads : Lookaheads) :
    Lookaheads :=
  (List.range found.kernels.size).foldl (propagate g first found) lookaheads

/-- The lookaheads of all kernels. Only the end of the text follows a whole text. -/
def lookaheads (g : FlatGrammar) (first : FirstSets) (found : Found) : Lookaheads :=
  let initial := found.kernels.map fun kernel =>
    kernel.map fun i => if i = g.startItem then TerminalSet.singleton endSymbol else .empty
  let items := (found.kernels.map List.length).foldl (· + ·) 0
  settle (propagateAll g first found) (items * g.terminalCount + 1) initial

end Lr

/-- A state of the parser: its items with their lookaheads, and where each symbol leads. -/
structure LrState where
  kernel : List (Item × TerminalSet)
  items : List (Item × TerminalSet)
  transitions : List (SymbolId × StateId)
  deriving DecidableEq, Repr, Inhabited

/-- The states of the parser for a grammar, in the order in which they are found. -/
structure Automaton where
  states : Array LrState
  deriving DecidableEq, Repr, Inhabited

/-- The parser's states; none if there are too many. -/
def Automaton.ofGrammar (g : FlatGrammar) (first : FirstSets) : Option Automaton := do
  let found ← Lr.states g
  let lookaheads := Lr.lookaheads g first found
  return ⟨(Array.range found.kernels.size).map fun state =>
    let kernel := Lr.kernelWith found lookaheads state
    { kernel
      items := Lr.lookaheadClosure g first kernel
      transitions := (found.transitions[state]?).getD [] }⟩

end IncrementalGlr
