import IncrementalGlr.Diagnostic.Basic
import IncrementalGlr.Lr.Automaton

/-!
What a parser does in a state at a terminal. Where a state allows several things, precedence decides
first, among reductions and then between shifting and reducing, and associativity decides between
shifting and reducing at equal precedence. What is left undecided stays in the table side by side;
it is reported unless the grammar declares that conflict.
-/
namespace IncrementalGlr

/-- One thing that a parser can do at a terminal. -/
inductive Action where
  /-- Take the terminal and go to a state. -/
  | shift (state : StateId)
  /-- Take the terminal and stay. -/
  | shiftExtra
  /-- Replace symbols by the nonterminal that a production makes of them. -/
  | reduce (production : ProductionId)
  /-- The text is complete. -/
  | accept
  deriving DecidableEq, Repr, Inhabited

/-- What the items of one state say about one terminal. -/
structure Cell where
  shift : Option StateId := none
  /-- The greatest precedence among the items that would shift. -/
  shiftPrecedence : Int := 0
  /-- The rules of the items that would shift, ascending. -/
  shiftOwners : List SymbolId := []
  /-- The productions that are complete, ascending. -/
  reduces : List ProductionId := []
  accept : Bool := false
  deriving DecidableEq, Repr, Inhabited

namespace FlatGrammar

def precedenceOf (g : FlatGrammar) (p : ProductionId) : Int :=
  ((g.productions[p]?).map (·.precedence)).getD 0

def associativityOf (g : FlatGrammar) (p : ProductionId) : Associativity :=
  ((g.productions[p]?).map (·.associativity)).getD .none

/-- The rule that a production was made for. -/
def ruleOf (g : FlatGrammar) (p : ProductionId) : SymbolId :=
  match g.productions[p]? with
  | some production => g.ownerOf production.lhs
  | none => g.start

end FlatGrammar

/-- The distinct members in ascending order. -/
def ascending (xs : List Nat) : List Nat := xs.eraseDups.mergeSort

/-- The greatest of several numbers. -/
def greatest : List Int → Option Int
  | [] => none
  | n :: rest => some (rest.foldl max n)

namespace Cell

/-- What a state says about a terminal. -/
def ofState (g : FlatGrammar) (s : LrState) (t : SymbolId) : Cell :=
  let shifting := s.items.filter fun e => e.1.next g = some t
  let complete := s.items.filter fun e => e.1.next g = none && e.2.contains t
  { shift := s.transitions.lookup t
    shiftPrecedence := (greatest (shifting.map fun e => g.precedenceOf e.1.production)).getD 0
    shiftOwners := ascending (shifting.map fun e => g.ruleOf e.1.production)
    reduces := ascending
      ((complete.map (·.1.production)).filter fun p => p != g.augmented)
    accept := t == endSymbol && complete.any fun e => e.1.production == g.augmented }

/-- Keeps the reductions of the greatest precedence. -/
def keepStrongest (g : FlatGrammar) (c : Cell) : Cell :=
  let best := greatest (c.reduces.map g.precedenceOf)
  { c with reduces := c.reduces.filter fun p => some (g.precedenceOf p) == best }

/-- Decides between shifting and reducing, if precedence or associativity can. -/
def chooseShift (g : FlatGrammar) (c : Cell) : Cell :=
  match c.shift, greatest (c.reduces.map g.precedenceOf) with
  | some _, some reduce =>
    if c.shiftPrecedence < reduce then { c with shift := none }
    else if reduce < c.shiftPrecedence then { c with reduces := [] }
    else if c.reduces.all fun p => g.associativityOf p == .left then { c with shift := none }
    else if c.reduces.all fun p => g.associativityOf p == .right then { c with reduces := [] }
    else c
  | _, _ => c

/-- The cell with everything decided that can be. -/
def resolve (g : FlatGrammar) (c : Cell) : Cell := (c.keepStrongest g).chooseShift g

/-- Reductions first, then the shift, then acceptance. -/
def actions (c : Cell) : List Action :=
  c.reduces.map .reduce ++ (c.shift.map .shift).toList ++ if c.accept then [.accept] else []

/-- The rules that take part in what is left undecided, ascending. -/
def involved (g : FlatGrammar) (c : Cell) : List SymbolId :=
  ascending (c.reduces.map g.ruleOf ++ if c.shift.isSome then c.shiftOwners else [])

end Cell

/-- What a parser does in every state: at every terminal, and after every nonterminal. -/
structure ActionTable where
  actions : Array (Array (List Action))
  gotos : Array (Array (Option StateId))
  deriving DecidableEq, Repr, Inhabited

namespace ActionTable

/-- The decided cells of a state, one for every terminal. -/
def cellsOf (g : FlatGrammar) (s : LrState) : Array Cell :=
  (Array.range g.terminalCount).map fun t => (Cell.ofState g s t).resolve g

def gotosOf (g : FlatGrammar) (s : LrState) : Array (Option StateId) :=
  (Array.range g.nonterminalCount).map fun i => s.transitions.lookup (g.terminalCount + i)

def ofAutomaton (g : FlatGrammar) (a : Automaton) : ActionTable where
  actions := a.states.map fun s => (cellsOf g s).map Cell.actions
  gotos := a.states.map (gotosOf g)

/-- The number of cells with more than one action. -/
def conflictCount (t : ActionTable) : Nat :=
  (t.actions.map fun row => (row.filter fun actions => 1 < actions.length).size).foldl (· + ·) 0

/-- Whether the grammar declares a conflict among these rules. -/
def isDeclared (g : FlatGrammar) (rules : List SymbolId) : Bool :=
  g.conflicts.any fun set => rules.all set.contains

/-- The rules and the terminal of every undecided cell, by state and terminal. -/
def openConflicts (g : FlatGrammar) (a : Automaton) : List (List SymbolId × SymbolId) :=
  a.states.toList.flatMap fun s => (cellsOf g s).toList.zipIdx.filterMap fun (c, t) =>
    if 1 < c.actions.length && !isDeclared g (c.involved g) then some (c.involved g, t) else none

/-- Keeps the first conflict among the same rules. -/
def firstAmong (seen : List (List SymbolId)) :
    List (List SymbolId × SymbolId) → List (List SymbolId × SymbolId)
  | [] => []
  | e :: rest =>
    if seen.contains e.1 then firstAmong seen rest else e :: firstAmong (e.1 :: seen) rest

/-- A report for every group of rules with an undeclared conflict. -/
def conflictReports (g : FlatGrammar) (a : Automaton) : List Diagnostic :=
  (firstAmong [] (openConflicts g a)).map fun (rules, t) => {
    finding := .unresolvedConflict (rules.map g.nameOf) (g.nameOf t)
    rule := (rules.map g.nameOf).head? }

end ActionTable

end IncrementalGlr
