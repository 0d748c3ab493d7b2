import IncrementalGlr.Regex.Binary
import IncrementalGlr.Regex.Pattern
import IncrementalGlr.Table.Validation

/-!
Parse tables ready for use: data whose parts fit together, with its patterns made ready to run.
Look-ups answer for every number, also for those that are no state or symbol of the table.
-/
namespace IncrementalGlr

/-- Why a table cannot be used. -/
inductive TableDefect where
  | inconsistent (what : Inconsistency)
  /-- The pattern of a terminal, or the padding, cannot be run. -/
  | invalidPattern (name : String)
  deriving DecidableEq, Repr, Inhabited

namespace TableData

/-- The pattern of one terminal, if it has one. -/
def patternOf (d : TableData) (t : SymbolId) : Except TableDefect (Option Pattern) :=
  match (d.lex.tokens[t]?).map TokenEntry.matcher with
  | some (.pattern p) =>
    match Regex.ofBytes? p.automaton with
    | some r => .ok (some (.ofRegex r))
    | none => .error (.invalidPattern (((d.symbols[t]?).map (·.name)).getD ""))
  | _ => .ok none

/-- The patterns of all terminals. -/
def patterns (d : TableData) : Except TableDefect (List (Option Pattern)) :=
  (List.range d.lex.tokens.size).mapM d.patternOf

/-- The pattern that matches one piece of padding. -/
def paddingPattern (d : TableData) : Except TableDefect (Option Pattern) :=
  match d.lex.padding with
  | none => .ok none
  | some p =>
    match Regex.ofBytes? p.automaton with
    | some r => .ok (some (.ofRegex r))
    | none => .error (.invalidPattern "padding")

/-- The terminals for which a state has actions, ascending. -/
def validIn (d : TableData) (state : StateId) : List SymbolId :=
  (List.range d.terminalCount).filter fun t =>
    (d.actionIndex[state * d.terminalCount + t]?).any (· != 0)

def valid (d : TableData) : Array (List SymbolId) :=
  (Array.range d.stateCount).map d.validIn

end TableData

/-- A table whose parts fit together. -/
structure ParseTable where
  data : TableData
  /-- One for every terminal. -/
  patterns : Array (Option Pattern)
  padding : Option Pattern
  /-- For every state the terminals for which it has actions. -/
  valid : Array (List SymbolId)
  consistent : data.problem = none
  patterns_eq : data.patterns = .ok patterns.toList
  padding_eq : data.paddingPattern = .ok padding
  valid_eq : valid = data.valid

namespace ParseTable

/-- Checks a table and makes it ready for use. -/
def ofData (d : TableData) : Except TableDefect ParseTable :=
  match hc : d.problem with
  | some what => .error (.inconsistent what)
  | none =>
    match hp : d.patterns with
    | .error e => .error e
    | .ok patterns =>
      match hq : d.paddingPattern with
      | .error e => .error e
      | .ok padding => .ok {
          data := d
          patterns := patterns.toArray
          padding
          valid := d.valid
          consistent := hc
          patterns_eq := hp
          padding_eq := hq
          valid_eq := rfl }

def name (t : ParseTable) : String := t.data.name

def terminalCount (t : ParseTable) : Nat := t.data.terminalCount

def stateCount (t : ParseTable) : Nat := t.data.stateCount

def symbolCount (t : ParseTable) : Nat := t.data.symbols.size

def isTerminal (t : ParseTable) (s : SymbolId) : Bool := s < t.terminalCount

def isNonterminal (t : ParseTable) (s : SymbolId) : Bool :=
  t.terminalCount ≤ s && s < t.terminalCount + t.data.nonterminalCount

def symbol? (t : ParseTable) (s : SymbolId) : Option SymbolInfo := t.data.symbols[s]?

/-- The name of any number: that of a symbol, of the error symbol, or else of the end. -/
def symbolName (t : ParseTable) (s : SymbolId) : String :=
  if s = errorSymbol then errorName else ((t.symbol? s).map (·.name)).getD endName

def isNamed (t : ParseTable) (s : SymbolId) : Bool :=
  s == errorSymbol || (t.symbol? s).any (·.named)

def isVisible (t : ParseTable) (s : SymbolId) : Bool :=
  s == errorSymbol || (t.symbol? s).any (·.visible)

def isExtra (t : ParseTable) (s : SymbolId) : Bool := (t.symbol? s).any (·.extra)

/-- The symbol of this name; one that leaves nodes comes first. -/
def symbolForName (t : ParseTable) (name : String) (named : Bool) : Option SymbolId :=
  let matching (s : SymbolInfo) := s.name == name && s.named == named
  (t.data.symbols.findIdx? fun s => matching s && s.visible).or
    (t.data.symbols.findIdx? matching)

/-- What can be done in a state at a terminal. -/
def actions (t : ParseTable) (state : StateId) (terminal : SymbolId) : List Action :=
  if terminal < t.terminalCount && state < t.stateCount then
    match t.data.actionIndex[state * t.terminalCount + terminal]? with
    | some i => (t.data.actionLists[i]?).getD []
    | none => []
  else []

/-- Whether anything can be done in a state at a terminal. -/
def isViable (t : ParseTable) (state : StateId) (terminal : SymbolId) : Bool :=
  !(t.actions state terminal).isEmpty

/-- The state to go to after a nonterminal. -/
def goto (t : ParseTable) (state : StateId) (nonterminal : SymbolId) : Option StateId :=
  if t.isNonterminal nonterminal && state < t.stateCount then
    (t.data.gotoIndex[state * t.data.nonterminalCount + (nonterminal - t.terminalCount)]?).filter
      (· != noGoto)
  else none

/-- The terminals for which a state has actions, ascending. -/
def validTerminals (t : ParseTable) (state : StateId) : List SymbolId := (t.valid[state]?).getD []

def production? (t : ParseTable) (p : ProductionId) : Option Production := t.data.productions[p]?

def fieldName (t : ParseTable) (f : FieldId) : String :=
  if f = 0 then "" else (t.data.fields[f - 1]?).getD ""

def fieldId (t : ParseTable) (name : String) : Option FieldId :=
  (t.data.fields.findIdx? (· == name)).map (· + 1)

def token? (t : ParseTable) (terminal : SymbolId) : Option TokenEntry :=
  t.data.lex.tokens[terminal]?

/-- The pattern of a terminal. -/
def pattern? (t : ParseTable) (terminal : SymbolId) : Option Pattern :=
  (t.patterns[terminal]?).join

def word (t : ParseTable) : Option SymbolId := t.data.lex.word

def isKeyword (t : ParseTable) (terminal : SymbolId) : Bool :=
  t.data.lex.keywords.contains terminal

/-- Whether parsing can resume at the terminal after an error. -/
def isRecovery (t : ParseTable) (terminal : SymbolId) : Bool := t.data.recovery.contains terminal

/-- The number under which the external scanner knows a terminal. -/
def externalIndex (t : ParseTable) (terminal : SymbolId) : Option Nat :=
  match (t.token? terminal).map TokenEntry.matcher with
  | some (.external index) => some index
  | _ => none

/-- The terminal that the external scanner knows under a number. -/
def externalSymbol (t : ParseTable) (index : Nat) : Option SymbolId :=
  t.data.lex.tokens.findIdx? fun e => e.matcher == .external index

end ParseTable

end IncrementalGlr
