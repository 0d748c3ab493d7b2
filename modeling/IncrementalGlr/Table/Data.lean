import IncrementalGlr.Lr.Action
import IncrementalGlr.Symbol

/-!
Parse tables as they are stored: lists and indexes, not yet checked to fit together.
-/
namespace IncrementalGlr

/-- A regular expression: its source, and the bytes from which it can be run. -/
structure StoredPattern where
  source : String
  automaton : List UInt8
  deriving DecidableEq, Repr, Inhabited

/-- How a terminal is recognised. -/
inductive Matcher where
  /-- Never by matching. -/
  | endOfText
  | literal (text : String)
  | pattern (p : StoredPattern)
  /-- By the external scanner, under this number. -/
  | external (index : Nat)
  deriving DecidableEq, Repr, Inhabited

/-- How a terminal is recognised, and whether it must follow the token before it at once. -/
structure TokenEntry where
  matcher : Matcher
  immediate : Bool
  deriving DecidableEq, Repr, Inhabited

/-- What the lexer knows of the terminals. -/
structure LexTable where
  /-- One for every terminal. -/
  tokens : Array TokenEntry
  /-- Matches one piece of padding. -/
  padding : Option StoredPattern
  /-- The terminal that keywords are carved out of. -/
  word : Option SymbolId
  keywords : List SymbolId
  deriving DecidableEq, Repr, Inhabited

/-- Marks a missing transition. -/
def noGoto : Nat := 65535

/-- A parse table. -/
structure TableData where
  name : String
  symbols : Array SymbolInfo
  terminalCount : Nat
  nonterminalCount : Nat
  externalCount : Nat
  /-- Field names; the first has number 1. -/
  fields : Array String
  productions : Array Production
  stateCount : Nat
  /-- Distinct lists of actions; the first is empty. -/
  actionLists : Array (List Action)
  /-- For every state and every terminal the number of its list. -/
  actionIndex : Array Nat
  /-- For every state and every nonterminal the state to go to, or `noGoto`. -/
  gotoIndex : Array Nat
  startSymbol : SymbolId
  lex : LexTable
  recovery : List SymbolId
  conflicts : List (List SymbolId)
  deriving DecidableEq, Repr, Inhabited

end IncrementalGlr
