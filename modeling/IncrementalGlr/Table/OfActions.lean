import IncrementalGlr.Regex.Binary
import IncrementalGlr.Regex.Pattern
import IncrementalGlr.Table.Data

/-!
Tables from actions. Equal lists of actions are stored once, in the order in which states and
terminals first need them, and the empty list comes first. A terminal that may stand anywhere is
taken without change of state wherever there is nothing else to do with it.
-/
namespace IncrementalGlr

/-- A pattern ready to be run. Where the source is no regular expression there is nothing to run. -/
def StoredPattern.ofSource (source : String) : StoredPattern :=
  ⟨source, ((Regex.parse? source).map Regex.toBytes).getD []⟩

namespace FlatGrammar

def tokenEntry (t : Terminal) : TokenEntry where
  matcher := match t.form with
    | .endOfText => .endOfText
    | .literal text => .literal text
    | .regex source => .pattern (.ofSource source)
    | .external index => .external index
  immediate := t.immediate

/-- The expression that words match, if the grammar has words. -/
def wordPattern (g : FlatGrammar) : Option Pattern := do
  let terminal ← g.terminals[← g.word]?
  match terminal.form with
  | .regex source => return Pattern.ofRegex (← Regex.parse? source)
  | _ => none

/-- Terminals with fixed text that is a word. -/
def keywords (g : FlatGrammar) : List SymbolId :=
  match g.wordPattern with
  | none => []
  | some word => (List.range g.terminals.size).filter fun t =>
    match (g.terminals[t]?).map Terminal.form with
    | some (.literal text) => text ≠ "" && word.longestMatch text == some text.utf8ByteSize
    | _ => false

def lexTable (g : FlatGrammar) : LexTable where
  tokens := g.terminals.map tokenEntry
  padding := g.padding.map .ofSource
  word := g.word
  keywords := g.keywords

/-- What the table has for a terminal: an extra is taken where nothing else can be done. -/
def storedActions (g : FlatGrammar) (t : SymbolId) (actions : List Action) : List Action :=
  if actions.isEmpty && ((g.symbols[t]?).map (·.extra)).getD false then [.shiftExtra] else actions

end FlatGrammar

/-- Lists of actions and the numbers of those needed so far. -/
structure ActionPool where
  lists : Array (List Action) := #[[]]
  index : Array Nat := #[]
  deriving DecidableEq, Repr, Inhabited

/-- Needs one more list. -/
def ActionPool.add (pool : ActionPool) (actions : List Action) : ActionPool :=
  match pool.lists.findIdx? (· == actions) with
  | some i => { pool with index := pool.index.push i }
  | none => ⟨pool.lists.push actions, pool.index.push pool.lists.size⟩

/-- The table of a grammar. -/
def TableData.ofActions (g : FlatGrammar) (t : ActionTable) : TableData :=
  let needed := t.actions.toList.flatMap fun row =>
    row.toList.zipIdx.map fun (actions, terminal) => g.storedActions terminal actions
  let pool := needed.foldl ActionPool.add {}
  { name := g.name
    symbols := g.symbols
    terminalCount := g.terminalCount
    nonterminalCount := g.nonterminalCount
    externalCount := g.externalCount
    fields := g.fields.toArray
    productions := g.productions
    stateCount := t.actions.size
    actionLists := pool.lists
    actionIndex := pool.index
    gotoIndex := t.gotos.flatMap fun row => row.map fun target => target.getD noGoto
    startSymbol := g.start
    lex := g.lexTable
    recovery := g.recovery
    conflicts := g.conflicts }

end IncrementalGlr
