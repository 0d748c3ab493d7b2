import IncrementalGlr.Parse.Token
import IncrementalGlr.Table.Basic
import IncrementalGlr.Text.Palette
import IncrementalGlr.Text.Quoted
import IncrementalGlr.Text.Utf8

/-!
What a parser did, step by step, and how that is shown. How much is shown depends on the verbosity:
shifts, forks, recoveries, reuse and acceptance always, the other steps only on demand, and the text
of tokens only at the highest level.
-/
namespace IncrementalGlr

/-- A step of a parser. -/
inductive TraceEvent where
  | lex (token : Token)
  | shift (symbol : SymbolId) (state : StateId) (extra : Bool)
  | reduce (production : ProductionId) (symbol : SymbolId) (state : StateId)
  | fork (state : StateId) (symbol : SymbolId) (branches : Nat)
  /-- A head with the same states as a better one was dropped. -/
  | merge (state : StateId)
  /-- Heads beyond the limit were dropped. -/
  | prune (dropped : Nat)
  /-- A missing symbol was made up. -/
  | insert (symbol : SymbolId) (position : Nat)
  | skip (symbol : SymbolId) (start stop : Nat)
  | pop (count : Nat)
  | wrap
  | reuse (symbol : SymbolId) (start stop : Nat)
  | accept (symbol : SymbolId)
  deriving DecidableEq, Repr, Inhabited

inductive Verbosity where
  | normal
  | verbose
  | veryVerbose
  deriving DecidableEq, Repr, Inhabited

/-- How steps are shown. -/
structure TracePrinter where
  table : ParseTable
  source : String
  verbosity : Verbosity
  palette : Palette

namespace TracePrinter

/-- A line: the kind of step, eight columns wide, and what there is to say. -/
def line (p : TracePrinter) (step detail : String) : String :=
  let width := String.ofList (List.replicate (8 - step.length) ' ')
  s!"  {p.palette.dim}{step}{width}{p.palette.reset} {detail}"

def name (p : TracePrinter) (s : SymbolId) : String :=
  let name := p.table.symbolName s
  if p.table.isNamed s then s!"{p.palette.blue}{name}{p.palette.reset}"
  else p.palette.green ++ "\"" ++ name ++ "\"" ++ p.palette.reset

def range (p : TracePrinter) (start stop : Nat) : String :=
  let c := p.palette
  let text := if p.verbosity = .veryVerbose then
      let text := Text.quoted (Text.slice p.source start stop)
      s!" {c.dim}{c.green}{text}{c.reset}"
    else ""
  s!"{c.dim}{start}..{stop}{c.reset}{text}"

def recovery (p : TracePrinter) (detail : String) : String :=
  p.line "recover" s!"{p.palette.red}{detail}{p.palette.reset}"

/-- The line of a step, if it is shown. -/
def event (p : TracePrinter) : TraceEvent → Option String
  | .lex t =>
    if p.verbosity = .normal then none
    else some (p.line "lex" s!"{p.name t.symbol} {p.range t.start t.stop}")
  | .shift s state extra =>
    let suffix := if extra then " (extra)" else ""
    some (p.line "shift" s!"{p.name s} -> {state}{suffix}")
  | .reduce production s state =>
    if p.verbosity = .normal then none
    else
      let count := ((p.table.production? production).map Production.length).getD 0
      some (p.line "reduce" s!"{p.name s} ({count}) -> {state}")
  | .fork state s branches =>
    some (p.line "fork" s!"{branches} ways on {p.name s} in state {state}")
  | .merge state =>
    if p.verbosity = .normal then none else some (p.line "merge" s!"heads in state {state}")
  | .prune dropped =>
    if p.verbosity = .normal then none else some (p.line "prune" s!"{dropped} heads over the cap")
  | .insert s position => some (p.recovery s!"insert {p.name s} at {position}")
  | .skip s start stop => some (p.recovery s!"skip {p.name s} {p.range start stop}")
  | .pop count => some (p.recovery s!"pop {count} entries")
  | .wrap => some (p.recovery "wrap stack")
  | .reuse s start stop => some (p.line "reuse" s!"{p.name s} {p.range start stop}")
  | .accept s => some (p.line "accept" (p.name s))

/-- The lines of several steps. -/
def lines (p : TracePrinter) (events : List TraceEvent) : List String := events.filterMap p.event

end TracePrinter

end IncrementalGlr
