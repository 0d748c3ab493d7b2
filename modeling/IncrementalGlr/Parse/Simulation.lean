import IncrementalGlr.Parse.Stack
import IncrementalGlr.Table.Basic

/-!
Trying a terminal out. A simulation runs the table on a terminal without building anything: it keeps
states on top of a stack that it only looks at. Where there is a choice it follows the first way to
the end before the others. It gives up after a fixed number of steps.
-/
namespace IncrementalGlr

/-- The number of steps of one simulation. -/
def simulationBudget : Nat := 256

/-- States, the topmost first, on top of a stack. -/
structure Simulation where
  base : Stack
  pushed : List StateId := []
  deriving Repr, Inhabited

namespace Simulation

def top (s : Simulation) : StateId := s.pushed.headD s.base.state

/-- Takes one subtree that is no extra off a stack, with the extras above it. -/
def dropOne : Stack → Option Stack
  | [] => none
  | e :: below => if e.subtree.extra then dropOne below else some below

/-- Takes `count` states off; fails at the bottom. -/
def pop (s : Simulation) : Nat → Option Simulation
  | 0 => some s
  | count + 1 =>
    match s.pushed with
    | _ :: rest => pop ⟨s.base, rest⟩ count
    | [] => (dropOne s.base).bind fun base => pop ⟨base, []⟩ count

/-- The simulation after a reduction. -/
def reduce (t : ParseTable) (s : Simulation) (id : ProductionId) : Option Simulation := do
  let p ← t.production? id
  let rest ← s.pop p.length
  let next ← t.goto rest.top p.lhs
  return { rest with pushed := next :: rest.pushed }

/-- What the actions of one step lead to. -/
inductive Outcome where
  /-- The terminal is taken. -/
  | done (s : Simulation)
  /-- Reductions lead here, in order. -/
  | next (ways : List Simulation)
  deriving Repr, Inhabited

/-- Tries actions in order. -/
def tryActions (t : ParseTable) (s : Simulation) : List Action → Outcome
  | [] => .next []
  | .shift state :: _ => .done { s with pushed := state :: s.pushed }
  | .shiftExtra :: _ => .done s
  | .accept :: _ => .done s
  | .reduce id :: rest =>
    match tryActions t s rest with
    | .done result => .done result
    | .next ways => .next ((s.reduce t id).toList ++ ways)

/-- Goes on with a simulation; others wait to be tried when it fails. Of the ways that a step leads
to, the first is followed and the others wait, the last of them first. -/
def runFrom (t : ParseTable) (terminal : SymbolId) :
    Nat → Simulation → List Simulation → Option Simulation
  | 0, _, _ => none
  | fuel + 1, s, waiting =>
    match tryActions t s (t.actions s.top terminal) with
    | .done result => some result
    | .next (first :: others) => runFrom t terminal fuel first (others.reverse ++ waiting)
    | .next [] =>
      match waiting with
      | [] => none
      | s :: rest => runFrom t terminal fuel s rest

/-- Runs the table on a terminal until the terminal is taken. -/
def run (t : ParseTable) (s : Simulation) (terminal : SymbolId) : Option Simulation :=
  runFrom t terminal simulationBudget s []

end Simulation

/-- Whether a terminal can be taken from a stack with more states on top of it. -/
def Stack.viable (t : ParseTable) (s : Stack) (pushed : List StateId) (terminal : SymbolId) :
    Bool :=
  (Simulation.run t ⟨s, pushed⟩ terminal).isSome

end IncrementalGlr
