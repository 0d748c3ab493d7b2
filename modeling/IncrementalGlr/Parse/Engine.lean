import IncrementalGlr.Parse.Lexer
import IncrementalGlr.Parse.Options
import IncrementalGlr.Parse.Reuse
import IncrementalGlr.Parse.Stack
import IncrementalGlr.Parse.Trace

/-!
The parts of a parse: reducing, shifting, merging heads, reusing subtrees and accepting. One token
is dealt with at a time. Every head reduces as far as the token allows, and parts in several where
the table leaves a choice; then the heads that are left take the token together. Heads with the same
states are merged, and only the best are kept.
-/
namespace IncrementalGlr

/-- The number of reductions at one token. -/
def maxReductions : Nat := 4096

/-- Where a head has a choice, the number of the one it makes is noted modulo this number. -/
def choiceLimit : Nat := 65536

/-- What stays the same during a parse. -/
structure Engine where
  table : ParseTable
  lexer : Lexer
  options : ParseOptions
  reuse : Option ReuseCursor
  /-- Whether the parse is to stop, asked for the n-th time. -/
  cancelled : Nat → Bool

/-- What changes during a parse. -/
structure Configuration where
  heads : List Head := [{}]
  /-- Where the padding of the next token begins. -/
  position : Nat := 0
  /-- The state for which the next token is looked for, if it is not that of the heads. -/
  lexState : Option StateId := none
  /-- Tokens skipped since the text last made sense. -/
  pending : List Subtree := []
  /-- A token at which parsing can resume is among those skipped. -/
  resync : Bool := false
  stats : ReuseStats := {}
  /-- The number of actions left. -/
  fuel : Option Nat := none
  /-- How often it was asked whether to stop. -/
  polls : Nat := 0
  trace : Array TraceEvent := #[]
  deriving Repr, Inhabited

/-- Work on a configuration, which may end the parse. -/
abbrev Parsing := ExceptT ParseError (StateM Configuration)

namespace Parsing

def record (event : TraceEvent) : Parsing Unit :=
  modify fun c => { c with trace := c.trace.push event }

/-- Counts one action. -/
def spend : Parsing Unit := do
  match (← get).fuel with
  | none => return
  | some 0 => throw .fuelExhausted
  | some (n + 1) => modify fun c => { c with fuel := some n }

end Parsing

open Parsing

/-! ## Reducing -/

/-- Replaces the children of a production on top of a stack by their node. Extras above them stay
on top. Also returns the state that the node leads to. -/
def Stack.reduce (t : ParseTable) (s : Stack) (id : ProductionId) (lookaheadEnd : Nat)
    (fragile : Bool) : Option (Stack × StateId) := do
  let p ← t.production? id
  let (trailing, rest) := popExtras s []
  let (children, below) ← popChildren rest p.length []
  let next ← t.goto (state below) p.lhs
  let node := Subtree.node p.lhs (some id) children (stop below) lookaheadEnd p.dynamicPrecedence
    fragile (some (state below))
  return (trailing.foldl (fun s extra => push s next extra) (push below next node), next)

namespace Engine

/-- Reduces one head. -/
def reduce (e : Engine) (head : Head) (id : ProductionId) (token : Token) (fragile : Bool) :
    Parsing (Option Head) := do
  match e.table.production? id, head.stack.reduce e.table id token.lookaheadEnd fragile with
  | some p, some (stack, next) =>
    record (.reduce id p.lhs next)
    return some { head with
      stack
      dynamicPrecedence := wrap32 (head.dynamicPrecedence + p.dynamicPrecedence) }
  | _, _ => return none

/-- What became of the heads at a token. -/
structure Phase where
  /-- Heads that take the token, with the state that it leads to; extras lead nowhere. -/
  shifts : List (Head × Option StateId) := []
  accepts : List Head := []
  dead : List Head := []
  /-- There were several heads or several choices. -/
  fragile : Bool := false
  deriving Repr, Inhabited

/-- A phase that is under way. Heads that are done with are kept with the last one first, and so are
those that a reduction led to. -/
structure PhaseState where
  shifts : List (Head × Option StateId) := []
  accepts : List Head := []
  dead : List Head := []
  fragile : Bool
  /-- Heads to be dealt with, and whether they came out of a choice. -/
  work : List (Head × Bool)
  /-- Heads to be dealt with after all of those. -/
  later : List (Head × Bool) := []
  reductions : Nat := 0
  deriving Repr, Inhabited

/-- The phase as it stands. -/
def PhaseState.phase (s : PhaseState) : Phase :=
  ⟨s.shifts.reverse, s.accepts.reverse, s.dead.reverse, s.fragile⟩

/-- Takes the head that has waited longest. -/
def PhaseState.next? (s : PhaseState) : Option ((Head × Bool) × PhaseState) :=
  match s.work with
  | head :: work => some (head, { s with work })
  | [] =>
    match s.later.reverse with
    | head :: work => some (head, { s with work, later := [] })
    | [] => none

/-- Circumstances of an action. -/
structure Circumstances where
  /-- Nodes built now are fragile in any case. -/
  fragile : Bool
  /-- The head came out of a choice. -/
  forked : Bool
  /-- There is a choice now. -/
  conflict : Bool

/-- Does one action with a head. -/
def act (e : Engine) (token : Token) (c : Circumstances) (head : Head) (s : PhaseState)
    (choice : Action × Nat) : Parsing PhaseState := do
  spend
  let branch :=
    if c.conflict then { head with path := choice.2 % choiceLimit :: head.path } else head
  match choice.1 with
  | .shift state => return { s with shifts := (branch, some state) :: s.shifts }
  | .shiftExtra => return { s with shifts := (branch, none) :: s.shifts }
  | .accept => return { s with accepts := branch :: s.accepts }
  | .reduce id =>
    if maxReductions ≤ s.reductions then return { s with dead := branch :: s.dead }
    else
      let s := { s with reductions := s.reductions + 1 }
      match ← e.reduce branch id token (c.fragile || c.forked || c.conflict) with
      | some next => return { s with later := (next, c.forked || c.conflict) :: s.later }
      | none => return { s with dead := branch :: s.dead }

/-- Does all actions of a head. -/
def actAll (e : Engine) (token : Token) (fragile : Bool) (head : Head) (forked : Bool)
    (s : PhaseState) : Parsing PhaseState := do
  let actions := e.table.actions head.state token.symbol
  if actions.isEmpty then return { s with dead := head :: s.dead }
  let conflict := 1 < actions.length
  if conflict then record (.fork head.state token.symbol actions.length)
  let s := { s with fragile := s.fragile || conflict }
  actions.zipIdx.foldlM (e.act token ⟨fragile, forked, conflict⟩ head) s

/-- Deals with heads until none is left. Every head but the first ones comes from a reduction, which
bounds their number. -/
def phaseLoop (e : Engine) (token : Token) (fragile : Bool) : Nat → PhaseState → Parsing Phase
  | 0, s => return s.phase
  | fuel + 1, s =>
    match s.next? with
    | none => return s.phase
    | some ((head, forked), s) => do
      phaseLoop e token fragile fuel (← e.actAll token fragile head forked s)

/-- Lets every head reduce until it takes the token, accepts or dies. -/
def reducePhase (e : Engine) (token : Token) (recovering : Bool) : Parsing Phase := do
  let heads := (← get).heads
  modify fun c => { c with heads := [] }
  let multi := decide (1 < heads.length)
  e.phaseLoop token (recovering || multi) (heads.length + maxReductions)
    { fragile := multi, work := heads.map fun h => (h, false) }

/-! ## Shifting -/

/-- Keeps the first of all heads with the same states. -/
def mergeInto (kept : List Head) : List Head → Parsing (List Head)
  | [] => return kept
  | h :: rest => do
    if kept.any fun k => k.stack.sameStates h.stack then
      record (.merge h.state)
      mergeInto kept rest
    else mergeInto (kept ++ [h]) rest

/-- Merges heads and keeps the best. A head that is left alone forgets its choices. -/
def mergeHeads (e : Engine) (heads : List Head) : Parsing Unit := do
  let kept ← mergeInto [] (heads.mergeSort fun a b => a.preference b != .gt)
  let limit := e.options.maxHeads
  if limit < kept.length then record (.prune (kept.length - limit))
  let heads := match kept.take limit with
    | [only] => [{ only with path := [] }]
    | heads => heads
  modify fun c => { c with heads }

/-- Puts a token, or what stands for a missing one, on the stack of a head. -/
def shiftHead (token : Token) (fragile : Bool) (missing : Option SymbolId)
    (shift : Head × Option StateId) : Parsing Head := do
  let (head, target) := shift
  let extra := target.isNone
  let next := target.getD head.state
  let leaf := match missing with
    | some symbol => Subtree.missing symbol token
    | none => .leaf token extra fragile head.state next
  record (.shift token.symbol next extra)
  let stack := head.stack.push next leaf
  return match missing with
    | some _ => { head with
        stack
        insertions := head.insertions + 1
        errorCost := head.errorCost + 1 }
    | none => { head with stack, insertions := if extra then head.insertions else 0 }

/-- Puts a token on all stacks that take it. -/
def shift (e : Engine) (shifts : List (Head × Option StateId)) (token : Token) (fragile : Bool)
    (missing : Option SymbolId) : Parsing Unit := do
  let heads ← shifts.mapM (shiftHead token (fragile || decide (1 < shifts.length)) missing)
  modify fun c => { c with position := token.stop }
  e.mergeHeads heads

/-! ## Reusing -/

/-- The first candidate that can stand for the parse from here, and the state that it leads to. -/
def chooseReuse (e : Engine) (head : Head) (token : Token) (candidates : List Subtree) :
    Option (Subtree × StateId) :=
  candidates.findSome? fun t =>
    if ReuseCursor.reusable t token head.state then
      (e.table.goto head.state t.symbol).map fun next => (t, next)
    else none

/-- Takes an old subtree over instead of the token, if there is one that fits and only one head. -/
def tryReuse (e : Engine) (shifts : List (Head × Option StateId)) (token : Token) :
    Parsing Bool := do
  match shifts, e.reuse with
  | [(head, some _)], some reuse =>
    let position := (← get).position
    match e.chooseReuse head token (reuse.candidates position) with
    | none => return false
    | some (t, next) =>
      spend
      let stop := position + t.total
      record (.reuse t.symbol (position + t.padding) stop)
      modify fun c => { c with
        stats := ⟨c.stats.nodes + 1, c.stats.bytes + t.total⟩
        lexState := t.info.lexAfter
        heads := [{ head with
          stack := head.stack.push next t
          dynamicPrecedence := wrap32 (head.dynamicPrecedence + t.info.dynamicPrecedence)
          insertions := 0 }]
        position := stop }
      return true
  | _, _ => return false

/-! ## Accepting -/

/-- Splits subtrees around the only one that is no extra. -/
def splitMain (ts : List Subtree) : Option (List Subtree × Subtree × List Subtree) :=
  match ts.dropWhile Subtree.extra with
  | main :: trailing =>
    if trailing.all Subtree.extra then some (ts.takeWhile Subtree.extra, main, trailing) else none
  | [] => none

/-- The root over everything on a stack. Extras around the one node become its first and last
children. -/
def rootOf (subtrees : List Subtree) (lookaheadEnd : Nat) : Subtree :=
  match splitMain subtrees with
  | some (leading, main, trailing) => main.withExtras leading trailing 0 lookaheadEnd
  | none => .error subtrees 0 lookaheadEnd false

def accept (head : Head) (token : Token) : Parsing Subtree := do
  let root := rootOf head.stack.subtrees token.lookaheadEnd
  record (.accept root.symbol)
  return root

end Engine

end IncrementalGlr
