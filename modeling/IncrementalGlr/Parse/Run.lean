import IncrementalGlr.Parse.Recovery

/-!
Whole parses. Tokens are dealt with one after another until one ends the parse. A token is tried
again after every repair; the number of repairs at one token is limited.
-/
namespace IncrementalGlr

open Parsing

namespace Engine

/-- The best dead head at a token, or the subtree or the heads that it led to. -/
inductive Progress where
  | finished (root : Subtree)
  | taken
  | stuck (head : Head)
  deriving Repr, Inhabited

/-- Lets the heads take the token. -/
def advance (e : Engine) (token : Token) (recovering : Bool) : Parsing Progress := do
  let phase ← e.reducePhase token recovering
  match Head.preferred phase.accepts with
  | some head => return .finished (← accept head token)
  | none =>
    if phase.shifts.isEmpty then return .stuck ((Head.preferred phase.dead).getD {})
    else
      if !(← e.tryReuse phase.shifts token) then e.shift phase.shifts token phase.fragile none
      return .taken

/-- Tries the token. While tokens are put aside nothing is done with one that is not welcome. -/
def attempt (e : Engine) (token : Token) (again : Bool) : Parsing Progress := do
  let c ← get
  if c.pending.isEmpty then e.advance token again
  else if ← e.resume token then e.advance token true
  else return .stuck (c.heads.headD {})

/-- Deals with a token; so many repairs are left. Returns the root if the token ends the parse. -/
def consume (e : Engine) : Nat → Token → Parsing (Option Subtree)
  | 0, token => do
    match ← e.attempt token true with
    | .finished root => return some root
    | .taken => return none
    | .stuck head =>
      spend
      e.giveUp head token
  | repairs + 1, token => do
    match ← e.attempt token (decide (repairs + 1 < maxAttempts)) with
    | .finished root => return some root
    | .taken => return none
    | .stuck head =>
      spend
      match ← e.repair head token with
      | some token => consume e repairs token
      | none => e.giveUp head token

/-- The next token. -/
def nextToken (e : Engine) : Parsing Token := do
  let c ← get
  let states := match c.lexState with
    | some state => [state]
    | none => c.heads.map Head.state
  let token := e.lexer.lex c.position states
  set { c with lexState := none }
  record (.lex token)
  return token

/-- Asks whether to stop. -/
def poll (e : Engine) : Parsing Unit := do
  let c ← get
  set { c with polls := c.polls + 1 }
  if e.cancelled c.polls then throw .cancelled

/-- Deals with tokens until one ends the parse. -/
def runFrom (e : Engine) : Nat → Parsing Subtree
  | 0 => throw .endless
  | pulls + 1 => do
    e.poll
    match ← e.consume maxAttempts (← e.nextToken) with
    | some root => return root
    | none => runFrom e pulls

/-- Every token that does not end the parse has at least one byte, unless the table takes the end of
the text. Such a table is followed for a while. -/
def run (e : Engine) : Parsing Subtree := e.runFrom (e.lexer.size + 1 + maxReductions)

end Engine

end IncrementalGlr
