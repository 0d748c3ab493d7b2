import IncrementalGlr.Parse.Engine
import IncrementalGlr.Parse.Simulation

/-!
What happens at a token that no head can take. A symbol that is missing before the token is made up,
if one makes the token welcome: nonterminals are tried before terminals, and smaller numbers first.
Else, at the end of the text or at a token chosen for it, the stack is taken down to where the token
is welcome, and what was on it becomes an error node. Else the token is skipped. Skipped tokens
become an error node as soon as a token is welcome again.
-/
namespace IncrementalGlr

/-- How often a repair is tried at one token. -/
def maxAttempts : Nat := 6

open Parsing

namespace Engine

/-- Closes the error node of skipped tokens if `token` is welcome. -/
def resume (e : Engine) (token : Token) : Parsing Bool := do
  let c ← get
  match c.heads with
  | [] => return false
  | head :: rest =>
    if e.table.isExtra token.symbol || head.stack.viable e.table [] token.symbol then
      let error := Subtree.error c.pending head.stack.stop token.lookaheadEnd true
      let head := { head with
        stack := head.stack.push head.state error
        errorCost := head.errorCost + 1 }
      set { c with heads := head :: rest, pending := [], resync := false }
      return true
    else return false

/-- The padding of the token went to what was made up before it. -/
def inserted (symbol : SymbolId) (token : Token) : Parsing Token := do
  record (.insert symbol token.start)
  modify fun c => { c with position := token.start }
  return { token with paddingStart := token.start }

/-- The first nonterminal after which the token is welcome, and the state that it leads to. -/
def missingNonterminal (e : Engine) (head : Head) (token : Token) : Option (SymbolId × StateId) :=
  (List.range' e.table.terminalCount e.table.data.nonterminalCount).findSome? fun symbol =>
    match e.table.goto head.state symbol with
    | some next =>
      if head.stack.viable e.table [next] token.symbol then some (symbol, next) else none
    | none => none

/-- The terminals after which the token is welcome, ascending. -/
def missingTerminals (e : Engine) (head : Head) (token : Token) : List SymbolId :=
  (e.table.validTerminals head.state).filter fun symbol =>
    symbol != endSymbol && !e.table.isExtra symbol &&
      match Simulation.run e.table ⟨head.stack, []⟩ symbol with
      | some after => (after.run e.table token.symbol).isSome
      | none => false

/-- Takes a terminal that is not there, if a head can take it. -/
def insertTerminal (e : Engine) (head : Head) (token : Token) (symbol : SymbolId) :
    Parsing (Option Head) := do
  let standIn := { token with symbol, stop := token.start }
  modify fun c => { c with heads := [head] }
  let phase ← e.reducePhase standIn true
  match Head.preferredBy Prod.fst (phase.shifts.filter fun s => s.2.isSome) with
  | none => return none
  | some best =>
    e.shift [best] standIn true (some symbol)
    return (← get).heads.head?

/-- Takes the first of several terminals that a head can take. -/
def insertFirst (e : Engine) (head : Head) (token : Token) :
    List SymbolId → Parsing (Option (Head × Token))
  | [] => return none
  | symbol :: rest => do
    match ← e.insertTerminal head token symbol with
    | some head => return some (head, ← inserted symbol token)
    | none => insertFirst e head token rest

/-- Makes up the symbol that is missing before the token. -/
def insert (e : Engine) (head : Head) (token : Token) : Parsing (Option (Head × Token)) := do
  match e.missingNonterminal head token with
  | some (symbol, next) =>
    let token' ← inserted symbol token
    return some ({ head with
      stack := head.stack.push next (.missing symbol token)
      errorCost := head.errorCost + 1
      insertions := head.insertions + 1 }, token')
  | none => insertFirst e head token (e.missingTerminals head token)

/-- Takes a stack down to where the token is welcome. Returns what was taken off, in order. -/
def popUntil (t : ParseTable) (terminal : SymbolId) :
    Stack → List Subtree → Option (List Subtree × Stack)
  | [], _ => none
  | entry :: below, popped =>
    if Stack.viable t below [] terminal then some (entry.subtree :: popped, below)
    else popUntil t terminal below (entry.subtree :: popped)

/-- Gives up what is on the stack above the place where the token is welcome. -/
def popToViable (e : Engine) (head : Head) (token : Token) : Parsing (Option Head) := do
  match popUntil e.table token.symbol head.stack [] with
  | none => return none
  | some (popped, below) =>
    let c ← get
    let error := Subtree.error (popped ++ c.pending) below.stop token.lookaheadEnd true
    set { c with pending := [], resync := false }
    record (.pop popped.length)
    return some {
      stack := below.push below.state error
      errorCost := head.errorCost + 1
      dynamicPrecedence := head.dynamicPrecedence }

/-- Puts the token aside. -/
def skip (e : Engine) (head : Head) (token : Token) : Parsing Unit := do
  record (.skip token.symbol token.start token.stop)
  modify fun c => { c with
    pending := c.pending ++ [.leaf token false true head.state head.state]
    resync := c.resync || e.table.isRecovery token.symbol
    position := token.stop
    heads := [head] }

/-- An error root over everything. -/
def wrap (head : Head) (token : Token) : Parsing Subtree := do
  record .wrap
  return .error (head.stack.subtrees ++ (← get).pending) 0 token.lookaheadEnd false

/-- Makes the token welcome by giving up what stands before it, if the token is one for which that is
done. -/
def repairByPopping (e : Engine) (head : Head) (token : Token) : Parsing (Option Token) := do
  let c ← get
  if token.symbol == endSymbol || c.resync || e.table.isRecovery token.symbol then
    match ← e.popToViable head token with
    | some head =>
      modify fun c => { c with heads := [head] }
      return some token
    | none => return none
  else return none

/-- Makes the token welcome, if that can be done. Returns the token, which may have lost its
padding. -/
def repair (e : Engine) (head : Head) (token : Token) : Parsing (Option Token) := do
  let c ← get
  if c.pending.isEmpty && token.symbol != errorSymbol
      && head.insertions < e.options.maxInsertions then
    match ← e.insert head token with
    | some (head, token) =>
      modify fun c => { c with heads := [head] }
      return some token
    | none => e.repairByPopping head token
  else e.repairByPopping head token

/-- Ends the parse at the end of the text, and puts any other token aside. -/
def giveUp (e : Engine) (head : Head) (token : Token) : Parsing (Option Subtree) := do
  if token.symbol = endSymbol then return some (← wrap head token)
  else
    e.skip head token
    return none

end Engine

end IncrementalGlr
