import IncrementalGlr.Flat.Draft
import IncrementalGlr.Grammar.Levels

/-!
Expanding rules into alternatives. A choice contributes the alternatives of all its members, and a
sequence all combinations of those of its members. A repetition becomes a nonterminal of its own,
`a` made of `a x` or `x` for every alternative `x` of what is repeated. Other parts become
nonterminals of their own where a sequence would have too many combinations, and where something
other than one symbol is given a name.
-/
namespace IncrementalGlr.Flat

/-- A sequence has at most this many alternatives. -/
def maxAlternatives : Nat := 256

namespace Draft

/-- The number of a precedence written in the rule `owner`. -/
def precedenceValue (levels : Levels) (p : Precedence) (owner : Nat) : Drafting Int := do
  match p with
  | .integer n => return n
  | .name level =>
    match levels.ofLevel level with
    | some n => return n
    | none =>
      report (.unknownPrecedence level) ((← get).nonterminalName owner)
      return 0

/-- The alternative that is one token of the rule `owner`. -/
def expandToken (body : Rule) (immediate : Bool) (owner : Nat) : Drafting (List Alternative) := do
  match ← inlineToken body immediate owner with
  | some n => return [.single (.terminal n)]
  | none => return [.empty]

/-- The alternatives of one or more repetitions of `body`, which is what the nonterminal `self` is
made of. -/
def repetition (self : Nat) (body : List Alternative) : List Alternative :=
  let body := body.filter fun a => !a.parts.isEmpty
  let alternatives := body.map (Alternative.append (.single (.nonterminal self))) ++ body
  if alternatives.isEmpty then [.empty] else alternatives

/-- Puts the alternatives of a member behind those of the members before it. -/
def extendSequence (owner : Nat) (before member : List Alternative) :
    Drafting (List Alternative) := do
  if 1 < member.length && maxAlternatives < before.length * member.length then
    let helper ← addHelper owner "seq" member
    return Alternative.product before [.single (.nonterminal helper)]
  else return Alternative.product before member

/-- Names what every alternative is made of. -/
def nameAlternatives (owner : Nat) (name : String) (named : Bool)
    (alternatives : List Alternative) : Drafting (List Alternative) := do
  if alternatives.any fun a => a.parts.length != 1 then
    let helper ← addHelper owner "alias" alternatives
    return [(Alternative.single (.nonterminal helper)).aliased name named]
  else return alternatives.map (Alternative.aliased name named)

mutual

/-- The alternatives of a part of the rule `owner`. -/
def expand (levels : Levels) (owner : Nat) : Rule → Drafting (List Alternative)
  | .blank => return [.empty]
  | .string text => expandToken (.string text) false owner
  | .pattern regex flags => expandToken (.pattern regex flags) false owner
  | .token content => expandToken content false owner
  | .immediateToken content => expandToken content true owner
  | .symbol name => do
    match (← get).names.lookup name with
    | some s => return [.single s]
    | none => return [.empty]
  | .seq members => expandSequence levels owner [.empty] members
  | .choice members => do
    let alternatives ← expandChoice levels owner members
    return if alternatives.isEmpty then [.empty] else alternatives
  | .zeroOrMore content => do
    let helper ← addHelper owner "repeat" []
    setAlternatives helper (repetition helper (← expand levels owner content))
    return [.single (.nonterminal helper), .empty]
  | .oneOrMore content => do
    let helper ← addHelper owner "repeat" []
    setAlternatives helper (repetition helper (← expand levels owner content))
    return [.single (.nonterminal helper)]
  | .field name content => do
    return (← expand levels owner content).map (Alternative.inField name)
  | .renamed content name named => do
    nameAlternatives owner name named (← expand levels owner content)
  | .prec value content => do
    let value ← precedenceValue levels value owner
    return (← expand levels owner content).map (Alternative.binding value none)
  | .precLeft value content => do
    let value ← precedenceValue levels value owner
    return (← expand levels owner content).map (Alternative.binding value (some .left))
  | .precRight value content => do
    let value ← precedenceValue levels value owner
    return (← expand levels owner content).map (Alternative.binding value (some .right))
  | .precDynamic value content => do
    return (← expand levels owner content).map (Alternative.preferred value)
  | .reserved _ content => expand levels owner content

/-- The alternatives of members one after another, behind those given. -/
def expandSequence (levels : Levels) (owner : Nat) (before : List Alternative) :
    List Rule → Drafting (List Alternative)
  | [] => return before
  | rule :: rest => do
    let member ← expand levels owner rule
    expandSequence levels owner (← extendSequence owner before member) rest

/-- The alternatives of all members. -/
def expandChoice (levels : Levels) (owner : Nat) : List Rule → Drafting (List Alternative)
  | [] => return []
  | rule :: rest => do
    let member ← expand levels owner rule
    return member ++ (← expandChoice levels owner rest)

end

end Draft

end IncrementalGlr.Flat
