import IncrementalGlr.Diagnostic.Basic
import IncrementalGlr.Fixpoint
import IncrementalGlr.Token.Body

/-!
What the rules of a grammar refer to: names that nothing defines, and the rules that can be reached
from the start rule and the extras. External tokens end a path, and the bodies of tokens refer to
nothing.
-/
namespace IncrementalGlr.Grammar

/-- The names of external tokens. -/
def externalNames (g : Grammar) : List String :=
  g.externals.filterMap fun
    | .symbol name => some name
    | _ => none

/-- Whether a rule or an external token has the name. -/
def defines (g : Grammar) (name : String) : Bool :=
  g.rules.contains name || g.externalNames.contains name

/-- Every name referred to with the rule that does so, if one does, in order. -/
def allReferences (g : Grammar) : List (String × Option String) :=
  g.rules.entries.flatMap (fun e => e.2.references.map fun name => (name, some e.1))
    ++ g.extras.flatMap (fun e => e.references.map fun name => (name, none))

/-- The first of every group of entries with one name. -/
def firstOfEachName (seen : List String) :
    List (String × Option String) → List (String × Option String)
  | [] => []
  | e :: rest =>
    if seen.contains e.1 then firstOfEachName seen rest
    else e :: firstOfEachName (e.1 :: seen) rest

/-- Names that nothing defines, each where it is first referred to. -/
def undefinedReferences (g : Grammar) : List Diagnostic :=
  (firstOfEachName [] (g.allReferences.filter fun e => !g.defines e.1)).map fun e =>
    { finding := .undefinedSymbol e.1, rule := e.2 }

/-- The names that can be reached in one step from names already reached, which come first. -/
def reachStep (g : Grammar) (reached : List String) : List String :=
  let next := reached.flatMap fun name => ((g.rules.find? name).map Rule.references).getD []
  let fresh := (next.filter fun n => !reached.contains n && !g.externalNames.contains n).eraseDups
  reached ++ fresh

/-- The names reached from the start rule and the extras. -/
def reachable (g : Grammar) : List String :=
  let roots := (g.startRule?.map Prod.fst).toList ++ g.extras.flatMap Rule.references
  let roots := (roots.filter fun n => !g.externalNames.contains n).eraseDups
  settle g.reachStep (g.rules.entries.length + 1) roots

/-- Rules that are neither reached nor external. -/
def unreachableRules (g : Grammar) : List Diagnostic :=
  let reached := g.reachable
  (g.rules.names.filter fun n => !reached.contains n && !g.externalNames.contains n).map fun n =>
    { finding := .unreachableRule n, rule := some n }

end IncrementalGlr.Grammar
