import IncrementalGlr.Grammar.Basic

/-!
Building a grammar step by step. The first rule added is the start rule, and adding a name again
replaces its body.
-/
namespace IncrementalGlr.Grammar

/-- Defines a rule. -/
def rule (g : Grammar) (name : String) (body : Rule) : Grammar :=
  { g with rules := g.rules.put name body }

/-- Adds something that may stand between any two tokens. -/
def extra (g : Grammar) (body : Rule) : Grammar := { g with extras := g.extras ++ [body] }

/-- Adds a token of the external scanner. -/
def external (g : Grammar) (body : Rule) : Grammar := { g with externals := g.externals ++ [body] }

/-- Sets the token that keywords are carved out of. -/
def keywordToken (g : Grammar) (name : String) : Grammar := { g with word := some name }

/-- Adds a set of rules between which ambiguity is intended. -/
def conflict (g : Grammar) (names : List String) : Grammar :=
  { g with conflicts := g.conflicts ++ [names] }

/-- Adds a token at which parsing resumes after an error. -/
def recoverAt (g : Grammar) (token : String) : Grammar :=
  { g with recovery := g.recovery ++ [token] }

end IncrementalGlr.Grammar
