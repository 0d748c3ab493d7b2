/-!
What can be said about a grammar. A finding that is an error keeps the grammar from being
compiled; a warning points at something that is probably not meant. A diagnostic may name the rule
that it is about.
-/
namespace IncrementalGlr

inductive Severity where
  | error
  | warning
  deriving DecidableEq, Repr, Inhabited

def Severity.name : Severity → String
  | error => "error"
  | warning => "warning"

/-- What is wrong with a grammar, or doubtful about it. -/
inductive Finding where
  | emptyGrammar
  | undefinedSymbol (name : String)
  /-- A rule that no text matches. -/
  | unproductiveRule (name : String)
  | invalidRegex (regex : String)
  /-- Patterns of extras that are expressions each by itself, but not as alternatives of one. -/
  | invalidPadding (regex : String)
  /-- A token whose body refers to a rule. -/
  | symbolInToken (name : String)
  | invalidExternal (index : Nat)
  | invalidWord (name : String)
  | unknownPrecedence (level : String)
  | precedenceCycle
  | tooManyStates (limit : Nat)
  | unreachableRule (name : String)
  /-- An extra that names a rule which is no token. -/
  | extraNotToken (name : String)
  /-- An extra of a kind that cannot be one. -/
  | unsupportedExtra
  | unresolvedConflict (rules : List String) (lookahead : String)
  | unknownRecovery (name : String)
  | unknownConflict (name : String)
  /-- A token that matches the empty text. -/
  | matchesEmpty (regex : String)
  /-- A token without text. -/
  | emptyToken
  deriving DecidableEq, Repr, Inhabited

namespace Finding

def severity : Finding → Severity
  | emptyGrammar | undefinedSymbol _ | unproductiveRule _ | invalidRegex _ | invalidPadding _
  | symbolInToken _ | invalidExternal _ | invalidWord _ | unknownPrecedence _ | precedenceCycle
  | tooManyStates _ => .error
  | unreachableRule _ | extraNotToken _ | unsupportedExtra | unresolvedConflict _ _
  | unknownRecovery _ | unknownConflict _ | matchesEmpty _ | emptyToken => .warning

def message : Finding → String
  | emptyGrammar => "grammar has no rules"
  | undefinedSymbol name => s!"undefined symbol `{name}`"
  | unproductiveRule name => s!"rule `{name}` can never finish matching"
  | invalidRegex regex => s!"invalid regex `{regex}`"
  | invalidPadding regex => s!"invalid regex `{regex}`: error building NFA"
  | symbolInToken name => s!"token bodies cannot reference rule `{name}`"
  | invalidExternal index => s!"external token #{index} must be a symbol or a string"
  | invalidWord name => s!"word `{name}` must name a token rule"
  | unknownPrecedence level => s!"precedence `{level}` is not declared in `precedences`"
  | precedenceCycle => "precedence orderings contradict each other"
  | tooManyStates limit => s!"grammar needs more than {limit} parse states"
  | unreachableRule name => s!"rule `{name}` is unreachable from the start rule"
  | extraNotToken name => s!"extra `{name}` is not a token; only token extras are supported"
  | unsupportedExtra => "extras must be patterns, strings or token rules"
  | unresolvedConflict rules lookahead =>
    let names := ", ".intercalate rules
    s!"unresolved conflict between [{names}] before `{lookahead}`"
  | unknownRecovery name => s!"recovery symbol `{name}` is not a token of this grammar"
  | unknownConflict name => s!"conflict entry `{name}` is not a rule"
  | matchesEmpty regex => s!"token `{regex}` matches the empty string; empty matches are ignored"
  | emptyToken => "empty string token is ignored"

end Finding

/-- A finding and the rule that it is about. -/
structure Diagnostic where
  finding : Finding
  rule : Option String := none
  deriving DecidableEq, Repr, Inhabited

namespace Diagnostic

def severity (d : Diagnostic) : Severity := d.finding.severity

def isError (d : Diagnostic) : Bool := d.severity == .error

def isWarning (d : Diagnostic) : Bool := d.severity == .warning

def message (d : Diagnostic) : String := d.finding.message

/-- The diagnostic on one line. -/
def render (d : Diagnostic) : String :=
  let place := match d.rule with
    | some rule => s!" (in rule `{rule}`)"
    | none => ""
  s!"{d.severity.name}: {d.message}{place}"

end Diagnostic

end IncrementalGlr
