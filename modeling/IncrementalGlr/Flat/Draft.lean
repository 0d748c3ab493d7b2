import IncrementalGlr.Diagnostic.Basic
import IncrementalGlr.Flat.Alternative
import IncrementalGlr.Flat.Basic
import IncrementalGlr.Token.Body

/-!
Drafts of flat grammars. A draft collects the terminals and nonterminals of a grammar, and what is
to be said about it, while its rules are expanded. Tokens written inside rules are entered once for
each text or regular expression.
-/
namespace IncrementalGlr.Flat

/-- A terminal and what is known of it. -/
structure TerminalDraft where
  info : SymbolInfo
  terminal : Terminal
  deriving DecidableEq, Repr, Inhabited

/-- A nonterminal and its alternatives. -/
structure NonterminalDraft where
  name : String
  kind : SymbolKind
  visible : Bool
  supertype : Bool := false
  /-- The nonterminal of the rule that this one was made for. -/
  owner : Nat
  alternatives : List Alternative := []
  /-- The precedence of alternatives that have none of their own. -/
  precedence : Option Int := none
  /-- How many nonterminals were made for this rule. -/
  helpers : Nat := 0
  deriving DecidableEq, Repr, Inhabited

structure Draft where
  terminals : Array TerminalDraft := #[]
  /-- Tokens without a rule of their own, the latest first. -/
  anonymous : List (Terminal × Nat) := []
  nonterminals : Array NonterminalDraft := #[]
  /-- Rules and external tokens by name, the latest first. -/
  names : List (String × Sym) := []
  /-- How many regular expressions were given names. -/
  regexes : Nat := 0
  diagnostics : Array Diagnostic := #[]
  deriving DecidableEq, Repr, Inhabited

/-- Work on a draft. -/
abbrev Drafting := StateM Draft

namespace Draft

def report (finding : Finding) (rule : Option String) : Drafting Unit :=
  modify fun d => { d with diagnostics := d.diagnostics.push { finding, rule } }

def nonterminalName (d : Draft) (i : Nat) : String := ((d.nonterminals[i]?).map (·.name)).getD ""

/-- Enters a terminal and returns its number. -/
def addTerminal (t : TerminalDraft) : Drafting Nat := do
  let n := (← get).terminals.size
  modify fun d => { d with terminals := d.terminals.push t }
  return n

/-- Enters a nonterminal and returns its number. -/
def addNonterminal (n : NonterminalDraft) : Drafting Nat := do
  let i := (← get).nonterminals.size
  modify fun d => { d with nonterminals := d.nonterminals.push n }
  return i

def bindName (name : String) (s : Sym) : Drafting Unit :=
  modify fun d => { d with names := (name, s) :: d.names }

def setAlternatives (i : Nat) (alternatives : List Alternative) : Drafting Unit :=
  modify fun d => { d with
    nonterminals := d.nonterminals.modify i fun n => { n with alternatives } }

/-- Enters a nonterminal made for a part of the rule `owner`. -/
def addHelper (owner : Nat) (suffix : String) (alternatives : List Alternative) :
    Drafting Nat := do
  let number := (((← get).nonterminals[owner]?).map (·.helpers)).getD 0 + 1
  let name := s!"{(← get).nonterminalName owner}_{suffix}{number}"
  modify fun d => { d with
    nonterminals := d.nonterminals.modify owner fun n => { n with helpers := number } }
  addNonterminal { name, kind := .auxiliary, visible := false, owner, alternatives }

/-- The form of a token with the given body; `owner` is the rule that findings name. -/
def tokenForm (body : Rule) (owner : String) : Drafting TokenForm := do
  match body.literalText with
  | some text => return .literal text
  | none =>
    match body.toRegex with
    | .error name =>
      report (.symbolInToken name) owner
      return .regex ""
    | .ok regex =>
      match Regex.parse? regex with
      | none => report (.invalidRegex regex) owner
      | some parsed =>
        if parsed.minLength = some 0 then report (.matchesEmpty regex) owner
      return .regex regex

/-- The number of a token without a rule of its own, which is entered unless it is known. A regular
expression is named after the rule `owner`. -/
def intern (t : Terminal) (owner : Nat) : Drafting Nat := do
  let d ← get
  match d.anonymous.lookup t with
  | some n => return n
  | none =>
    let info ← match t.form with
      | .literal text =>
        pure { name := text, kind := .literal, named := false, visible := true : SymbolInfo }
      | _ =>
        let number := d.regexes + 1
        set { d with regexes := number }
        pure {
          name := s!"{d.nonterminalName owner}_token{number}"
          kind := .pattern
          named := false
          visible := false : SymbolInfo }
    let n ← addTerminal { info, terminal := t }
    modify fun d => { d with anonymous := (t, n) :: d.anonymous }
    return n

/-- The number of the token with the given body that stands in the rule `owner`; a token without
text has none. -/
def inlineToken (body : Rule) (immediate : Bool) (owner : Nat) : Drafting (Option Nat) := do
  let ownerName := (← get).nonterminalName owner
  let form ← tokenForm body ownerName
  if form = .literal "" then
    report .emptyToken ownerName
    return none
  else return some (← intern { form, immediate } owner)

end Draft

end IncrementalGlr.Flat
