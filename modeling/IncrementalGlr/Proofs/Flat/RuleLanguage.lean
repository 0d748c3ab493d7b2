import Mathlib.Order.FixedPoints
import Mathlib.Order.CompletePartialOrder
import Mathlib.Computability.Language
import IncrementalGlr.Flat.Basic
import IncrementalGlr.Token.Body

/-!
What rules say about texts. A rule describes a language of tokens (`Rule.language`): a sequence joins
what its members match, a choice takes any of it, repetitions are powers, and what only gives names
or preferences changes nothing. What names stand for is left open there; a grammar fixes it as the
least solution of the equations that its rules are (`Grammar.languages`), over the symbols of its
flat form.
-/
namespace IncrementalGlr

open scoped Computability

namespace Rule

/-- The form of a token with this body. A body that refers to a rule is an error and has none. -/
def tokenForm (body : Rule) : TokenForm :=
  match body.literalText with
  | some text => .literal text
  | none => .regex (body.toRegex.toOption.getD "")

section Language

variable {α : Type} (token : Terminal → Language α) (names : String → Language α)

/-- The language of a token. One without text is no token and matches nothing but the empty text. -/
def tokenLanguage (body : Rule) (immediate : Bool) : Language α :=
  if body.tokenForm = .literal "" then 1 else token { form := body.tokenForm, immediate }

mutual

/-- What a rule matches, given what tokens and names stand for. -/
def language : Rule → Language α
  | .blank => 1
  | .string text => tokenLanguage token (.string text) false
  | .pattern regex flags => tokenLanguage token (.pattern regex flags) false
  | .token content => tokenLanguage token content false
  | .immediateToken content => tokenLanguage token content true
  | .symbol name => names name
  | .seq members => sequenceLanguage members
  | .choice members => choiceLanguage members
  | .zeroOrMore content => (language content)∗
  | .oneOrMore content => language content * (language content)∗
  | .field _ content | .renamed content _ _ | .prec _ content | .precLeft _ content
  | .precRight _ content | .precDynamic _ content | .reserved _ content => language content

/-- What several rules match one after another. -/
def sequenceLanguage : List Rule → Language α
  | [] => 1
  | rule :: rest => language rule * sequenceLanguage rest

/-- What any of several rules matches. -/
def choiceLanguage : List Rule → Language α
  | [] => 0
  | rule :: rest => language rule + choiceLanguage rest

end

variable {token names} {names' : String → Language α}

mutual

/-- Names that stand for more make a rule match more. -/
theorem language_mono (h : names ≤ names') : (rule : Rule) →
    rule.language token names ≤ rule.language token names'
  | .blank | .string _ | .pattern _ _ | .token _ | .immediateToken _ => le_rfl
  | .symbol name => h name
  | .seq members => sequenceLanguage_mono h members
  | .choice members => choiceLanguage_mono h members
  | .zeroOrMore content => kstar_mono (language_mono h content)
  | .oneOrMore content =>
    mul_le_mul' (language_mono h content) (kstar_mono (language_mono h content))
  | .field _ content | .renamed content _ _ | .prec _ content | .precLeft _ content
  | .precRight _ content | .precDynamic _ content | .reserved _ content => language_mono h content

theorem sequenceLanguage_mono (h : names ≤ names') : (rules : List Rule) →
    sequenceLanguage token names rules ≤ sequenceLanguage token names' rules
  | [] => le_rfl
  | rule :: rest => mul_le_mul' (language_mono h rule) (sequenceLanguage_mono h rest)

theorem choiceLanguage_mono (h : names ≤ names') : (rules : List Rule) →
    choiceLanguage token names rules ≤ choiceLanguage token names' rules
  | [] => le_rfl
  | rule :: rest => add_le_add (language_mono h rule) (choiceLanguage_mono h rest)

end

end Language

/-! ## Rules that can be flattened faithfully -/

mutual

/-- One of the rule's alternatives is empty, whatever its names stand for. What is repeated or given
a name is never empty itself: it stands behind a symbol of its own. -/
def isOptional : Rule → Bool
  | .blank | .zeroOrMore _ => true
  | .string text => text == ""
  | .token content | .immediateToken content => content.tokenForm == .literal ""
  | .pattern _ _ | .symbol _ | .oneOrMore _ | .renamed _ _ _ => false
  | .seq members => allOptional members
  | .choice members => members.isEmpty || someOptional members
  | .field _ content | .prec _ content | .precLeft _ content | .precRight _ content
  | .precDynamic _ content | .reserved _ content => isOptional content

def allOptional : List Rule → Bool
  | [] => true
  | rule :: rest => isOptional rule && allOptional rest

def someOptional : List Rule → Bool
  | [] => false
  | rule :: rest => isOptional rule || someOptional rest

end

mutual

/-- Outside of tokens every choice has members, and nothing optional is repeated one or more times:
of such a repetition the empty text would be lost. -/
def isProper : Rule → Bool
  | .blank | .string _ | .pattern _ _ | .token _ | .immediateToken _ | .symbol _ => true
  | .seq members => areProper members
  | .choice members => !members.isEmpty && areProper members
  | .oneOrMore content => !content.isOptional && isProper content
  | .zeroOrMore content | .field _ content | .renamed content _ _ | .prec _ content
  | .precLeft _ content | .precRight _ content | .precDynamic _ content
  | .reserved _ content => isProper content

def areProper : List Rule → Bool
  | [] => true
  | rule :: rest => isProper rule && areProper rest

end

mutual

/-- Outside of tokens nothing is said about how the rule binds. -/
def isEven : Rule → Bool
  | .blank | .string _ | .pattern _ _ | .token _ | .immediateToken _ | .symbol _ => true
  | .prec _ _ | .precLeft _ _ | .precRight _ _ => false
  | .seq members | .choice members => areEven members
  | .zeroOrMore content | .oneOrMore content | .field _ content | .renamed content _ _
  | .precDynamic _ content | .reserved _ content => isEven content

def areEven : List Rule → Bool
  | [] => true
  | rule :: rest => isEven rule && areEven rest

end

end Rule

/-! ## The symbols of a flat grammar by what they were made for -/

/-- The places of the entries that have a key, by that key, the latest first. -/
def latest {α β : Type} (key : α → Option β) (xs : List α) : List (β × Nat) :=
  (xs.zipIdx.filterMap fun (x, i) => (key x).map (·, i)).reverse

namespace FlatGrammar

/-- The name by which rules refer to a symbol; symbols made up for parts of rules have none. -/
def referredName (info : SymbolInfo) : Option String :=
  if info.named && info.kind != .auxiliary then some info.name else none

/-- The token that a terminal without a name stands for where rules write it out. The text of an
external token is taken for that token. -/
def writtenToken (info : SymbolInfo) (t : Terminal) : Option Terminal :=
  if info.named then none
  else match t.form with
    | .endOfText => none
    | .external _ => some { form := .literal info.name }
    | .literal _ | .regex _ => some t

/-- The symbols that rules refer to by name. -/
def symbolsByName (g : FlatGrammar) : List (String × SymbolId) :=
  latest referredName (g.symbols.toList.take (g.terminalCount + g.nonterminalCount))

/-- The terminals that rules write out. -/
def terminalsByToken (g : FlatGrammar) : List (Terminal × SymbolId) :=
  latest (fun (info, t) => writtenToken info t) (g.symbols.toList.zip g.terminals.toList)

/-- What a token written out in a rule matches: its terminal. -/
def tokenLanguage (g : FlatGrammar) (t : Terminal) : Language SymbolId :=
  {w | ∃ s, g.terminalsByToken.lookup t = some s ∧ w = [s]}

end FlatGrammar

/-! ## The languages of a grammar -/

namespace Grammar

variable (g : Grammar) (flat : FlatGrammar)

/-- See `Rule.isProper`. -/
def isProper : Bool := g.rules.entries.all fun e => e.2.isProper

/-- See `Rule.isEven`. -/
def isEven : Bool := g.rules.entries.all fun e => e.2.isEven

/-- What a name matches, given what names match: its terminal, or what the rule of that name does. -/
def nameLanguage (names : String → Language SymbolId) (name : String) : Language SymbolId :=
  match flat.symbolsByName.lookup name with
  | none => 0
  | some s =>
    if flat.isTerminal s then {[s]}
    else match g.rules.find? name with
      | none => 0
      | some body => body.language flat.tokenLanguage names

variable {g flat} in
theorem nameLanguage_mono {names names' : String → Language SymbolId} (h : names ≤ names') :
    g.nameLanguage flat names ≤ g.nameLanguage flat names' := by
  intro name
  unfold nameLanguage
  split
  · exact le_rfl
  · split
    · exact le_rfl
    · split
      · exact le_rfl
      · exact Rule.language_mono h _

/-- What names match, over the symbols of the flat form: the least languages that are what the rules
of those names say of them. -/
def languages : String → Language SymbolId :=
  OrderHom.lfp ⟨g.nameLanguage flat, fun _ _ h => nameLanguage_mono h⟩

theorem nameLanguage_languages : g.nameLanguage flat (g.languages flat) = g.languages flat :=
  OrderHom.map_lfp ⟨g.nameLanguage flat, fun _ _ h => nameLanguage_mono h⟩

variable {g flat} in
/-- The languages are contained in all that are at least what the rules say. -/
theorem languages_le {names : String → Language SymbolId} (h : g.nameLanguage flat names ≤ names) :
    g.languages flat ≤ names :=
  OrderHom.lfp_le _ h

end Grammar

end IncrementalGlr
