import IncrementalGlr.Grammar.Basic
import IncrementalGlr.Grammar.Error
import IncrementalGlr.Json.Tagged
import IncrementalGlr.Json.Printer

/-!
Grammars as JSON. The text is one object: the name, the rules by name, and the lists of the
grammar. Each rule is a tagged object, `RuleKind.fields` says which members it has. `Grammar.ofJson`
reads such a text and `Grammar.toJson` writes one; empty lists and absent options are not written.
-/
namespace IncrementalGlr

open Json

/-! ## Rules -/

/-- The constructors of `Rule`. -/
inductive RuleKind where
  | blank | string | pattern | symbol | seq | choice | zeroOrMore | oneOrMore | field | renamed
  | token | immediateToken | prec | precLeft | precRight | precDynamic | reserved
  deriving DecidableEq, Repr, Inhabited

/-- What a member of a rule object holds. -/
inductive FieldShape where
  | text | optionalText | flag | integer | precedence | rule | rules
  deriving DecidableEq, Repr, Inhabited

/-- The value of a member. -/
inductive FieldValue where
  | text (s : String)
  | optionalText (s : Option String)
  | flag (b : Bool)
  | integer (n : Int)
  | precedence (p : Precedence)
  | rule (r : Rule)
  | rules (rs : List Rule)

namespace RuleKind

/-- The names that the `type` member may have. -/
def variants : Variants RuleKind :=
  [("BLANK", blank), ("STRING", string), ("PATTERN", pattern), ("SYMBOL", symbol), ("SEQ", seq),
   ("CHOICE", choice), ("REPEAT", zeroOrMore), ("REPEAT1", oneOrMore), ("FIELD", field),
   ("ALIAS", renamed), ("TOKEN", token), ("IMMEDIATE_TOKEN", immediateToken), ("PREC", prec),
   ("PREC_LEFT", precLeft), ("PREC_RIGHT", precRight), ("PREC_DYNAMIC", precDynamic),
   ("RESERVED", reserved)]

/-- The members of a rule object beside `type`. -/
def fields : RuleKind → List (String × FieldShape)
  | blank => []
  | string => [("value", .text)]
  | pattern => [("value", .text), ("flags", .optionalText)]
  | symbol => [("name", .text)]
  | seq => [("members", .rules)]
  | choice => [("members", .rules)]
  | zeroOrMore => [("content", .rule)]
  | oneOrMore => [("content", .rule)]
  | field => [("name", .text), ("content", .rule)]
  | renamed => [("content", .rule), ("value", .text), ("named", .flag)]
  | token => [("content", .rule)]
  | immediateToken => [("content", .rule)]
  | prec => [("value", .precedence), ("content", .rule)]
  | precLeft => [("value", .precedence), ("content", .rule)]
  | precRight => [("value", .precedence), ("content", .rule)]
  | precDynamic => [("value", .integer), ("content", .rule)]
  | reserved => [("context_name", .text), ("content", .rule)]

/-- The rule with the given members. -/
def build : RuleKind → List FieldValue → Option Rule
  | blank, [] => some .blank
  | string, [.text s] => some (.string s)
  | pattern, [.text s, .optionalText flags] => some (.pattern s flags)
  | symbol, [.text name] => some (.symbol name)
  | seq, [.rules members] => some (.seq members)
  | choice, [.rules members] => some (.choice members)
  | zeroOrMore, [.rule content] => some (.zeroOrMore content)
  | oneOrMore, [.rule content] => some (.oneOrMore content)
  | field, [.text name, .rule content] => some (.field name content)
  | renamed, [.rule content, .text name, .flag named] => some (.renamed content name named)
  | token, [.rule content] => some (.token content)
  | immediateToken, [.rule content] => some (.immediateToken content)
  | prec, [.precedence p, .rule content] => some (.prec p content)
  | precLeft, [.precedence p, .rule content] => some (.precLeft p content)
  | precRight, [.precedence p, .rule content] => some (.precRight p content)
  | precDynamic, [.integer n, .rule content] => some (.precDynamic n content)
  | reserved, [.text context, .rule content] => some (.reserved context content)
  | _, _ => none

end RuleKind

/-- Whether a number fits 32 bits with a sign. -/
def fitsInt32 (n : Int) : Bool := -0x80000000 ≤ n && n < 0x80000000

/-- A precedence: a number of 32 bits or the name of a level. -/
def Precedence.ofValue : Value → Except Problem Precedence
  | .integer n => if fitsInt32 n then .ok (.integer n) else .error (.noVariant "JsonPrecedence")
  | .string level => .ok (.name level)
  | _ => .error (.noVariant "JsonPrecedence")

/-- The value of a member that is not there. -/
def FieldShape.absent : FieldShape → Option FieldValue
  | optionalText => some (.optionalText none)
  | _ => none

/-- Reads a member, its rules by means of `rule`. -/
def FieldShape.ofValue (rule : Value → Except Problem Rule) :
    FieldShape → Value → Except Problem FieldValue
  | text, .string s => .ok (.text s)
  | optionalText, .null => .ok (.optionalText none)
  | optionalText, .string s => .ok (.optionalText (some s))
  | flag, .bool b => .ok (.flag b)
  | integer, .integer n => if fitsInt32 n then .ok (.integer n) else .error .mismatch
  | precedence, v => .precedence <$> Precedence.ofValue v
  | FieldShape.rule, v => .rule <$> rule v
  | rules, .array values => .rules <$> values.mapM rule
  | _, _ => .error .mismatch

namespace Rule

/-- The rule of a kind with the given body. -/
def ofBody (rule : Value → Except Problem Rule) (kind : RuleKind) (body : Body) :
    Except Problem Rule := do
  let values ← body.decode kind.fields FieldShape.absent (FieldShape.ofValue rule)
  match kind.build values with
  | some r => return r
  | none => throw .mismatch

/-- The rule that a kept value describes, rules nesting at most to the given depth. -/
def ofValue : Nat → Value → Except Problem Rule
  | 0, _ => .error .malformed
  | depth + 1, v => do
    let (kind, body) ← RuleKind.variants.ofValue v
    ofBody (ofValue depth) kind body

/-- Reads a rule from a text in which values may nest to the given depth. -/
def readJson (depth : Nat) : Reader Rule := do
  let (kind, body) ← RuleKind.variants.read depth
  ofBody (ofValue depth) kind body

end Rule

/-! ## Grammars -/

/-- The variants of an entry of a precedence ordering, with the name of their only member. -/
def PrecedenceEntry.variants : Variants (String × (String → PrecedenceEntry)) :=
  [("STRING", "value", .name), ("SYMBOL", "name", .symbol)]

/-- Reads an entry of a precedence ordering. -/
def PrecedenceEntry.readJson (depth : Nat) : Reader PrecedenceEntry := do
  let ((key, build), body) ← PrecedenceEntry.variants.read depth
  let values ← body.decode [(key, ())] (fun _ => none) fun _ v =>
    match v with
    | .string s => .ok s
    | _ => .error .mismatch
  match values with
  | [s] => return build s
  | _ => throw .mismatch

namespace Grammar

/-- A grammar of which some members have been read. -/
structure Draft where
  name : Option String := none
  rules : Option Rules := none
  extras : Option (List Rule) := none
  precedences : Option (List (List PrecedenceEntry)) := none
  conflicts : Option (List (List String)) := none
  externals : Option (List Rule) := none
  inline : Option (List String) := none
  supertypes : Option (List String) := none
  word : Option (Option String) := none
  reserved : Option (List (String × List Rule)) := none
  inherits : Option (Option String) := none
  recovery : Option (List String) := none

/-- Gives `name` its words in place, or adds it at the end. -/
def putContext (name : String) (words : List Rule) :
    List (String × List Rule) → List (String × List Rule)
  | [] => [(name, words)]
  | e :: rest => if e.1 = name then (name, words) :: rest else e :: putContext name words rest

namespace Draft

/-- The members in their order, each with the depth left inside its value. -/
def keys : List String :=
  ["name", "rules", "extras", "precedences", "conflicts", "externals", "inline", "supertypes",
   "word", "reserved", "inherits", "recovery"]

/-- Whether the member has been read before. -/
def has (d : Draft) : String → Bool
  | "name" => d.name.isSome
  | "rules" => d.rules.isSome
  | "extras" => d.extras.isSome
  | "precedences" => d.precedences.isSome
  | "conflicts" => d.conflicts.isSome
  | "externals" => d.externals.isSome
  | "inline" => d.inline.isSome
  | "supertypes" => d.supertypes.isSome
  | "word" => d.word.isSome
  | "reserved" => d.reserved.isSome
  | "inherits" => d.inherits.isSome
  | "recovery" => d.recovery.isSome
  | _ => false

/-- A rule at the given level of nesting. -/
def ruleAt (level : Nat) : Reader Rule := Rule.readJson (nestingLimit - level)

/-- Reads the value of a member; one that is not known is passed over. -/
def readMember (d : Draft) (key : String) : Reader Draft := do
  match key with
  | "name" => return { d with name := some (← text) }
  | "rules" =>
    let rules ← objectOf (fun (rules : Rules) name => do
      colon
      return rules.put name (← ruleAt 2)) Rules.empty
    return { d with rules := some rules }
  | "extras" => return { d with extras := some (← listOf (ruleAt 2)) }
  | "precedences" =>
    let orderings ← listOf (listOf (PrecedenceEntry.readJson (nestingLimit - 3)))
    return { d with precedences := some orderings }
  | "conflicts" => return { d with conflicts := some (← listOf (listOf text)) }
  | "externals" => return { d with externals := some (← listOf (ruleAt 2)) }
  | "inline" => return { d with inline := some (← listOf text) }
  | "supertypes" => return { d with supertypes := some (← listOf text) }
  | "word" => return { d with word := some (← optionalText) }
  | "reserved" =>
    let contexts ← objectOf (fun (contexts : List (String × List Rule)) name => do
      colon
      return putContext name (← listOf (ruleAt 3)) contexts) []
    return { d with reserved := some contexts }
  | "inherits" => return { d with inherits := some (← optionalText) }
  | "recovery" => return { d with recovery := some (← listOf text) }
  | _ =>
    skipValue
    return d

/-- A member of the object; none of the known ones may be repeated. -/
def member (d : Draft) (key : String) : Reader Draft := do
  if d.has key then throw (.duplicateField key)
  colon
  d.readMember key

/-- The grammar, which needs a name and rules; `missing` says what their absence is. -/
def finish (missing : String → Problem) (d : Draft) : Except Problem Grammar :=
  match d.name, d.rules with
  | none, _ => .error (missing "name")
  | _, none => .error (missing "rules")
  | some name, some rules =>
    .ok {
      name := name
      rules := rules
      extras := d.extras.getD []
      precedences := d.precedences.getD []
      conflicts := d.conflicts.getD []
      externals := d.externals.getD []
      inline := d.inline.getD []
      supertypes := d.supertypes.getD []
      word := d.word.getD none
      reserved := d.reserved.getD []
      inherits := d.inherits.getD none
      recovery := d.recovery.getD [] }

/-- The members by position, the next one being `keys`; `first` says that none came before. -/
def positional (d : Draft) (first : Bool) : List String → Reader Draft
  | [] => do
    match ← peek with
    | some ']' => drop *> pure d
    | none => throw .truncated
    | some _ => throw .malformed
  | key :: keys => do
    match ← peek with
    | none => throw .truncated
    | some ']' =>
      if d.name.isNone || d.rules.isNone then throw .mismatch
      drop
      return d
    | some c =>
      if !first then
        if c ≠ ',' then throw .malformed
        drop
        match ← peek with
        | none => throw .truncated
        | some ']' => throw .malformed
        | some _ => pure ()
      positional (← d.readMember key) false keys

end Draft

/-- Reads a grammar: an object, or an array of its members in order. -/
def readJson : Reader Grammar := do
  match ← peek with
  | some '{' =>
    let d ← object Draft.member ({} : Draft)
    d.finish .missingField
  | some '[' =>
    drop
    let d ← Draft.positional {} true Draft.keys
    d.finish fun _ => .mismatch
  | _ => refuse

/-- Reads a grammar that has at least one rule. -/
def ofJson (text : String) : Except GrammarError Grammar := do
  let g ← (document readJson text).mapError .json
  if g.rules.entries.isEmpty then throw (.noRules g.name) else return g

end Grammar

/-! ## Writing -/

def Precedence.toValue : Precedence → Value
  | integer n => .integer n
  | name level => .string level

def PrecedenceEntry.toValue : PrecedenceEntry → Value
  | name level => .object [("type", .string "STRING"), ("value", .string level)]
  | symbol rule => .object [("type", .string "SYMBOL"), ("name", .string rule)]

/-- A tagged object. -/
def tagged (type : String) (fields : List (String × Value)) : Value :=
  .object (("type", .string type) :: fields)

mutual

/-- A rule as a tagged object. -/
def Rule.toValue : Rule → Value
  | .blank => tagged "BLANK" []
  | .string text => tagged "STRING" [("value", .string text)]
  | .pattern regex none => tagged "PATTERN" [("value", .string regex)]
  | .pattern regex (some flags) =>
    tagged "PATTERN" [("value", .string regex), ("flags", .string flags)]
  | .symbol name => tagged "SYMBOL" [("name", .string name)]
  | .seq members => tagged "SEQ" [("members", .array (rulesToValues members))]
  | .choice members => tagged "CHOICE" [("members", .array (rulesToValues members))]
  | .zeroOrMore content => tagged "REPEAT" [("content", content.toValue)]
  | .oneOrMore content => tagged "REPEAT1" [("content", content.toValue)]
  | .field name content => tagged "FIELD" [("name", .string name), ("content", content.toValue)]
  | .renamed content name named =>
    tagged "ALIAS" [("content", content.toValue), ("value", .string name), ("named", .bool named)]
  | .token content => tagged "TOKEN" [("content", content.toValue)]
  | .immediateToken content => tagged "IMMEDIATE_TOKEN" [("content", content.toValue)]
  | .prec p content => tagged "PREC" [("value", p.toValue), ("content", content.toValue)]
  | .precLeft p content => tagged "PREC_LEFT" [("value", p.toValue), ("content", content.toValue)]
  | .precRight p content => tagged "PREC_RIGHT" [("value", p.toValue), ("content", content.toValue)]
  | .precDynamic n content =>
    tagged "PREC_DYNAMIC" [("value", .integer n), ("content", content.toValue)]
  | .reserved context content =>
    tagged "RESERVED" [("context_name", .string context), ("content", content.toValue)]

def rulesToValues : List Rule → List Value
  | [] => []
  | rule :: rest => rule.toValue :: rulesToValues rest

end

namespace Grammar

/-- A member that is left out when its list is empty. -/
def listMember {α : Type} (key : String) (item : α → Value) (xs : List α) :
    List (String × Value) :=
  if xs.isEmpty then [] else [(key, .array (xs.map item))]

/-- A member that is left out when it has no value. -/
def textMember (key : String) : Option String → List (String × Value)
  | none => []
  | some s => [(key, .string s)]

/-- The reserved words by context, a repeated context keeping its first place and last words. -/
def contexts (g : Grammar) : List (String × List Rule) :=
  g.reserved.foldl (fun contexts e => putContext e.1 e.2 contexts) []

def toValue (g : Grammar) : Value :=
  .object <|
    [("name", .string g.name),
     ("rules", .object (g.rules.entries.map fun e => (e.1, e.2.toValue)))]
      ++ listMember "extras" Rule.toValue g.extras
      ++ listMember "precedences" (fun level => .array (level.map PrecedenceEntry.toValue))
        g.precedences
      ++ listMember "conflicts" (fun names => .array (names.map .string)) g.conflicts
      ++ listMember "externals" Rule.toValue g.externals
      ++ listMember "inline" .string g.inline
      ++ listMember "supertypes" .string g.supertypes
      ++ textMember "word" g.word
      ++ (if g.contexts.isEmpty then []
          else [("reserved",
            .object (g.contexts.map fun e => (e.1, .array (e.2.map Rule.toValue))))])
      ++ textMember "inherits" g.inherits
      ++ listMember "recovery" .string g.recovery

/-- The text of a grammar. -/
def toJson (g : Grammar) : String := g.toValue.pretty

end Grammar

end IncrementalGlr
