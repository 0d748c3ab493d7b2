import IncrementalGlr.Grammar.Basic
import IncrementalGlr.Regex.Parser

/-!
Rules that describe one token. The body of a token is fixed text or is written out as a regular
expression; rules may not be referred to inside it.
-/
namespace IncrementalGlr.Rule

/-- The body of a rule that stands for one token, and whether the token must follow the one before
it at once. -/
def tokenBody : Rule → Option (Rule × Bool)
  | .token content => some (content, false)
  | .immediateToken content => some (content, true)
  | .string text => some (.string text, false)
  | .pattern regex flags => some (.pattern regex flags, false)
  | .prec _ content | .precLeft _ content | .precRight _ content | .precDynamic _ content
  | .reserved _ content => content.tokenBody
  | .blank | .symbol _ | .seq _ | .choice _ | .zeroOrMore _ | .oneOrMore _ | .field _ _
  | .renamed _ _ _ => none

/-- The text of a body that is nothing but text. -/
def literalText : Rule → Option String
  | .string text => some text
  | .token content | .immediateToken content | .prec _ content | .precLeft _ content
  | .precRight _ content | .precDynamic _ content => content.literalText
  | .blank | .pattern _ _ | .symbol _ | .seq _ | .choice _ | .zeroOrMore _ | .oneOrMore _
  | .field _ _ | .renamed _ _ _ | .reserved _ _ => none

/-- The regular expression of a pattern. Of its flags only those that regular expressions have are
kept: letters of either case, lines, and dots that match line ends. -/
def patternRegex (regex : String) (flags : Option String) : String :=
  let kept := String.ofList ((flags.getD "").toList.filter fun c => c = 'i' || c = 'm' || c = 's')
  if kept.isEmpty then "(?:" ++ regex ++ ")" else "(?" ++ kept ++ ":" ++ regex ++ ")"

mutual

/-- The regular expression of a token's body, or the first rule that it refers to. -/
def toRegex : Rule → Except String String
  | .blank => .ok ""
  | .string text => .ok (Regex.escapeText text)
  | .pattern regex flags => .ok (patternRegex regex flags)
  | .symbol name => .error name
  | .seq members => do return "(?:" ++ String.join (← toRegexes members) ++ ")"
  | .choice members => do return "(?:" ++ "|".intercalate (← toRegexes members) ++ ")"
  | .zeroOrMore content => do return "(?:" ++ (← content.toRegex) ++ ")*"
  | .oneOrMore content => do return "(?:" ++ (← content.toRegex) ++ ")+"
  | .field _ content | .renamed content _ _ | .token content | .immediateToken content
  | .prec _ content | .precLeft _ content | .precRight _ content | .precDynamic _ content
  | .reserved _ content => content.toRegex

/-- The regular expressions of several rules. -/
def toRegexes : List Rule → Except String (List String)
  | [] => .ok []
  | rule :: rest => do return (← rule.toRegex) :: (← toRegexes rest)

end

mutual

/-- The names that a rule refers to outside of token bodies, in order. -/
def references : Rule → List String
  | .symbol name => [name]
  | .blank | .string _ | .pattern _ _ | .token _ | .immediateToken _ => []
  | .seq members | .choice members => referencesOf members
  | .zeroOrMore content | .oneOrMore content | .field _ content | .renamed content _ _
  | .prec _ content | .precLeft _ content | .precRight _ content | .precDynamic _ content
  | .reserved _ content => content.references

/-- The names that several rules refer to. -/
def referencesOf : List Rule → List String
  | [] => []
  | rule :: rest => rule.references ++ referencesOf rest

end

end IncrementalGlr.Rule
