import IncrementalGlr.Grammar.Basic
import IncrementalGlr.Grammar.Error

/-!
The binary form of a grammar: its fields in order, rules as the index of their kind followed by
their parts.
-/
namespace IncrementalGlr

open Codec

/-! ## Writing -/

def Precedence.encode : Precedence → List UInt8
  | integer n => 0 :: writeInt n
  | name level => 1 :: writeText level

def PrecedenceEntry.encode : PrecedenceEntry → List UInt8
  | name level => 0 :: writeText level
  | symbol rule => 1 :: writeText rule

mutual

/-- A rule: the index of its kind, then its parts. -/
def Rule.encode : Rule → List UInt8
  | .blank => [0]
  | .string text => 1 :: writeText text
  | .pattern regex flags => 2 :: writeText regex ++ writeOption writeText flags
  | .symbol name => 3 :: writeText name
  | .seq members => 4 :: writeNat members.length ++ encodeRules members
  | .choice members => 5 :: writeNat members.length ++ encodeRules members
  | .zeroOrMore content => 6 :: content.encode
  | .oneOrMore content => 7 :: content.encode
  | .field name content => 8 :: writeText name ++ content.encode
  | .renamed content name named => 9 :: content.encode ++ writeText name ++ writeBool named
  | .token content => 10 :: content.encode
  | .immediateToken content => 11 :: content.encode
  | .prec value content => 12 :: value.encode ++ content.encode
  | .precLeft value content => 13 :: value.encode ++ content.encode
  | .precRight value content => 14 :: value.encode ++ content.encode
  | .precDynamic value content => 15 :: writeInt value ++ content.encode
  | .reserved context content => 16 :: writeText context ++ content.encode

/-- Rules one after the other. -/
def encodeRules : List Rule → List UInt8
  | [] => []
  | rule :: rest => rule.encode ++ encodeRules rest

end

/-- The bytes of a grammar. -/
def Grammar.encode (g : Grammar) : List UInt8 :=
  writeText g.name
    ++ writeList (fun e => writeText e.1 ++ e.2.encode) g.rules.entries
    ++ writeList Rule.encode g.extras
    ++ writeList (writeList PrecedenceEntry.encode) g.precedences
    ++ writeList (writeList writeText) g.conflicts
    ++ writeList Rule.encode g.externals
    ++ writeList writeText g.inline
    ++ writeList writeText g.supertypes
    ++ writeOption writeText g.word
    ++ writeList (fun e => writeText e.1 ++ writeList Rule.encode e.2) g.reserved
    ++ writeOption writeText g.inherits
    ++ writeList writeText g.recovery

/-! ## Reading -/

def Precedence.decode : Decoder Precedence := do
  match ← readNat 32 with
  | 0 => .integer <$> readInt
  | 1 => .name <$> readText
  | _ => throw .badValue

def PrecedenceEntry.decode : Decoder PrecedenceEntry := do
  match ← readNat 32 with
  | 0 => .name <$> readText
  | 1 => .symbol <$> readText
  | _ => throw .badValue

/-- A rule that nests at most to the given depth. Every level takes a byte, so the number of bytes
is depth enough. -/
def Rule.decode : Nat → Decoder Rule
  | 0 => throw .endOfInput
  | depth + 1 => do
    let content := Rule.decode depth
    match ← readNat 32 with
    | 0 => return .blank
    | 1 => .string <$> readText
    | 2 => .pattern <$> readText <*> readOption readText
    | 3 => .symbol <$> readText
    | 4 => .seq <$> readList content
    | 5 => .choice <$> readList content
    | 6 => .zeroOrMore <$> content
    | 7 => .oneOrMore <$> content
    | 8 => .field <$> readText <*> content
    | 9 => .renamed <$> content <*> readText <*> readBool
    | 10 => .token <$> content
    | 11 => .immediateToken <$> content
    | 12 => .prec <$> Precedence.decode <*> content
    | 13 => .precLeft <$> Precedence.decode <*> content
    | 14 => .precRight <$> Precedence.decode <*> content
    | 15 => .precDynamic <$> readInt <*> content
    | 16 => .reserved <$> readText <*> content
    | _ => throw .badValue

/-- A rule at the front of the input. -/
def Rule.read : Decoder Rule := do Rule.decode ((← get).length + 1)

/-- A grammar at the front of the input. -/
def Grammar.read : Decoder Grammar := do
  return {
    name := ← readText
    rules := .ofList (← readList (Prod.mk <$> readText <*> Rule.read))
    extras := ← readList Rule.read
    precedences := ← readList (readList PrecedenceEntry.decode)
    conflicts := ← readList (readList readText)
    externals := ← readList Rule.read
    inline := ← readList readText
    supertypes := ← readList readText
    word := ← readOption readText
    reserved := ← readList (Prod.mk <$> readText <*> readList Rule.read)
    inherits := ← readOption readText
    recovery := ← readList readText }

/-- The grammar that `bytes` begins with. -/
def Grammar.ofBytes (bytes : List UInt8) : Except GrammarError Grammar :=
  (decode Grammar.read bytes).mapError .binary

end IncrementalGlr
