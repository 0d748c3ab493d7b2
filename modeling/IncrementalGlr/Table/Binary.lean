import IncrementalGlr.Codec.Basic
import IncrementalGlr.Table.Basic
import IncrementalGlr.Table.Header

/-!
Stored tables: a header, then the table in the binary format. Reading checks the header against the
bytes before it looks at the table itself.
-/
namespace IncrementalGlr

open Codec

/-! ## Writing -/

def SymbolKind.all : List SymbolKind :=
  [.endOfText, .literal, .pattern, .external, .nonterminal, .auxiliary, .renamed]

def Associativity.all : List Associativity := [.none, .left, .right]

def SymbolInfo.encode (s : SymbolInfo) : List UInt8 :=
  writeText s.name ++ writeNat (SymbolKind.all.idxOf s.kind) ++ writeBool s.named
    ++ writeBool s.visible ++ writeBool s.extra ++ writeBool s.supertype

def Child.encode (c : Child) : List UInt8 :=
  writeNat c.symbol ++ writeOption writeNat c.field ++ writeOption writeNat c.renamed

def Production.encode (p : Production) : List UInt8 :=
  writeNat p.lhs ++ writeList Child.encode p.children ++ writeInt p.precedence
    ++ writeNat (Associativity.all.idxOf p.associativity) ++ writeInt p.dynamicPrecedence

def Action.encode : Action → List UInt8
  | shift state => 0 :: writeNat state
  | shiftExtra => [1]
  | reduce production => 2 :: writeNat production
  | accept => [3]

def StoredPattern.encode (p : StoredPattern) : List UInt8 :=
  writeText p.source ++ writeBytes p.automaton

def Matcher.encode : Matcher → List UInt8
  | endOfText => [0]
  | literal text => 1 :: writeText text
  | pattern p => 2 :: p.encode
  | external index => 3 :: writeNat index

def TokenEntry.encode (t : TokenEntry) : List UInt8 := t.matcher.encode ++ writeBool t.immediate

def LexTable.encode (l : LexTable) : List UInt8 :=
  writeList TokenEntry.encode l.tokens.toList ++ writeOption StoredPattern.encode l.padding
    ++ writeOption writeNat l.word ++ writeList writeNat l.keywords

namespace TableData

/-- A table, part by part. -/
def encodeBody (d : TableData) : List UInt8 :=
  writeText d.name ++ writeList SymbolInfo.encode d.symbols.toList
    ++ writeNat d.terminalCount ++ writeNat d.nonterminalCount ++ writeNat d.externalCount
    ++ writeList writeText d.fields.toList ++ writeList Production.encode d.productions.toList
    ++ writeNat d.stateCount ++ writeList (writeList Action.encode) d.actionLists.toList
    ++ writeList writeNat d.actionIndex.toList ++ writeList writeNat d.gotoIndex.toList
    ++ writeNat d.startSymbol ++ d.lex.encode ++ writeList writeNat d.recovery
    ++ writeList (writeList writeNat) d.conflicts

/-- The header for a table with the given body. -/
def header (d : TableData) (body : List UInt8) : Header where
  magic := Header.expectedMagic
  version := Header.expectedVersion
  checksum := checksum body
  totalSize := (Header.size + body.length).toUInt32
  bodySize := body.length.toUInt32
  symbolCount := d.symbols.size.toUInt16
  terminalCount := d.terminalCount.toUInt16
  externalCount := d.externalCount.toUInt16
  fieldCount := d.fields.size.toUInt16
  productionCount := d.productions.size.toUInt16
  stateCount := d.stateCount.toUInt16
  actionListCount := d.actionLists.size.toUInt16
  reserved := Vector.replicate 30 0

/-- The bytes of a stored table. -/
def encode (d : TableData) : List UInt8 :=
  let body := d.encodeBody
  (d.header body).toBytes ++ body

end TableData

/-! ## Reading -/

/-- The value with the number that is read, in a list of all values. -/
def readVariant {α : Type} (all : List α) : Decoder α := do
  match all[← readNat 32]? with
  | some x => return x
  | none => throw .badValue

/-- The number of a field, which is not 0. -/
def readFieldId : Decoder FieldId := do
  let n ← readNat 16
  if n = 0 then throw .badValue else return n

def SymbolInfo.read : Decoder SymbolInfo := do
  return {
    name := ← readText
    kind := ← readVariant SymbolKind.all
    named := ← readBool
    visible := ← readBool
    extra := ← readBool
    supertype := ← readBool }

def Child.read : Decoder Child := do
  return {
    symbol := ← readNat 16
    field := ← readOption readFieldId
    renamed := ← readOption (readNat 16) }

def Production.read : Decoder Production := do
  return {
    lhs := ← readNat 16
    children := ← readList Child.read
    precedence := ← readInt
    associativity := ← readVariant Associativity.all
    dynamicPrecedence := ← readInt }

def Action.read : Decoder Action := do
  match ← readNat 32 with
  | 0 => return .shift (← readNat 16)
  | 1 => return .shiftExtra
  | 2 => return .reduce (← readNat 16)
  | 3 => return .accept
  | _ => throw .badValue

def StoredPattern.read : Decoder StoredPattern := do
  return { source := ← readText, automaton := ← readBytes }

def Matcher.read : Decoder Matcher := do
  match ← readNat 32 with
  | 0 => return .endOfText
  | 1 => return .literal (← readText)
  | 2 => return .pattern (← StoredPattern.read)
  | 3 => return .external (← readNat 16)
  | _ => throw .badValue

def TokenEntry.read : Decoder TokenEntry := do
  return { matcher := ← Matcher.read, immediate := ← readBool }

def LexTable.read : Decoder LexTable := do
  return {
    tokens := (← readList TokenEntry.read).toArray
    padding := ← readOption StoredPattern.read
    word := ← readOption (readNat 16)
    keywords := ← readList (readNat 16) }

def TableData.read : Decoder TableData := do
  return {
    name := ← readText
    symbols := (← readList SymbolInfo.read).toArray
    terminalCount := ← readNat 16
    nonterminalCount := ← readNat 16
    externalCount := ← readNat 16
    fields := (← readList readText).toArray
    productions := (← readList Production.read).toArray
    stateCount := ← readNat 16
    actionLists := (← readList (readList Action.read)).toArray
    actionIndex := (← readList (readNat 16)).toArray
    gotoIndex := (← readList (readNat 16)).toArray
    startSymbol := ← readNat 16
    lex := ← LexTable.read
    recovery := ← readList (readNat 16)
    conflicts := ← readList (readList (readNat 16)) }

/-- Why bytes are not a usable table. -/
inductive TableError where
  | invalidMagic
  | unsupportedVersion (version : UInt32)
  | fileTooSmall (size : Nat)
  | sizeMismatch (header : UInt32) (actual : Nat)
  | checksumMismatch (expected actual : UInt32)
  | malformed (fault : Fault)
  | defect (what : TableDefect)
  deriving DecidableEq, Repr, Inhabited

namespace TableError

/-- A number as eight hexadecimal digits. -/
def hex32 (n : UInt32) : String :=
  let digits := Nat.toDigits 16 n.toNat
  "0x" ++ String.ofList (List.replicate (8 - digits.length) '0' ++ digits)

def message : TableError → String
  | invalidMagic => "invalid magic: expected THKT"
  | unsupportedVersion version => s!"unsupported version: {version.toNat} (expected 1)"
  | fileTooSmall size => s!"file too small: {size} bytes (minimum 64)"
  | sizeMismatch header actual => s!"size mismatch: header says {header.toNat} bytes, got {actual}"
  | checksumMismatch expected actual =>
    s!"checksum mismatch: header says {hex32 expected}, body hashes to {hex32 actual}"
  | malformed fault => "malformed table body: " ++ fault.message
  | defect (.inconsistent what) => "inconsistent table: " ++ what.message
  | defect (.invalidPattern name) => s!"invalid DFA for token `{name}`"

end TableError

/-- Reads a stored table and makes it ready for use. -/
def ParseTable.ofBytes (bytes : List UInt8) : Except TableError ParseTable := do
  if bytes.length < Header.size then throw (.fileTooSmall bytes.length)
  let header := Header.ofBytes (bytes.take Header.size)
  let body := bytes.drop Header.size
  if !header.hasMagic then throw .invalidMagic
  if !header.hasVersion then throw (.unsupportedVersion header.version)
  if header.totalSize.toNat ≠ bytes.length || header.bodySize.toNat ≠ body.length then
    throw (.sizeMismatch header.totalSize bytes.length)
  let actual := checksum body
  if actual ≠ header.checksum then throw (.checksumMismatch header.checksum actual)
  let data ← (decode TableData.read body).mapError .malformed
  (ParseTable.ofData data).mapError .defect

end IncrementalGlr
