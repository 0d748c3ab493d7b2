import IncrementalGlr.Lr.TerminalSet
import IncrementalGlr.Parse.Scanner
import IncrementalGlr.Parse.Token
import IncrementalGlr.Table.Basic

/-!
The lexer. Tokens are asked for one at a time, with the terminals that would be welcome; only those
and the extras compete, and the longest wins. Of equally long ones fixed text wins over patterns,
and the terminal with the smaller number over others of its kind. If nothing fits, all terminals
compete, and if nothing fits even then, one character becomes an error token. Along with every
match goes the end of what was looked at for it, found or not.
-/
namespace IncrementalGlr

/-- A lexer for one text. -/
structure Lexer where
  table : ParseTable
  scanner : Option Scanner
  text : String
  bytes : ByteArray
  bytes_eq : bytes = text.toByteArray

namespace Lexer

def ofText (table : ParseTable) (scanner : Option Scanner) (text : String) : Lexer :=
  ⟨table, scanner, text, text.toByteArray, rfl⟩

/-- The number of bytes of the text. -/
def size (l : Lexer) : Nat := l.bytes.size

/-! ## Matching -/

/-- The outcome of trying one terminal. -/
structure Trial where
  length : Option Nat
  literal : Bool
  /-- The end of what was looked at. -/
  examined : Nat
  deriving DecidableEq, Repr, Inhabited

/-- How many bytes of `literal` from `i` on agree with the text from `offset` on. -/
def commonLength (bytes literal : ByteArray) (offset i : Nat) : Nat :=
  if h : i < literal.size ∧ offset < bytes.size then
    if bytes[offset] = literal[i] then commonLength bytes literal (offset + 1) (i + 1) + 1 else 0
  else 0
termination_by literal.size - i

/-- Tries fixed text. -/
def tryLiteral (l : Lexer) (literal : String) (start : Nat) : Trial :=
  let literal := literal.toByteArray
  let common := commonLength l.bytes literal start 0
  if common = literal.size then ⟨some common, true, start + common⟩
  else ⟨none, true, min (start + common + 1) l.size⟩

/-- Tries a pattern. -/
def tryPattern (l : Lexer) (pattern : Pattern) (start : Nat) : Trial :=
  let scan := pattern.run l.bytes start
  ⟨scan.longest, false, scan.examined⟩

/-- Tries a terminal; there is nothing to try for the end of the text and external tokens. -/
def tryTerminal (l : Lexer) (t : SymbolId) (start : Nat) : Option Trial :=
  match (l.table.token? t).map TokenEntry.matcher with
  | some (.literal text) => some (l.tryLiteral text start)
  | some (.pattern _) => (l.table.pattern? t).map fun p => l.tryPattern p start
  | _ => none

/-! ## Choosing -/

/-- The best match so far. -/
structure Candidate where
  symbol : SymbolId
  length : Nat
  literal : Bool
  deriving DecidableEq, Repr, Inhabited

/-- The best match so far and the end of what was looked at. -/
structure Search where
  best : Option Candidate
  examined : Nat
  deriving DecidableEq, Repr, Inhabited

/-- Whether a match beats the best so far. -/
def beats (length : Nat) (literal : Bool) : Option Candidate → Bool
  | none => true
  | some b => b.length < length || (length == b.length && literal && !b.literal)

/-- Counts a trial of the terminal `t`. Matches of nothing do not count. -/
def Search.add (s : Search) (t : SymbolId) (trial : Trial) : Search :=
  let examined := max s.examined trial.examined
  match trial.length with
  | some length =>
    if 0 < length && beats length trial.literal s.best then
      ⟨some ⟨t, length, trial.literal⟩, examined⟩
    else ⟨s.best, examined⟩
  | none => ⟨s.best, examined⟩

/-- Which terminals compete: those that are welcome, or all. -/
structure Wanted where
  valid : TerminalSet
  any : Bool

def Wanted.contains (w : Wanted) (t : SymbolId) : Bool := w.any || w.valid.contains t

/-- Whether a terminal competes. Where words are known, a keyword does not compete itself; the word
competes for it. -/
def competes (table : ParseTable) (w : Wanted) (t : SymbolId) : Bool :=
  if table.word = some t then w.contains t || table.data.lex.keywords.any w.valid.contains
  else if table.word.isSome && table.isKeyword t then false
  else w.contains t || table.isExtra t

/-- Whether a terminal may stand here: some may not follow padding. -/
def fitsPadding (table : ParseTable) (padded : Bool) (t : SymbolId) : Bool :=
  !(padded && (table.token? t).any (·.immediate))

/-- Tries one more terminal. -/
def consider (l : Lexer) (start : Nat) (padded : Bool) (w : Wanted) (s : Search) (t : SymbolId) :
    Search :=
  if competes l.table w t && fitsPadding l.table padded t then
    match l.tryTerminal t start with
    | some trial => s.add t trial
    | none => s
  else s

/-- The keyword whose text stands between two offsets. -/
def keywordFor (l : Lexer) (start length : Nat) : Option SymbolId :=
  let text := Text.slice l.text start (start + length)
  l.table.data.lex.keywords.find? fun k =>
    match (l.table.token? k).map TokenEntry.matcher with
    | some (.literal keyword) => keyword == text
    | _ => false

/-- The symbol of the best match: a word that is a keyword is that keyword, if it is wanted. -/
def refine (l : Lexer) (start : Nat) (w : Wanted) (c : Candidate) : SymbolId :=
  if l.table.word = some c.symbol then
    match l.keywordFor start c.length with
    | some k => if w.contains k then k else c.symbol
    | none => c.symbol
  else c.symbol

/-- The longest match at `start`, and the end of what was looked at. -/
def longest (l : Lexer) (start : Nat) (padded : Bool) (w : Wanted) (examined : Nat) :
    Option (SymbolId × Nat) × Nat :=
  let search := (List.range' 1 (l.table.terminalCount - 1)).foldl (l.consider start padded w)
    ⟨none, examined⟩
  (search.best.map fun c => (l.refine start w c, c.length), search.examined)

/-! ## Tokens -/

/-- Where padding that begins at `offset` ends, and the end of what was looked at. -/
def skipPadding (l : Lexer) (pattern : Pattern) (offset examined : Nat) : Nat × Nat :=
  if offset < l.size then
    let scan := pattern.run l.bytes offset
    let examined := max examined scan.examined
    match scan.longest with
    | some (n + 1) => skipPadding l pattern (offset + (n + 1)) examined
    | _ => (offset, examined)
  else (offset, examined)
termination_by l.size - offset

/-- Where the token whose padding begins at `position` begins. -/
def contentStart (l : Lexer) (position : Nat) : Nat × Nat :=
  match l.table.padding with
  | some pattern => l.skipPadding pattern position position
  | none => (position, position)

/-- The external tokens that are welcome. -/
def validExternals (table : ParseTable) (valid : TerminalSet) : List Bool :=
  (List.range table.data.externalCount).map fun index =>
    (table.externalSymbol index).any valid.contains

/-- What the external scanner finds at `start`, if it is welcome there. -/
def scanExternal (l : Lexer) (position start : Nat) (valid : TerminalSet) : Option Token :=
  match l.scanner with
  | none => none
  | some scanner =>
    let welcome := validExternals l.table valid
    if welcome.contains true then do
      let result ← scanner.run l.text start welcome
      let symbol ← l.table.externalSymbol result.index
      if welcome.getD result.index false && start < result.stop then
        return ⟨symbol, position, start, result.stop, max result.examined result.stop⟩
      else none
    else none

/-- The token whose padding begins at `position`, when the terminals of `valid` are welcome. -/
def lexWith (l : Lexer) (position : Nat) (valid : TerminalSet) : Token :=
  let (start, examined) := l.contentStart position
  match l.scanExternal position start valid with
  | some token => token
  | none =>
    if l.size ≤ start then ⟨endSymbol, position, l.size, l.size, max examined l.size⟩
    else
      let padded := position < start
      let (found, examined) := match l.longest start padded ⟨valid, false⟩ examined with
        | (some found, examined) => (some found, examined)
        | (none, examined) => l.longest start padded ⟨valid, true⟩ examined
      match found with
      | some (symbol, length) =>
        ⟨symbol, position, start, start + length, max examined (start + length)⟩
      | none =>
        let stop := start + Text.widthAt l.bytes start
        ⟨errorSymbol, position, start, stop, max examined stop⟩

/-- The terminals for which one of the states has actions. -/
def validIn (table : ParseTable) (states : List StateId) : TerminalSet :=
  states.foldl (fun set state =>
    (table.validTerminals state).foldl (fun set t => set ∪ .singleton t) set) .empty

/-- The token whose padding begins at `position`, for a parser in one of the states. -/
def lex (l : Lexer) (position : Nat) (states : List StateId) : Token :=
  l.lexWith position (validIn l.table states)

end Lexer

end IncrementalGlr
