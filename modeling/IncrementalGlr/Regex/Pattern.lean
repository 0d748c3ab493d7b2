import IncrementalGlr.Regex.Derivative
import IncrementalGlr.Text.Utf8

/-!
Longest matches. A pattern is run over the bytes of a text from a fixed start. The run keeps the
expressions one of which must match the rest, and stops at the first byte after which no match can
follow; `Scan` says how long the longest match was and how far the run had to look. A match is
noticed one byte late, when the byte after it is read, because an assertion at its end may depend
on that byte.
-/
namespace IncrementalGlr

open Unicode (CodeSet)

/-- An expression with what has to be known before it is run. -/
structure Pattern where
  regex : Regex
  /-- The run ends at the first byte outside ASCII. -/
  asciiOnly : Bool
  /-- The expression has assertions. -/
  looks : Bool
  deriving DecidableEq, Repr, Inhabited

/-- The outcome of a run. -/
structure Scan where
  /-- The length of the longest match. -/
  longest : Option Nat
  /-- The end of the bytes looked at. -/
  examined : Nat
  /-- The run ended at a byte it may not look past. -/
  gaveUp : Bool
  deriving DecidableEq, Repr, Inhabited

namespace Pattern

def ofRegex (r : Regex) : Pattern := ⟨r, r.usesUnicodeWords, r.hasLook⟩

/-! ## States of a run -/

/-- A character of which some bytes have been read. -/
structure Partial where
  first : UInt8
  /-- The bits read so far. -/
  bits : Nat
  /-- How many bytes are missing. -/
  missing : Nat
  /-- The smallest character of this many bytes. -/
  least : Nat
  deriving DecidableEq, Repr, Inhabited

/-- The smallest and the largest character that the bytes read so far can become. -/
def Partial.bounds (p : Partial) : Nat × Nat :=
  let unit := Nat.pow 64 p.missing
  (max (p.bits * unit) p.least, p.bits * unit + (unit - 1))

/-- Begins a character of several bytes. -/
def Partial.begin (b : UInt8) : Partial :=
  let n := b.toNat
  if n < 0xE0 then ⟨b, n % 32, 1, 0x80⟩
  else if n < 0xF0 then ⟨b, n % 16, 2, 0x800⟩
  else ⟨b, n % 8, 3, 0x10000⟩

/-- Where a run stands. -/
structure State where
  /-- The byte before the character at hand. -/
  before : Option UInt8
  /-- One of these must match what follows. -/
  threads : List Regex
  /-- The character at hand, if some of its bytes have been read. -/
  inside : Option Partial
  deriving DecidableEq, Repr, Inhabited

/-- The threads after one character. -/
def advance (before : Option UInt8) (first : UInt8) (c : Nat) (threads : List Regex) :
    List Regex :=
  (threads.flatMap (Regex.rests before first c)).eraseDups

/-- Whether a match ends here, `after` being the byte that follows. -/
def State.accepts (s : State) (after : Option UInt8) : Bool :=
  s.inside.isNone && s.threads.any (Regex.nullable s.before after)

/-- The state after one more byte. -/
def State.next (s : State) (b : UInt8) : State :=
  match s.inside with
  | none =>
    if b < 0x80 then ⟨some b, advance s.before b b.toNat s.threads, none⟩
    else { s with inside := some (Partial.begin b) }
  | some p =>
    let bits := p.bits * 64 + b.toNat % 64
    if p.missing ≤ 1 then ⟨some b, advance s.before p.first bits s.threads, none⟩
    else { s with inside := some { p with bits := bits, missing := p.missing - 1 } }

/-! ## Which states can still match

Without assertions a state can match as soon as one of its threads can. With assertions that is
not enough, as in a text end followed by a letter. There the states that can be reached are
searched: characters that no set and no assertion tells apart behave alike, so one of each kind is
tried. -/

/-- The first code points of the intervals in which all characters behave alike. -/
def representatives (threads : List Regex) : List Nat :=
  let bounds := (threads.flatMap Regex.leads).flatMap fun s =>
    s.ranges.flatMap fun r => [r.1, r.2 + 1]
  let special := [0, 0x0A, 0x0B, 0x0D, 0x0E, 0x30, 0x3A, 0x41, 0x5B, 0x5F, 0x60, 0x61, 0x7B, 0x80]
  (special ++ bounds).eraseDups.filter fun c =>
    c ≤ Unicode.maxCodePoint && !(0xD800 ≤ c && c ≤ 0xDFFF)

/-- A byte that assertions treat like the first, or the last, byte of a character. -/
def edgeByte (c : Nat) : UInt8 := if c < 0x80 then c.toUInt8 else 0x80

/-- A position between two characters. -/
abbrev Place := Option UInt8 × List Regex

/-- Whether a match may end at the place, whatever follows. -/
def mayEnd (place : Place) : Bool :=
  let afters := none :: (representatives place.2).map fun c => some (edgeByte c)
  afters.any fun after => place.2.any (Regex.nullable place.1 after)

/-- The places one character further. -/
def successors (place : Place) : List Place :=
  ((representatives place.2).map fun c =>
    (some (edgeByte c), advance place.1 (edgeByte c) c place.2)).filter fun p => !p.2.isEmpty

/-- Searches the places that can be reached, one more character in each round. -/
def search : Nat → List Place → List Place → Bool
  | 0, _, _ => true
  | fuel + 1, seen, frontier =>
    if frontier.any mayEnd then true
    else
      let next := (frontier.flatMap successors).eraseDups.filter fun p => !seen.contains p
      if next.isEmpty then false else search fuel (next ++ seen) next

/-- Whether a match can end at the place or later. -/
def reachesEnd (p : Pattern) (place : Place) : Bool :=
  search (256 * Nat.pow 2 p.regex.size) [place] [place]

/-- Whether a run that ends at the first byte outside ASCII goes on from the place. It goes on as
long as a thread waits for something, whether or not a match can follow, and for one byte more
behind a byte of a word. -/
def waits (place : Place) : Bool :=
  place.2.any (fun r => r.begins || r.surelyEmpty)
    || (place.1.any isWordByte && !place.2.isEmpty)

/-- Whether a match can still end at or after the state. -/
def alive (p : Pattern) (s : State) : Bool :=
  match s.inside with
  | none =>
    if p.asciiOnly then waits (s.before, s.threads)
    else if p.looks then !s.threads.isEmpty && p.reachesEnd (s.before, s.threads)
    else s.threads.any Regex.inhabited
  | some c =>
    let (lo, hi) := c.bounds
    if p.looks then
      (lo :: representatives s.threads).any fun x =>
        lo ≤ x && x ≤ hi &&
          let threads := advance s.before c.first x s.threads
          !threads.isEmpty && p.reachesEnd (some 0x80, threads)
    else s.threads.any (Regex.canTake s.before c.first lo hi)

/-! ## Runs -/

/-- Runs on from the byte at `offset`; `last` is the longest match so far. -/
def runFrom (p : Pattern) (bytes : ByteArray) (start offset : Nat) (s : State)
    (last : Option Nat) : Scan :=
  if h : offset < bytes.size then
    let b := bytes[offset]
    if p.asciiOnly && 0x80 ≤ b then ⟨last, offset + 1, true⟩
    else
      let matched := s.accepts (some b)
      let next := s.next b
      if matched then runFrom p bytes start (offset + 1) next (some (offset - start))
      else if p.alive next then runFrom p bytes start (offset + 1) next last
      else ⟨last, offset + 1, false⟩
  else
    ⟨if s.accepts none then some (bytes.size - start) else last, bytes.size, false⟩
termination_by bytes.size - offset

/-- Runs the pattern from `start`. A byte outside ASCII just before it belongs to no word. -/
def run (p : Pattern) (bytes : ByteArray) (start : Nat) : Scan :=
  let before := if start = 0 then none else bytes[start - 1]?
  runFrom p bytes start start ⟨before, [p.regex], none⟩ none

/-- The length of the longest match at the start of a text of its own; none if the run had to give
up. -/
def longestMatch (p : Pattern) (text : String) : Option Nat :=
  let scan := p.run text.toByteArray 0
  if scan.gaveUp then none else scan.longest

end Pattern

end IncrementalGlr
