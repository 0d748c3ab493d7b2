import IncrementalGlr.Unicode.CodeSet

/-!
Regular expressions over Unicode characters, with assertions about the position reached. An
expression is matched at a fixed place and every way to match counts, so laziness and the order of
alternatives have no meaning here, and groups leave no trace.

An assertion looks at the byte before and the byte after a position. Word characters are those of
ASCII: an expression with an assertion about words in all of Unicode is not followed past the
first byte outside ASCII (see `usesUnicodeWords`).
-/
namespace IncrementalGlr

open Unicode (CodeSet)

/-- What can be asked of a position. -/
inductive Look where
  | textStart
  | textEnd
  /-- After a line feed, or at the start. -/
  | lineStart
  /-- Before a line feed, or at the end. -/
  | lineEnd
  /-- The same where a carriage return and the pair of both also end a line. -/
  | crlfStart
  | crlfEnd
  | wordBoundary
  | notWordBoundary
  | wordStart
  | wordEnd
  /-- No word character before. -/
  | wordStartHalf
  /-- No word character after. -/
  | wordEndHalf
  deriving DecidableEq, Repr, Inhabited

/-- A regular expression. -/
inductive Regex where
  /-- The empty text. -/
  | empty
  /-- One character of a set. -/
  | chars (set : CodeSet)
  /-- The empty text where the assertion holds; `unicode` says that words are meant in all of
  Unicode. -/
  | look (what : Look) (unicode : Bool)
  | seq (first second : Regex)
  | alt (first second : Regex)
  /-- At least `min` times, and at most `max` times if there is a limit. -/
  | loop (body : Regex) (min : Nat) (max : Option Nat)
  deriving DecidableEq, Repr, Inhabited

/-- Whether the byte is a letter, a digit or the underscore of ASCII. -/
def isWordByte (b : UInt8) : Bool :=
  (0x30 ≤ b && b ≤ 0x39) || (0x41 ≤ b && b ≤ 0x5A) || b = 0x5F || (0x61 ≤ b && b ≤ 0x7A)

/-- Whether the assertion holds between the two bytes; at an end of the text there is none. -/
def Look.holds (look : Look) (before after : Option UInt8) : Bool :=
  let wordBefore := before.any isWordByte
  let wordAfter := after.any isWordByte
  match look with
  | textStart => before.isNone
  | textEnd => after.isNone
  | lineStart => before.all (· = 10)
  | lineEnd => after.all (· = 10)
  | crlfStart => before.all (· = 10) || (before == some 13 && after != some 10)
  | crlfEnd => after.all (· = 13) || (after == some 10 && before != some 13)
  | wordBoundary => wordBefore != wordAfter
  | notWordBoundary => wordBefore == wordAfter
  | wordStart => !wordBefore && wordAfter
  | wordEnd => wordBefore && !wordAfter
  | wordStartHalf => !wordBefore
  | wordEndHalf => !wordAfter

namespace Regex

/-- Whether the expression has an assertion. -/
def hasLook : Regex → Bool
  | empty => false
  | chars _ => false
  | look _ _ => true
  | seq a b => a.hasLook || b.hasLook
  | alt a b => a.hasLook || b.hasLook
  | loop r _ _ => r.hasLook

/-- Whether the expression has an assertion about words in all of Unicode. -/
def usesUnicodeWords : Regex → Bool
  | empty => false
  | chars _ => false
  | look what unicode =>
    unicode && match what with
      | .wordBoundary | .notWordBoundary | .wordStart | .wordEnd | .wordStartHalf
      | .wordEndHalf => true
      | _ => false
  | seq a b => a.usesUnicodeWords || b.usesUnicodeWords
  | alt a b => a.usesUnicodeWords || b.usesUnicodeWords
  | loop r _ _ => r.usesUnicodeWords

/-- The length in characters of the shortest match, assertions taken to hold. An expression of
which a part can match nothing has none. -/
def minLength : Regex → Option Nat
  | empty => some 0
  | chars set => if set.isEmpty then none else some 1
  | look _ _ => some 0
  | seq a b => do return (← a.minLength) + (← b.minLength)
  | alt a b => do return min (← a.minLength) (← b.minLength)
  | loop r n _ => do return (← r.minLength) * n

/-- Whether some text matches, assertions taken to hold. -/
def inhabited : Regex → Bool
  | empty => true
  | chars set => !set.isEmpty
  | look _ _ => true
  | seq a b => a.inhabited && b.inhabited
  | alt a b => a.inhabited || b.inhabited
  | loop r n _ => n = 0 || r.inhabited

/-- A bound on the number of places inside the expression. -/
def size : Regex → Nat
  | empty => 1
  | chars _ => 1
  | look _ _ => 1
  | seq a b => a.size + b.size + 1
  | alt a b => a.size + b.size + 1
  | loop r n max => r.size * (n + max.getD 0 + 1) + 1

/-- One expression after another; the empty one in front disappears. -/
def andThen : Regex → Regex → Regex
  | empty, b => b
  | a, b => seq a b

/-- Several expressions one after another. -/
def sequence : List Regex → Regex
  | [] => empty
  | [r] => r
  | r :: rest => seq r (sequence rest)

/-- One of several expressions. -/
def oneOf : List Regex → Regex
  | [] => empty
  | [r] => r
  | r :: rest => alt r (oneOf rest)

end Regex

end IncrementalGlr
