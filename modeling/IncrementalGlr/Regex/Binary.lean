import IncrementalGlr.Codec.Basic
import IncrementalGlr.Regex.Parser

/-!
The bytes of a regular expression, from which it can be run without reading its source again.
-/
namespace IncrementalGlr

open Codec

/-- All assertions, in the order of their numbers. -/
def Look.all : List Look :=
  [.textStart, .textEnd, .lineStart, .lineEnd, .crlfStart, .crlfEnd, .wordBoundary,
    .notWordBoundary, .wordStart, .wordEnd, .wordStartHalf, .wordEndHalf]

namespace Regex

/-- An expression: the number of its kind, then its parts. -/
def encode : Regex → List UInt8
  | empty => [0]
  | chars set => 1 :: writeList (fun r => writeNat r.1 ++ writeNat r.2) set.ranges
  | look what unicode => 2 :: writeNat (Look.all.idxOf what) ++ writeBool unicode
  | seq a b => 3 :: a.encode ++ b.encode
  | alt a b => 4 :: a.encode ++ b.encode
  | loop r n max => 5 :: r.encode ++ writeNat n ++ writeOption writeNat max

/-- An expression that nests at most to the given depth. -/
def decode : Nat → Decoder Regex
  | 0 => throw .endOfInput
  | depth + 1 => do
    let part := decode depth
    match ← readNat 32 with
    | 0 => return empty
    | 1 => return chars ⟨← readList (Prod.mk <$> readNat 32 <*> readNat 32)⟩
    | 2 =>
      match Look.all[← readNat 32]? with
      | some what => return look what (← readBool)
      | none => throw .badValue
    | 3 => return seq (← part) (← part)
    | 4 => return alt (← part) (← part)
    | 5 => return loop (← part) (← readNat 64) (← readOption (readNat 64))
    | _ => throw .badValue

/-- The mark at the front of a stored expression. -/
def mark : List UInt8 := [0x52, 0x45, 0x47, 0x58]

/-- An expression as it is stored. -/
def toBytes (r : Regex) : List UInt8 := mark ++ r.encode

/-- The expression stored in some bytes. Every level takes a byte, so the number of bytes is depth
enough. -/
def ofBytes? (bytes : List UInt8) : Option Regex :=
  if mark.isPrefixOf bytes then
    (Codec.decode (decode (bytes.length + 1)) (bytes.drop mark.length)).toOption
  else none

end Regex

end IncrementalGlr
