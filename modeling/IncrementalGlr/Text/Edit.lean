import IncrementalGlr.Text.Utf8

/-!
Edits: one contiguous part of a text replaced by another. An edit holds three byte offsets: where
the change starts, where the replaced part ended in the old text, and where its replacement ends
in the new one. `splice` performs a replacement, `mapOffset` carries offsets across it, and
`touches` says which ranges of the old text it may have damaged.
-/
namespace IncrementalGlr

/-- Bytes `start..oldEnd` of the old text became bytes `start..newEnd` of the new text. -/
structure Edit where
  start : Nat
  oldEnd : Nat
  newEnd : Nat
  deriving DecidableEq, Repr, Inhabited

namespace Edit

/-- The edit that replaces `oldLen` bytes at `start` by `newLen` bytes. -/
def replace (start oldLen newLen : Nat) : Edit := ⟨start, start + oldLen, start + newLen⟩

/-- Replaces the bytes `start..stop` of `old`; refused when the range is out of bounds, reversed,
or cuts a character. -/
def splice (old : String) (start stop : Nat) (replacement : String) : Option (Edit × String) :=
  if start ≤ stop then
    match old.pos? ⟨start⟩, old.pos? ⟨stop⟩ with
    | some p, some q =>
      some (replace start (stop - start) replacement.utf8ByteSize,
        old.extract old.startPos p ++ replacement ++ old.extract q old.endPos)
    | _, _ => none
  else none

/-- The number of bytes replaced. -/
def oldLen (e : Edit) : Nat := e.oldEnd - e.start

/-- The number of bytes put in. -/
def newLen (e : Edit) : Nat := e.newEnd - e.start

/-- By how much text after the edit moves. -/
def delta (e : Edit) : Int := (e.newEnd : Int) - (e.oldEnd : Int)

/-- Whether neither end lies before the start. -/
def isWellFormed (e : Edit) : Bool := e.start ≤ e.oldEnd && e.start ≤ e.newEnd

/-- The length of the new text, when the old text has `oldTextLen` bytes and the edit fits it. -/
def newTextLen (e : Edit) (oldTextLen : Nat) : Option Nat :=
  if !e.isWellFormed || oldTextLen < e.oldEnd then none
  else some (oldTextLen - e.oldLen + e.newLen)

/-- Where an offset of the old text stands in the new text; offsets inside the replaced part go to
the end of the replacement. -/
def mapOffset (e : Edit) (offset : Nat) : Nat :=
  if offset < e.start then offset
  else if e.oldEnd ≤ offset then ((offset : Int) + e.delta).toNat
  else e.newEnd

/-- Whether the range `start..=stop` of the old text meets the replaced part. Both ends count, so
an insertion at the border of two tokens damages both. -/
def touches (e : Edit) (start stop : Nat) : Bool := start ≤ e.oldEnd && e.start ≤ stop

/-- The edit as `start..oldEnd -> start..newEnd`. -/
def render (e : Edit) : String :=
  s!"{e.start}..{e.oldEnd} -> {e.start}..{e.newEnd}"

end Edit

end IncrementalGlr
