/-!
Positions as rows and columns. Rows are separated by line feeds only, and columns count bytes;
both start at zero. A line index holds the offsets at which the rows of a text begin.
-/
namespace IncrementalGlr

/-- A row and the byte column within it. -/
structure Point where
  row : Nat
  column : Nat
  deriving DecidableEq, Repr, Inhabited

namespace Point

/-- Rows first, then columns. -/
def compare (a b : Point) : Ordering :=
  (Ord.compare a.row b.row).then (Ord.compare a.column b.column)

/-- The point as `row:column`. -/
def render (p : Point) : String := s!"{p.row}:{p.column}"

end Point

/-- Where the rows of a text after the first begin, in order. -/
structure LineIndex where
  starts : List Nat
  deriving DecidableEq, Repr, Inhabited

namespace LineIndex

/-- The offsets after the line feeds among the bytes from `offset` on. -/
def startsFrom (offset : Nat) : List UInt8 → List Nat
  | [] => []
  | b :: rest =>
    if b = 10 then (offset + 1) :: startsFrom (offset + 1) rest else startsFrom (offset + 1) rest

def ofText (text : String) : LineIndex := ⟨startsFrom 0 text.toByteArray.toList⟩

/-- The point of an offset: a row for every row that has begun there. -/
def point (lines : LineIndex) (offset : Nat) : Point :=
  let begun := lines.starts.takeWhile (· ≤ offset)
  ⟨begun.length, offset - begun.getLast?.getD 0⟩

end LineIndex

end IncrementalGlr
