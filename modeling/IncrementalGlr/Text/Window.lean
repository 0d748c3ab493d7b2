import IncrementalGlr.Text.Width

/-!
Which columns of long lines are shown. Lines that are too long, or that begin with much blank
space, are cut around the columns that matter. Where something was cut off three dots stand instead
of the columns next to it.
-/
namespace IncrementalGlr

/-- The columns of lines that are shown. -/
structure Window where
  left : Nat
  right : Nat
  /-- How many columns there are to show a line in. -/
  available : Nat
  deriving DecidableEq, Repr, Inhabited

/-- What is to be seen in some lines, in columns. -/
structure Focus where
  /-- The blank columns at the front of every line. -/
  blanks : Nat
  /-- Where the marks begin. -/
  start : Nat
  /-- Where they end. -/
  stop : Nat
  /-- The end of what is written beside them. -/
  labelStop : Nat
  /-- The length of the longest line. -/
  length : Nat
  deriving DecidableEq, Repr, Inhabited

namespace Window

/-- The columns kept free around what matters. -/
def room : Nat := 6

/-- More blank columns than this at the front of a line are cut down to `fewBlanks`. -/
def longBlanks : Nat := 20

def fewBlanks : Nat := 4

/-- Of a line that does not fit, the columns around the mark and what is written under it; if those
do not fit either, around the mark alone. -/
def around (available : Nat) (f : Focus) : Window :=
  let start := f.start - room
  let stop := f.stop + room
  let blanks := f.blanks - room
  let ofLeft (left : Nat) : Window := ⟨left, left + available, available⟩
  if f.labelStop + room - blanks ≤ available then ofLeft blanks
  else if f.labelStop + room - start ≤ available then
    ofLeft (start - (available - (f.labelStop + room - start)) / 2)
  else if stop - start ≤ available then ofLeft (start - (available - (stop - start)) / 5 * 2)
  else ⟨start, stop, available⟩

/-- The columns to show. -/
def ofFocus (available : Nat) (f : Focus) : Window :=
  let blanks := f.blanks - room
  let left := if longBlanks < blanks then blanks - (longBlanks - fewBlanks) else 0
  let right := max f.length left
  if right - left ≤ available then ⟨left, right, available⟩ else around available f

/-- Characters from the first on that does not begin before the column. -/
def dropColumns : Nat → List Char → List Char
  | _, [] => []
  | 0, cs => cs
  | n + 1, c :: rest => dropColumns (n + 1 - Text.columns c) rest

/-- Characters as long as they fit into so many columns. -/
def takeColumns : Nat → List Char → List Char
  | _, [] => []
  | n, c :: rest => if Text.columns c ≤ n then c :: takeColumns (n - Text.columns c) rest else []

/-- The part of a line that is shown. -/
structure Piece where
  /-- The columns left out in front. -/
  skipped : Nat
  /-- Whether dots stand in front. -/
  dotsBefore : Bool
  /-- The columns that the dots in front, and a blank that may follow them, stand for. -/
  indent : Nat
  middle : List Char
  /-- How many characters of the middle the dots behind it stand over, if there are dots. -/
  dotsAfter : Option Nat
  deriving DecidableEq, Repr, Inhabited

/-- The dots that stand for what was cut off. -/
def dots : String := "..."

/-- How many characters, and how many columns of them, make room for the dots; `columns` is what is
there already. -/
def dotRoom (columns : Nat) : List Char → Nat × Nat
  | [] => (0, columns)
  | c :: rest =>
    let columns := columns + Text.columns c
    if dots.length ≤ columns then (1, columns)
    else
      let (count, columns) := dotRoom columns rest
      (count + 1, columns)

/-- The part of a line in the window. A character that the left edge of the window divides is left
out. The dots take the place of columns of what is left. -/
def piece (w : Window) (line : List Char) : Piece :=
  let length := Text.totalColumns line
  let left := min w.left length
  let right := if length - w.left ≤ w.available then length else min length w.right
  let behind := dropColumns left line
  let inside := takeColumns (right - left) behind
  let cutLeft := 0 < w.left
  let (count, indent) := if cutLeft then dotRoom 0 inside else (0, 0)
  { skipped := length - Text.totalColumns behind
    dotsBefore := cutLeft
    indent
    middle := inside.drop count
    dotsAfter := if right < length then some (dotRoom 0 inside.reverse).1 else none }

end Window

end IncrementalGlr
