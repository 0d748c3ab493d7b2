import IncrementalGlr.Diagnostic.Basic
import IncrementalGlr.Text.Canvas
import IncrementalGlr.Text.SourceLine
import IncrementalGlr.Text.Window

/-!
Excerpts of a text with a place marked in it: a title, the position, the lines of the place, and
carets under the marked columns with a label beside them. A place that reaches over several lines
has a caret at each of its two ends, joined by a rail in front of the lines; of the lines between
the ends only some are shown.
-/
namespace IncrementalGlr

/-- A place in a text with something to say about it. -/
structure Snippet where
  severity : Severity
  title : String
  source : String
  /-- Where the text is from. -/
  path : Option String
  /-- The first byte marked. -/
  start : Nat
  /-- The end of the bytes marked. -/
  stop : Nat
  label : String
  deriving Repr, Inhabited

namespace Snippet

/-- What is marked in a line, in columns of the line as it is shown. -/
inductive Mark where
  /-- All that is marked at all. -/
  | whole (start stop : Nat)
  /-- Where a place begins that ends in a later line. -/
  | opening (start : Nat)
  /-- Nothing of its own: the line stands between the two ends. -/
  | inside
  /-- Where a place ends that began in an earlier line. -/
  | closing (stop : Nat)
  deriving DecidableEq, Repr, Inhabited

namespace Mark

/-- The first column under which a caret stands. -/
def start : Mark → Nat
  | .whole start _ | .opening start => start
  | .inside => 0
  | .closing stop => stop - 1

/-- The column behind the carets. -/
def stop : Mark → Nat
  | .whole _ stop | .closing stop => stop
  | .opening start => start + 1
  | .inside => 0

/-- Whether the label stands beside the mark. -/
def isLabelled : Mark → Bool
  | .whole _ _ | .closing _ => true
  | .opening _ | .inside => false

end Mark

/-- A line that is shown for its mark. -/
structure MarkedLine where
  line : SourceLine
  mark : Mark
  deriving DecidableEq, Repr, Inhabited

/-! ## Which lines are shown -/

/-- A line by its number. -/
def lineOf (lines : List SourceLine) (number : Nat) : SourceLine :=
  (lines[number - 1]?).getD default

/-- At most so many lines from the first on are shown together. -/
def openingLines : Nat := 4

/-- The lines shown between the two ends of a place: those that follow the first up to the last one
near it that tells something, and the one before the end if it tells something. -/
def insideLines (lines : List SourceLine) (first last : Nat) : List SourceLine :=
  let telling (number : Nat) : Bool := (lineOf lines number).telling
  let near := min (first + openingLines) last
  let stop := match ((List.range' first (near - first)).filter telling).getLast? with
    | some number => number + 1
    | none => first
  let numbers := List.range' (first + 1) (stop - (first + 1))
    ++ if near < last - 1 && telling (last - 1) then [last - 1] else []
  numbers.map (lineOf lines)

/-- The lines with their marks, at least one. A place without width is marked by one caret, and one
that ends with the end of a later line by a caret behind that line. -/
def markedLines (s : Snippet) (lines : List SourceLine) : List MarkedLine :=
  let first := SourceLine.holding lines s.start
  let last := SourceLine.holding lines s.stop
  let start := shownColumns (first.front s.start)
  let stop := shownColumns (last.front s.stop)
  if first.number = last.number then
    [⟨first, .whole start (if stop = start then start + 1 else stop)⟩]
  else
    let stop := if last.contentStop < s.stop then stop + 1 else stop
    ⟨first, .opening start⟩ :: (insideLines lines first.number last.number).map (⟨·, .inside⟩)
      ++ [⟨last, .closing stop⟩]

/-- The column, counted in characters from 1, at which the place begins. Behind the line it is one
further than the line's end. -/
def startColumn (s : Snippet) (line : SourceLine) : Nat :=
  (line.front s.start).length + if line.contentStop < s.start then 2 else 1

/-- What is to be seen in the lines. -/
def focus (s : Snippet) (marked : List MarkedLine) : Focus :=
  let ends := marked.flatMap fun m => [m.mark.start, m.mark.stop]
  let start := ends.min?.getD 0
  let labelStop (m : MarkedLine) : Nat :=
    m.mark.stop + if m.mark.isLabelled then shownColumns s.label.toList + 1 else 0
  { start
    blanks := min ((marked.filterMap (·.line.blanks?)).min?.getD 0) start
    stop := ends.max?.getD 0
    labelStop := (marked.map labelStop).max?.getD 0
    length := (marked.map fun m => shownColumns m.line.chars).max?.getD 0 }

/-! ## Where the parts stand -/

/-- The columns of the parts of a row. -/
structure Layout where
  /-- How many columns the line numbers take. -/
  numbers : Nat
  /-- The column of the text. -/
  code : Nat
  /-- What is shown of the text. -/
  window : Window
  deriving DecidableEq, Repr, Inhabited

/-- The number of columns of an excerpt. -/
def totalWidth : Nat := 140

/-- The layout of an excerpt. The numbers take as many columns as that of the last line that begins
before the end of the place. -/
def layout (s : Snippet) (lines : List SourceLine) (marked : List MarkedLine) : Layout :=
  let numbers := (toString (max 1 (lines.countP (·.offset < s.stop)))).length
  let code := numbers + if 1 < marked.length then 5 else 3
  ⟨numbers, code, Window.ofFocus (totalWidth - code) (s.focus marked)⟩

def spaces (n : Nat) : String := String.ofList (List.replicate n ' ')

namespace Layout

/-- The column of the bar behind the numbers. -/
def bar (l : Layout) : Nat := l.numbers + 1

/-- The column of the rail that joins the two ends of a place. -/
def rail (l : Layout) : Nat := l.numbers + 3

def putBar (l : Layout) (row : Nat) (c : Canvas) : Canvas := c.put row l.bar .frame "|"

def putRail (l : Layout) (row : Nat) (c : Canvas) : Canvas := c.put row l.rail .alert "|"

/-- Puts a line in a row with its number. -/
def putLine (l : Layout) (row : Nat) (line : SourceLine) (c : Canvas) : Canvas :=
  let piece := l.window.piece (shownChars line.chars)
  let c := if piece.dotsBefore then c.put row l.code .frame Window.dots else c
  let c := c.put row (l.code + piece.indent) .plain (String.ofList piece.middle)
  let c := match piece.dotsAfter with
    | some count =>
      c.put row (l.code + piece.indent + piece.middle.length - count) .frame Window.dots
    | none => c
  let number := toString line.number
  l.putBar row (c.put row 0 .frame (spaces (l.numbers - number.length) ++ number))

/-- The column of a row at which a column of the text stands, `skipped` columns being left out in
front. -/
def columnOf (l : Layout) (skipped column : Nat) : Nat := l.code + column - skipped

/-- Puts the carets of a mark in a row; a mark has at least one. -/
def putCarets (l : Layout) (row skipped : Nat) (mark : Mark) (c : Canvas) : Canvas :=
  let first := l.columnOf skipped mark.start
  let last := l.columnOf skipped (mark.stop - 1)
  c.put row first .alert (String.ofList (List.replicate (last + 1 - first) '^'))

/-- Puts the label beside the carets of a mark. -/
def putLabel (l : Layout) (row skipped : Nat) (mark : Mark) (label : String) (c : Canvas) :
    Canvas :=
  let column := if mark.stop = 0 then 2 else mark.stop + 1
  c.put row (l.code + (column - skipped)) .alert label

/-- Joins the rail to the carets of a mark. -/
def putJoint (l : Layout) (row skipped : Nat) (mark : Mark) (c : Canvas) : Canvas :=
  let first := l.rail + 1
  c.put row first .alert
    (String.ofList (List.replicate (l.columnOf skipped mark.start - first) '_'))

/-- Puts dots for the middle of a mark that is more than twice as wide as the lines can be. -/
def shorten (l : Layout) (row skipped : Nat) (mark : Mark) (c : Canvas) : Canvas :=
  let width := mark.stop - mark.start
  if width ≤ 2 * l.window.available ∨ width ≤ 10 then c
  else
    let kept := max (l.window.available / 3) 5
    let start := l.columnOf skipped (mark.start + kept)
    let stop := l.columnOf skipped mark.stop - kept
    (c.replace row start stop .frame Window.dots).replace (row + 1) start stop .frame Window.dots

/-- Puts a line with its mark in the next rows. Where nothing but blanks stands before the beginning
of a place, the rail begins in the row of the line itself. -/
def putMarked (l : Layout) (label : String) (m : MarkedLine) (c : Canvas) : Canvas :=
  let row := c.height
  let chars := shownChars m.line.chars
  let skipped := (l.window.piece chars).skipped
  let c := l.putLine row m.line c
  let below (c : Canvas) : Canvas := l.putBar (row + 1) c
  let joint (c : Canvas) : Canvas := l.putJoint (row + 1) skipped m.mark c
  let labelled (c : Canvas) : Canvas := l.putLabel (row + 1) skipped m.mark label c
  let carets (c : Canvas) : Canvas := l.putCarets (row + 1) skipped m.mark c
  match m.mark with
  | .whole _ _ => l.shorten row skipped m.mark (carets (labelled (below c)))
  | .opening start =>
    if (chars.take start).all SourceLine.isBlank then c.put row l.rail .alert "/"
    else carets ((joint (below c)).put (row + 1) l.rail .alert " ")
  | .inside => l.putRail row c
  | .closing _ =>
    carets (labelled (l.putRail (row + 1) (l.putRail row (joint (below c)))))

/-- Puts what stands for the lines between two that are marked: a single line itself, or dots. -/
def putBetween (l : Layout) (lines : List SourceLine) (before after : Nat) (c : Canvas) : Canvas :=
  let row := c.height
  if before + 2 < after then l.putRail row (c.put row 0 .frame Window.dots)
  else if before + 2 = after then l.putRail row (l.putLine row (lineOf lines (before + 1)) c)
  else c

/-- Puts all marked lines in the next rows. -/
def putAll (l : Layout) (lines : List SourceLine) (label : String) (c : Canvas) :
    List MarkedLine → Canvas
  | [] => c
  | [m] => l.putMarked label m c
  | m :: next :: rest =>
    putAll l lines label
      (l.putBetween lines m.line.number next.line.number (l.putMarked label m c)) (next :: rest)

end Layout

/-! ## The excerpt -/

/-- The colour of what the excerpt is shown for. -/
def colourOf : Severity → Nat
  | .error => 91
  | .warning => 33

/-- The title in the first rows; its further lines are set under the first. -/
def titleRows (s : Snippet) : Canvas :=
  let name := s.severity.name
  let margin := spaces (name.length + 2)
  let first := (({} : Canvas).append 0 .alert name).append 0 .bold ": "
  ((shown s.title).splitOn "\n").zipIdx.foldl
    (fun c (text, row) => (if row = 0 then c else c.append row .plain margin).append row .bold text)
    first

/-- The row that tells where the text is from, if that is known, and a row that begins the bar. -/
def putPlace (s : Snippet) (l : Layout) (line : SourceLine) (c : Canvas) : Canvas :=
  let row := c.height
  match s.path with
  | some path =>
    let c := (c.put row 0 .plain (spaces l.numbers)).put row l.numbers .frame "--> "
    l.putBar (row + 1) (c.append row .plain s!"{path}:{line.number}:{s.startColumn line}")
  | none => l.putBar row c

/-- The excerpt, without a line feed at its end. -/
def render (s : Snippet) (coloured : Bool) : String :=
  let lines := SourceLine.ofText s.source
  let marked := s.markedLines lines
  let l := s.layout lines marked
  let head := s.putPlace l (SourceLine.holding lines s.start) s.titleRows
  (l.putAll lines s.label head marked).render coloured (colourOf s.severity)

end Snippet

end IncrementalGlr
