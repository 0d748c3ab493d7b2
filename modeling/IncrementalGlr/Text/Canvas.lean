/-!
Rows of painted characters. Text is put at a row and a column, over what stands there; what lies
before it in its row is blank if nothing was put there. A canvas becomes text with or without the
escape sequences of its paint.
-/
namespace IncrementalGlr

/-- How a character is painted. -/
inductive Ink where
  | plain
  | bold
  /-- For what is around the text that is shown: line numbers, bars, dots. -/
  | frame
  /-- For what the text is shown for; its colour depends on how serious that is. -/
  | alert
  deriving DecidableEq, Repr, Inhabited

/-- A painted character. -/
structure Glyph where
  char : Char
  ink : Ink
  deriving DecidableEq, Repr, Inhabited

namespace Glyph

def blank : Glyph := ⟨' ', .plain⟩

/-- The glyphs of a text in one ink. -/
def ofText (ink : Ink) (text : String) : List Glyph := text.toList.map fun c => ⟨c, ink⟩

/-- The row cut off, or filled with blanks, at a column. -/
def upTo (column : Nat) (row : List Glyph) : List Glyph :=
  row.take column ++ List.replicate (column - row.length) blank

/-- The row with glyphs put at a column. -/
def write (column : Nat) (glyphs row : List Glyph) : List Glyph :=
  if glyphs.isEmpty then row
  else upTo column row ++ glyphs ++ row.drop (column + glyphs.length)

/-- The row with its glyphs from `start` to `stop` replaced by others, unless it is shorter. -/
def replace (start stop : Nat) (glyphs row : List Glyph) : List Glyph :=
  if start = stop ∨ row.length < start ∨ row.length < stop then row
  else row.take start ++ glyphs ++ row.drop stop

end Glyph

/-- Rows of glyphs. -/
structure Canvas where
  rows : List (List Glyph) := []
  deriving DecidableEq, Repr, Inhabited

namespace Canvas

def height (c : Canvas) : Nat := c.rows.length

/-- Changes the row of a number; rows before it that are missing are empty. -/
def changeRow (f : List Glyph → List Glyph) : Nat → List (List Glyph) → List (List Glyph)
  | 0, [] => [f []]
  | 0, row :: rows => f row :: rows
  | n + 1, [] => [] :: changeRow f n []
  | n + 1, row :: rows => row :: changeRow f n rows

/-- Puts text at a row and a column. Empty text makes no row. -/
def put (row column : Nat) (ink : Ink) (text : String) (c : Canvas) : Canvas :=
  if text.isEmpty then c else ⟨changeRow (Glyph.write column (Glyph.ofText ink text)) row c.rows⟩

/-- Puts text at the end of a row. -/
def append (row : Nat) (ink : Ink) (text : String) (c : Canvas) : Canvas :=
  c.put row ((c.rows[row]?).getD []).length ink text

/-- Puts other text in the place of a part of a row. -/
def replace (row start stop : Nat) (ink : Ink) (text : String) (c : Canvas) : Canvas :=
  ⟨changeRow (Glyph.replace start stop (Glyph.ofText ink text)) row c.rows⟩

/-! ## As text -/

/-- The sequence that ends all paint. -/
def noPaint : String := "\x1b[0m"

/-- The sequence that begins an ink, `alert` being the number of the colour for alerts. -/
def beginInk (alert : Nat) : Ink → String
  | .plain => ""
  | .bold => "\x1b[1m"
  | .frame => "\x1b[1m\x1b[94m"
  | .alert => s!"\x1b[1m\x1b[{alert}m"

/-- The sequence that ends an ink. -/
def endInk (ink : Ink) : String := if ink = .plain then "" else noPaint

/-- A row with its paint; `ink` is the one that the text in front of it is in. -/
def paintRow (alert : Nat) (ink : Ink) : List Glyph → String
  | [] => endInk ink
  | glyph :: rest =>
    (if glyph.ink = ink then "" else endInk ink ++ beginInk alert glyph.ink)
      ++ glyph.char.toString ++ paintRow alert glyph.ink rest

/-- The rows as text, painted or not. -/
def render (painted : Bool) (alert : Nat) (c : Canvas) : String :=
  let rowText (row : List Glyph) : String :=
    if painted then paintRow alert .plain row else String.ofList (row.map (·.char))
  "\n".intercalate (c.rows.map rowText)

end Canvas

end IncrementalGlr
