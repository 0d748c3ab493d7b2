import IncrementalGlr.Text.Utf8
import IncrementalGlr.Text.Width
import IncrementalGlr.Unicode.ShorthandClass

/-!
The lines of a text that is shown to a reader. A line ends at a line feed, with the carriage return
before it if there is one. Offsets are found in a line by characters and by columns, the columns
being those of the line as it is shown.
-/
namespace IncrementalGlr

/-- How a character of a text is shown: tabs become four blanks, control characters become their
pictures, and characters that turn the direction of writing a replacement mark. -/
def shownChar (c : Char) : List Char :=
  if c = '\t' then [' ', ' ', ' ', ' ']
  else if c = '\n' then [c]
  else if c.toNat < 0x20 then [Char.ofNat (0x2400 + c.toNat)]
  else if c.toNat = 0x7F then [Char.ofNat 0x2421]
  else if c.toNat = 0x200D then []
  else if (0x202A ≤ c.toNat && c.toNat ≤ 0x202E) || (0x2066 ≤ c.toNat && c.toNat ≤ 0x2069) then
    [Char.ofNat 0xFFFD]
  else [c]

def shownChars (cs : List Char) : List Char := cs.flatMap shownChar

def shown (text : String) : String := String.ofList (shownChars text.toList)

/-- The columns that characters take when they are shown. -/
def shownColumns (cs : List Char) : Nat := Text.totalColumns (shownChars cs)

/-- A line of a text. -/
structure SourceLine where
  /-- Lines are numbered from 1. -/
  number : Nat
  /-- The offset at which the line begins. -/
  offset : Nat
  /-- What stands in it. -/
  chars : List Char
  /-- The bytes of its end: none, a line feed, or the two characters. -/
  ending : Nat
  deriving DecidableEq, Repr, Inhabited

namespace SourceLine

/-- The offset behind what stands in the line. -/
def contentStop (l : SourceLine) : Nat := l.offset + Text.byteLength l.chars

/-- The offset behind the line. -/
def stop (l : SourceLine) : Nat := l.contentStop + l.ending

/-- The lines of a text of which `cs` is left, `chars` being the line begun, last character
first. -/
def linesFrom (number offset : Nat) (chars : List Char) : List Char → List SourceLine
  | [] => if chars.isEmpty then [] else [⟨number, offset, chars.reverse, 0⟩]
  | c :: rest =>
    if c = '\n' then
      let line : SourceLine := match chars with
        | '\r' :: front => ⟨number, offset, front.reverse, 2⟩
        | _ => ⟨number, offset, chars.reverse, 1⟩
      line :: linesFrom (number + 1) line.stop [] rest
    else linesFrom number offset (c :: chars) rest

/-- The lines of a text; the empty text has one. -/
def ofText (text : String) : List SourceLine :=
  match linesFrom 1 0 [] text.toList with
  | [] => [⟨1, 0, [], 0⟩]
  | lines => lines

/-- The line that holds an offset. Behind the last line it is that line. -/
def holding (lines : List SourceLine) (offset : Nat) : SourceLine :=
  (lines.find? fun l => l.offset ≤ offset && offset < l.stop).getD (lines.getLastD default)

/-- The characters that begin before `length` bytes are over. -/
def charsBefore : Nat → List Char → List Char
  | _, [] => []
  | 0, _ => []
  | length, c :: rest => c :: charsBefore (length - c.utf8Size) rest

/-- The characters of the line in front of an offset. -/
def front (l : SourceLine) (offset : Nat) : List Char := charsBefore (offset - l.offset) l.chars

/-- Whether the character is white space. -/
def isBlank (c : Char) : Bool := Unicode.blanks.contains c.toNat

/-- The columns of blanks: four for a tab and one for any other. -/
def blankColumns : List Char → Nat
  | [] => 0
  | c :: rest => (if c = '\t' then 4 else 1) + blankColumns rest

/-- The blank columns at the front of a line; nothing if the whole line is blank. -/
def blanks? (l : SourceLine) : Option Nat :=
  if l.chars.all isBlank then none else some (blankColumns (l.chars.takeWhile isBlank))

/-- Whether the line tells a reader something: it is not blank, no bracket that stands alone, and
no comment other than those that document. -/
def telling (l : SourceLine) : Bool :=
  let inner := (l.chars.dropWhile isBlank).reverse.dropWhile isBlank
  let text := String.ofList inner.reverse
  let comment := text.startsWith "//" && !(text.startsWith "///" || text.startsWith "//!")
  let lone := ["", "\x7b", "\x7d", "(", ")", "[", "]"]
  !comment && !lone.contains text

end SourceLine

end IncrementalGlr
