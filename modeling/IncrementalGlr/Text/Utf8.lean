/-!
Text seen as bytes. Positions everywhere in this library are byte offsets into the UTF-8 form of a
text; this module says how long the character at an offset is, and what lies between two offsets.
-/
namespace IncrementalGlr.Text

/-- The number of bytes of the character that begins with `b`. -/
def charWidth (b : UInt8) : Nat :=
  if b < 0x80 then 1 else if b < 0xE0 then 2 else if b < 0xF0 then 3 else 4

/-- The number of bytes of the character at `offset`, as far as the text has them, or 1 behind its end. -/
def widthAt (bytes : ByteArray) (offset : Nat) : Nat :=
  match bytes[offset]? with
  | some b => min (charWidth b) (bytes.size - offset)
  | none => 1

/-- The number of bytes of several characters. -/
def byteLength : List Char → Nat
  | [] => 0
  | c :: rest => c.utf8Size + byteLength rest

/-- The text between two offsets, empty unless both stand at character boundaries. -/
def slice (text : String) (start stop : Nat) : String :=
  match text.pos? ⟨start⟩, text.pos? ⟨stop⟩ with
  | some p, some q => text.extract p q
  | _, _ => ""

/-- The character that begins at an offset. -/
def charAt? (text : String) (offset : Nat) : Option Char :=
  (text.pos? ⟨offset⟩).bind String.Pos.get?

end IncrementalGlr.Text
