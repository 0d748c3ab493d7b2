import IncrementalGlr.Unicode.Additions

/-!
Text in quotation marks. Quotes and backslashes are escaped, line feeds, tabs, carriage returns and
the null character have short escapes, and every other character that shows nothing of its own, or
only changes the character before it, is written by its number.
-/
namespace IncrementalGlr

namespace Text

/-- A character as it stands between quotation marks. -/
def quotedChar (c : Char) : List Char :=
  if c = '"' then ['\\', '"']
  else if c = '\\' then ['\\', '\\']
  else if c = '\n' then ['\\', 'n']
  else if c = '\t' then ['\\', 't']
  else if c = '\r' then ['\\', 'r']
  else if c = Char.ofNat 0 then ['\\', '0']
  else if 0x20 ≤ c.toNat && c.toNat < 0x7F then [c]
  else if Unicode.graphemeExtend.contains c.toNat || Unicode.unprintable.contains c.toNat then
    ['\\', 'u', '\x7b'] ++ Nat.toDigits 16 c.toNat ++ ['\x7d']
  else [c]

/-- A text between quotation marks. -/
def quoted (text : String) : String :=
  String.ofList (['"'] ++ text.toList.flatMap quotedChar ++ ['"'])

end Text

end IncrementalGlr
