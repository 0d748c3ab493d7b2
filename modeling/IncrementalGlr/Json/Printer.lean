import IncrementalGlr.Json.Basic

/-!
Writing JSON over several lines: two blanks of indentation a level, a blank after each colon, and
empty arrays and objects closed at once. In strings only quotes, backslashes and control
characters are escaped.
-/
namespace IncrementalGlr.Json

/-- The lower-case hexadecimal digit of a number below sixteen. -/
def hexDigit (n : Nat) : Char := Nat.digitChar n

/-- A character inside a string. -/
def escapeChar (c : Char) : List Char :=
  if c = '"' then ['\\', '"']
  else if c = '\\' then ['\\', '\\']
  else if c = '\x08' then ['\\', 'b']
  else if c = '\x0c' then ['\\', 'f']
  else if c = '\n' then ['\\', 'n']
  else if c = '\r' then ['\\', 'r']
  else if c = '\t' then ['\\', 't']
  else if c.toNat < 0x20 then
    ['\\', 'u', '0', '0', hexDigit (c.toNat / 16), hexDigit (c.toNat % 16)]
  else [c]

/-- A string with its quotes. -/
def quote (text : String) : List Char := '"' :: text.toList.flatMap escapeChar ++ ['"']

/-- A line break and the indentation of the given level. -/
def newline (level : Nat) : List Char := '\n' :: List.replicate (2 * level) ' '

mutual

/-- A value that starts at the given level of indentation. -/
def Value.write (level : Nat) : Value → List Char
  | .null => "null".toList
  | .bool b => if b then "true".toList else "false".toList
  | .integer n => (toString n).toList
  | .real => "0.0".toList
  | .string text => quote text
  | .array [] => "[]".toList
  | .array (item :: rest) =>
    '[' :: newline (level + 1) ++ item.write (level + 1) ++ writeItems level rest
  | .object [] => ['{', '}']
  | .object ((key, item) :: rest) =>
    '{' :: newline (level + 1) ++ quote key ++ [':', ' '] ++ item.write (level + 1)
      ++ writeMembers level rest

/-- The items after the first, and the closing bracket. -/
def writeItems (level : Nat) : List Value → List Char
  | [] => newline level ++ [']']
  | item :: rest =>
    ',' :: newline (level + 1) ++ item.write (level + 1) ++ writeItems level rest

/-- The members after the first, and the closing brace. -/
def writeMembers (level : Nat) : List (String × Value) → List Char
  | [] => newline level ++ ['}']
  | (key, item) :: rest =>
    ',' :: newline (level + 1) ++ quote key ++ [':', ' '] ++ item.write (level + 1)
      ++ writeMembers level rest

end

/-- The text of a value. -/
def Value.pretty (v : Value) : String := String.ofList (v.write 0)

end IncrementalGlr.Json
