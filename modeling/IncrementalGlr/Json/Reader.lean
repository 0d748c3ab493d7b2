import IncrementalGlr.Json.Number

/-!
Reading JSON from left to right. A reader takes characters off the front of a text and either
gives a value or the first problem it meets, so of two problems in one text the one further left
is reported. A value may nest `nestingLimit` arrays and objects. `skipValue` passes over a value
nobody wants: there only the form counts, without limits on nesting or on numbers.
-/
namespace IncrementalGlr.Json

/-- Takes characters off the front of a text. -/
abbrev Reader := StateT (List Char) (Except Problem)

/-- How many arrays and objects may lie inside each other. -/
def nestingLimit : Nat := 127

def isBlank (c : Char) : Bool := c = ' ' || c = '\n' || c = '\t' || c = '\r'

/-- Skips blanks; gives the next character without taking it. -/
def peek : Reader (Option Char) := fun text =>
  let rest := text.dropWhile isBlank
  .ok (rest.head?, rest)

/-- Takes one character. -/
def drop : Reader Unit := modify List.tail

/-! ## Strings -/

/-- The value of four hexadecimal digits. -/
def hex4? (a b c d : Char) : Option Nat := do
  let digit (c : Char) : Option Nat :=
    if isDigit c then some (digitValue c)
    else if 'a' ≤ c ∧ c ≤ 'f' then some (c.toNat - 'a'.toNat + 10)
    else if 'A' ≤ c ∧ c ≤ 'F' then some (c.toNat - 'A'.toNat + 10)
    else none
  return (((← digit a) * 16 + (← digit b)) * 16 + (← digit c)) * 16 + (← digit d)

def isHighSurrogate (n : Nat) : Bool := 0xD800 ≤ n && n ≤ 0xDBFF

def isLowSurrogate (n : Nat) : Bool := 0xDC00 ≤ n && n ≤ 0xDFFF

/-- The character that two surrogates stand for. -/
def surrogatePair (high low : Nat) : Char :=
  Char.ofNat (0x10000 + (high - 0xD800) * 0x400 + (low - 0xDC00))

/-- The character a backslash and one letter stand for. -/
def escape? : Char → Option Char
  | '"' => some '"'
  | '\\' => some '\\'
  | '/' => some '/'
  | 'b' => some '\x08'
  | 'f' => some '\x0c'
  | 'n' => some '\n'
  | 'r' => some '\r'
  | 't' => some '\t'
  | _ => none

/-- What an escape of four digits is when fewer than four characters are left: cut off, unless
they are four bytes or more. -/
def shortEscape (rest : List Char) : Problem :=
  if (String.ofList rest).utf8ByteSize < 4 then .truncated else .malformed

/-- The rest of a string after its opening quote. With `strict` surrogates must come in pairs. -/
def stringBody (strict : Bool) : List Char → Except Problem (List Char × List Char)
  | [] => .error .truncated
  | '"' :: rest => .ok ([], rest)
  | '\\' :: [] => .error .truncated
  | '\\' :: 'u' :: a :: b :: c :: d :: rest =>
    match hex4? a b c d with
    | none => .error .malformed
    | some n =>
      if !strict then more (Char.ofNat n) (stringBody strict rest)
      else if isLowSurrogate n then .error .malformed
      else if isHighSurrogate n then
        match rest with
        | [] => .error .truncated
        | '\\' :: [] => .error .truncated
        | '\\' :: 'u' :: e :: f :: g :: h :: rest =>
          match hex4? e f g h with
          | none => .error .malformed
          | some m =>
            if isLowSurrogate m then more (surrogatePair n m) (stringBody strict rest)
            else .error .malformed
        | '\\' :: 'u' :: short => .error (shortEscape short)
        | _ => .error .malformed
      else more (Char.ofNat n) (stringBody strict rest)
  | '\\' :: 'u' :: short => .error (shortEscape short)
  | '\\' :: c :: rest =>
    match escape? c with
    | some x => more x (stringBody strict rest)
    | none => .error .malformed
  | c :: rest => if c.toNat < 0x20 then .error .malformed else more c (stringBody strict rest)
where
  /-- Puts a character in front of what was read. -/
  more (c : Char) (r : Except Problem (List Char × List Char)) :
      Except Problem (List Char × List Char) :=
    r.map fun p => (c :: p.1, p.2)

/-- A string whose opening quote is next. -/
def quoted (strict : Bool) : Reader String := fun text =>
  (stringBody strict text.tail).map fun p => (String.ofList p.1, p.2)

/-! ## Values -/

/-- One of the three words. -/
def word : List Char → Reader Unit
  | [] => pure ()
  | c :: more => do
    match (← get).head? with
    | none => throw .truncated
    | some x => if x = c then drop *> word more else throw .malformed

/-- A value that is neither an array nor an object. -/
def scalar (strict : Bool) : Reader Value := do
  match ← peek with
  | none => throw .truncated
  | some 'n' => word "null".toList *> pure .null
  | some 't' => word "true".toList *> pure (.bool true)
  | some 'f' => word "false".toList *> pure (.bool false)
  | some '"' => .string <$> quoted strict
  | some c =>
    if c = '-' || isDigit c then fun text => readNumber strict text else throw .malformed

/-- The items of an array, one of which must follow. -/
def items {α : Type} (item : Reader α) : Nat → Reader (List α)
  | 0 => throw .malformed
  | fuel + 1 => do
    let x ← item
    match ← peek with
    | none => throw .truncated
    | some ']' => drop *> pure [x]
    | some ',' =>
      drop
      match ← peek with
      | none => throw .truncated
      | some ']' => throw .malformed
      | some _ => return x :: (← items item fuel)
    | some _ => throw .malformed

/-- An array whose opening bracket is next. -/
def array {α : Type} (item : Reader α) : Reader (List α) := do
  drop
  match ← peek with
  | none => throw .truncated
  | some ']' => drop *> pure []
  | some _ => items item (← get).length

/-- The colon after a key. -/
def colon : Reader Unit := do
  match ← peek with
  | none => throw .truncated
  | some ':' => drop
  | some _ => throw .malformed

/-- The members of an object, one of which must follow. The state `s` passes through `member`,
which is given each key and reads the colon and the value. -/
def members {σ : Type} (member : σ → String → Reader σ) : Nat → σ → Reader σ
  | 0, _ => throw .malformed
  | fuel + 1, s => do
    let s ← member s (← quoted true)
    match ← peek with
    | none => throw .truncated
    | some '}' => drop *> pure s
    | some ',' =>
      drop
      match ← peek with
      | none => throw .truncated
      | some '"' => members member fuel s
      | some _ => throw .malformed
    | some _ => throw .malformed

/-- An object whose opening brace is next. -/
def object {σ : Type} (member : σ → String → Reader σ) (s : σ) : Reader σ := do
  drop
  match ← peek with
  | none => throw .truncated
  | some '}' => drop *> pure s
  | some '"' => members member (← get).length s
  | some _ => throw .malformed

/-- A value in which arrays and objects nest at most to the given depth. -/
def value (strict : Bool) : Nat → Reader Value
  | 0 => do
    match ← peek with
    | some '[' => throw .malformed
    | some '{' => throw .malformed
    | _ => scalar strict
  | depth + 1 => do
    match ← peek with
    | some '[' => .array <$> array (value strict depth)
    | some '{' =>
      .object <$> List.reverse <$> object (fun s key => do
        colon
        return (key, ← value strict depth) :: s) []
    | _ => scalar strict

/-- The body of an object nobody wants: keys are strings by form only. -/
def skipValue : Reader Unit := do
  discard <| skip (← get).length
where
  /-- Passes over a value of the given depth. -/
  skip : Nat → Reader Unit
    | 0 => throw .malformed
    | depth + 1 => do
      match ← peek with
      | some '[' => discard <| array (skip depth)
      | some '{' => looseObject (skip depth)
      | _ => discard <| scalar false
  /-- An object whose keys are checked by form only. -/
  looseObject (item : Reader Unit) : Reader Unit := do
    drop
    match ← peek with
    | none => throw .truncated
    | some '}' => drop
    | some _ => looseMembers item (← get).length
  looseMembers (item : Reader Unit) : Nat → Reader Unit
    | 0 => throw .malformed
    | fuel + 1 => do
      match ← peek with
      | none => throw .truncated
      | some '"' => discard <| quoted false
      | some _ => throw .malformed
      colon
      item
      match ← peek with
      | none => throw .truncated
      | some '}' => drop
      | some ',' => drop *> looseMembers item fuel
      | some _ => throw .malformed

/-! ## Values of a wanted kind -/

/-- Refuses the next value: a problem inside a scalar comes first, arrays and objects are not
entered. -/
def refuse {α : Type} : Reader α := do
  match ← peek with
  | some '[' => throw .mismatch
  | some '{' => throw .mismatch
  | _ =>
    discard <| scalar true
    throw .mismatch

/-- A string. -/
def text : Reader String := do
  match ← peek with
  | some '"' => quoted true
  | _ => refuse

/-- A string or `null`. -/
def optionalText : Reader (Option String) := do
  match ← peek with
  | some 'n' => word "null".toList *> pure none
  | _ => some <$> text

/-- An array of `item`s. -/
def listOf {α : Type} (item : Reader α) : Reader (List α) := do
  match ← peek with
  | some '[' => array item
  | _ => refuse

/-- An object, its members passed through `member`. -/
def objectOf {σ : Type} (member : σ → String → Reader σ) (s : σ) : Reader σ := do
  match ← peek with
  | some '{' => object member s
  | _ => refuse

/-- Reads a whole text: after the value only blanks may follow. -/
def document {α : Type} (reader : Reader α) (text : String) : Except Problem α := do
  let (x, rest) ← reader.run text.toList
  if (rest.dropWhile isBlank).isEmpty then pure x else throw .malformed

end IncrementalGlr.Json
