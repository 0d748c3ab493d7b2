import IncrementalGlr.Regex.Basic
import IncrementalGlr.Unicode.Additions
import IncrementalGlr.Unicode.Case
import IncrementalGlr.Unicode.ShorthandClass

/-!
Reading regular expressions from text. Everything the notation offers that has no meaning for the
text matched (names of groups, laziness) is checked and dropped. Flags hold from where they are set
to the end of the group; with `i` characters stand for all that differ from them by case, with `m`
the anchors mean lines, with `s` the dot includes line ends, with `R` a carriage return ends lines
too, with `x` blanks and comments are skipped, and without `u` shorthand classes are those of
ASCII. An expression that could match part of a character is refused, and so is one nested more
than `nestingLimit` levels deep.
-/
namespace IncrementalGlr.Regex

open Unicode (CodeSet)

/-- The deepest nesting of groups, repetitions, alternatives, sequences and classes. -/
def nestingLimit : Nat := 250

/-- What the flags say at one place. -/
structure Flags where
  ignoreCase : Bool := false
  multiLine : Bool := false
  dotAll : Bool := false
  unicode : Bool := true
  crlf : Bool := false
  skipBlanks : Bool := false
  deriving DecidableEq, Repr, Inhabited

/-- What is left of the text, with the flags in force and the names of groups met so far. -/
structure Cursor where
  text : List Char
  flags : Flags := {}
  names : List String := []

/-- Takes characters off the front of an expression; fails where it is not well formed. -/
abbrev Parser := StateT Cursor Option

/-- An expression with the depth of its nesting. -/
structure Part where
  regex : Regex
  depth : Nat := 0
  /-- A setting of flags cannot be repeated. -/
  repeatable : Bool := true
  deriving Inhabited

/-! ## Characters -/

def fail {α : Type} : Parser α := fun _ => none

def flags : Parser Flags := do return (← get).flags

def rest : Parser (List Char) := do return (← get).text

def peek? : Parser (Option Char) := do return (← rest).head?

/-- The next character, which must exist. -/
def current : Parser Char := do
  match ← peek? with
  | some c => return c
  | none => fail

def setText (text : List Char) : Parser Unit := modify fun s => { s with text := text }

/-- Skips one character. -/
def bump : Parser Unit := do setText (← rest).tail

def isSpace (c : Char) : Bool := Unicode.blanks.contains c.toNat

/-- Drops blanks and comments. -/
def dropBlanks : List Char → List Char
  | [] => []
  | c :: more =>
    if isSpace c then dropBlanks more
    else if c = '#' then dropComment more
    else c :: more
where
  /-- Drops up to the end of a line. -/
  dropComment : List Char → List Char
    | [] => []
    | c :: more => if c = '\n' then dropBlanks more else dropComment more

/-- Skips blanks and comments if the flag says so. -/
def skipBlanks : Parser Unit := do
  if (← flags).skipBlanks then setText (dropBlanks (← rest))

/-- Skips one character and the blanks after it; something must follow. -/
def bumpInside : Parser Unit := do
  bump
  skipBlanks
  if (← peek?).isNone then fail

/-- The character after the next. If blanks are skipped it is looked for past blanks and past the
sign of a comment, but not past the comment. -/
def peekSecond : Parser (Option Char) := do
  let more := (← rest).tail
  if (← flags).skipBlanks then
    match more.dropWhile isSpace with
    | '#' :: comment => return (comment.dropWhile isSpace).head?
    | more => return more.head?
  else return more.head?

/-- Skips the given characters if they are next. -/
def accept (word : String) : Parser Bool := do
  let text ← rest
  if word.toList.isPrefixOf text then
    setText (text.drop word.length)
    return true
  else return false

/-- The number of characters left, which bounds every loop. -/
def remaining : Parser Nat := do return (← rest).length

/-- Characters up to the closing one, which is left in place; blanks may be skipped. -/
def upTo (closing : Char) (keep : Char → Bool) : Nat → Parser (List Char)
  | 0 => fail
  | fuel + 1 => do
    let c ← current
    if c = closing then return []
    else if keep c then
      bump
      skipBlanks
      return c :: (← upTo closing keep fuel)
    else fail

/-! ## Numbers -/

def hexValue? (digits : List Char) : Option Nat :=
  digits.foldlM (fun n c => (CodeSet.hexDigit? c).map (n * 16 + ·)) 0

/-- The character with the given code. -/
def charOfCode (n : Nat) : Parser Char :=
  if h : n.isValidChar then pure (Char.ofNatAux n h) else fail

/-- A character with the given code, written with hexadecimal digits. -/
def charOfHex (digits : List Char) : Parser Char := do
  match hexValue? digits with
  | some n => charOfCode n
  | none => fail

/-- Takes exactly `n` hexadecimal digits. -/
def hexDigits : Nat → Parser (List Char)
  | 0 => return []
  | n + 1 => do
    let c ← current
    if (CodeSet.hexDigit? c).isNone then fail
    bump
    skipBlanks
    return c :: (← hexDigits n)

/-- A decimal number below 2^32, blanks around it allowed; none if there is no digit. -/
def decimal : Parser (Option Nat) := do
  setText ((← rest).dropWhile isSpace)
  let digits ← takeDigits (← remaining)
  setText ((← rest).dropWhile isSpace)
  skipBlanks
  if digits.isEmpty then return none
  let n := digits.foldl (fun n c => n * 10 + (c.toNat - '0'.toNat)) 0
  if n < 0x100000000 then return some n else fail
where
  takeDigits : Nat → Parser (List Char)
    | 0 => return []
    | fuel + 1 => do
      match ← peek? with
      | some c =>
        if c.isDigit then
          bump
          skipBlanks
          return c :: (← takeDigits fuel)
        else return []
      | none => return []

/-! ## Escapes -/

/-- What an escape or a plain character stands for. -/
inductive Atom where
  /-- A character; `byte` says that it was written as a byte of two hexadecimal digits. -/
  | literal (c : Char) (byte : Bool)
  | set (s : CodeSet)
  | assertion (what : Look)

/-- Characters that mean something and stand for themselves when escaped. -/
def isMeta (c : Char) : Bool := "\\.+*?()|[]\x7b\x7d^$#&-~".toList.contains c

/-- Other characters that may be escaped without need: all of ASCII but letters, digits and angle
brackets. -/
def isEscapable (c : Char) : Bool :=
  isMeta c || (c.toNat < 0x80 && !c.isAlphanum && c ≠ '<' && c ≠ '>')

/-- A set as it is where case may be ignored. -/
def folded (s : CodeSet) : Parser CodeSet := do
  let flags ← flags
  return if !flags.ignoreCase then s else if flags.unicode then s.foldCase else s.foldAsciiCase

/-- A class and its negation. Without `u` a class is one of bytes, and bytes outside ASCII are
parts of characters. -/
def negated (negative : Bool) (s : CodeSet) : Parser CodeSet := do
  if !negative then return s
  else if (← flags).unicode then return s.complement
  else if (s.complement.inter (.range 0 0xFF)).meets 0x80 0xFF then fail
  else return s.complement.inter (.range 0 0x7F)

/-- The class behind one of the letters `d`, `s`, `w`. -/
def shorthand (letter : Char) (negative : Bool) : Parser CodeSet := do
  if (← flags).unicode then
    negated negative <| match letter with
      | 'd' => Unicode.digits
      | 's' => Unicode.blanks
      | _ => Unicode.wordCharacters
  else
    negated negative <| match letter with
      | 'd' => .range 0x30 0x39
      | 's' => .ofRanges [(0x09, 0x0D), (0x20, 0x20)]
      | _ => .ofRanges [(0x30, 0x39), (0x41, 0x5A), (0x5F, 0x5F), (0x61, 0x7A)]

/-- Splits at the first place where `mark` stands. -/
def splitAtMark (mark : List Char) : List Char → Option (List Char × List Char)
  | [] => none
  | c :: more =>
    if mark.isPrefixOf (c :: more) then some ([], (c :: more).drop mark.length)
    else (splitAtMark mark more).map fun p => (c :: p.1, p.2)

/-- The characters with a property, which is a name, or a name and a value; and whether the
characters outside of that set are meant. -/
def propertySet (name : List Char) : Option (CodeSet × Bool) :=
  let valueSet (parts : List Char × List Char) : Option CodeSet :=
    Unicode.propertyValue? (String.ofList parts.1) (String.ofList parts.2)
  match splitAtMark ['!', '='] name with
  | some parts => (valueSet parts).map (·, true)
  | none =>
    match (splitAtMark [':'] name).orElse fun _ => splitAtMark ['='] name with
    | some parts => (valueSet parts).map (·, false)
    | none => (Unicode.property? (String.ofList name)).map (·, false)

/-- A class by property, after its letter. -/
def property (negative : Bool) : Parser CodeSet := do
  bumpInside
  let c ← current
  let name ← if c = '\x7b' then do
      bumpInside
      let name ← upTo '\x7d' (fun _ => true) (← remaining)
      bump
      pure name
    else if c = '\\' then fail
    else do
      bump
      skipBlanks
      pure [c]
  if !(← flags).unicode then fail
  match propertySet name with
  | some (s, unequal) => negated (negative != unequal) (← folded s)
  | none => fail

/-- A character by its code, after the letter; `digits` is the number of digits without braces. -/
def codeEscape (digits : Nat) : Parser Atom := do
  bumpInside
  if (← current) = '\x7b' then
    bumpInside
    let code ← upTo '\x7d' (fun c => (CodeSet.hexDigit? c).isSome) (← remaining)
    if code.isEmpty then fail
    let c ← charOfHex code
    bump
    skipBlanks
    return .literal c false
  else
    let c ← charOfHex (← hexDigits digits)
    return .literal c (digits = 2)

/-- The assertion `\b` with a name in braces after it, if there is one: braces that begin otherwise
are a repetition. -/
def namedBoundary : Parser (Option Look) := do
  let start ← rest
  bumpInside
  let isNameChar := fun (c : Char) => c.isAlpha || c = '-'
  if !isNameChar (← current) then
    setText start
    return none
  let name ← upTo '\x7d' isNameChar (← remaining)
  bump
  match String.ofList name with
  | "start" => return some .wordStart
  | "end" => return some .wordEnd
  | "start-half" => return some .wordStartHalf
  | "end-half" => return some .wordEndHalf
  | _ => fail

/-- What follows a backslash. -/
def escape : Parser Atom := do
  bump
  let c ← current
  if c.isDigit then fail
  match c with
  | 'x' => codeEscape 2
  | 'u' => codeEscape 4
  | 'U' => codeEscape 8
  | 'p' => .set <$> property false
  | 'P' => .set <$> property true
  | 'd' => bump *> .set <$> shorthand 'd' false
  | 'D' => bump *> .set <$> shorthand 'd' true
  | 's' => bump *> .set <$> shorthand 's' false
  | 'S' => bump *> .set <$> shorthand 's' true
  | 'w' => bump *> .set <$> shorthand 'w' false
  | 'W' => bump *> .set <$> shorthand 'w' true
  | _ =>
    bump
    if isEscapable c then return .literal c false
    match c with
    | 'a' => return .literal '\x07' false
    | 'f' => return .literal '\x0c' false
    | 't' => return .literal '\t' false
    | 'n' => return .literal '\n' false
    | 'r' => return .literal '\r' false
    | 'v' => return .literal '\x0b' false
    | 'A' => return .assertion .textStart
    | 'z' => return .assertion .textEnd
    | 'b' =>
      if (← peek?) = some '\x7b' then
        return .assertion ((← namedBoundary).getD .wordBoundary)
      else return .assertion .wordBoundary
    | 'B' => return .assertion .notWordBoundary
    | '<' => return .assertion .wordStart
    | '>' => return .assertion .wordEnd
    | _ => fail

/-- Without `u` a byte outside ASCII is part of a character, which may not be matched. -/
def checkByte (c : Char) (byte : Bool) : Parser Unit := do
  if byte && 0x80 ≤ c.toNat && !(← flags).unicode then fail

/-! ## Classes in brackets -/

/-- The classes of ASCII by name. -/
def asciiClass? : String → Option CodeSet
  | "alnum" => some (.ofRanges [(0x30, 0x39), (0x41, 0x5A), (0x61, 0x7A)])
  | "alpha" => some (.ofRanges [(0x41, 0x5A), (0x61, 0x7A)])
  | "ascii" => some (.range 0 0x7F)
  | "blank" => some (.ofRanges [(0x09, 0x09), (0x20, 0x20)])
  | "cntrl" => some (.ofRanges [(0, 0x1F), (0x7F, 0x7F)])
  | "digit" => some (.range 0x30 0x39)
  | "graph" => some (.range 0x21 0x7E)
  | "lower" => some (.range 0x61 0x7A)
  | "print" => some (.range 0x20 0x7E)
  | "punct" => some (.ofRanges [(0x21, 0x2F), (0x3A, 0x40), (0x5B, 0x60), (0x7B, 0x7E)])
  | "space" => some (.ofRanges [(0x09, 0x0D), (0x20, 0x20)])
  | "upper" => some (.range 0x41 0x5A)
  | "word" => some (.ofRanges [(0x30, 0x39), (0x41, 0x5A), (0x5F, 0x5F), (0x61, 0x7A)])
  | "xdigit" => some (.ofRanges [(0x30, 0x39), (0x41, 0x46), (0x61, 0x66)])
  | _ => none

/-- A class of ASCII such as `[:alpha:]`, if one is next. -/
def asciiClass : Parser (Option CodeSet) := do
  let read (negative : Bool) (text : List Char) : Parser (Option CodeSet) := do
    match splitAtMark [':'] text with
    | some (name, ']' :: more) =>
      match asciiClass? (String.ofList name) with
      | some s =>
        let s ← negated negative (← folded s)
        setText more
        return some s
      | none => return none
    | _ => return none
  match ← rest with
  | '[' :: ':' :: '^' :: text => read true text
  | '[' :: ':' :: text => read false text
  | _ => return none

/-- One end of a range, or an item on its own. -/
def classAtom : Parser Atom := do
  let c ← current
  if c = '\\' then escape
  else
    bump
    return .literal c false

/-- A character that stands in a class. Without `u` it must be one byte. -/
def classChar (c : Char) (byte : Bool) : Parser Nat := do
  checkByte c byte
  if 0x80 ≤ c.toNat && !(← flags).unicode then fail
  return c.toNat

/-- A character, a range, or a class by escape. -/
def classRange : Parser CodeSet := do
  let first ← classAtom
  skipBlanks
  let c ← current
  let second ← peekSecond
  if c ≠ '-' || second = some ']' || second = some '-' then
    match first with
    | .literal c byte => return .singleton (← classChar c byte)
    | .set s => return s
    | .assertion _ => fail
  else
    bumpInside
    match first, ← classAtom with
    | .literal a byteA, .literal b byteB =>
      let lo ← classChar a byteA
      let hi ← classChar b byteB
      if lo ≤ hi then return .range lo hi else fail
    | _, _ => fail

/-- The operations between the parts of a class. -/
inductive SetOp where
  | inter
  | diff
  | symmDiff
  deriving DecidableEq, Repr

def SetOp.apply : SetOp → CodeSet → CodeSet → CodeSet
  | inter => CodeSet.inter
  | diff => CodeSet.diff
  | symmDiff => CodeSet.symmDiff

/-- The items of one operand: their union, how many there are, and their depth. -/
structure Operand where
  set : CodeSet := .empty
  count : Nat := 0
  depth : Nat := 0

def Operand.add (o : Operand) (s : CodeSet) (depth : Nat) : Operand :=
  ⟨o.set.union s, o.count + 1, max o.depth depth⟩

/-- A set with the depth of its nesting. -/
abbrev Nested := CodeSet × Nat

def Operand.finish (o : Operand) : Nested :=
  (o.set, if o.count ≤ 1 then o.depth else o.depth + 1)

/-- Applies the operation that waits for its right side. -/
def combine (waiting : Option (SetOp × Nested)) (right : Nested) : Parser Nested := do
  match waiting with
  | none => return right
  | some (op, left) =>
    return (op.apply (← folded left.1) (← folded right.1), max left.2 right.2 + 1)

/-- The operation written next, if any. -/
def setOp : Parser (Option SetOp) := do
  if ← accept "&&" then return some .inter
  else if ← accept "--" then return some .diff
  else if ← accept "~~" then return some .symmDiff
  else return none

/-- The inside of a class up to its closing bracket. `nested` reads a class in brackets. -/
def classBody (nested : Parser Nested) :
    Nat → Option (SetOp × Nested) → Operand → Parser Nested
  | 0, _, _ => fail
  | fuel + 1, waiting, operand => do
    skipBlanks
    match ← current with
    | ']' =>
      let result ← combine waiting operand.finish
      bump
      return result
    | '[' =>
      match ← asciiClass with
      | some s => classBody nested fuel waiting (operand.add s 0)
      | none =>
        let (s, depth) ← nested
        classBody nested fuel waiting (operand.add s depth)
    | _ =>
      match ← setOp with
      | some op =>
        let left ← combine waiting operand.finish
        classBody nested fuel (some (op, left)) {}
      | none => classBody nested fuel waiting (operand.add (← classRange) 0)

/-- Hyphens at the front of a class stand for themselves. -/
def leadingHyphens : Nat → Operand → Parser Operand
  | 0, _ => fail
  | fuel + 1, operand => do
    if (← current) = '-' then
      bumpInside
      leadingHyphens fuel (operand.add (.singleton '-'.toNat) 0)
    else return operand

/-- A class in brackets, nested at most to the given depth. -/
def bracketed : Nat → Parser Nested
  | 0 => fail
  | fuel + 1 => do
    bumpInside
    let negative := (← current) = '^'
    if negative then bumpInside
    let operand ← leadingHyphens (← remaining) {}
    let operand ← if operand.count = 0 && (← current) = ']' then do
        bumpInside
        pure (operand.add (.singleton ']'.toNat) 0)
      else pure operand
    let (s, depth) ← classBody (bracketed fuel) (← remaining) none operand
    return (← negated negative (← folded s), depth + 1)

/-! ## Groups, repetitions and alternatives -/

/-- Sets or clears one flag. -/
def Flags.set (f : Flags) (value : Bool) : Char → Option Flags
  | 'i' => some { f with ignoreCase := value }
  | 'm' => some { f with multiLine := value }
  | 's' => some { f with dotAll := value }
  | 'U' => some f
  | 'u' => some { f with unicode := value }
  | 'R' => some { f with crlf := value }
  | 'x' => some { f with skipBlanks := value }
  | _ => none

/-- Flags up to a colon or a closing parenthesis, which is left in place. No flag may occur twice,
and a hyphen must have a flag after it. -/
def flagList (seen : List Char) (f : Flags) : Nat → Parser (List Char × Flags)
  | 0 => fail
  | fuel + 1 => do
    let c ← current
    if c = ':' ∨ c = ')' then
      if seen.head? = some '-' then fail else return (seen, f)
    else if seen.contains c then fail
    else
      match if c = '-' then some f else f.set (!seen.contains '-') c with
      | some f =>
        bump
        flagList (c :: seen) f fuel
      | none => fail

/-- Whether the character may stand in the name of a group. -/
def isNameChar (first : Bool) (c : Char) : Bool :=
  c = '_' || isLetter c || (!first && (c = '.' || c = '[' || c = ']' || isNumeric c))
where
  isLetter (c : Char) : Bool :=
    c.isAlpha || (0x80 ≤ c.toNat && Unicode.alphabetic.contains c.toNat)
  isNumeric (c : Char) : Bool :=
    c.isDigit || (0x80 ≤ c.toNat && Unicode.numeric.contains c.toNat)

/-- The name of a group up to the closing angle bracket. -/
def groupName : Parser Unit := do
  let text ← rest
  let name := text.takeWhile (· ≠ '>')
  match text.drop name.length with
  | '>' :: more =>
    let valid := match name with
      | [] => false
      | c :: tail => isNameChar true c && tail.all (isNameChar false)
    let name := String.ofList name
    if !valid || (← get).names.contains name then fail
    modify fun s => { s with text := more, names := name :: s.names }
  | _ => fail

/-- The beginning of a group. -/
inductive Opening where
  /-- Flags for what follows. -/
  | setting (f : Flags)
  /-- A group, inside which the flags hold. -/
  | group (f : Flags)

/-- Reads the beginning of a group from its parenthesis on. -/
def opening : Parser Opening := do
  bump
  skipBlanks
  for assertion in ["?=", "?!", "?<=", "?<!"] do
    if assertion.toList.isPrefixOf (← rest) then fail
  if ← accept "?P<" <||> accept "?<" then
    groupName
    return .group (← flags)
  else if ← accept "?" then
    let (seen, f) ← flagList [] (← flags) (← remaining)
    let c ← current
    bump
    if c = ')' then
      if seen.isEmpty then fail else return .setting f
    else return .group f
  else return .group (← flags)

/-- A repetition in braces: the least and the greatest number of rounds. -/
def counts : Parser (Nat × Option Nat) := do
  bumpInside
  let least ← decimal
  let range ← if (← current) = ',' then do
      bumpInside
      match least with
      | none => fail
      | some n =>
        if (← current) = '\x7d' then pure (n, none)
        else match ← decimal with
          | some m => pure (n, some m)
          | none => fail
    else match least with
      | some n => pure (n, some n)
      | none => fail
  if (← current) ≠ '\x7d' then fail
  bump
  skipBlanks
  if range.2.any (· < range.1) then fail else return range

/-- Repeats the last part. -/
def repeated (parts : List Part) (least : Nat) (greatest : Option Nat) : Parser (List Part) := do
  match parts with
  | [] => fail
  | last :: more =>
    if !last.repeatable then fail
    let regex := if greatest = some 0 then empty else loop last.regex least greatest
    return { regex := regex, depth := last.depth + 1 } :: more

/-- A question mark after a repetition asks for as few rounds as possible. -/
def laziness : Parser Unit := do discard <| accept "?"

/-- The expression for one character. -/
def literal (c : Char) (byte : Bool) : Parser Regex := do
  checkByte c byte
  let s := CodeSet.singleton c.toNat
  return chars (← folded s)

/-- The dot: any character but the ends of lines, or any at all. -/
def dot : Parser Regex := do
  let f ← flags
  if !f.unicode then fail
  else if f.dotAll then return chars .all
  else if f.crlf then return chars (CodeSet.ofRanges [(0x0A, 0x0A), (0x0D, 0x0D)]).complement
  else return chars (CodeSet.singleton 0x0A).complement

/-- What stands for itself, an escape, an anchor or the dot. -/
def primitive : Parser Regex := do
  let c ← current
  let f ← flags
  match c with
  | '\\' =>
    match ← escape with
    | .literal c byte => literal c byte
    | .set s => return chars s
    | .assertion what => return look what f.unicode
  | '.' => bump *> dot
  | '^' =>
    bump
    return look (if !f.multiLine then .textStart else if f.crlf then .crlfStart else .lineStart)
      f.unicode
  | '$' =>
    bump
    return look (if !f.multiLine then .textEnd else if f.crlf then .crlfEnd else .lineEnd)
      f.unicode
  | _ =>
    bump
    literal c false

/-- Several parts one after another; `parts` has the last one first. -/
def inSequence (parts : List Part) : Part :=
  let depth := (parts.map Part.depth).foldl max 0
  { regex := sequence (parts.reverse.map Part.regex),
    depth := if parts.length ≤ 1 then depth else depth + 1 }

/-- Several alternatives; `parts` has the last one first. -/
def inChoice (parts : List Part) : Part :=
  let depth := (parts.map Part.depth).foldl max 0
  { regex := oneOf (parts.reverse.map Part.regex),
    depth := if parts.length ≤ 1 then depth else depth + 1 }

/-- Alternatives up to a closing parenthesis or the end. `done` has the alternatives before this
one and `parts` what this one has so far, both in reverse; `group` reads the inside of a group. -/
def alternatives (group : Parser Part) : Nat → List Part → List Part → Parser Part
  | 0, _, _ => fail
  | fuel + 1, done, parts => do
    skipBlanks
    match ← peek? with
    | none => return inChoice (inSequence parts :: done)
    | some ')' => return inChoice (inSequence parts :: done)
    | some '|' =>
      bump
      alternatives group fuel (inSequence parts :: done) []
    | some '(' =>
      match ← opening with
      | .setting f =>
        modify fun s => { s with flags := f }
        alternatives group fuel done ({ regex := empty, repeatable := false } :: parts)
      | .group f =>
        let outside ← flags
        modify fun s => { s with flags := f }
        let inner ← group
        if (← current) ≠ ')' then fail
        modify fun s => { s with text := s.text.tail, flags := outside }
        alternatives group fuel done ({ regex := inner.regex, depth := inner.depth + 1 } :: parts)
    | some '[' =>
      let (s, depth) ← bracketed (← remaining)
      alternatives group fuel done ({ regex := chars s, depth := depth } :: parts)
    | some '?' =>
      bump
      laziness
      alternatives group fuel done (← repeated parts 0 (some 1))
    | some '*' =>
      bump
      laziness
      alternatives group fuel done (← repeated parts 0 none)
    | some '+' =>
      bump
      laziness
      alternatives group fuel done (← repeated parts 1 none)
    | some '\x7b' =>
      let (least, greatest) ← counts
      laziness
      alternatives group fuel done (← repeated parts least greatest)
    | some _ => alternatives group fuel done ({ regex := ← primitive } :: parts)

/-- The inside of a group, groups nested at most to the given depth. -/
def grouped : Nat → Parser Part
  | 0 => fail
  | fuel + 1 => do alternatives (grouped fuel) ((← remaining) + 1) [] []

/-- The expression that a text denotes, if it is well formed. -/
def parse? (text : String) : Option Regex := do
  let (part, cursor) ← (grouped (text.length + 1)).run { text := text.toList }
  if cursor.text.isEmpty && part.depth ≤ nestingLimit then some part.regex else none

/-- The text with every character that has a meaning escaped. -/
def escapeText (text : String) : String :=
  String.ofList (text.toList.flatMap fun c => if isMeta c then ['\\', c] else [c])

end IncrementalGlr.Regex
