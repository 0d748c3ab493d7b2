/-!
The binary format: values written one after the other without names or padding. Natural numbers
are variable-length, seven bits a byte with the lowest first; signed numbers are folded onto the
naturals; texts and lists carry their length; an optional value carries one byte that says whether
it is there. Every writer has the reader that takes exactly the bytes written off the front.
-/
namespace IncrementalGlr.Codec

/-- Why bytes were refused. -/
inductive Fault where
  | endOfInput
  | badVarint
  | badBool
  | badOption
  | badText
  /-- A number that stands for nothing, such as the index of a variant that does not exist. -/
  | badValue
  deriving DecidableEq, Repr, Inhabited

def Fault.message : Fault → String
  | endOfInput => "Hit the end of buffer, expected more data"
  | badVarint => "Found a varint that didn't terminate. Is the usize too big for this platform?"
  | badBool => "Found a bool that wasn't 0 or 1"
  | badOption => "Found an Option discriminant that wasn't 0 or 1"
  | badText => "Tried to parse invalid utf-8"
  | badValue => "Serde Deserialization Error"

/-- Takes bytes off the front of its input. -/
abbrev Decoder := StateT (List UInt8) (Except Fault)

/-! ## Writing -/

/-- A natural number, seven bits a byte. -/
def writeNat (n : Nat) : List UInt8 :=
  if n < 128 then [n.toUInt8] else (n % 128 + 128).toUInt8 :: writeNat (n / 128)
termination_by n
decreasing_by omega

/-- A signed number: 0, -1, 1, -2, 2 and so on become 0, 1, 2, 3, 4. -/
def writeInt : Int → List UInt8
  | .ofNat n => writeNat (2 * n)
  | .negSucc n => writeNat (2 * n + 1)

def writeBool (b : Bool) : List UInt8 := [if b then 1 else 0]

def writeBytes (bytes : List UInt8) : List UInt8 := writeNat bytes.length ++ bytes

def writeText (text : String) : List UInt8 := writeBytes text.toByteArray.toList

def writeOption {α : Type} (write : α → List UInt8) : Option α → List UInt8
  | none => [0]
  | some x => 1 :: write x

def writeList {α : Type} (write : α → List UInt8) (xs : List α) : List UInt8 :=
  writeNat xs.length ++ xs.flatMap write

/-! ## Reading -/

def readByte : Decoder UInt8 := fun input =>
  match input with
  | [] => .error .endOfInput
  | b :: rest => .ok (b, rest)

/-- A natural number of at most `bits` bits. -/
def readNat (bits : Nat) : Decoder Nat := do
  let b ← readByte
  if bits ≤ 7 then
    if b.toNat < Nat.pow 2 bits then return b.toNat else throw .badVarint
  else if b.toNat < 128 then return b.toNat
  else return b.toNat - 128 + 128 * (← readNat (bits - 7))
termination_by bits
decreasing_by omega

/-- The length of a list or text. -/
def readSize : Decoder Nat := readNat 64

/-- A signed number of 32 bits. -/
def readInt : Decoder Int := do
  let n ← readNat 32
  return if n % 2 = 0 then .ofNat (n / 2) else .negSucc (n / 2)

def readBool : Decoder Bool := do
  match (← readByte).toNat with
  | 0 => return false
  | 1 => return true
  | _ => throw .badBool

/-- Exactly `n` bytes. -/
def readExactly (n : Nat) : Decoder (List UInt8) := fun input =>
  if input.length < n then .error .endOfInput else .ok (input.take n, input.drop n)

def readBytes : Decoder (List UInt8) := do readExactly (← readSize)

def readText : Decoder String := do
  match String.fromUTF8? (← readBytes).toByteArray with
  | some text => return text
  | none => throw .badText

def readOption {α : Type} (read : Decoder α) : Decoder (Option α) := do
  match (← readByte).toNat with
  | 0 => return none
  | 1 => return some (← read)
  | _ => throw .badOption

/-- `n` values in a row. -/
def readMany {α : Type} (read : Decoder α) : Nat → Decoder (List α)
  | 0 => return []
  | n + 1 => return (← read) :: (← readMany read n)

def readList {α : Type} (read : Decoder α) : Decoder (List α) := do readMany read (← readSize)

/-- Reads a value off the front of `bytes`; what follows it is not looked at. -/
def decode {α : Type} (read : Decoder α) (bytes : List UInt8) : Except Fault α :=
  (read.run bytes).map Prod.fst

/-! ## Checksums

The cyclic redundancy check of 32 bits: bits enter lowest first, the register starts with every
bit set, and its complement is the result. -/

/-- One bit leaves the register; the polynomial is added when it was set. -/
def shiftRegister (register : UInt32) : UInt32 :=
  if register &&& 1 = 1 then (register >>> 1) ^^^ 0xEDB88320 else register >>> 1

/-- One byte enters the register. -/
def feedByte (register : UInt32) (b : UInt8) : UInt32 :=
  Nat.repeat shiftRegister 8 (register ^^^ b.toUInt32)

/-- The checksum of a sequence of bytes. -/
def checksum (bytes : List UInt8) : UInt32 :=
  bytes.foldl feedByte 0xFFFFFFFF ^^^ 0xFFFFFFFF

end IncrementalGlr.Codec
