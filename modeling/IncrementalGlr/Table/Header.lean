/-!
Headers of stored tables: 64 bytes that say what follows. After a mark and a version come the
checksum and the sizes of the table, seven counts, and bytes kept for later. Numbers are written
with the lowest byte first.
-/
namespace IncrementalGlr

/-- The header of a stored table. -/
structure Header where
  magic : Vector UInt8 4
  version : UInt32
  /-- The checksum of the body. -/
  checksum : UInt32
  /-- The size of header and body. -/
  totalSize : UInt32
  bodySize : UInt32
  symbolCount : UInt16
  terminalCount : UInt16
  externalCount : UInt16
  fieldCount : UInt16
  productionCount : UInt16
  stateCount : UInt16
  actionListCount : UInt16
  reserved : Vector UInt8 30
  deriving DecidableEq, Repr, Inhabited

namespace Header

def size : Nat := 64

/-- The mark at the front of every stored table. -/
def expectedMagic : Vector UInt8 4 := #v[0x54, 0x48, 0x4B, 0x54]

def expectedVersion : UInt32 := 1

/-- The two bytes of a number, the lower first. -/
def bytes16 (n : UInt16) : List UInt8 := [n.toUInt8, (n >>> 8).toUInt8]

/-- The four bytes of a number, the lowest first. -/
def bytes32 (n : UInt32) : List UInt8 :=
  [n.toUInt8, (n >>> 8).toUInt8, (n >>> 16).toUInt8, (n >>> 24).toUInt8]

def ofBytes16 (a b : UInt8) : UInt16 := a.toUInt16 ||| (b.toUInt16 <<< 8)

def ofBytes32 (a b c d : UInt8) : UInt32 :=
  a.toUInt32 ||| (b.toUInt32 <<< 8) ||| (c.toUInt32 <<< 16) ||| (d.toUInt32 <<< 24)

/-- The 64 bytes of a header. -/
def toBytes (h : Header) : List UInt8 :=
  h.magic.toList ++ bytes32 h.version ++ bytes32 h.checksum ++ bytes32 h.totalSize
    ++ bytes32 h.bodySize ++ bytes16 h.symbolCount ++ bytes16 h.terminalCount
    ++ bytes16 h.externalCount ++ bytes16 h.fieldCount ++ bytes16 h.productionCount
    ++ bytes16 h.stateCount ++ bytes16 h.actionListCount ++ h.reserved.toList

/-- The header that 64 bytes hold. -/
def ofBytes (bytes : List UInt8) : Header :=
  let at' (i : Nat) := bytes.getD i 0
  let number16 (i : Nat) := ofBytes16 (at' i) (at' (i + 1))
  let number32 (i : Nat) := ofBytes32 (at' i) (at' (i + 1)) (at' (i + 2)) (at' (i + 3))
  { magic := Vector.ofFn fun i => at' i
    version := number32 4
    checksum := number32 8
    totalSize := number32 12
    bodySize := number32 16
    symbolCount := number16 20
    terminalCount := number16 22
    externalCount := number16 24
    fieldCount := number16 26
    productionCount := number16 28
    stateCount := number16 30
    actionListCount := number16 32
    reserved := Vector.ofFn fun i => at' (34 + i) }

def hasMagic (h : Header) : Bool := h.magic == expectedMagic

def hasVersion (h : Header) : Bool := h.version == expectedVersion

end Header

end IncrementalGlr
