/-!
Sets of Unicode scalar values, as ascending lists of closed ranges that neither overlap nor
touch. `ofRanges` brings any list of ranges into that form; union, complement and the operations
derived from them keep it. `ofText` reads the notation of the property tables: hexadecimal
numbers and ranges, separated by blanks.
-/
namespace IncrementalGlr.Unicode

/-- The largest code point. -/
def maxCodePoint : Nat := 0x10FFFF

/-- A set of code points as closed ranges in ascending order. -/
structure CodeSet where
  ranges : List (Nat × Nat)
  deriving DecidableEq, Repr, Inhabited

namespace CodeSet

/-- Whether the code point `c` lies in the set. -/
def contains (s : CodeSet) (c : Nat) : Bool :=
  s.ranges.any fun r => r.1 ≤ c && c ≤ r.2

/-- Whether the set has a member between `lo` and `hi`. -/
def meets (s : CodeSet) (lo hi : Nat) : Bool :=
  s.ranges.any fun r => r.1 ≤ hi && lo ≤ r.2

/-- Whether the set has no member. -/
def isEmpty (s : CodeSet) : Bool := s.ranges.isEmpty

def empty : CodeSet := ⟨[]⟩

/-- Joins the ranges of an ascending list that overlap or touch `current`. -/
def join (current : Nat × Nat) : List (Nat × Nat) → List (Nat × Nat)
  | [] => [current]
  | r :: rest =>
    if r.1 ≤ current.2 + 1 then join (current.1, max current.2 r.2) rest
    else current :: join r rest

/-- The set covered by ranges given in any order; a range written backwards is empty. -/
def ofRanges (ranges : List (Nat × Nat)) : CodeSet :=
  match (ranges.filter fun r => r.1 ≤ r.2).mergeSort fun a b => a.1 ≤ b.1 with
  | [] => empty
  | r :: rest => ⟨join r rest⟩

def singleton (c : Nat) : CodeSet := ⟨[(c, c)]⟩

def range (lo hi : Nat) : CodeSet := ofRanges [(lo, hi)]

def union (a b : CodeSet) : CodeSet := ofRanges (a.ranges ++ b.ranges)

def unions (sets : List CodeSet) : CodeSet := ofRanges (sets.flatMap ranges)

/-- The gaps of an ascending list of ranges from `start` up to the largest code point. -/
def gaps (start : Nat) : List (Nat × Nat) → List (Nat × Nat)
  | [] => if start ≤ maxCodePoint then [(start, maxCodePoint)] else []
  | r :: rest =>
    if start < r.1 then (start, r.1 - 1) :: gaps (r.2 + 1) rest else gaps (r.2 + 1) rest

/-- The code points that encode no character. -/
def surrogates : CodeSet := ⟨[(0xD800, 0xDFFF)]⟩

/-- Every scalar value outside the set. -/
def complement (s : CodeSet) : CodeSet := ⟨gaps 0 (union s surrogates).ranges⟩

def inter (a b : CodeSet) : CodeSet := complement (union (complement a) (complement b))

def diff (a b : CodeSet) : CodeSet := inter a (complement b)

def symmDiff (a b : CodeSet) : CodeSet := union (diff a b) (diff b a)

/-- Every scalar value. -/
def all : CodeSet := complement empty

/-- The value of a hexadecimal digit. -/
def hexDigit? (c : Char) : Option Nat :=
  if '0' ≤ c ∧ c ≤ '9' then some (c.toNat - '0'.toNat)
  else if 'a' ≤ c ∧ c ≤ 'f' then some (c.toNat - 'a'.toNat + 10)
  else if 'A' ≤ c ∧ c ≤ 'F' then some (c.toNat - 'A'.toNat + 10)
  else none

/-- Reads one number or range after another: `lo` holds the first number of an open range and
`n` the digits read so far. -/
def readRanges (lo : Option Nat) (n : Option Nat) : List Char → List (Nat × Nat)
  | [] => closing lo n
  | c :: rest =>
    match hexDigit? c with
    | some d => readRanges lo (some (n.getD 0 * 16 + d)) rest
    | none => if c = '-' then readRanges n none rest else closing lo n ++ readRanges none none rest
where
  /-- The range that ends here, if one is open. -/
  closing (lo n : Option Nat) : List (Nat × Nat) :=
    match n with
    | none => []
    | some hi => [(lo.getD hi, hi)]

/-- The set written as hexadecimal numbers and ranges separated by blanks. -/
def ofText (text : String) : CodeSet := ofRanges (readRanges none none text.toList)

end CodeSet

/-- A table of named sets: each row has its names in folded form and its ranges as text. -/
abbrev Table := List (List String × String)

/-- The set of the row that carries `name`. -/
def Table.find? (table : Table) (name : String) : Option CodeSet :=
  (List.find? (fun row => row.1.contains name) table).map fun row => CodeSet.ofText row.2

end IncrementalGlr.Unicode
