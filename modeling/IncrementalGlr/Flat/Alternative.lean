import IncrementalGlr.Symbol

/-!
Alternatives: the sequences of symbols that a rule expands to, before symbols have their final
numbers and fields and names have theirs.
-/
namespace IncrementalGlr.Flat

/-- A symbol counted among its own kind. -/
inductive Sym where
  | terminal (index : Nat)
  | nonterminal (index : Nat)
  deriving DecidableEq, Repr, Inhabited

/-- One symbol of an alternative. -/
structure Part where
  sym : Sym
  field : Option String := none
  /-- The name given to the part's node, and whether that name is a rule's. -/
  renamed : Option (String × Bool) := none
  deriving DecidableEq, Repr, Inhabited

/-- One way to match a rule. -/
structure Alternative where
  parts : List Part := []
  precedence : Option Int := none
  associativity : Option Associativity := none
  dynamic : Option Int := none
  deriving DecidableEq, Repr, Inhabited

namespace Alternative

def empty : Alternative := {}

def single (s : Sym) : Alternative := { parts := [{ sym := s }] }

/-- How far a number of 32 bits is from zero. That of the least number is not one of them. -/
def magnitude (n : Int) : Int := wrap32 n.natAbs

theorem magnitude_eq_iff {n : Int} (h : IsInt32 n) :
    magnitude n = n.natAbs ↔ n ≠ -0x80000000 := by
  rw [magnitude, wrap32_eq_iff]
  unfold IsInt32 at *
  omega

/-- Of two dynamic precedences the one further from zero; the later one of two as far. -/
def strongest : Option Int → Option Int → Option Int
  | some a, some b => some (if magnitude a ≤ magnitude b then b else a)
  | a, none => a
  | none, b => b

/-- One alternative after another. What the later one says about binding wins. -/
def append (a b : Alternative) : Alternative where
  parts := a.parts ++ b.parts
  precedence := b.precedence.or a.precedence
  associativity := b.associativity.or a.associativity
  dynamic := strongest a.dynamic b.dynamic

/-- Gives the field to all parts that have none. -/
def inField (name : String) (a : Alternative) : Alternative :=
  { a with parts := a.parts.map fun p => { p with field := p.field.or (some name) } }

/-- Names the node of the first part. -/
def aliased (name : String) (named : Bool) (a : Alternative) : Alternative :=
  match a.parts with
  | p :: rest => { a with parts := { p with renamed := some (name, named) } :: rest }
  | [] => a

/-- Sets how the alternative binds where it does not say so itself. -/
def binding (value : Int) (associativity : Option Associativity) (a : Alternative) :
    Alternative :=
  { a with
    precedence := a.precedence.or (some value)
    associativity := a.associativity.or associativity }

def preferred (value : Int) (a : Alternative) : Alternative :=
  { a with dynamic := a.dynamic.or (some value) }

/-- Every alternative of one list followed by every alternative of another. -/
def product (as bs : List Alternative) : List Alternative :=
  as.flatMap fun a => bs.map fun b => a.append b

end Alternative

end IncrementalGlr.Flat
