/-!
Symbols and productions. The symbols of a language are numbered: first the tokens, of which number
0 is the end of the text, then the nonterminals, then names that nodes can be given but that are
never parsed. Productions say what a nonterminal can be made of.
-/
namespace IncrementalGlr

abbrev SymbolId := Nat
abbrev StateId := Nat
abbrev ProductionId := Nat

/-- Fields are numbered from 1. -/
abbrev FieldId := Nat

/-- The token that stands for the end of the text. -/
def endSymbol : SymbolId := 0

/-- The symbol of nodes around text that could not be parsed. -/
def errorSymbol : SymbolId := 65535

def endName : String := "end"

def errorName : String := "ERROR"

/-- Where a symbol comes from. -/
inductive SymbolKind where
  | endOfText
  /-- A token with fixed text. -/
  | literal
  /-- A token given by a regular expression. -/
  | pattern
  /-- A token of the external scanner. -/
  | external
  /-- A rule of the grammar. -/
  | nonterminal
  /-- A rule made up for a part of another. -/
  | auxiliary
  /-- A name for nodes only. -/
  | renamed
  deriving DecidableEq, Repr, Inhabited

def SymbolKind.isTerminal : SymbolKind → Bool
  | endOfText | literal | pattern | external => true
  | nonterminal | auxiliary | renamed => false

/-- What is known of a symbol. -/
structure SymbolInfo where
  name : String
  kind : SymbolKind
  /-- Its nodes have a name of their own, unlike those of fixed text. -/
  named : Bool
  /-- It leaves nodes in the tree. -/
  visible : Bool
  /-- It may stand between any two tokens. -/
  extra : Bool := false
  supertype : Bool := false
  deriving DecidableEq, Repr, Inhabited

/-- How a rule groups with itself. -/
inductive Associativity where
  | none
  | left
  | right
  deriving DecidableEq, Repr, Inhabited

/-- One symbol on the right of a production. -/
structure Child where
  symbol : SymbolId
  field : Option FieldId := none
  /-- The symbol that names the child's node instead. -/
  renamed : Option SymbolId := none
  deriving DecidableEq, Repr, Inhabited

/-- A number that 32 bits with a sign can hold. -/
def IsInt32 (n : Int) : Prop := -0x80000000 ≤ n ∧ n < 0x80000000

/-- What 32 bits with a sign hold of a number. Dynamic precedences are computed with in this way, so
what leaves the range comes back in at its other end. -/
def wrap32 (n : Int) : Int := n.bmod 0x100000000

theorem wrap32_of_isInt32 {n : Int} (h : IsInt32 n) : wrap32 n = n :=
  Int.bmod_eq_of_le h.1 h.2

theorem wrap32_eq_iff {n : Int} : wrap32 n = n ↔ IsInt32 n := by
  refine ⟨fun h => ?_, wrap32_of_isInt32⟩
  rw [← h]
  exact ⟨Int.le_bmod (by decide), Int.bmod_lt (by decide)⟩

@[simp] theorem wrap32_add_left (a b : Int) : wrap32 (wrap32 a + b) = wrap32 (a + b) :=
  Int.bmod_add_bmod

@[simp] theorem wrap32_add_right (a b : Int) : wrap32 (a + wrap32 b) = wrap32 (a + b) :=
  Int.add_bmod_bmod

/-- A nonterminal and symbols it can be made of. -/
structure Production where
  lhs : SymbolId
  children : List Child
  precedence : Int := 0
  associativity : Associativity := .none
  dynamicPrecedence : Int := 0
  deriving DecidableEq, Repr, Inhabited

namespace Production

/-- The symbols on the right. -/
def rhs (p : Production) : List SymbolId := p.children.map Child.symbol

def length (p : Production) : Nat := p.children.length

end Production

end IncrementalGlr
