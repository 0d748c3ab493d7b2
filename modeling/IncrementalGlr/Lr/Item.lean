import IncrementalGlr.Flat.Basic

/-!
Items: productions with a mark in their right side. The state of a parse is the set of items that
the symbols so far have led to; its kernel holds the items with something before the mark.
-/
namespace IncrementalGlr

/-- A production and how many of its symbols stand before the mark. -/
structure Item where
  production : ProductionId
  dot : Nat
  deriving DecidableEq, Repr, Inhabited

namespace Item

/-- Items are ordered by production, then by mark. -/
def le (a b : Item) : Bool :=
  a.production < b.production || (a.production == b.production && a.dot ≤ b.dot)

/-- The symbol after the mark. -/
def next (g : FlatGrammar) (i : Item) : Option SymbolId := (g.rhs i.production)[i.dot]?

/-- The symbols after the one after the mark. -/
def rest (g : FlatGrammar) (i : Item) : List SymbolId := (g.rhs i.production).drop (i.dot + 1)

def advance (i : Item) : Item := ⟨i.production, i.dot + 1⟩

end Item

namespace FlatGrammar

/-- The production that makes a text of the start symbol. -/
def augmented (g : FlatGrammar) : ProductionId := g.productions.size

/-- The item with which a parse begins. -/
def startItem (g : FlatGrammar) : Item := ⟨g.augmented, 0⟩

end FlatGrammar

end IncrementalGlr
