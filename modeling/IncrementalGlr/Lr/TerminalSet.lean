import IncrementalGlr.Symbol

/-!
Sets of terminals, as the number whose binary digits say which terminals belong to the set.
-/
namespace IncrementalGlr

/-- A set of terminals. -/
structure TerminalSet where
  bits : Nat
  deriving DecidableEq, Repr, Inhabited

namespace TerminalSet

def empty : TerminalSet := ⟨0⟩

def contains (s : TerminalSet) (t : SymbolId) : Bool := s.bits.testBit t

def singleton (t : SymbolId) : TerminalSet := ⟨1 <<< t⟩

def union (s t : TerminalSet) : TerminalSet := ⟨s.bits ||| t.bits⟩

instance : Union TerminalSet := ⟨union⟩

/-- The members below `count`, ascending. -/
def members (s : TerminalSet) (count : Nat) : List SymbolId :=
  (List.range count).filter s.contains

@[simp] theorem contains_empty (t : SymbolId) : empty.contains t = false := by
  simp [empty, contains]

@[simp] theorem contains_singleton (a t : SymbolId) :
    (singleton a).contains t = decide (a = t) := by
  simp [singleton, contains, Nat.shiftLeft_eq, Nat.testBit_two_pow]

@[simp] theorem contains_union (s t : TerminalSet) (a : SymbolId) :
    (s ∪ t).contains a = (s.contains a || t.contains a) :=
  Nat.testBit_or ..

/-- Sets are equal when they have the same members. -/
theorem ext_contains {s t : TerminalSet} (h : ∀ a, s.contains a = t.contains a) : s = t := by
  cases s
  cases t
  exact congrArg mk (Nat.eq_of_testBit_eq h)

/-- All members are smaller than `count`. -/
def Below (s : TerminalSet) (count : Nat) : Prop := ∀ t : Nat, s.contains t = true → t < count

theorem Below.contains_of_le {s : TerminalSet} {count t : Nat} (h : s.Below count)
    (ht : count ≤ t) : s.contains t = false :=
  Bool.eq_false_iff.2 fun hc => Nat.not_lt.2 ht (h t hc)

theorem below_empty (count : Nat) : empty.Below count := by
  intro t ht
  simp at ht

theorem below_singleton {t count : Nat} (h : t < count) : (singleton t).Below count := by
  intro a ha
  simp only [contains_singleton, decide_eq_true_eq] at ha
  exact ha ▸ h

theorem Below.union {s t : TerminalSet} {count : Nat} (hs : s.Below count) (ht : t.Below count) :
    (s ∪ t).Below count := by
  intro a ha
  rw [contains_union, Bool.or_eq_true] at ha
  exact ha.elim (hs a) (ht a)

end TerminalSet

end IncrementalGlr
