import IncrementalGlr.Regex.Basic

/-!
What is left to match after one character. The partial derivatives of an expression by a character
are the expressions one of which must match the rest; there are finitely many over all texts.
Assertions are decided by the bytes on both sides, so every function here is given the byte before
the position and the one after it.
-/
namespace IncrementalGlr.Regex

/-- Whether the expression matches the empty text between the two bytes. -/
def nullable (before after : Option UInt8) : Regex → Bool
  | empty => true
  | chars _ => false
  | look what _ => what.holds before after
  | seq a b => a.nullable before after && b.nullable before after
  | alt a b => a.nullable before after || b.nullable before after
  | loop r n _ => n = 0 || r.nullable before after

/-- One round fewer where there is a limit. -/
def oneLess (max : Option Nat) : Option Nat := max.map (· - 1)

/-- What is left of a loop once a round has taken a character: `rests` is what is left of that
round. Where a round may be empty, earlier rounds may have been. -/
def loopRests (rests : List Regex) (skips : Bool) (body : Regex) :
    Nat → Option Nat → List Regex
  | 0, some 0 => []
  | 0, max => rests.map fun r => r.andThen (loop body 0 (oneLess max))
  | n + 1, max =>
    rests.map (fun r => r.andThen (loop body n (oneLess max)))
      ++ if skips then loopRests rests skips body n (oneLess max) else []

/-- The partial derivatives by the character `c`, whose first byte is `first`. -/
def rests (before : Option UInt8) (first : UInt8) (c : Nat) : Regex → List Regex
  | empty => []
  | chars set => if set.contains c then [empty] else []
  | look _ _ => []
  | seq a b =>
    (rests before first c a).map (·.andThen b)
      ++ if a.nullable before (some first) then rests before first c b else []
  | alt a b => rests before first c a ++ rests before first c b
  | loop r n max =>
    loopRests (rests before first c r) (r.nullable before (some first)) r n max

/-- Whether some character between `lo` and `hi`, each of which begins with the byte `first`, has
a derivative that some text matches. -/
def canTake (before : Option UInt8) (first : UInt8) (lo hi : Nat) : Regex → Bool
  | empty => false
  | chars set => set.meets lo hi
  | look _ _ => false
  | seq a b =>
    (canTake before first lo hi a && b.inhabited)
      || (a.nullable before (some first) && canTake before first lo hi b)
  | alt a b => canTake before first lo hi a || canTake before first lo hi b
  | loop r _ max => max != some 0 && canTake before first lo hi r

/-- Whether the empty text matches, assertions taken to hold. -/
def maybeEmpty : Regex → Bool
  | empty => true
  | chars _ => false
  | look _ _ => true
  | seq a b => a.maybeEmpty && b.maybeEmpty
  | alt a b => a.maybeEmpty || b.maybeEmpty
  | loop r n _ => n = 0 || r.maybeEmpty

/-- Whether the empty text matches with no assertion asked. -/
def surelyEmpty : Regex → Bool
  | empty => true
  | chars _ => false
  | look _ _ => false
  | seq a b => a.surelyEmpty && b.surelyEmpty
  | alt a b => a.surelyEmpty || b.surelyEmpty
  | loop r n _ => n = 0 || r.surelyEmpty

/-- Whether there is something that a match may begin with, a character or an assertion. -/
def begins : Regex → Bool
  | empty => false
  | chars set => !set.isEmpty
  | look _ _ => true
  | seq a b => a.begins || (a.surelyEmpty && b.begins)
  | alt a b => a.begins || b.begins
  | loop r _ _ => r.begins

/-- The sets of characters that a match may begin with. -/
def leads : Regex → List Unicode.CodeSet
  | empty => []
  | chars set => [set]
  | look _ _ => []
  | seq a b => if a.maybeEmpty then leads a ++ leads b else leads a
  | alt a b => leads a ++ leads b
  | loop r _ _ => leads r

end IncrementalGlr.Regex
