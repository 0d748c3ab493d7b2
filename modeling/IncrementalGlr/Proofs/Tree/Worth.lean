import IncrementalGlr.Proofs.Parse.Worth
import IncrementalGlr.Proofs.Tree.Ambiguity
import IncrementalGlr.Proofs.Tree.Derivation

/-!
Dynamic precedences in 32 bits. In all parses of a language, from scratch or after edits, with or without
errors, a head carries the sum of the dynamic precedences of all reductions that lie on its stack, as far
as 32 bits hold it, and so does every subtree of what lies there and of the trees that are made
(`Language.adds_up`). Nothing keeps that sum in the range: a grammar may name any number of 32 bits, and
one reduction after another may add it. Where the sum leaves the range the head carries another number,
and the choice among readings goes by that.
-/
namespace IncrementalGlr

open Subtree

/-- What is computed with dynamic precedences is right as far as 32 bits hold it. Heads carry the sum over
their reductions exactly if that is in the range; all subtrees carry the sums of theirs, and the numbers on
the way to them are exact while the precedences without their signs add up to less than the range; and when
a rule is expanded, only the least number of all is taken for nearer to zero than it is. -/
theorem Language.adds_up (l : Language) :
    (∀ (p : Parser) (text : String) (reuse : Option ReuseCursor) (cancelled : Nat → Bool)
      (fuel : Option Nat), p.language = l →
      (∀ r, reuse = some r → ∃ old, l.Makes old ∧ r.root = old.green) →
        (p.engine text reuse cancelled).AddsUp fuel) ∧
      (∀ tree, l.Makes tree → tree.green.Summed l.table ∧
        (sumOf l.table.swingOf [tree.green] < 0x80000000 →
          ∀ x ∈ tree.green.parts, x.Exact l.table)) ∧
      ∀ n, IsInt32 n → (Flat.Alternative.magnitude n = n.natAbs ↔ n ≠ -0x80000000) := by
  have summed {tree : Tree} (h : l.Makes tree) : tree.green.Summed l.table := by
    refine h.of_runs fun p text reuse cancelled root c hp hreuse hreturns => ?_
    subst hp
    exact Engine.summed_of_run (e := p.engine text reuse cancelled) hreuse hreturns
  refine ⟨fun p text reuse cancelled fuel hp hreuse => ?_, fun tree h => ?_, fun n => ?_⟩
  · subst hp
    refine Engine.addsUp_of_summed fun r hr => ?_
    obtain ⟨old, hold, hroot⟩ := hreuse r hr
    exact hroot ▸ summed hold
  · exact ⟨summed h, (summed h).exact⟩
  · exact Flat.Alternative.magnitude_eq_iff

/-- The tree of the better reading of the letter carries what its productions add up to. -/
theorem Twofold.adds_up_letter :
    ∃ tree, (parser.parseUnless (fun _ => false) "a").result = .ok tree ∧
      sumOf table.worthOf [tree.green] = 1 ∧ tree.green.info.dynamicPrecedence = 1 ∧
      ∀ x ∈ tree.green.parts, x.Exact table := by
  have sums : (parser.parseUnless (fun _ => false) "a").result.toOption.map (fun tree =>
      (sumOf table.worthOf [tree.green], sumOf (fun id => (table.worthOf id).natAbs) [tree.green])) =
        some (1, 1) := by
    cbv
  obtain ⟨tree, h, sums⟩ := ParseOutcome.exists_tree sums
  obtain ⟨hworth, hswing⟩ := Prod.mk.inj sums
  have swing : sumOf table.swingOf [tree.green] = 1 := by
    rw [← hswing]
    exact congrArg (sumOf · _) (funext fun id => Int.abs_eq_natAbs _)
  obtain ⟨summed, exact_of_swing⟩ := (Language.adds_up parser.language).2.1 tree (.parse rfl h)
  refine ⟨tree, h, hworth, ?_, exact_of_swing (swing.trans_lt (by decide))⟩
  rw [summed.dynamicPrecedence_eq]
  exact congrArg wrap32 hworth

end IncrementalGlr
