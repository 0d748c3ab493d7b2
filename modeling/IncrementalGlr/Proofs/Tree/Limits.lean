import IncrementalGlr.Proofs.Parse.Limits
import IncrementalGlr.Proofs.Tree.Coverage

/-!
Limits cut a parse short and never change it. With a number of actions to do, or told to stop at some
time, a parse comes to what it comes to without limits, or it ends with the error that says which limit
it met (`ParseOutcome.CutShort`). That holds of every parser and every text, from scratch and after an
edit (`Parser.cutShort`).
-/
namespace IncrementalGlr

/-- What comes of a parse for each number of actions, and for each way to be told to stop, from what
comes of it without both. -/
structure ParseOutcome.CutShort (outcome : Option Nat → (Nat → Bool) → ParseOutcome) : Prop where
  /-- The number of actions of the whole parse is enough, and no smaller one. -/
  fuel : ∃ least, ∀ n, (least ≤ n → outcome (some n) (fun _ => false) = outcome none fun _ => false) ∧
    (n < least → (outcome (some n) fun _ => false).result = .error .fuelExhausted)
  /-- If it is told to stop for the first time after it was told `k` times to go on, it stops where it
  would look for more than `k` tokens. -/
  cancelled : ∀ (ask : Nat → Bool) (k : Nat), (∀ n < k, ask n = false) → ask k = true →
    (k < (outcome none fun _ => false).tokens.length →
      (outcome none ask).result = .error .cancelled) ∧
    ((outcome none fun _ => false).tokens.length ≤ k →
      outcome none ask = outcome none fun _ => false)

/-- What does not depend on limits is not cut short. -/
theorem ParseOutcome.CutShort.of_refused {o : ParseOutcome} (h : o.tokens = []) :
    CutShort fun _ _ => o where
  fuel := ⟨0, fun _ => ⟨fun _ => rfl, fun h => absurd h (Nat.not_lt_zero _)⟩⟩
  cancelled _ k _ _ := by
    rw [h]
    exact ⟨fun h => absurd h (Nat.not_lt_zero k), fun _ => rfl⟩

namespace Parser

/-- The parser with so many actions to do. -/
def withFuel (p : Parser) (fuel : Option Nat) : Parser :=
  { p with options := { p.options with fuel } }

variable (p : Parser)

/-- What is shown of a run of an engine. -/
def shown (text : String) (run : Except ParseError Subtree × Configuration) : ParseOutcome where
  result := run.1.map fun root => .ofSubtree p.language.table text root run.2.stats
  polls := run.2.polls
  trace := run.2.trace.toList

theorem tokens_shown (text : String) (result : Except ParseError Subtree) (c : Configuration) :
    (p.shown text (result, c)).tokens = c.pulled := rfl

theorem runOn_withFuel (fuel : Option Nat) (text : String) (reuse : Option ReuseCursor)
    (ask : Nat → Bool) : (p.withFuel fuel).runOn text reuse ask =
      p.shown text (((p.engine text reuse ask).under none ask).run.run.run { fuel }) := by
  have same : (p.withFuel fuel).engine text reuse ask = (p.engine text reuse ask).under fuel ask := rfl
  have run : ((p.engine text reuse ask).under fuel ask).run =
      ((p.engine text reuse ask).under none ask).run := Engine.under_runFrom _ fuel ask _
  rw [runOn, same, run]
  rfl

/-- A run of the engine is cut short by limits. -/
theorem cutShort_runOn (text : String) (reuse : Option ReuseCursor) :
    ParseOutcome.CutShort fun fuel ask => (p.withFuel fuel).runOn text reuse ask := by
  obtain ⟨result, c, least, settled⟩ := Engine.exists_settles (e := p.engine text reuse fun _ => false)
    ((p.engine text reuse fun _ => false).lexer.size + 1 + maxReductions) {}
  have shows (fuel : Option Nat) (ask : Nat → Bool) : (p.withFuel fuel).runOn text reuse ask =
      p.shown text (((p.engine text reuse fun _ => false).under none ask).run.run.run { fuel }) :=
    p.runOn_withFuel fuel text reuse ask
  have unlimited : (p.withFuel none).runOn text reuse (fun _ => false) =
      p.shown text (result, { c with fuel := none }) := by
    rw [shows]
    exact congrArg _ settled.metered.free
  have tokens : ((p.withFuel none).runOn text reuse fun _ => false).tokens.length = c.polls := by
    have asks : c.polls + 0 = 0 + c.pulled.length := settled.asks
    rw [unlimited, tokens_shown]
    change c.pulled.length = c.polls
    omega
  refine ⟨⟨least, fun n => ⟨fun h => ?_, fun h => ?_⟩⟩, fun ask k hbefore hk => ⟨fun h => ?_, fun h => ?_⟩⟩
  · rw [unlimited, shows]
    -- What is left of the limit is not shown.
    have ends := congrArg (p.shown text) (settled.metered.enough h)
    exact ends
  · rw [shows]
    exact congrArg (Except.map _) (settled.metered.short h)
  · rw [tokens] at h
    rw [shows]
    exact congrArg (Except.map _) (settled.heard h (Nat.zero_le k) hk)
  · rw [tokens] at h
    rw [unlimited, shows]
    exact congrArg (p.shown text)
      (settled.unheard fun n hn _ => hbefore n (Nat.lt_of_lt_of_le hn h))

/-- Limits only cut a parse short, they never change it. -/
theorem cutShort :
    (∀ text, ParseOutcome.CutShort fun fuel ask => (p.withFuel fuel).parseUnless ask text) ∧
      ∀ old edit text, ParseOutcome.CutShort fun fuel ask =>
        (p.withFuel fuel).reparseUnless ask old edit text := by
  refine ⟨fun text => p.cutShort_runOn text none, fun old edit text => ?_⟩
  unfold reparseUnless
  by_cases hedit : edit.newTextLen old.source.utf8ByteSize = some text.utf8ByteSize
  · simp only [hedit, if_true]
    exact p.cutShort_runOn text _
  · simp only [hedit, if_false]
    exact .of_refused rfl

end Parser

end IncrementalGlr
