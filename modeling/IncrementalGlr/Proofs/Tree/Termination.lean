import IncrementalGlr.Proofs.Tree.Coverage

/-!
Parsing comes to an end. Where it is not told to stop, every text has a tree, whatever grammar was
compiled, and so has every text that an edit made of an old tree's text. On the way tokens are looked
for further and further on in the text, and at each of them the number of repairs is bounded
(`Parser.ends_of_compile`). A token that was looked for from scratch begins at a character.
-/
namespace IncrementalGlr

open Text

/-- There is a tree. No more tokens were looked for than there are bytes, and one more, each further on
than the one before; and at none was more repaired than there are attempts. -/
structure ParseOutcome.Ends (o : ParseOutcome) (size : Nat) : Prop where
  result : ∃ tree, o.result = .ok tree
  forward : (o.tokens.map Token.paddingStart).Pairwise (· < ·)
  few : o.tokens.length ≤ size + 1
  patient : ∀ row, row <:+: o.trace → (∀ event ∈ row, event.token? = none) →
    row.countP TraceEvent.isRepair ≤ maxAttempts + 1

namespace Parser

variable {p : Parser}

/-- A run that is not told to stop comes to an end, whatever it is given to take over. -/
theorem ends_runOn (hends : p.language.table.Ends) (hfuel : p.options.fuel = none) (text : String)
    (reuse : Option ReuseCursor) :
    (p.runOn text reuse fun _ => false).Ends text.utf8ByteSize ∧
      (reuse = none → ∀ t ∈ (p.runOn text reuse fun _ => false).tokens, IsBoundary text t.start) := by
  obtain ⟨root, c, events, hrun, htrace, course⟩ :=
    @Engine.exists_course (p.engine text reuse fun _ => false) { fuel := p.options.fuel }
      hends hends.toEndApart (fun _ => rfl) (text.utf8ByteSize + 1 + maxReductions) hfuel
      (fun _ => isBoundary_zero) (Nat.succ_pos _)
      (Nat.lt_of_lt_of_le (Nat.lt_succ_self _) (Nat.le_add_right _ _))
  have outcome : p.runOn text reuse (fun _ => false) =
      { result := .ok (.ofSubtree p.language.table text root c.stats)
        polls := c.polls, trace := c.trace.toList } := by
    unfold runOn
    rw [show ((p.engine text reuse fun _ => false).run.run).run { fuel := p.options.fuel } =
      (.ok root, c) from hrun]
    rfl
  have trace : c.trace.toList = events := htrace
  rw [outcome, trace]
  obtain ⟨known, forward, few⟩ := course.tokens
  refine ⟨⟨⟨_, rfl⟩, forward, few, fun row hrow hnone => course.patient hrow hnone⟩, ?_⟩
  exact fun hreuse t ht => (known t ht).1 hreuse

end Parser

namespace Letter

end Letter

end IncrementalGlr
