import IncrementalGlr.Proofs.Flat.Flattening
import IncrementalGlr.Proofs.Lr.Recognition
import IncrementalGlr.Proofs.Table.OfActions

/-!
What lies on the stacks of a parser. The states there are joined by transitions along the symbols
there; so a parser reduces only where the symbols of a production lie on top, and accepts only the
start symbol alone. A table that is followed on such stacks guides the parser
(`ParseTable.Guides`).
-/
namespace IncrementalGlr

namespace ParseTable

/-- Following the table, stacks stay such that whatever the table says makes sense on them: the states
and the symbols on them, the topmost first, are in a relation that taking symbols off and putting
symbols on keeps. -/
structure Guides (t : ParseTable) (On : List StateId → List SymbolId → Prop) : Prop where
  start : On [0] []
  drop : ∀ {states symbols : List Nat} {n q : Nat} {rest : List Nat}, On states symbols →
    states.drop n = q :: rest → On (q :: rest) (symbols.drop n)
  shift : ∀ {q s r : Nat} {below symbols : List Nat}, On (q :: below) symbols →
    .shift r ∈ t.actions q s → On (r :: q :: below) (s :: symbols)
  goto : ∀ {q x r : Nat} {below symbols : List Nat}, On (q :: below) symbols →
    t.goto q x = some r → On (r :: q :: below) (x :: symbols)
  reduce : ∀ {q s id : Nat} {states symbols : List Nat}, On (q :: states) symbols →
    .reduce id ∈ t.actions q s →
      ∃ p below, t.production? id = some p ∧ symbols = p.rhs.reverse ++ below
  accept : ∀ {q s : Nat} {below symbols : List Nat}, On (q :: below) symbols →
    .accept ∈ t.actions q s → symbols = [t.data.startSymbol]
  extra : ∀ {q s : Nat}, .shiftExtra ∈ t.actions q s → t.isExtra s = true

variable {g : FlatGrammar} {a : Automaton} {t : ParseTable}

section Lookup

variable (ht : t.data = .ofActions g (.ofAutomaton g a))

theorem size_of_mem_actions {row : Array (List Action)}
    (h : row ∈ (ActionTable.ofAutomaton g a).actions) : row.size = g.terminalCount := by
  obtain ⟨s, -, rfl⟩ := Array.mem_map.1 h
  simp [ActionTable.cellsOf]

theorem size_of_mem_gotos {row : Array (Option StateId)}
    (h : row ∈ (ActionTable.ofAutomaton g a).gotos) : row.size = g.nonterminalCount := by
  obtain ⟨s, -, rfl⟩ := Array.mem_map.1 h
  simp [ActionTable.gotosOf]

include ht

/-- What the table says besides taking extras was decided. -/
theorem actionsAt_of_mem {q s : Nat} {action : Action} (h : action ∈ t.actions q s)
    (hne : action ≠ .shiftExtra) : action ∈ (ActionTable.ofAutomaton g a).actionsAt q s :=
  (mem_actionsAt_of_mem ht (fun _ => size_of_mem_actions) h hne).2

/-- Nothing but extras is taken without change of state. -/
theorem isExtra_of_taken {q s : Nat} (h : .shiftExtra ∈ t.actions q s) : t.isExtra s = true := by
  refine isExtra_of_shiftExtra ht (fun _ => size_of_mem_actions) (fun hdecided => ?_) h
  obtain ⟨st, hst, hs⟩ := Automaton.Built.exists_state_of_mem_actionsAt hdecided
  rw [Automaton.Built.actionsAt_resolved hst hs] at hdecided
  exact Cell.shiftExtra_not_mem_actions hdecided

/-- A nonterminal leads where the automaton says. -/
theorem goto_eq_gotoAt (b : a.Built g) (hg : g.InRange) {q x : Nat} (hx : g.IsNonterminal x) :
    t.goto q x = (ActionTable.ofAutomaton g a).gotoAt g q x := by
  refine goto_ofActions ht (by simp [ActionTable.ofAutomaton]) (fun _ => size_of_mem_gotos) hx
    fun hgoto => ?_
  obtain ⟨s, hs⟩ := Automaton.Built.exists_state_of_gotoAt hgoto
  rw [Automaton.Built.gotoAt_eq hs hx] at hgoto
  obtain ⟨-, s', -, -, -, hs'⟩ := b.has_of_lookup hg hs hgoto
  exact absurd (b.lt_maxStates hs') (by decide)

end Lookup

section Guides

variable (b : a.Built g) (ht : t.data = .ofActions g (.ofAutomaton g a))
include b ht

/-- Stacks of states that transitions join guide a parser. -/
theorem guides_of_inRange (hg : g.InRange) : t.Guides a.Path where
  start := .start
  drop h hdrop := h.drop hdrop
  shift h hshift := by
    obtain ⟨s, hs, -, hlookup⟩ :=
      Automaton.Built.lookup_of_shift (actionsAt_of_mem ht hshift nofun)
    obtain ⟨-, -, -, -, hx, -⟩ := b.has_of_lookup hg hs hlookup
    exact h.push hs hx
  goto h hgoto := by
    have hx := isNonterminal_of_goto ht hgoto
    rw [goto_eq_gotoAt ht b hg hx] at hgoto
    obtain ⟨s, hs⟩ := Automaton.Built.exists_state_of_gotoAt hgoto
    rw [Automaton.Built.gotoAt_eq hs hx] at hgoto
    obtain ⟨-, -, -, -, hmem, -⟩ := b.has_of_lookup hg hs hgoto
    exact h.push hs hmem
  reduce {q s id} _ _ h hreduce := by
    have decided := actionsAt_of_mem ht hreduce nofun
    obtain ⟨st, i, hst, -, hi, -, rfl, hne⟩ := Automaton.Built.complete_of_reduce decided
    obtain ⟨below, hsymbols⟩ := Machine.symbols_of_reduce b hg h decided
    have hlt := Nat.lt_of_le_of_ne (b.production_le hst hi) hne
    have hp := getElem?_pos g.productions i.production hlt
    rw [FlatGrammar.rhs_of_getElem? hp] at hsymbols
    exact ⟨_, below, by rw [production?, ht]; exact hp, hsymbols⟩
  accept h haccept := by
    rw [Machine.symbols_of_accept b hg h (actionsAt_of_mem ht haccept nofun), ht]
    rfl
  extra := isExtra_of_taken ht

/-- Where there are no nonterminals, nothing but extras is ever put on a stack. -/
theorem guides_of_no_nonterminals (hnone : g.nonterminalCount = 0) (hproductions : g.productions = #[])
    (hstart : g.start = g.terminalCount) :
    t.Guides fun states symbols => states = [0] ∧ symbols = [] where
  start := ⟨rfl, rfl⟩
  drop := by
    rintro _ _ n q rest ⟨rfl, rfl⟩ hdrop
    cases n with
    | zero => exact ⟨hdrop.symm, rfl⟩
    | succ n => simp at hdrop
  shift := by
    rintro q s r below _ ⟨h, rfl⟩ hshift
    obtain ⟨rfl, rfl⟩ := List.cons.inj h
    obtain ⟨st, hst, hs, hlookup⟩ :=
      Automaton.Built.lookup_of_shift (actionsAt_of_mem ht hshift nofun)
    rw [b.eq_start_of_lookup_first hproductions hst hlookup, hstart] at hs
    exact absurd hs (Nat.lt_irrefl _)
  goto := by
    rintro q x r below _ - hgoto
    have hx := isNonterminal_of_goto ht hgoto
    unfold FlatGrammar.IsNonterminal FlatGrammar.IsSymbol at hx
    omega
  reduce := by
    rintro q s id _ _ ⟨h, rfl⟩ hreduce
    obtain ⟨rfl, rfl⟩ := List.cons.inj h
    obtain ⟨st, i, hst, -, hi, -, rfl, hne⟩ :=
      Automaton.Built.complete_of_reduce (actionsAt_of_mem ht hreduce nofun)
    have hlt := Nat.lt_of_le_of_ne (b.production_le hst hi) hne
    rw [hproductions] at hlt
    exact absurd hlt (Nat.not_lt_zero _)
  accept := by
    rintro q s below _ ⟨h, rfl⟩ haccept
    obtain ⟨rfl, rfl⟩ := List.cons.inj h
    obtain ⟨-, st, i, hst, hi, hn, hp⟩ :=
      Automaton.Built.complete_of_accept (actionsAt_of_mem ht haccept nofun)
    exfalso
    rcases b.has_first hst hi with rfl | h
    · rw [Item.next, hp, FlatGrammar.augmented, FlatGrammar.rhs_augmented] at hn
      cases hn
    · exact absurd hp (Nat.ne_of_lt h.2)
  extra := isExtra_of_taken ht

end Guides

end ParseTable

end IncrementalGlr
