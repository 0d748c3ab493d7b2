import IncrementalGlr.Proofs.Parse.Driving
import IncrementalGlr.Proofs.Table.Binary
import IncrementalGlr.Proofs.Table.Lookup

/-!
What a table answers is what was decided. Rows of actions and of transitions are stored one after
another, with equal lists of actions numbered once and one number for transitions that are missing;
read back, every cell holds what was put in (`ParseTable.answers_of_resolved`). Only the first list is
empty, so the terminals for which a state has actions can be told by the numbers of their lists alone
(`ParseTable.mem_validTerminals_iff`).

Numbers in stored tables have 16 bits, and the greatest of them marks a missing transition. So all
that is counted has to fit, the distinct lists of actions included (`TableData.CountsFit`).
-/
namespace IncrementalGlr

/-- All that a table counts can be counted with 16 bits. -/
structure TableData.CountsFit (d : TableData) : Prop where
  terminals : d.terminalCount < 2 ^ 16
  nonterminals : d.nonterminalCount < 2 ^ 16
  externals : d.externalCount < 2 ^ 16
  states : d.stateCount < 2 ^ 16
  actionLists : d.actionLists.size < 2 ^ 16

/-- There is a cell for every state and every terminal, and for every state and every nonterminal, and
transitions lead to states. -/
structure ActionTable.Shaped (decided : ActionTable) (g : FlatGrammar) : Prop where
  states : decided.gotos.size = decided.actions.size
  actions : ∀ row ∈ decided.actions, row.size = g.terminalCount
  gotos : ∀ row ∈ decided.gotos, row.size = g.nonterminalCount
  targets : ∀ row ∈ decided.gotos, ∀ r, some r ∈ row → r < decided.actions.size

namespace ParseTable

/-- The table answers what was decided for each state and symbol, and nothing for all else. -/
structure Answers (t : ParseTable) (g : FlatGrammar) (decided : ActionTable) : Prop where
  actions : ∀ q < decided.actions.size, ∀ s < g.terminalCount, t.actions q s =
    if decided.actionsAt q s = [] ∧ (g.symbols[s]?).any (·.extra) = true then [.shiftExtra]
    else decided.actionsAt q s
  gotos : ∀ q < decided.actions.size, ∀ s, g.IsNonterminal s → t.goto q s = decided.gotoAt g q s
  ascending : ∀ q, (t.validTerminals q).Pairwise (· < ·)
  valid : ∀ q s, s ∈ t.validTerminals q ↔ t.actions q s ≠ []
  noActions : ∀ q s, ¬ (q < decided.actions.size ∧ s < g.terminalCount) → t.actions q s = []
  noGoto : ∀ q s, ¬ (q < decided.actions.size ∧ g.IsNonterminal s) → t.goto q s = none
  noValid : ∀ q, decided.actions.size ≤ q → t.validTerminals q = []

variable {g : FlatGrammar} {decided : ActionTable} {t : ParseTable}

section Lookup

variable (ht : t.data = .ofActions g decided)
include ht

theorem stateCount_ofActions : t.stateCount = decided.actions.size := by
  rw [stateCount, ht]
  rfl

theorem terminalCount_ofActions : t.terminalCount = g.terminalCount := by
  rw [terminalCount, ht]
  rfl

/-- Outside of the states and terminals nothing can be done. -/
theorem actions_outside {q : StateId} {s : SymbolId}
    (h : ¬ (q < decided.actions.size ∧ s < g.terminalCount)) : t.actions q s = [] := by
  refine if_neg ?_
  rw [stateCount_ofActions ht, terminalCount_ofActions ht, Bool.and_eq_true, decide_eq_true_eq,
    decide_eq_true_eq]
  exact fun inside => h inside.symm

/-- Outside of the states and nonterminals no transition is found. -/
theorem goto_outside {q : StateId} {s : SymbolId}
    (h : ¬ (q < decided.actions.size ∧ g.IsNonterminal s)) : t.goto q s = none := by
  refine if_neg ?_
  rw [stateCount_ofActions ht, Bool.and_eq_true, isNonterminal_iff ht, decide_eq_true_eq]
  exact fun inside => h inside.symm

theorem actions_eq (shaped : decided.Shaped g) {q : StateId} {s : SymbolId}
    (hq : q < decided.actions.size) (hs : s < g.terminalCount) : t.actions q s =
      if decided.actionsAt q s = [] ∧ (g.symbols[s]?).any (·.extra) = true then [.shiftExtra]
      else decided.actionsAt q s := by
  have extra : ((g.symbols[s]?).map (·.extra)).getD false = (g.symbols[s]?).any (·.extra) := by
    cases g.symbols[s]? <;> rfl
  rw [actions_ofActions ht shaped.actions hq hs, FlatGrammar.storedActions, extra]
  simp only [Bool.and_eq_true, List.isEmpty_iff]

/-- The number that marks a missing transition is that of no state. -/
theorem goto_eq (shaped : decided.Shaped g) (fit : t.data.CountsFit) {q : StateId} {s : SymbolId}
    (hs : g.IsNonterminal s) : t.goto q s = decided.gotoAt g q s := by
  refine goto_ofActions ht shaped.states shaped.gotos hs fun marked => ?_
  obtain ⟨row, hrow, hcell⟩ := Option.bind_eq_some_iff.1 (Option.join_eq_some_iff.1 marked)
  have least : 2 ^ 16 ≤ decided.actions.size :=
    shaped.targets row (Array.mem_of_getElem? hrow) _ (Array.mem_of_getElem? hcell)
  have states : decided.actions.size < 2 ^ 16 := stateCount_ofActions ht ▸ fit.states
  exact Nat.not_lt.2 least states

end Lookup

/-! ## Terminals for which a state has actions -/

theorem validTerminals_eq (t : ParseTable) {q : StateId} (hq : q < t.stateCount) :
    t.validTerminals q = t.data.validIn q := by
  have row : (Array.range t.data.stateCount)[q]? = some q := by
    rw [getElem?_pos _ q (Array.size_range.symm ▸ hq), Array.getElem_range]
  rw [validTerminals, t.valid_eq, TableData.valid, Array.getElem?_map, row]
  rfl

theorem validTerminals_outside (t : ParseTable) {q : StateId} (hq : t.stateCount ≤ q) :
    t.validTerminals q = [] := by
  have row : (Array.range t.data.stateCount)[q]? = none :=
    Array.getElem?_eq_none (Array.size_range.symm ▸ hq)
  rw [validTerminals, t.valid_eq, TableData.valid, Array.getElem?_map, row]
  rfl

theorem pairwise_validTerminals (t : ParseTable) (q : StateId) :
    (t.validTerminals q).Pairwise (· < ·) := by
  rcases Nat.lt_or_ge q t.stateCount with hq | hq
  · rw [t.validTerminals_eq hq]
    exact List.pairwise_lt_range.filter _
  · rw [t.validTerminals_outside hq]
    exact .nil

/-- A list is numbered 0 just if it is empty. -/
theorem emptyList_iff (ht : t.data = .ofActions g decided) {k : Nat} {actions : List Action}
    (hk : t.data.actionLists[k]? = some actions) : actions = [] ↔ k = 0 := by
  have sound := ActionPool.sound_foldl (decided.actions.toList.flatMap fun row =>
    row.toList.zipIdx.map fun cell => g.storedActions cell.2 cell.1)
  rw [ht] at hk
  constructor
  · rintro rfl
    exact sound.alone k hk
  · rintro rfl
    exact Option.some.inj (hk.symm.trans sound.first)

theorem mem_validTerminals_iff (ht : t.data = .ofActions g decided) {q : StateId} {s : SymbolId} :
    s ∈ t.validTerminals q ↔ t.actions q s ≠ [] := by
  rcases Nat.lt_or_ge q t.stateCount with hq | hq
  · rw [t.validTerminals_eq hq, TableData.validIn, List.mem_filter, List.mem_range]
    by_cases hs : s < t.terminalCount
    · obtain ⟨actions, -, hlist⟩ := t.exists_listAt hs hq
      obtain ⟨k, hk, hactions⟩ := Option.bind_eq_some_iff.1 hlist
      have found : t.actions q s = actions := by
        rw [actions_eq_listAt, if_pos (by simp [hs, hq]), hlist]
        rfl
      rw [found, Ne, emptyList_iff ht hactions, hk, Option.any_some, bne_iff_ne]
      exact and_iff_right hs
    · have nothing : t.actions q s = [] := if_neg (by simp [hs])
      rw [nothing]
      exact iff_of_false (fun h => hs h.1) fun h => h rfl
  · have nothing : t.actions q s = [] := if_neg (by simp [Nat.not_lt.2 hq])
    rw [t.validTerminals_outside hq, nothing]
    exact iff_of_false List.not_mem_nil fun h => h rfl

/-! ## All answers -/

theorem answers_of_shaped (ht : t.data = .ofActions g decided) (shaped : decided.Shaped g)
    (fit : t.data.CountsFit) : t.Answers g decided where
  actions _ hq _ hs := actions_eq ht shaped hq hs
  gotos _ _ _ hs := goto_eq ht shaped fit hs
  ascending := t.pairwise_validTerminals
  valid _ _ := mem_validTerminals_iff ht
  noActions _ _ := actions_outside ht
  noGoto _ _ := goto_outside ht
  noValid _ hq := t.validTerminals_outside (Nat.le_trans (Nat.le_of_eq (stateCount_ofActions ht)) hq)

/-- What was decided for an automaton has a cell for everything. -/
theorem shaped_ofAutomaton {a : Automaton} (b : a.Built g) :
    (ActionTable.ofAutomaton g a).Shaped g where
  states := by simp [ActionTable.ofAutomaton]
  actions _ h := size_of_mem_actions h
  gotos _ h := size_of_mem_gotos h
  targets _ hrow _ h := by
    have states : (ActionTable.ofAutomaton g a).actions.size = a.states.size := Array.size_map
    exact states ▸ b.lt_of_mem_gotos hrow h

/-- The table that is made of a grammar's decided actions answers with them, once it is ready for
use. -/
theorem answers_of_resolved {a : Automaton} (ha : Automaton.ofGrammar g (.ofGrammar g) = some a)
    (fit : (TableData.ofActions g (.ofAutomaton g a)).CountsFit)
    (ht : ofData (.ofActions g (.ofAutomaton g a)) = .ok t) :
    t.Answers g (.ofAutomaton g a) := by
  obtain ⟨b⟩ := Automaton.exists_built ha
  have data := data_of_ofData ht
  exact answers_of_shaped data (shaped_ofAutomaton b) (data ▸ fit)

end ParseTable

/-- In the table of two letters with notes between them, a note is taken wherever nothing was decided for
it. -/
theorem Noted.answers_resolved :
    Automaton.ofGrammar Noted.flat (.ofGrammar Noted.flat) = some Noted.automaton ∧
    (TableData.ofActions Noted.flat (.ofAutomaton Noted.flat Noted.automaton)).CountsFit ∧
    ParseTable.ofData (.ofActions Noted.flat (.ofAutomaton Noted.flat Noted.automaton)) =
      .ok Noted.table ∧
    Noted.table.Answers Noted.flat (.ofAutomaton Noted.flat Noted.automaton) := by
  have fit : (TableData.ofActions Noted.flat
      (.ofAutomaton Noted.flat Noted.automaton)).CountsFit :=
    ⟨by decide, by decide, by decide, by cbv, by cbv⟩
  have loaded := ParseTable.ofData_data Noted.table
  exact ⟨ofGrammar_flat, fit, loaded, ParseTable.answers_of_resolved ofGrammar_flat fit loaded⟩

end IncrementalGlr
