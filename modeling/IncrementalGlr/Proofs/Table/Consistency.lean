import IncrementalGlr.Proofs.Flat.Fits
import IncrementalGlr.Proofs.Table.OfAutomaton

/-!
Tables of automata fit together. What they say leads to their own states and productions, and every
list of actions that is asked for is there (`ActionPool.sound_foldl`); so nothing is found wrong with a
table that was made for a flat grammar whose numbers are in range
(`TableData.consistent_ofAutomaton`).
-/
namespace IncrementalGlr

/-! ## Numbered lists -/

namespace ActionPool

/-- Every number is that of a list, the first of which alone is empty, and only lists that were needed
are stored. -/
structure Sound (pool : ActionPool) (needed : List (List Action)) : Prop where
  first : pool.lists[0]? = some []
  alone : ∀ k : Nat, pool.lists[k]? = some [] → k = 0
  index : ∀ k ∈ pool.index, k < pool.lists.size
  lists : ∀ actions ∈ pool.lists, actions = [] ∨ actions ∈ needed

theorem Sound.add {pool : ActionPool} {needed : List (List Action)} (h : pool.Sound needed)
    {actions : List Action} (hneeded : actions ∈ needed) : (pool.add actions).Sound needed := by
  unfold ActionPool.add
  split
  · next k hk =>
    refine ⟨h.first, h.alone, fun i hi => ?_, h.lists⟩
    rcases Array.mem_push.1 hi with hi | rfl
    · exact h.index i hi
    · exact (Array.findIdx?_eq_some_iff_getElem.1 hk).1
  · next hnew =>
    have pos := (Array.getElem?_eq_some_iff.1 h.first).1
    refine ⟨?_, fun k hk => ?_, fun i hi => ?_, fun l hl => ?_⟩
    · rw [Array.getElem?_push_lt pos, ← getElem?_pos pool.lists 0 pos, h.first]
    · rw [Array.getElem?_push] at hk
      split at hk
      · -- the empty list is stored already, so it is not the new one
        have stored := Array.findIdx?_eq_none_iff.1 hnew [] (Array.mem_of_getElem? h.first)
        rw [Option.some.inj hk] at stored
        simp at stored
      · exact h.alone k hk
    · rw [Array.size_push]
      rcases Array.mem_push.1 hi with hi | rfl
      · exact Nat.lt_succ_of_lt (h.index i hi)
      · exact Nat.lt_succ_self _
    · rcases Array.mem_push.1 hl with hl | rfl
      · exact h.lists l hl
      · exact .inr hneeded

theorem sound_foldl (needed : List (List Action)) : (needed.foldl add {}).Sound needed := by
  have all : ∀ (rest : List (List Action)) (pool : ActionPool), pool.Sound needed →
      (∀ actions ∈ rest, actions ∈ needed) → (rest.foldl add pool).Sound needed := by
    intro rest
    induction rest with
    | nil => exact fun _ h _ => h
    | cons actions rest ih =>
      intro pool h hrest
      obtain ⟨hactions, hrest⟩ := List.forall_mem_cons.1 hrest
      exact ih _ (h.add hactions) hrest
  refine all needed {} ⟨rfl, fun k hk => ?_, fun i hi => by simp at hi, fun l hl => .inl ?_⟩
    fun _ h => h
  · simpa using (Array.getElem?_eq_some_iff.1 hk).1
  · simpa using hl

end ActionPool

/-! ## What a table leads to -/

namespace Automaton.Built

variable {g : FlatGrammar} {a : Automaton} (b : a.Built g)
include b

/-- What was decided leads to a state of the automaton or names a production of the grammar. -/
theorem target_of_mem_row {row : Array (List Action)}
    (hrow : row ∈ (ActionTable.ofAutomaton g a).actions) {actions : List Action}
    (hactions : actions ∈ row) {action : Action} (h : action ∈ actions) :
    (∀ r, action = .shift r → r < a.states.size) ∧
      ∀ p, action = .reduce p → p < g.productions.size := by
  obtain ⟨s, hs, rfl⟩ := Array.mem_map.1 hrow
  obtain ⟨q, hq, rfl⟩ := Array.mem_iff_getElem.1 hs
  have hs := getElem?_pos a.states q hq
  obtain ⟨cell, hcell, rfl⟩ := Array.mem_map.1 hactions
  obtain ⟨t, -, rfl⟩ := Array.mem_map.1 hcell
  refine ⟨?_, ?_⟩
  · rintro r rfl
    obtain ⟨s', hs'⟩ := b.exists_target hs (Cell.shift_of_resolve (Cell.shift_mem_actions.1 h))
    exact (Array.getElem?_eq_some_iff.1 hs').1
  · rintro p rfl
    obtain ⟨hne, i, hi, -, rfl⟩ := Cell.mem_reduces_ofState.1
      (Cell.mem_reduces_of_resolve (Cell.reduce_mem_actions.1 h))
    exact Nat.lt_of_le_of_ne (b.production_le hs hi.has) hne

theorem lt_of_mem_gotos {row : Array (Option StateId)}
    (hrow : row ∈ (ActionTable.ofAutomaton g a).gotos) {r : StateId} (h : some r ∈ row) :
    r < a.states.size := by
  obtain ⟨s, hs, rfl⟩ := Array.mem_map.1 hrow
  obtain ⟨q, hq, rfl⟩ := Array.mem_iff_getElem.1 hs
  obtain ⟨i, -, hlookup⟩ := Array.mem_map.1 h
  obtain ⟨s', hs'⟩ := b.exists_target (getElem?_pos a.states q hq) hlookup
  exact (Array.getElem?_eq_some_iff.1 hs').1

end Automaton.Built

/-! ## Nothing is wrong with a table -/

namespace TableData

/-- The parts of a table fit together. -/
structure Consistent (d : TableData) : Prop where
  terminals : 0 < d.terminalCount
  first : (d.symbols[0]?).map (·.kind) = some .endOfText
  symbols : d.terminalCount + d.nonterminalCount ≤ d.symbols.size
  tokens : d.lex.tokens.size = d.terminalCount
  actionIndex : d.actionIndex.size = d.stateCount * d.terminalCount
  gotoIndex : d.gotoIndex.size = d.stateCount * d.nonterminalCount
  firstList : d.actionLists[0]? = some []
  lists : ∀ i ∈ d.actionIndex, i < d.actionLists.size
  gotos : ∀ s ∈ d.gotoIndex, s = noGoto ∨ s < d.stateCount
  actions : ∀ actions ∈ d.actionLists, ∀ action ∈ actions, d.actionProblem action = none
  productions : ∀ p ∈ d.productions, d.productionProblem p = none
  states : 0 < d.stateCount

theorem Consistent.problem {d : TableData} (h : d.Consistent) : d.problem = none := by
  have lists : (d.actionIndex.find? fun i => d.actionLists.size ≤ i) = none :=
    Array.find?_eq_none.2 fun i hi => by simpa using h.lists i hi
  have gotos : (d.gotoIndex.find? fun s => s != noGoto && d.stateCount ≤ s) = none := by
    refine Array.find?_eq_none.2 fun s hs => ?_
    rcases h.gotos s hs with rfl | hlt
    · simp
    · simp [Nat.not_le.2 hlt]
  have actions : d.actionLists.toList.flatten.findSome? d.actionProblem = none := by
    refine List.findSome?_eq_none_iff.2 fun action haction => ?_
    obtain ⟨actions, hactions, hmem⟩ := List.mem_flatten.1 haction
    exact h.actions actions (Array.mem_toList_iff.1 hactions) action hmem
  have productions : d.productions.findSome? d.productionProblem = none :=
    Array.findSome?_eq_none_iff.2 h.productions
  have terminals := Nat.ne_of_gt h.terminals
  have states := Nat.ne_of_gt h.states
  have symbols := Nat.not_lt.2 h.symbols
  simp [TableData.problem, terminals, states, symbols, h.first, h.tokens, h.actionIndex, h.gotoIndex,
    h.firstList, lists, gotos, actions, productions]

/-- Nothing was found wrong with a table, so its parts fit together. -/
theorem Consistent.of_problem {d : TableData} (h : d.problem = none) : d.Consistent := by
  unfold TableData.problem at h
  -- what is checked first, one thing after another
  iterate 6
    split at h
    · cases h
  next start symbols tokens actionIndex gotoIndex firstList =>
    simp only [Option.or_eq_none_iff, Option.map_eq_none_iff] at h
    obtain ⟨⟨lists, gotos⟩, actions, productions, states⟩ := h
    simp only [Bool.or_eq_true, decide_eq_true_eq, bne_iff_ne, not_or, not_not] at start firstList
    exact {
      terminals := Nat.pos_of_ne_zero start.1
      first := start.2
      symbols := Nat.not_lt.1 symbols
      tokens := not_not.1 tokens
      actionIndex := not_not.1 actionIndex
      gotoIndex := not_not.1 gotoIndex
      firstList
      lists := fun i hi => by simpa using Array.find?_eq_none.1 lists i hi
      gotos := fun s hs => by
        have inside := Array.find?_eq_none.1 gotos s hs
        by_cases hnone : s = noGoto
        · exact .inl hnone
        · exact .inr (by simpa [hnone] using inside)
      actions := fun l hl action haction => List.findSome?_eq_none_iff.1 actions action
        (List.mem_flatten.2 ⟨l, Array.mem_toList_iff.2 hl, haction⟩)
      productions := Array.findSome?_eq_none_iff.1 productions
      states := Nat.pos_of_ne_zero fun h => by simp [h] at states }

variable {g : FlatGrammar} {a : Automaton}

/-- Rows of one length one after another. -/
theorem length_flatMap_rows {α β : Type} {f : α → List β} {n : Nat} {rows : List α}
    (h : ∀ row ∈ rows, (f row).length = n) : (rows.flatMap f).length = rows.length * n := by
  rw [List.length_flatMap, List.map_congr_left h]
  simp

/-- What a table stores for the terminals of a state is what was decided, or that an extra is taken. -/
theorem actionProblem_needed (b : a.Built g) {actions : List Action}
    (h : actions ∈ (ActionTable.ofAutomaton g a).actions.toList.flatMap fun row =>
      row.toList.zipIdx.map fun (actions, terminal) => g.storedActions terminal actions) :
    ∀ action ∈ actions, (ofActions g (.ofAutomaton g a)).actionProblem action = none := by
  intro action haction
  obtain ⟨row, hrow, hactions⟩ := List.mem_flatMap.1 h
  obtain ⟨⟨decided, t⟩, hdecided, rfl⟩ := List.mem_map.1 hactions
  simp only [FlatGrammar.storedActions] at haction
  split at haction
  · rw [List.mem_singleton.1 haction]
    rfl
  · obtain ⟨hshift, hreduce⟩ := b.target_of_mem_row (Array.mem_toList_iff.1 hrow)
      (Array.mem_toList_iff.1 (List.fst_mem_of_mem_zipIdx hdecided)) haction
    cases action with
    | shift r =>
      refine if_neg (Nat.not_le.2 ?_)
      rw [ofActions, ActionTable.ofAutomaton, Array.size_map]
      exact hshift r rfl
    | reduce p => exact if_neg (Nat.not_le.2 (hreduce p rfl))
    | shiftExtra => rfl
    | accept => rfl

theorem productionProblem_eq_none (tabled : g.Tabled) {actions : ActionTable} {p : Production}
    (hp : p ∈ g.productions) : (ofActions g actions).productionProblem p = none := by
  obtain ⟨hle, hlt⟩ := tabled.lhs p hp
  have lhs : ¬ (decide (p.lhs < g.terminalCount) ||
      decide (g.terminalCount + g.nonterminalCount ≤ p.lhs)) = true := by
    simpa using ⟨hle, hlt⟩
  refine (if_neg lhs).trans (if_neg ?_)
  simp only [List.any_eq_true, not_exists, not_and, Bool.or_eq_true, decide_eq_true_eq, not_or]
  intro c hc
  refine ⟨Nat.not_le.2 (Nat.lt_of_lt_of_le (tabled.rhs p hp _ (List.mem_map_of_mem hc))
    tabled.symbols), ?_⟩
  rintro h
  obtain ⟨s, hs, hle⟩ := (Option.any_eq_true _ _).1 h
  exact Nat.not_le.2 (tabled.renamed p hp c hc s hs) (of_decide_eq_true hle)

/-- The table of an automaton fits together if symbols and productions are numbered as it needs
them. -/
theorem consistent_of_tabled (b : a.Built g) (tabled : g.Tabled) :
    (ofActions g (.ofAutomaton g a)).Consistent := by
  have sound := ActionPool.sound_foldl
    ((ActionTable.ofAutomaton g a).actions.toList.flatMap fun row =>
      row.toList.zipIdx.map fun (actions, terminal) => g.storedActions terminal actions)
  have states : (ofActions g (.ofAutomaton g a)).stateCount = a.states.size := Array.size_map
  exact {
    terminals := tabled.endSymbol
    first := tabled.first
    symbols := tabled.symbols
    tokens := Array.size_map.trans tabled.terminals
    actionIndex := by
      refine (ActionPool.serves_foldl _).1.trans (length_flatMap_rows fun row hrow => ?_)
      rw [List.length_map, List.length_zipIdx, Array.length_toList]
      exact ParseTable.size_of_mem_actions (Array.mem_toList_iff.1 hrow)
    gotoIndex := by
      have rows : (ActionTable.ofAutomaton g a).gotos.toList.length = a.states.size := by
        simp [ActionTable.ofAutomaton]
      rw [states, ← rows, ← Array.length_toList, ofActions, Array.toList_flatMap]
      refine length_flatMap_rows fun row hrow => ?_
      rw [Array.toList_map, List.length_map, Array.length_toList]
      exact ParseTable.size_of_mem_gotos (Array.mem_toList_iff.1 hrow)
    firstList := sound.first
    lists := sound.index
    gotos := by
      intro s hs
      obtain ⟨row, hrow, hs⟩ := Array.mem_flatMap.1 hs
      obtain ⟨target, htarget, rfl⟩ := Array.mem_map.1 hs
      cases target with
      | none => exact .inl rfl
      | some r => exact .inr (states ▸ b.lt_of_mem_gotos hrow htarget)
    actions := by
      intro actions hactions
      rcases sound.lists actions hactions with rfl | hneeded
      · exact fun _ h => absurd h List.not_mem_nil
      · exact actionProblem_needed b hneeded
    productions := fun p hp => productionProblem_eq_none tabled hp
    states := by
      obtain ⟨s, hs⟩ := b.exists_state b.explored.start
      exact states ▸ Nat.lt_of_le_of_lt (Nat.zero_le _) (Array.getElem?_eq_some_iff.1 hs).1 }

/-- The table of an automaton fits together if its grammar has every number in range. -/
theorem consistent_ofAutomaton (b : a.Built g) (fits : g.Fits) :
    (ofActions g (.ofAutomaton g a)).Consistent :=
  consistent_of_tabled b fits.tabled

end TableData

end IncrementalGlr
