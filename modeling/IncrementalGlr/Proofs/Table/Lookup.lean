import IncrementalGlr.Proofs.Table.Consistency

/-!
Looking things up in a table that is ready for use. The actions for a state and a terminal and the
state after a nonterminal are entries of arrays, found by computing their places; what was checked when
the table was made ready puts every such place inside its array (`ParseTable.actions?_eq`,
`ParseTable.goto?_eq`). What is found leads to states and names productions of the table.
-/
namespace IncrementalGlr.ParseTable

/-- The actions for a state and a terminal, read from the arrays; nothing if an index is not inside. -/
def actions? (t : ParseTable) (state : StateId) (terminal : SymbolId) : Option (List Action) :=
  if terminal < t.terminalCount && state < t.stateCount then t.data.listAt state terminal
  else some []

/-- The state after a nonterminal, read from the array; nothing if the index is not inside. -/
def goto? (t : ParseTable) (state : StateId) (nonterminal : SymbolId) : Option (Option StateId) :=
  if t.isNonterminal nonterminal && state < t.stateCount then
    (t.data.gotoIndex[state * t.data.nonterminalCount + (nonterminal - t.terminalCount)]?).map
      fun next => if next = noGoto then none else some next
  else some none

variable (t : ParseTable)

theorem consistent_data : t.data.Consistent := .of_problem t.consistent

/-- A place in the row of a state lies inside an array of as many rows as there are states. -/
theorem place_lt {q n column columns : Nat} (hq : q < n) (hcolumn : column < columns) :
    q * columns + column < n * columns :=
  calc
    q * columns + column < q * columns + columns := Nat.add_lt_add_left hcolumn _
    _ = (q + 1) * columns := (Nat.succ_mul q columns).symm
    _ ≤ n * columns := Nat.mul_le_mul_right columns hq

/-- There is a list of actions for every state and every terminal. -/
theorem exists_listAt {q : StateId} {s : SymbolId} (hs : s < t.terminalCount)
    (hq : q < t.stateCount) :
    ∃ actions ∈ t.data.actionLists, t.data.listAt q s = some actions := by
  have inside : q * t.data.terminalCount + s < t.data.actionIndex.size :=
    t.consistent_data.actionIndex ▸ place_lt hq hs
  have stored := t.consistent_data.lists _ (Array.getElem_mem inside)
  refine ⟨_, Array.getElem_mem stored, ?_⟩
  rw [TableData.listAt, getElem?_pos t.data.actionIndex _ inside, Option.bind_some,
    getElem?_pos t.data.actionLists _ stored]

theorem actions_eq_listAt (q : StateId) (s : SymbolId) : t.actions q s =
    if s < t.terminalCount && q < t.stateCount then (t.data.listAt q s).getD [] else [] := by
  unfold actions TableData.listAt terminalCount
  split
  · cases t.data.actionIndex[q * t.data.terminalCount + s]? <;> rfl
  · rfl

/-- Whatever state and symbol are asked for, no index is outside of the arrays of actions. -/
theorem actions?_eq (q : StateId) (s : SymbolId) : t.actions? q s = some (t.actions q s) := by
  rw [actions?, actions_eq_listAt]
  split
  · next inside =>
    rw [Bool.and_eq_true, decide_eq_true_eq, decide_eq_true_eq] at inside
    obtain ⟨actions, -, hlist⟩ := t.exists_listAt inside.1 inside.2
    rw [hlist, Option.getD_some]
  · rfl

/-- Whatever state and symbol are asked for, no index is outside of the array of states. -/
theorem goto?_eq (q : StateId) (s : SymbolId) : t.goto? q s = some (t.goto q s) := by
  unfold goto? goto
  split
  · next inside =>
    simp only [isNonterminal, Bool.and_eq_true, decide_eq_true_eq] at inside
    obtain ⟨⟨hle, hlt⟩, hq⟩ := inside
    have inside : q * t.data.nonterminalCount + (s - t.terminalCount) < t.data.gotoIndex.size :=
      t.consistent_data.gotoIndex ▸ place_lt hq (Nat.sub_lt_left_of_lt_add hle hlt)
    rw [getElem?_pos t.data.gotoIndex _ inside, Option.map_some, Option.filter_some]
    simp [ite_not]
  · rfl

/-! ## Where it leads -/

variable {t} {q r : StateId} {s : SymbolId} {id : ProductionId} {action : Action}

/-- Nothing is wrong with what can be done in a state. -/
theorem actionProblem_of_mem_actions (h : action ∈ t.actions q s) :
    t.data.actionProblem action = none := by
  rw [actions_eq_listAt] at h
  split at h
  · next inside =>
    rw [Bool.and_eq_true, decide_eq_true_eq, decide_eq_true_eq] at inside
    obtain ⟨actions, hactions, hlist⟩ := t.exists_listAt inside.1 inside.2
    rw [hlist, Option.getD_some] at h
    exact t.consistent_data.actions actions hactions action h
  · cases h

/-- Taking a terminal leads to a state of the table. -/
theorem lt_of_shift (h : .shift r ∈ t.actions q s) : r < t.stateCount := by
  have sound := actionProblem_of_mem_actions h
  by_contra hr
  have outside : t.data.stateCount ≤ r := Nat.not_lt.1 hr
  rw [TableData.actionProblem, if_pos outside] at sound
  cases sound

/-- A reduction follows a production of the table. -/
theorem exists_production (h : .reduce id ∈ t.actions q s) : ∃ p, t.production? id = some p := by
  have sound := actionProblem_of_mem_actions h
  have inside : id < t.data.productions.size := by
    by_contra hid
    rw [TableData.actionProblem, if_pos (Nat.not_lt.1 hid)] at sound
    cases sound
  exact ⟨_, getElem?_pos t.data.productions id inside⟩

/-- A nonterminal leads to a state of the table. -/
theorem lt_of_goto (h : t.goto q s = some r) : r < t.stateCount := by
  unfold goto at h
  split at h
  · obtain ⟨hentry, hne⟩ := Option.filter_eq_some_iff.1 h
    obtain rfl | hlt := t.consistent_data.gotos r (Array.mem_of_getElem? hentry)
    · simp at hne
    · exact hlt
  · cases h

/-- The symbols of a production, and those that stand for them in trees, are symbols of the table. -/
theorem lt_of_production {p : Production} (h : t.production? id = some p) :
    p.lhs < t.symbolCount ∧
      ∀ c ∈ p.children, c.symbol < t.symbolCount ∧ ∀ x ∈ c.renamed, x < t.symbolCount := by
  have sound := t.consistent_data.productions p (Array.mem_of_getElem? h)
  have room := t.consistent_data.symbols
  unfold TableData.productionProblem at sound
  split at sound
  · cases sound
  next hlhs =>
    split at sound
    · cases sound
    next hchildren =>
      simp only [Bool.or_eq_true, decide_eq_true_eq, not_or, Nat.not_lt, Nat.not_le,
        List.any_eq_true, not_exists, not_and, Option.any_eq_true] at hlhs hchildren
      exact ⟨Nat.lt_of_lt_of_le hlhs.2 room, hchildren⟩

end IncrementalGlr.ParseTable
