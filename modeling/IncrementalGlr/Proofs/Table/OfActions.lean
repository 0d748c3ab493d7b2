import IncrementalGlr.Proofs.Lr.Machine
import IncrementalGlr.Table.Basic
import IncrementalGlr.Table.OfActions

/-!
Storing loses no action. Lists of actions are numbered as they are needed, and every number leads back
to its list (`ActionPool.Serves.add`). So what a table answers for a state and a terminal is what was
decided for them, or that an extra is taken where nothing else can be done
(`ParseTable.actions_ofActions`).
-/
namespace IncrementalGlr

/-! ## Numbered lists -/

namespace ActionPool

/-- The list that the `i`-th need was given. -/
def list? (pool : ActionPool) (i : Nat) : Option (List Action) :=
  (pool.index[i]?).bind fun k => pool.lists[k]?

/-- The pool was made for these needs. -/
def Serves (pool : ActionPool) (needed : List (List Action)) : Prop :=
  pool.index.size = needed.length ∧ ∀ i < needed.length, pool.list? i = needed[i]?

theorem Serves.add {pool : ActionPool} {needed : List (List Action)} (h : pool.Serves needed)
    (actions : List Action) : (pool.add actions).Serves (needed ++ [actions]) := by
  obtain ⟨hsize, hlist⟩ := h
  -- whichever way the list gets its number, the lists before keep theirs
  have extended {lists : Array (List Action)} {k : Nat} (hk : lists[k]? = some actions)
      (hold : ∀ j < pool.lists.size, lists[j]? = pool.lists[j]?) :
      (ActionPool.mk lists (pool.index.push k)).Serves (needed ++ [actions]) := by
    refine ⟨by simp [hsize], fun i hi => ?_⟩
    rw [List.length_append, List.length_singleton] at hi
    rcases Nat.lt_succ_iff_lt_or_eq.1 hi with hi | rfl
    · have := hlist i hi
      rw [List.getElem?_append_left hi, ← this, list?, list?,
        Array.getElem?_push_lt (hsize ▸ hi), getElem?_pos pool.index i (hsize ▸ hi)]
      rw [list?, getElem?_pos pool.index i (hsize ▸ hi), getElem?_pos needed i hi] at this
      obtain ⟨hin, -⟩ := Array.getElem?_eq_some_iff.1 this
      exact hold _ hin
    · rw [list?, ← hsize, Array.getElem?_push_size, hsize, List.getElem?_concat_length]
      exact hk
  unfold ActionPool.add
  split
  · next k hk =>
    obtain ⟨hin, heq, -⟩ := Array.findIdx?_eq_some_iff_getElem.1 hk
    refine extended ?_ fun _ _ => rfl
    rw [getElem?_pos pool.lists k hin, eq_of_beq heq]
  · exact extended Array.getElem?_push_size fun j hj => by
      rw [Array.getElem?_push_lt hj, getElem?_pos pool.lists j hj]

theorem serves_foldl (needed : List (List Action)) : (needed.foldl add {}).Serves needed := by
  have all : ∀ (rest before : List (List Action)) (pool : ActionPool), pool.Serves before →
      (rest.foldl add pool).Serves (before ++ rest) := by
    intro rest
    induction rest with
    | nil =>
      intro before pool h
      rwa [List.append_nil]
    | cons actions rest ih =>
      intro before pool h
      rw [List.append_cons]
      exact ih _ _ (h.add actions)
  exact all needed [] {} ⟨rfl, fun i hi => absurd hi (Nat.not_lt_zero i)⟩

end ActionPool

/-! ## Rows of one length -/

/-- Rows of one length one after another are looked up by row and column. -/
theorem getElem?_flatMap {α β : Type} (f : α → List β) {n : Nat} {rows : List α}
    (h : ∀ row ∈ rows, (f row).length = n) (q : Nat) {s : Nat} (hs : s < n) :
    (rows.flatMap f)[q * n + s]? = (rows[q]?).bind fun row => (f row)[s]? := by
  induction rows generalizing q with
  | nil => simp
  | cons row rest ih =>
    obtain ⟨hrow, hrest⟩ := List.forall_mem_cons.1 h
    rw [List.flatMap_cons]
    cases q with
    | zero =>
      rw [Nat.zero_mul, Nat.zero_add, List.getElem?_append_left (by omega), List.getElem?_cons_zero,
        Option.bind_some]
    | succ q =>
      have : (q + 1) * n + s - n = q * n + s := by
        rw [Nat.succ_mul]
        omega
      rw [List.getElem?_append_right (by rw [hrow, Nat.succ_mul]; omega), hrow, this, ih hrest q,
        List.getElem?_cons_succ]

/-! ## Actions -/

/-- The list that is stored for a state and a terminal. -/
def TableData.listAt (d : TableData) (q : StateId) (s : SymbolId) : Option (List Action) :=
  (d.actionIndex[q * d.terminalCount + s]?).bind fun k => d.actionLists[k]?

namespace ParseTable

variable {g : FlatGrammar} {actions : ActionTable} {t : ParseTable}

/-- What is needed for a state and a terminal. -/
theorem getElem?_needed (hrows : ∀ row ∈ actions.actions, row.size = g.terminalCount) {q : StateId}
    {s : Nat} (hq : q < actions.actions.size) (hs : s < g.terminalCount) :
    (actions.actions.toList.flatMap fun row => row.toList.zipIdx.map fun (actions, terminal) =>
      g.storedActions terminal actions)[q * g.terminalCount + s]? =
        some (g.storedActions s (actions.actionsAt q s)) := by
  have hrow : actions.actions[q].size = g.terminalCount := hrows _ (Array.getElem_mem hq)
  rw [getElem?_flatMap _ (fun row hrow => ?_) q hs]
  · rw [Array.getElem?_toList, getElem?_pos actions.actions q hq, Option.bind_some,
      List.getElem?_map, List.getElem?_zipIdx, Array.getElem?_toList,
      getElem?_pos actions.actions[q] s (hrow ▸ hs), ActionTable.actionsAt,
      getElem?_pos actions.actions q hq, Option.bind_some,
      getElem?_pos actions.actions[q] s (hrow ▸ hs)]
    simp
  · rw [List.length_map, List.length_zipIdx, Array.length_toList]
    exact hrows row (Array.mem_toList_iff.1 hrow)

/-- For a state and a terminal, what was decided is stored. -/
theorem listAt_ofActions (hrows : ∀ row ∈ actions.actions, row.size = g.terminalCount) {q : StateId}
    {s : Nat} (hq : q < actions.actions.size) (hs : s < g.terminalCount) :
    (TableData.ofActions g actions).listAt q s = some (g.storedActions s (actions.actionsAt q s)) := by
  have needed := getElem?_needed hrows hq hs
  have hlist := (ActionPool.serves_foldl _).2 _ (List.getElem?_eq_some_iff.1 needed).1
  rwa [needed] at hlist

/-- A table answers with what was decided. -/
theorem actions_ofActions (ht : t.data = .ofActions g actions)
    (hrows : ∀ row ∈ actions.actions, row.size = g.terminalCount) {q : StateId} {s : Nat}
    (hq : q < actions.actions.size) (hs : s < g.terminalCount) :
    t.actions q s = g.storedActions s (actions.actionsAt q s) := by
  obtain ⟨k, hk, hlist⟩ := Option.bind_eq_some_iff.1 (listAt_ofActions hrows hq hs)
  have hin : s < t.terminalCount ∧ q < t.stateCount := by
    rw [terminalCount, stateCount, ht]
    exact ⟨hs, hq⟩
  unfold ParseTable.actions
  rw [if_pos (by simpa using hin), terminalCount, ht]
  simp only [hk, hlist, Option.getD_some]

theorem lt_of_mem_actions (ht : t.data = .ofActions g actions) {q : StateId} {s : Nat}
    {action : Action} (h : action ∈ t.actions q s) :
    s < g.terminalCount ∧ q < actions.actions.size := by
  unfold ParseTable.actions at h
  split at h
  · next hin =>
    rw [terminalCount, stateCount, ht, Bool.and_eq_true, decide_eq_true_eq,
      decide_eq_true_eq] at hin
    exact hin
  · cases h

theorem isTerminal_of_mem_actions {q : StateId} {s : Nat} {action : Action}
    (h : action ∈ t.actions q s) : t.isTerminal s = true := by
  unfold ParseTable.actions at h
  split at h
  · next hin => exact (Bool.and_eq_true_iff.1 hin).1
  · cases h

/-- What a table has besides extras was decided. -/
theorem mem_actionsAt_of_mem (ht : t.data = .ofActions g actions)
    (hrows : ∀ row ∈ actions.actions, row.size = g.terminalCount) {q : StateId} {s : Nat}
    {action : Action} (h : action ∈ t.actions q s) (hne : action ≠ .shiftExtra) :
    s < g.terminalCount ∧ action ∈ actions.actionsAt q s := by
  have hin := lt_of_mem_actions ht h
  rw [actions_ofActions ht hrows hin.2 hin.1, FlatGrammar.storedActions] at h
  refine ⟨hin.1, ?_⟩
  split at h
  · exact absurd (List.mem_singleton.1 h) hne
  · exact h

/-- What was decided is in the table. -/
theorem mem_of_mem_actionsAt (ht : t.data = .ofActions g actions)
    (hrows : ∀ row ∈ actions.actions, row.size = g.terminalCount) {q : StateId} {s : Nat}
    {action : Action} (h : action ∈ actions.actionsAt q s) : action ∈ t.actions q s := by
  have hin : q < actions.actions.size ∧ s < g.terminalCount := by
    unfold ActionTable.actionsAt at h
    cases hrow : actions.actions[q]? with
    | none => simp [hrow] at h
    | some row =>
      obtain ⟨hq, hmem⟩ := Array.getElem?_eq_some_iff.1 hrow
      refine ⟨hq, ?_⟩
      by_contra hs
      have := hrows row (hmem ▸ Array.getElem_mem hq)
      have : row[s]? = none := Array.getElem?_eq_none (by omega)
      simp [hrow, this] at h
  rw [actions_ofActions ht hrows hin.1 hin.2, FlatGrammar.storedActions, if_neg]
  · exact h
  · simp [List.ne_nil_of_mem h]

theorem isExtra_ofActions (ht : t.data = .ofActions g actions) (s : SymbolId) :
    t.isExtra s = ((g.symbols[s]?).map (·.extra)).getD false := by
  rw [isExtra, symbol?, ht]
  simp only [TableData.ofActions]
  cases g.symbols[s]? <;> rfl

/-- An extra is taken where nothing was decided. -/
theorem actions_of_extra (ht : t.data = .ofActions g actions)
    (hrows : ∀ row ∈ actions.actions, row.size = g.terminalCount) {q : StateId} {s : Nat}
    (hq : q < actions.actions.size) (hs : s < g.terminalCount) (hextra : t.isExtra s = true)
    (hnone : actions.actionsAt q s = []) : t.actions q s = [.shiftExtra] := by
  rw [isExtra_ofActions ht] at hextra
  rw [actions_ofActions ht hrows hq hs, FlatGrammar.storedActions, hnone, hextra]
  rfl

/-- Extras alone are taken without change of state. -/
theorem isExtra_of_shiftExtra (ht : t.data = .ofActions g actions)
    (hrows : ∀ row ∈ actions.actions, row.size = g.terminalCount) {q : StateId} {s : Nat}
    (hdecided : .shiftExtra ∉ actions.actionsAt q s) (h : .shiftExtra ∈ t.actions q s) :
    t.isExtra s = true := by
  have hin := lt_of_mem_actions ht h
  rw [actions_ofActions ht hrows hin.2 hin.1, FlatGrammar.storedActions] at h
  split at h
  · next hextra =>
    rw [isExtra_ofActions ht]
    exact (Bool.and_eq_true_iff.1 hextra).2
  · exact absurd h hdecided

/-! ## Where nonterminals lead -/

theorem isNonterminal_iff (ht : t.data = .ofActions g actions) {x : SymbolId} :
    t.isNonterminal x = true ↔ g.IsNonterminal x := by
  rw [isNonterminal, terminalCount, ht, Bool.and_eq_true, decide_eq_true_eq, decide_eq_true_eq]
  exact Iff.rfl

theorem isNonterminal_of_goto (ht : t.data = .ofActions g actions) {q r : StateId} {x : SymbolId}
    (h : t.goto q x = some r) : g.IsNonterminal x := by
  unfold ParseTable.goto at h
  split at h
  · next hin => exact (isNonterminal_iff ht).1 (Bool.and_eq_true_iff.1 hin).1
  · cases h

/-- A table leads on as was decided, if the number that stands for no state is that of none. -/
theorem goto_ofActions (ht : t.data = .ofActions g actions)
    (hsize : actions.gotos.size = actions.actions.size)
    (hrows : ∀ row ∈ actions.gotos, row.size = g.nonterminalCount) {q : StateId} {x : Nat}
    (hx : g.IsNonterminal x) (htarget : actions.gotoAt g q x ≠ some noGoto) :
    t.goto q x = actions.gotoAt g q x := by
  have hi : x - g.terminalCount < g.nonterminalCount := by
    obtain ⟨hle, hlt⟩ := hx
    unfold FlatGrammar.IsSymbol at hlt
    omega
  have hstates : t.stateCount = actions.gotos.size := by
    rw [stateCount, ht, hsize]
    rfl
  unfold ParseTable.goto
  rw [(isNonterminal_iff ht).2 hx, hstates, Bool.true_and]
  by_cases hq : q < actions.gotos.size
  · have hin : x - g.terminalCount < actions.gotos[q].size :=
      hrows _ (Array.getElem_mem hq) ▸ hi
    have entry : t.data.gotoIndex[q * t.data.nonterminalCount + (x - t.terminalCount)]? =
        (actions.gotos[q][x - g.terminalCount]?).map fun target => target.getD noGoto := by
      rw [terminalCount, ht]
      show (actions.gotos.flatMap _)[q * g.nonterminalCount + (x - g.terminalCount)]? = _
      rw [← Array.getElem?_toList, Array.toList_flatMap,
        getElem?_flatMap _ (fun row hrow => ?_) q hi, Array.getElem?_toList,
        getElem?_pos actions.gotos q hq, Option.bind_some, Array.toList_map,
        List.getElem?_map, Array.getElem?_toList]
      rw [Array.toList_map, List.length_map, Array.length_toList]
      exact hrows row (Array.mem_toList_iff.1 hrow)
    rw [if_pos (decide_eq_true hq), entry]
    rw [ActionTable.gotoAt, getElem?_pos actions.gotos q hq, Option.bind_some,
      getElem?_pos actions.gotos[q] (x - g.terminalCount) hin] at htarget ⊢
    rw [Option.map_some]
    generalize actions.gotos[q][x - g.terminalCount] = target at htarget
    cases target with
    | none => rfl
    | some r =>
      exact Option.filter_eq_some_iff.2 ⟨rfl, by simpa using fun h => htarget (congrArg some h)⟩
  · rw [if_neg (by simpa using hq), ActionTable.gotoAt, Array.getElem?_eq_none (Nat.not_lt.1 hq)]
    rfl

end ParseTable

end IncrementalGlr
