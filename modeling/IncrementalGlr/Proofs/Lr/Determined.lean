import Mathlib.Algebra.Order.BigOperators.Group.List
import Mathlib.Algebra.Order.Ring.Nat
import IncrementalGlr.Proofs.Lr.Lalr
import IncrementalGlr.Proofs.Lr.Recognition

/-!
Machines without a choice. Where no cell has two actions, what the machine does next is determined
(`Machine.Step.unique`), so that a machine that can accept a text at all accepts it whichever way it
has come (`Machine.AcceptsOn.of_steps`). How often it reduces before it takes a terminal is then a
matter of the text alone: `Machine.Brisk` bounds that, and `Machine.weight_start_le` says how far it
can be from it. A terminal that is part of no production has no
actions in any state (`Automaton.Built.actionsAt_eq_nil`).
-/
namespace IncrementalGlr

/-! ## Cells -/

namespace ActionTable

/-- In no state there are two actions at one terminal. -/
def Determined (t : ActionTable) : Prop := ∀ q x, (t.actionsAt q x).length ≤ 1

variable {t : ActionTable}

theorem Determined.eq_of_mem (h : t.Determined) {q : StateId} {x : SymbolId} {action action' : Action}
    (ha : action ∈ t.actionsAt q x) (ha' : action' ∈ t.actionsAt q x) : action = action' := by
  obtain ⟨only, honly⟩ := List.length_eq_one_iff.1
    (Nat.le_antisymm (h q x) (List.length_pos_of_mem ha))
  rw [honly] at ha ha'
  rw [List.mem_singleton.1 ha, List.mem_singleton.1 ha']

/-- Where no conflict was counted, there is no choice. -/
theorem determined_of_conflictCount (h : t.conflictCount = 0) : t.Determined := by
  intro q x
  unfold actionsAt
  cases hrow : t.actions[q]? with
  | none => exact Nat.zero_le 1
  | some row =>
    rw [Option.bind_some]
    cases hcell : row[x]? with
    | none => exact Nat.zero_le 1
    | some cell =>
      rw [Option.getD_some]
      by_contra hmany
      have counted := List.le_sum_of_mem (List.mem_map_of_mem
        (f := fun row : Array (List Action) => (row.filter fun actions => 1 < actions.length).size)
        (Array.mem_toList_iff.2 (Array.mem_of_getElem? hrow)))
      rw [List.sum_eq_foldl, ← Array.toList_map, Array.foldl_toList, ← conflictCount, h] at counted
      have listed : cell ∈ row.filter fun actions => 1 < actions.length :=
        Array.mem_filter.2 ⟨Array.mem_of_getElem? hcell, decide_eq_true (Nat.lt_of_not_le hmany)⟩
      exact absurd (Array.size_pos_of_mem listed) (Nat.not_lt.2 counted)

/-- Where there is no choice, no conflict is counted. -/
theorem Determined.conflictCount_eq (h : t.Determined) : t.conflictCount = 0 := by
  rw [conflictCount, ← Array.foldl_toList, ← List.sum_eq_foldl]
  refine List.sum_eq_zero fun n hn => ?_
  obtain ⟨row, hrow, rfl⟩ := Array.mem_map.1 (Array.mem_toList_iff.1 hn)
  obtain ⟨q, hq⟩ := Array.getElem?_of_mem hrow
  refine Array.size_eq_zero_iff.2 (Array.filter_eq_empty_iff.2 fun cell hcell hmany => ?_)
  obtain ⟨x, hx⟩ := Array.getElem?_of_mem hcell
  have few := h q x
  rw [actionsAt, hq, Option.bind_some, hx, Option.getD_some] at few
  exact absurd few (Nat.not_le.2 (of_decide_eq_true hmany))

/-- Where there is no choice, no conflict is reported. -/
theorem Determined.conflictReports_eq {g : FlatGrammar} {a : Automaton}
    (h : (ofAutomaton g a).Determined) : conflictReports g a = [] := by
  have none : openConflicts g a = [] := by
    refine List.flatMap_eq_nil_iff.2 fun s hs => List.filterMap_eq_nil_iff.2 fun ⟨c, x⟩ hc => ?_
    obtain ⟨q, hq⟩ := Array.getElem?_of_mem (Array.mem_toList_iff.1 hs)
    have few := h q x
    rw [actionsAt, ofAutomaton, Array.getElem?_map, hq, Option.map_some, Option.bind_some,
      Array.getElem?_map, ← Array.getElem?_toList, List.mem_zipIdx_iff_getElem?.1 hc] at few
    exact if_neg fun hmany =>
      absurd few (Nat.not_le.2 (of_decide_eq_true (Bool.and_eq_true_iff.1 hmany).1))
  rw [conflictReports, none]
  rfl

end ActionTable

/-! ## The machine -/

namespace Machine

variable {g : FlatGrammar} {table : ActionTable}

/-- The machine accepts in this state. -/
def Accepting (table : ActionTable) (m : Machine) : Prop :=
  ∃ q stack, m = ⟨q :: stack, [endSymbol]⟩ ∧ .accept ∈ table.actionsAt q endSymbol

/-- The machine can come from here to where it accepts. -/
def AcceptsOn (g : FlatGrammar) (table : ActionTable) (m : Machine) : Prop :=
  ∃ m', Steps g table m m' ∧ m'.Accepting table

/-- So many reductions one after another. -/
inductive Reduces (g : FlatGrammar) (table : ActionTable) : Nat → Machine → Machine → Prop where
  | refl (m : Machine) : Reduces g table 0 m m
  | step {n : Nat} {m m' m'' : Machine} (h : Step g table m m') (hinput : m'.input = m.input)
      (rest : Reduces g table n m' m'') : Reduces g table (n + 1) m m''

/-- From here on there are never more than so many reductions one after another. -/
def Brisk (g : FlatGrammar) (table : ActionTable) (limit : Nat) (m : Machine) : Prop :=
  ∀ m', Steps g table m m' → ∀ n m'', Reduces g table n m' m'' → n ≤ limit

theorem Reduces.steps {n : Nat} {m m' : Machine} (h : Reduces g table n m m') :
    Steps g table m m' := by
  induction h with
  | refl => exact .refl
  | step h _ _ ih => exact ih.head h

theorem Reduces.trans {n n' : Nat} {m m' m'' : Machine} (h : Reduces g table n m m')
    (h' : Reduces g table n' m' m'') : Reduces g table (n + n') m m'' := by
  induction h with
  | refl =>
    rw [Nat.zero_add]
    exact h'
  | step h hinput _ ih =>
    rw [Nat.succ_add_eq_add_succ]
    exact .step h hinput (ih h')

theorem Brisk.of_steps {limit : Nat} {m m' : Machine} (h : m.Brisk g table limit)
    (hsteps : Steps g table m m') : m'.Brisk g table limit :=
  fun _ hsteps' => h _ (hsteps.trans hsteps')

section Determined

variable (ht : table.Determined)
include ht

theorem Step.unique {m m' m'' : Machine} (h : Step g table m m') (h' : Step g table m m'') :
    m' = m'' := by
  cases h with
  | shift ha =>
    cases h' with
    | shift ha' => cases ht.eq_of_mem ha ha'; rfl
    | reduce ha' _ _ _ => cases ht.eq_of_mem ha ha'
  | reduce ha hp hs hr =>
    cases h' with
    | shift ha' => cases ht.eq_of_mem ha ha'
    | reduce ha' hp' hs' hr' =>
      cases ht.eq_of_mem ha ha'
      obtain rfl := Option.some.inj (hp.symm.trans hp')
      obtain ⟨rfl, rfl⟩ := List.cons.inj (hs.symm.trans hs')
      obtain rfl := Option.some.inj (hr.symm.trans hr')
      rfl

/-- Where the machine accepts, it does nothing else. -/
theorem Accepting.not_step {m m' : Machine} (h : m.Accepting table) : ¬ Step g table m m' := by
  obtain ⟨q, stack, rfl, haccept⟩ := h
  intro hstep
  cases hstep with
  | shift ha => cases ht.eq_of_mem haccept ha
  | reduce ha _ _ _ => cases ht.eq_of_mem haccept ha

/-- There is one way to accept, so whatever the machine has done lies on it. -/
theorem AcceptsOn.of_steps {m m' : Machine} (h : m.AcceptsOn g table) (hsteps : Steps g table m m') :
    m'.AcceptsOn g table := by
  induction hsteps with
  | refl => exact h
  | @tail m' m'' _ hstep ih =>
    obtain ⟨final, hfinal, haccepting⟩ := ih
    rcases Relation.ReflTransGen.cases_head hfinal with rfl | ⟨next, hnext, hrest⟩
    · exact absurd hstep (haccepting.not_step ht)
    · obtain rfl := hnext.unique ht hstep
      exact ⟨final, hrest, haccepting⟩

variable {n limit : Nat} {m m' : Machine} (h : Reduces g table n m m')
  (hrest : ∀ m'', Step g table m' m'' → m''.input ≠ m'.input)
include h hrest

/-- Where nothing is left to be reduced, there were no more reductions. -/
theorem Reduces.le {k : Nat} {m'' : Machine} (h' : Reduces g table k m m'') : k ≤ n := by
  induction h generalizing k with
  | refl =>
    cases h' with
    | refl => exact Nat.le_refl _
    | step hstep hinput _ => exact absurd hinput (hrest _ hstep)
  | step hstep _ _ ih =>
    cases h' with
    | refl => exact Nat.zero_le _
    | step hstep' _ hreduces =>
      obtain rfl := hstep.unique ht hstep'
      exact Nat.succ_le_succ (ih hrest hreduces)

/-- Reductions up to where something else is done do not matter as long as there are not too many. -/
theorem Reduces.brisk (hn : n ≤ limit)
    (hnext : ∀ m'', Step g table m' m'' → m''.Brisk g table limit) : m.Brisk g table limit := by
  induction h with
  | refl m =>
    intro m' hsteps k m'' hk
    rcases Relation.ReflTransGen.cases_head hsteps with rfl | ⟨next, hstep, hsteps⟩
    · exact Nat.le_trans (Reduces.le ht (.refl m) hrest hk) hn
    · exact hnext next hstep m' hsteps k m'' hk
  | @step n m next m' hstep hinput hreduces ih =>
    intro m₁ hsteps k m'' hk
    rcases Relation.ReflTransGen.cases_head hsteps with rfl | ⟨next', hstep', hsteps⟩
    · exact Nat.le_trans (Reduces.le ht (.step hstep hinput hreduces) hrest hk) hn
    · obtain rfl := hstep.unique ht hstep'
      exact ih hrest (Nat.le_of_succ_le hn) hnext m₁ hsteps k m'' hk

end Determined

/-- A machine that can accept and does not do so yet has a step to do. -/
theorem AcceptsOn.accepting_or_step {m : Machine} (h : m.AcceptsOn g table) :
    m.Accepting table ∨ ∃ m', Step g table m m' := by
  obtain ⟨final, hfinal, haccepting⟩ := h
  rcases Relation.ReflTransGen.cases_head hfinal with rfl | ⟨next, hnext, -⟩
  · exact .inl haccepting
  · exact .inr ⟨next, hnext⟩

theorem acceptsOn_of_accepts {w : List SymbolId} (h : Accepts g table w) :
    (⟨[0], w ++ [endSymbol]⟩ : Machine).AcceptsOn g table := by
  obtain ⟨q, stack, steps, accept⟩ := h
  exact ⟨_, steps, q, stack, rfl, accept⟩

end Machine

/-! ## Reductions at the end of the text -/

namespace Machine

variable {g : FlatGrammar}

theorem length_input_le {table : ActionTable} {m m' : Machine} (h : Steps g table m m') :
    m'.input.length ≤ m.input.length := by
  induction h with
  | refl => exact Nat.le_refl _
  | tail _ hstep ih =>
    cases hstep with
    | shift _ => exact Nat.le_of_succ_le ih
    | reduce _ _ _ _ => exact ih

/-- A machine that has taken nothing has done nothing but reduce. -/
theorem exists_reduces_of_steps {table : ActionTable} {m m' : Machine} (h : Steps g table m m')
    (hinput : m.input.length ≤ m'.input.length) : ∃ n, Reduces g table n m m' := by
  induction h with
  | refl => exact ⟨0, .refl _⟩
  | @tail m' m'' hsteps hstep ih =>
    have hle := length_input_le hsteps
    cases hstep with
    | shift _ =>
      rw [List.length_cons] at hle
      exact absurd (Nat.le_trans hle hinput) (Nat.not_succ_le_self _)
    | reduce ha hp hs hr =>
      obtain ⟨n, hn⟩ := ih hinput
      exact ⟨n + 1, hn.trans (.step (.reduce ha hp hs hr) rfl (.refl _))⟩

variable {a : Automaton} (b : a.Built g) (hg : g.InRange) {weight : SymbolId → Nat}
  (hweight : ∀ p ∈ g.productions, weight p.lhs ≤ (p.rhs.map weight).sum + 1)
include b hg hweight

/-- Where no symbol weighs more than what a production makes of it and one, each reduction adds at
most one to the weight of what is on the stack. -/
theorem Reduces.weight_le {n : Nat} {m m' : Machine} (h : Reduces g (.ofAutomaton g a) n m m')
    {symbols : List SymbolId} (hpath : a.Path m.stack symbols) :
    ∃ symbols', a.Path m'.stack symbols' ∧
      (symbols'.map weight).sum ≤ (symbols.map weight).sum + n := by
  induction h generalizing symbols with
  | refl => exact ⟨symbols, hpath, Nat.le_refl _⟩
  | step hstep hinput _ ih =>
    cases hstep with
    | shift _ => exact absurd (congrArg List.length hinput) (Nat.ne_of_lt (Nat.lt_succ_self _))
    | @reduce _ _ _ _ _ production _ _ _ ha hp hs hr =>
      obtain ⟨below, rfl, hpath'⟩ := path_of_reduce b hg hpath ha hp hs hr
      obtain ⟨symbols', hsymbols', hle⟩ := ih hpath'
      have := hweight production (Array.mem_of_getElem? hp)
      refine ⟨symbols', hsymbols', Nat.le_trans hle ?_⟩
      rw [List.map_cons, List.sum_cons, List.map_append, List.sum_append, List.map_reverse,
        List.sum_reverse]
      omega

/-- At the end of an empty text all reductions come one after another, so the start symbol bounds
how many there may have to be. -/
theorem weight_start_le {limit : Nat} (haccepts : Accepts g (.ofAutomaton g a) [])
    (hbrisk : (⟨[0], [endSymbol]⟩ : Machine).Brisk g (.ofAutomaton g a) limit) :
    weight g.start ≤ limit := by
  obtain ⟨q, stack, hsteps, haccept⟩ := haccepts
  obtain ⟨n, hreduces⟩ := exists_reduces_of_steps hsteps (Nat.le_refl _)
  obtain ⟨symbols, hpath, hle⟩ := hreduces.weight_le b hg hweight .start
  rw [symbols_of_accept b hg hpath haccept] at hle
  have hn := hbrisk _ .refl n _ hreduces
  simp only [List.map_cons, List.map_nil, List.sum_cons, List.sum_nil] at hle
  omega

end Machine

/-! ## Terminals outside of all productions -/

namespace FlatGrammar

variable {g : FlatGrammar}

/-- The terminal is part of a production or the end of the text. -/
def Occurs (g : FlatGrammar) (t : SymbolId) : Prop := t = endSymbol ∨ ∃ p ∈ g.productions, t ∈ p.rhs

/-- Behind a nonterminal in an item stand symbols of a production; behind the start symbol in the item
of the whole text stands nothing. -/
theorem occurs_of_mem_rest {i : Item} {t : SymbolId} (h : t ∈ i.rest g) : g.Occurs t := by
  have hrhs : t ∈ g.rhs i.production := List.mem_of_mem_drop h
  rcases Nat.lt_trichotomy i.production g.productions.size with hlt | heq | hgt
  · rw [rhs_of_getElem? (getElem?_pos g.productions i.production hlt)] at hrhs
    exact .inr ⟨_, Array.getElem_mem hlt, hrhs⟩
  · rw [Item.rest, heq, show g.rhs g.productions.size = [g.start] from rhs_augmented] at h
    simp at h
  · rw [rhs_eq_nil hgt] at hrhs
    cases hrhs

theorem Yields.occurs {row w : List SymbolId} (h : g.Yields row w) {t : SymbolId} (ht : t ∈ w) :
    t ∈ row ∨ g.Occurs t := by
  induction h with
  | nil => cases ht
  | terminal _ _ ih =>
    rcases List.mem_cons.1 ht with rfl | ht
    · exact .inl List.mem_cons_self
    · exact (ih ht).imp_left (List.mem_cons_of_mem _)
  | rule hp _ _ ihu ihw =>
    rcases List.mem_append.1 ht with ht | ht
    · exact .inr ((ihu ht).elim (fun h => .inr ⟨_, hp, h⟩) id)
    · exact (ihw ht).imp_left (List.mem_cons_of_mem _)

/-- Only what occurs can come after a production. -/
theorem Arises.occurs {row : List SymbolId} {i : Item} {t : SymbolId} (h : g.Arises row i t) :
    g.Occurs t := by
  induction h with
  | start => exact .inl rfl
  | advance _ _ ih => exact ih
  | @bring _ w i _ t t' _ _ _ _ hw ht ih =>
    rcases List.mem_append.1 (List.mem_of_head? ht) with hmem | hmem
    · exact (hw.occurs hmem).elim occurs_of_mem_rest id
    · exact List.mem_singleton.1 hmem ▸ ih

end FlatGrammar

namespace Automaton.Built

variable {g : FlatGrammar} {a : Automaton} (b : a.Built g) (hg : g.InRange)
include b hg

/-- In no state anything is done at a terminal that does not occur. -/
theorem actionsAt_eq_nil (hp : g.Productive) (hf : b.found.Searched)
    (hstart : g.terminalCount ≤ g.start) {t : SymbolId} (ht : ¬ g.Occurs t) (q : StateId) :
    (ActionTable.ofAutomaton g a).actionsAt q t = [] := by
  by_contra hne
  obtain ⟨action, ha⟩ := List.exists_mem_of_ne_nil _ hne
  obtain ⟨s, hs, hterminal⟩ := exists_state_of_mem_actionsAt ha
  have decided := ha
  rw [actionsAt_resolved hs hterminal] at decided
  cases action with
  | shift r =>
    obtain ⟨s, hs, -, hlookup⟩ := lookup_of_shift ha
    rcases b.mem_rhs_of_lookup hs hlookup with rfl | hmem
    · exact absurd hstart (Nat.not_le.2 hterminal)
    · exact ht (.inr hmem)
  | reduce p =>
    have reducible := Cell.mem_reduces_of_resolve (Cell.reduce_mem_actions.1 decided)
    obtain ⟨-, i, hi, -, -⟩ := Cell.mem_reduces_ofState.1 reducible
    obtain ⟨row, -, harises⟩ := b.arises_of_expects hg hp hf hs hi
    exact ht harises.occurs
  | accept => exact ht (.inl (complete_of_accept ha).1)
  | shiftExtra => exact Cell.shiftExtra_not_mem_actions decided

end Automaton.Built

end IncrementalGlr
