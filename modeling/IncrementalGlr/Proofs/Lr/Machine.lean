import Mathlib.Logic.Relation
import IncrementalGlr.Lr.Action
import IncrementalGlr.Proofs.Lr.Automaton

/-!
The machine that a table of actions drives. It has a stack of states and the terminals still to be
taken, and where a state has several actions at a terminal it may follow any of them. The cells of a
state keep all that its items say if no production is preferred to another (`FlatGrammar.Even`), so
that the machine's actions can be read off the items (`Automaton.Built.actionsAt_eq`).
-/
namespace IncrementalGlr

/-! ## The machine -/

namespace ActionTable

/-- What a state does at a terminal. -/
def actionsAt (t : ActionTable) (q : StateId) (a : SymbolId) : List Action :=
  ((t.actions[q]?).bind fun row => row[a]?).getD []

/-- Where a nonterminal leads from a state. -/
def gotoAt (t : ActionTable) (g : FlatGrammar) (q : StateId) (s : SymbolId) : Option StateId :=
  ((t.gotos[q]?).bind fun row => row[s - g.terminalCount]?).join

end ActionTable

/-- The states on the stack, the topmost first, and the terminals still to be taken. -/
structure Machine where
  stack : List StateId
  input : List SymbolId

namespace Machine

/-- Follows one of the actions that the topmost state has at the first terminal. -/
inductive Step (g : FlatGrammar) (table : ActionTable) : Machine → Machine → Prop where
  | shift {q r a : Nat} {stack input : List Nat} (h : .shift r ∈ table.actionsAt q a) :
      Step g table ⟨q :: stack, a :: input⟩ ⟨r :: q :: stack, input⟩
  | reduce {q q' r a p : Nat} {production : Production} {stack stack' input : List Nat}
      (h : .reduce p ∈ table.actionsAt q a) (hp : g.productions[p]? = some production)
      (hs : (q :: stack).drop production.rhs.length = q' :: stack')
      (hr : table.gotoAt g q' production.lhs = some r) :
      Step g table ⟨q :: stack, a :: input⟩ ⟨r :: q' :: stack', a :: input⟩

/-- Any number of steps. -/
def Steps (g : FlatGrammar) (table : ActionTable) : Machine → Machine → Prop :=
  Relation.ReflTransGen (Step g table)

/-- Any number of steps, and the dynamic precedences of the productions that they reduce together. -/
inductive Runs (g : FlatGrammar) (table : ActionTable) : Machine → Machine → Int → Prop where
  | refl (m : Machine) : Runs g table m m 0
  | shift {q r a : Nat} {stack input : List Nat} {m : Machine} {d : Int}
      (h : .shift r ∈ table.actionsAt q a) (rest : Runs g table ⟨r :: q :: stack, input⟩ m d) :
      Runs g table ⟨q :: stack, a :: input⟩ m d
  | reduce {q q' r a p : Nat} {production : Production} {stack stack' input : List Nat}
      {m : Machine} {d : Int} (h : .reduce p ∈ table.actionsAt q a)
      (hp : g.productions[p]? = some production)
      (hs : (q :: stack).drop production.rhs.length = q' :: stack')
      (hr : table.gotoAt g q' production.lhs = some r)
      (rest : Runs g table ⟨r :: q' :: stack', a :: input⟩ m d) :
      Runs g table ⟨q :: stack, a :: input⟩ m (production.dynamicPrecedence + d)

theorem Runs.trans {g : FlatGrammar} {table : ActionTable} {m m' m'' : Machine} {d d' : Int}
    (h : Runs g table m m' d) (h' : Runs g table m' m'' d') : Runs g table m m'' (d + d') := by
  induction h with
  | refl =>
    rw [Int.zero_add]
    exact h'
  | shift h _ ih => exact .shift h (ih h')
  | reduce h hp hs hr _ ih =>
    rw [Int.add_assoc]
    exact .reduce h hp hs hr (ih h')

theorem Runs.steps {g : FlatGrammar} {table : ActionTable} {m m' : Machine} {d : Int}
    (h : Runs g table m m' d) : Steps g table m m' := by
  induction h with
  | refl => exact .refl
  | shift h _ ih => exact ih.head (.shift h)
  | reduce h hp hs hr _ ih => exact ih.head (.reduce h hp hs hr)

/-- The machine can come from here to a state that accepts at the end of the text, with
these dynamic precedences. -/
def AcceptsFrom (g : FlatGrammar) (table : ActionTable) (m : Machine) (d : Int) : Prop :=
  ∃ q stack, Runs g table m ⟨q :: stack, [endSymbol]⟩ d ∧ .accept ∈ table.actionsAt q endSymbol

/-- The machine can come from the first state to one that accepts at the end of the text. -/
def Accepts (g : FlatGrammar) (table : ActionTable) (w : List SymbolId) : Prop :=
  ∃ q stack, Steps g table ⟨[0], w ++ [endSymbol]⟩ ⟨q :: stack, [endSymbol]⟩ ∧
    .accept ∈ table.actionsAt q endSymbol

end Machine

/-! ## Cells -/

/-- All productions have the same precedence, and none has an associativity. -/
structure FlatGrammar.Even (g : FlatGrammar) : Prop where
  precedence : ∀ p ∈ g.productions, ∀ p' ∈ g.productions, p.precedence = p'.precedence
  associativity : ∀ p ∈ g.productions, p.associativity = .none

theorem mem_ascending {xs : List Nat} {x : Nat} : x ∈ ascending xs ↔ x ∈ xs := by
  rw [ascending, List.mem_mergeSort, List.mem_eraseDups]

theorem greatest_eq_some {xs : List Int} {n : Int} (hne : xs ≠ []) (h : ∀ x ∈ xs, x = n) :
    greatest xs = some n := by
  cases xs with
  | nil => exact absurd rfl hne
  | cons x rest =>
    have rests : ∀ l : List Int, (∀ y ∈ l, y = n) → l.foldl max n = n := by
      intro l hl
      induction l with
      | nil => rfl
      | cons y l ih =>
        rw [List.foldl_cons, hl y List.mem_cons_self, max_self]
        exact ih fun z hz => hl z (List.mem_cons_of_mem y hz)
    rw [greatest, h x List.mem_cons_self, rests rest fun y hy => h y (List.mem_cons_of_mem x hy)]

namespace Cell

variable {g : FlatGrammar} {c : Cell} {n : Int}

/-- Among equals all reductions are the strongest. -/
theorem keepStrongest_eq (h : ∀ p ∈ c.reduces, g.precedenceOf p = n) :
    c.keepStrongest g = c := by
  by_cases hne : c.reduces = []
  · rw [keepStrongest, hne, List.filter_nil, ← hne]
  · have best : greatest (c.reduces.map g.precedenceOf) = some n := by
      refine greatest_eq_some (by simpa using hne) fun x hx => ?_
      obtain ⟨p, hp, rfl⟩ := List.mem_map.1 hx
      exact h p hp
    have all : c.reduces.filter (fun p => some (g.precedenceOf p) == some n) = c.reduces := by
      refine List.filter_eq_self.2 fun p hp => ?_
      rw [h p hp]
      exact beq_self_eq_true _
    simp only [keepStrongest, best, all]

/-- Between equals neither shifting nor reducing is chosen. -/
theorem chooseShift_eq (h : ∀ p ∈ c.reduces, g.precedenceOf p = n ∧ g.associativityOf p = .none)
    (hs : c.shift.isSome = true → c.reduces ≠ [] → c.shiftPrecedence = n) :
    c.chooseShift g = c := by
  unfold chooseShift
  split
  · next r reduce hshift hreduce =>
    have hne : c.reduces ≠ [] := by
      intro hnil
      rw [hnil] at hreduce
      simp [greatest] at hreduce
    have best : greatest (c.reduces.map g.precedenceOf) = some n := by
      refine greatest_eq_some (by simpa using hne) fun x hx => ?_
      obtain ⟨p, hp, rfl⟩ := List.mem_map.1 hx
      exact (h p hp).1
    obtain rfl : reduce = n := Option.some.inj (hreduce.symm.trans best)
    obtain ⟨p, hp⟩ := List.exists_mem_of_ne_nil _ hne
    have none_left : c.reduces.all (fun p => g.associativityOf p == .left) = false :=
      List.all_eq_false.2 ⟨p, hp, by rw [(h p hp).2]; decide⟩
    have none_right : c.reduces.all (fun p => g.associativityOf p == .right) = false :=
      List.all_eq_false.2 ⟨p, hp, by rw [(h p hp).2]; decide⟩
    rw [hs (by rw [hshift]; rfl) hne, if_neg (Int.lt_irrefl _), if_neg (Int.lt_irrefl _),
      none_left, none_right, if_neg Bool.false_ne_true, if_neg Bool.false_ne_true]
  · rfl

theorem mem_reduces_ofState {s : LrState} {t : SymbolId} {p : ProductionId} :
    p ∈ (ofState g s t).reduces ↔ p ≠ g.augmented ∧
      ∃ i, s.Expects i t ∧ i.next g = none ∧ i.production = p := by
  simp only [ofState, mem_ascending, List.mem_filter, List.mem_map, Bool.and_eq_true,
    decide_eq_true_eq, bne_iff_ne, ne_eq]
  constructor
  · rintro ⟨⟨⟨i, la⟩, ⟨hi, hn, ht⟩, rfl⟩, hp⟩
    exact ⟨hp, i, ⟨la, hi, ht⟩, hn, rfl⟩
  · rintro ⟨hp, i, ⟨la, hi, ht⟩, hn, rfl⟩
    exact ⟨⟨(i, la), ⟨hi, hn, ht⟩, rfl⟩, hp⟩

theorem accept_ofState {s : LrState} {t : SymbolId} :
    (ofState g s t).accept = true ↔ t = endSymbol ∧
      ∃ i, s.Expects i t ∧ i.next g = none ∧ i.production = g.augmented := by
  simp only [ofState, Bool.and_eq_true, beq_iff_eq, List.any_eq_true, List.mem_filter,
    decide_eq_true_eq]
  constructor
  · rintro ⟨ht, ⟨i, la⟩, ⟨hi, hn, hc⟩, hp⟩
    exact ⟨ht, i, ⟨la, hi, hc⟩, hn, hp⟩
  · rintro ⟨ht, i, ⟨la, hi, hc⟩, hn, hp⟩
    exact ⟨ht, (i, la), ⟨hi, hn, hc⟩, hp⟩

/-- Deciding only takes possibilities away. -/
theorem shift_of_resolve {r : StateId} (h : (c.resolve g).shift = some r) : c.shift = some r := by
  unfold resolve chooseShift at h
  split at h
  · repeat' split at h
    all_goals first | exact h | cases h
  · exact h

theorem mem_reduces_of_resolve {p : ProductionId} (h : p ∈ (c.resolve g).reduces) :
    p ∈ c.reduces := by
  have strongest : (c.keepStrongest g).reduces ⊆ c.reduces := List.filter_subset_self _
  unfold resolve chooseShift at h
  split at h
  · repeat' split at h
    all_goals first | exact strongest h | cases h
  · exact strongest h

theorem accept_resolve : (c.resolve g).accept = c.accept := by
  unfold resolve chooseShift
  split
  · repeat' split
    all_goals rfl
  · rfl

theorem shift_mem_actions {c : Cell} {r : StateId} :
    Action.shift r ∈ c.actions ↔ c.shift = some r := by
  unfold actions
  cases c.shift <;> cases c.accept <;> simp [eq_comm]

theorem reduce_mem_actions {c : Cell} {p : ProductionId} :
    Action.reduce p ∈ c.actions ↔ p ∈ c.reduces := by
  unfold actions
  cases c.shift <;> cases c.accept <;> simp

theorem accept_mem_actions {c : Cell} : Action.accept ∈ c.actions ↔ c.accept = true := by
  unfold actions
  cases c.shift <;> cases c.accept <;> simp

/-- Extras are not decided about. -/
theorem shiftExtra_not_mem_actions {c : Cell} : Action.shiftExtra ∉ c.actions := by
  unfold actions
  cases c.shift <;> cases c.accept <;> simp

end Cell

/-! ## The actions of an automaton -/

namespace Automaton.Built

variable {g : FlatGrammar} {a : Automaton} (b : Built g a) (hg : g.InRange)

section State

variable {q t : Nat} {s : LrState} (hs : a.states[q]? = some s)
include b hg hs

omit hg in
/-- What can be reduced was made of a production of the grammar. -/
theorem production_lt_of_reduce {p : ProductionId} (hp : p ∈ (Cell.ofState g s t).reduces) :
    p < g.productions.size := by
  obtain ⟨hne, i, hi, -, rfl⟩ := Cell.mem_reduces_ofState.1 hp
  exact Nat.lt_of_le_of_ne (b.production_le hs hi.has) hne

/-- Beside a reduction, only productions of the grammar shift a terminal. -/
theorem production_lt_of_shift {p : ProductionId} (hp : p ∈ (Cell.ofState g s t).reduces)
    (ht : t < g.terminalCount) {j : Item} (hj : s.Has j) (hn : j.next g = some t) :
    j.production < g.productions.size := by
  refine Nat.lt_of_le_of_ne (b.production_le hs hj) fun heq => ?_
  rw [Item.next, heq, FlatGrammar.rhs_augmented] at hn
  obtain ⟨hdot, rfl⟩ := List.getElem?_eq_some_iff.1 hn
  have hdot : j.dot = 0 := Nat.lt_one_iff.1 hdot
  have hstart : j = g.startItem := by
    cases j
    simp_all [FlatGrammar.startItem, FlatGrammar.augmented]
  have terminal : g.isTerminal g.start = true := by
    simp only [hdot, List.getElem_cons_zero] at ht
    exact decide_eq_true ht
  obtain ⟨hne, i, hi, -, rfl⟩ := Cell.mem_reduces_ofState.1 hp
  refine hne ?_
  rw [b.eq_startItem_of_terminal hg terminal hs (hstart ▸ hj) hi.has]
  rfl

/-- What the items of a state say is kept undecided. -/
theorem resolve_ofState (he : g.Even) (ht : t < g.terminalCount) :
    (Cell.ofState g s t).resolve g = Cell.ofState g s t := by
  -- All precedences are the same, so no reduction is stronger than another, or than a shift.
  by_cases hne : (Cell.ofState g s t).reduces = []
  · rw [Cell.resolve, Cell.keepStrongest_eq (n := 0) (by rw [hne]; simp)]
    exact Cell.chooseShift_eq (n := 0) (by rw [hne]; simp) fun _ h => absurd hne h
  obtain ⟨p, hp⟩ := List.exists_mem_of_ne_nil _ hne
  have same : ∀ p' < g.productions.size, g.precedenceOf p' = g.precedenceOf p := by
    intro p' hp'
    have hlt := b.production_lt_of_reduce hs hp
    simp only [FlatGrammar.precedenceOf, Array.getElem?_eq_getElem hp',
      Array.getElem?_eq_getElem hlt, Option.map_some, Option.getD_some]
    exact he.precedence _ (Array.getElem_mem hp') _ (Array.getElem_mem hlt)
  have even : ∀ p' ∈ (Cell.ofState g s t).reduces,
      g.precedenceOf p' = g.precedenceOf p ∧ g.associativityOf p' = .none := by
    intro p' hp'
    have hlt := b.production_lt_of_reduce hs hp'
    refine ⟨same p' hlt, ?_⟩
    simp only [FlatGrammar.associativityOf, Array.getElem?_eq_getElem hlt, Option.map_some,
      Option.getD_some]
    exact he.associativity _ (Array.getElem_mem hlt)
  rw [Cell.resolve, Cell.keepStrongest_eq fun p' hp' => (even p' hp').1]
  refine Cell.chooseShift_eq even fun hshift _ => ?_
  obtain ⟨r, hr⟩ := Option.isSome_iff_exists.1 hshift
  obtain ⟨i, -, hi, hn, -⟩ := b.has_of_lookup hg hs (x := t) hr
  have shifting : greatest ((s.items.filter fun e => e.1.next g = some t).map
      fun e => g.precedenceOf e.1.production) = some (g.precedenceOf p) := by
    refine greatest_eq_some ?_ fun x hx => ?_
    · obtain ⟨e, hmem, rfl⟩ := List.mem_map.1 hi
      exact List.ne_nil_of_mem (List.mem_map_of_mem (List.mem_filter.2 ⟨hmem, decide_eq_true hn⟩))
    · obtain ⟨e, hmem, rfl⟩ := List.mem_map.1 hx
      obtain ⟨hmem, hnext⟩ := List.mem_filter.1 hmem
      exact same _ (b.production_lt_of_shift hg hs hp ht (List.mem_map_of_mem hmem)
        (of_decide_eq_true hnext))
  show (greatest _).getD 0 = g.precedenceOf p
  rw [shifting, Option.getD_some]

omit b hg in
theorem actionsAt_resolved (ht : t < g.terminalCount) :
    (ActionTable.ofAutomaton g a).actionsAt q t =
      ((Cell.ofState g s t).resolve g).actions := by
  have row : (ActionTable.ofAutomaton g a).actions[q]? =
      some ((ActionTable.cellsOf g s).map Cell.actions) := by
    rw [ActionTable.ofAutomaton, Array.getElem?_map, hs, Option.map_some]
  have cell : (ActionTable.cellsOf g s)[t]? = some ((Cell.ofState g s t).resolve g) := by
    rw [ActionTable.cellsOf, Array.getElem?_map, Array.getElem?_eq_getElem (by simpa using ht),
      Array.getElem_range, Option.map_some]
  rw [ActionTable.actionsAt, row, Option.bind_some, Array.getElem?_map, cell, Option.map_some,
    Option.getD_some]

theorem actionsAt_eq (he : g.Even) (ht : t < g.terminalCount) :
    (ActionTable.ofAutomaton g a).actionsAt q t = (Cell.ofState g s t).actions := by
  rw [actionsAt_resolved hs ht, b.resolve_ofState hg hs he ht]

end State

variable {q t : Nat}

/-- Actions stand at the terminals of the automaton's states. -/
theorem exists_state_of_mem_actionsAt {x : Action}
    (h : x ∈ (ActionTable.ofAutomaton g a).actionsAt q t) :
    ∃ s, a.states[q]? = some s ∧ t < g.terminalCount := by
  unfold ActionTable.actionsAt ActionTable.ofAutomaton at h
  rw [Array.getElem?_map] at h
  cases hs : a.states[q]? with
  | none => simp [hs] at h
  | some s =>
    refine ⟨s, rfl, ?_⟩
    by_contra hlt
    have : (ActionTable.cellsOf g s)[t]? = none := by
      rw [ActionTable.cellsOf, Array.getElem?_eq_none]
      simpa using Nat.not_lt.1 hlt
    simp [hs, this] at h

/-- A terminal is taken where a transition leads on, whatever precedence says. -/
theorem lookup_of_shift {r : StateId} (h : .shift r ∈ (ActionTable.ofAutomaton g a).actionsAt q t) :
    ∃ s, a.states[q]? = some s ∧ t < g.terminalCount ∧ s.transitions.lookup t = some r := by
  obtain ⟨s, hs, ht⟩ := exists_state_of_mem_actionsAt h
  rw [actionsAt_resolved hs ht, Cell.shift_mem_actions] at h
  exact ⟨s, hs, ht, Cell.shift_of_resolve h⟩

/-- Symbols are replaced where an item is complete, whatever precedence says. -/
theorem complete_of_reduce {p : ProductionId}
    (h : .reduce p ∈ (ActionTable.ofAutomaton g a).actionsAt q t) :
    ∃ s i, a.states[q]? = some s ∧ t < g.terminalCount ∧ s.Has i ∧ i.next g = none ∧
      i.production = p ∧ p ≠ g.augmented := by
  obtain ⟨s, hs, ht⟩ := exists_state_of_mem_actionsAt h
  rw [actionsAt_resolved hs ht, Cell.reduce_mem_actions] at h
  obtain ⟨hne, i, hi, hn, hp⟩ := Cell.mem_reduces_ofState.1 (Cell.mem_reduces_of_resolve h)
  exact ⟨s, i, hs, ht, hi.has, hn, hp, hne⟩

/-- A text is accepted at its end, where the start symbol is complete. -/
theorem complete_of_accept (h : .accept ∈ (ActionTable.ofAutomaton g a).actionsAt q t) :
    t = endSymbol ∧ ∃ s i, a.states[q]? = some s ∧ s.Has i ∧ i.next g = none ∧
      i.production = g.augmented := by
  obtain ⟨s, hs, ht⟩ := exists_state_of_mem_actionsAt h
  rw [actionsAt_resolved hs ht, Cell.accept_mem_actions, Cell.accept_resolve,
    Cell.accept_ofState] at h
  obtain ⟨hend, i, hi, hn, hp⟩ := h
  exact ⟨hend, s, i, hs, hi.has, hn, hp⟩

/-- Right behind a terminal no text is complete, since the start symbol is none. -/
theorem not_accept_of_shift (b : Built g a) (hstart : g.terminalCount ≤ g.start) {r : StateId}
    (h : .shift r ∈ (ActionTable.ofAutomaton g a).actionsAt q t) :
    .accept ∉ (ActionTable.ofAutomaton g a).actionsAt r endSymbol := by
  intro haccept
  obtain ⟨s, hs, ht, hlookup⟩ := lookup_of_shift h
  obtain ⟨-, s', i, hs', hi, -, hp⟩ := complete_of_accept haccept
  obtain ⟨l₁, l₂, hl, -⟩ := List.lookup_eq_some_iff.1 hlookup
  have hmem : (t, r) ∈ s.transitions := by
    rw [hl]
    exact List.mem_append_right l₁ List.mem_cons_self
  rcases b.advanced_or_brought hs hmem hs' hi with ⟨j, hn, rfl⟩ | ⟨-, hlt⟩
  · have hj : j.production = g.augmented := hp
    rw [Item.next, hj, FlatGrammar.augmented, FlatGrammar.rhs_augmented] at hn
    obtain ⟨hdot, rfl⟩ := List.getElem?_eq_some_iff.1 hn
    have hdot : j.dot = 0 := Nat.lt_one_iff.1 hdot
    simp only [hdot, List.getElem_cons_zero] at ht
    exact absurd hstart (Nat.not_le.2 ht)
  · exact absurd hp (Nat.ne_of_lt hlt)

/-- The state that a nonterminal leads to. -/
theorem gotoAt_eq {s : LrState} {x : Nat} (hs : a.states[q]? = some s) (hx : g.IsNonterminal x) :
    (ActionTable.ofAutomaton g a).gotoAt g q x = s.transitions.lookup x := by
  obtain ⟨hle, hlt⟩ := hx
  unfold FlatGrammar.IsSymbol at hlt
  have hi : x - g.terminalCount < g.nonterminalCount := by omega
  have row : (ActionTable.ofAutomaton g a).gotos[q]? = some (ActionTable.gotosOf g s) := by
    rw [ActionTable.ofAutomaton, Array.getElem?_map, hs, Option.map_some]
  have entry : (ActionTable.gotosOf g s)[x - g.terminalCount]? =
      some (s.transitions.lookup (g.terminalCount + (x - g.terminalCount))) := by
    rw [ActionTable.gotosOf, Array.getElem?_map, Array.getElem?_eq_getElem (by simpa using hi),
      Array.getElem_range, Option.map_some]
  rw [ActionTable.gotoAt, row, Option.bind_some, entry, Option.join_some,
    Nat.add_sub_cancel' hle]

theorem exists_state_of_gotoAt {x r : Nat}
    (h : (ActionTable.ofAutomaton g a).gotoAt g q x = some r) : ∃ s, a.states[q]? = some s := by
  cases hs : a.states[q]? with
  | some s => exact ⟨s, rfl⟩
  | none =>
    rw [ActionTable.gotoAt, ActionTable.ofAutomaton, Array.getElem?_map, hs] at h
    simp at h

end Automaton.Built

end IncrementalGlr
