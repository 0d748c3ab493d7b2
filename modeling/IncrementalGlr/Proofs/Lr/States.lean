import Mathlib.Order.Interval.Finset.Nat
import IncrementalGlr.Lr.Automaton
import IncrementalGlr.Proofs.Fixpoint
import IncrementalGlr.Proofs.Flat.Derivation

/-!
The states of a parser without their lookaheads. The closure of a kernel holds, for every item in
it, the items that the nonterminal after its mark brings in, and no others
(`mem_predicted_of_mem_closure`, `exists_next_of_mem_predicted`). Visiting states gives each of them
a transition for every symbol after a mark, to the state whose kernel is made of the items with their
marks moved on (`Found.Explored`).
-/
namespace IncrementalGlr.Lr

variable {g : FlatGrammar}

/-! ## Closure -/

/-- The nonterminals that have been brought in so far. -/
def predictFacts (g : FlatGrammar) : Facts (List SymbolId) Nat where
  valid found := ∀ s ∈ found, g.IsNonterminal s
  known found := found.toFinset
  all := Finset.Ico g.terminalCount (g.terminalCount + g.nonterminalCount)
  known_subset found h := by
    intro s hs
    exact Finset.mem_Ico.2 (h s (List.mem_toFinset.1 hs))

/-- The symbol after the mark of an item, if it is a nonterminal. -/
theorem isNonterminal_of_next (hg : g.InRange) {i : Item} {s : SymbolId} (h : i.next g = some s)
    (hs : g.isTerminal s = false) : g.IsNonterminal s :=
  ⟨Nat.not_lt.1 (decide_eq_false_iff_not.1 hs), hg.isSymbol_of_mem_rhs (List.mem_of_getElem? h)⟩

theorem mem_predictStep {found : List SymbolId} {s : SymbolId} :
    s ∈ predictStep g found ↔ s ∈ found ∨
      g.isTerminal s = false ∧ s ∉ found ∧
        ∃ t ∈ found, ∃ p ∈ g.productionsOf t, (⟨p, 0⟩ : Item).next g = some s := by
  simp only [predictStep, List.mem_append, List.mem_eraseDups, List.mem_filter, List.mem_flatMap,
    List.mem_filterMap, Bool.and_eq_true, Bool.not_eq_true', List.contains_eq_mem,
    decide_eq_false_iff_not]
  constructor
  · rintro (h | ⟨h, hs, hn⟩)
    · exact .inl h
    · exact .inr ⟨hs, hn, h⟩
  · rintro (h | ⟨hs, hn, h⟩)
    · exact .inl h
    · exact .inr ⟨h, hs, hn⟩

theorem gains_predictStep (hg : g.InRange) : (predictFacts g).Gains (predictStep g) where
  valid found h s hs := by
    rcases mem_predictStep.1 hs with hs | ⟨hs, -, t, -, p, -, hp⟩
    · exact h s hs
    · exact isNonterminal_of_next hg hp hs
  mono found _ s hs :=
    List.mem_toFinset.2 (mem_predictStep.2 (.inl (List.mem_toFinset.1 hs)))
  fixed found _ same := by
    have none_new : ∀ s ∈ predictStep g found, s ∈ found := by
      intro s hs
      have : s ∈ (predictFacts g).known (predictStep g found) := List.mem_toFinset.2 hs
      rw [same] at this
      exact List.mem_toFinset.1 this
    have empty : (((found.flatMap fun s => (g.productionsOf s).filterMap fun p =>
        (⟨p, 0⟩ : Item).next g).filter fun s => !g.isTerminal s && !found.contains s).eraseDups)
        = [] := by
      refine List.eq_nil_iff_forall_not_mem.2 fun s hs => ?_
      have old : s ∈ found := none_new s (List.mem_append_right _ hs)
      have := (List.mem_filter.1 (List.mem_eraseDups.1 hs)).2
      simp [old] at this
    unfold predictStep
    simp only [empty, List.append_nil]

/-- The nonterminals after the marks of a kernel. -/
def afterMarks (g : FlatGrammar) (kernel : List Item) : List SymbolId :=
  ((kernel.filterMap (Item.next g)).filter fun s => !g.isTerminal s).eraseDups

theorem mem_afterMarks {kernel : List Item} {s : SymbolId} :
    s ∈ afterMarks g kernel ↔ (∃ i ∈ kernel, i.next g = some s) ∧ g.isTerminal s = false := by
  simp only [afterMarks, List.mem_eraseDups, List.mem_filter, List.mem_filterMap,
    Bool.not_eq_true']

theorem valid_afterMarks (hg : g.InRange) (kernel : List Item) :
    (predictFacts g).valid (afterMarks g kernel) := by
  intro s hs
  obtain ⟨⟨i, _, hi⟩, ht⟩ := mem_afterMarks.1 hs
  exact isNonterminal_of_next hg hi ht

theorem predictStep_predicted (hg : g.InRange) (kernel : List Item) :
    predictStep g (predicted g kernel) = predicted g kernel := by
  refine Facts.settle_fixed (gains_predictStep hg) _ (valid_afterMarks hg kernel) ?_
  simp only [predictFacts, Nat.card_Ico]
  omega

theorem mem_predicted_of_mem {kernel : List Item} {s : SymbolId}
    (hs : s ∈ afterMarks g kernel) : s ∈ predicted g kernel :=
  settle_induction (p := fun found => s ∈ found)
    (fun _ h => mem_predictStep.2 (.inl h)) _ hs

theorem mem_predicted_of_next (hg : g.InRange) {kernel : List Item} {s t : SymbolId}
    {p : ProductionId} (ht : t ∈ predicted g kernel) (hp : p ∈ g.productionsOf t)
    (hs : (⟨p, 0⟩ : Item).next g = some s) (hn : g.isTerminal s = false) :
    s ∈ predicted g kernel := by
  by_contra absent
  have : s ∈ predictStep g (predicted g kernel) :=
    mem_predictStep.2 (.inr ⟨hn, absent, t, ht, p, hp, hs⟩)
  rw [predictStep_predicted hg] at this
  exact absent this

theorem mem_closure {kernel : List Item} {i : Item} :
    i ∈ closure g kernel ↔ i ∈ kernel ∨
      ∃ s ∈ predicted g kernel, ∃ p ∈ g.productionsOf s, i = ⟨p, 0⟩ := by
  simp only [closure, List.mem_append, List.mem_flatMap, List.mem_map]
  simp only [eq_comm]

/-- The nonterminal after the mark of an item is brought in. -/
theorem mem_predicted_of_mem_closure (hg : g.InRange) {kernel : List Item} {i : Item}
    {s : SymbolId} (hi : i ∈ closure g kernel) (hs : i.next g = some s)
    (hn : g.isTerminal s = false) : s ∈ predicted g kernel := by
  rcases mem_closure.1 hi with hk | ⟨t, ht, p, hp, rfl⟩
  · exact mem_predicted_of_mem (mem_afterMarks.2 ⟨⟨i, hk, hs⟩, hn⟩)
  · exact mem_predicted_of_next hg ht hp hs hn

/-- Whatever is brought in stands after some mark. -/
theorem exists_next_of_mem_predicted {kernel : List Item} {s : SymbolId}
    (hs : s ∈ predicted g kernel) : ∃ i ∈ closure g kernel, i.next g = some s := by
  have origin : ∀ s ∈ predicted g kernel, (∃ i ∈ kernel, i.next g = some s) ∨
      ∃ t ∈ predicted g kernel, ∃ p ∈ g.productionsOf t, (⟨p, 0⟩ : Item).next g = some s := by
    refine settle_induction (p := fun found => ∀ s ∈ found, (∃ i ∈ kernel, i.next g = some s) ∨
      ∃ t ∈ found, ∃ p ∈ g.productionsOf t, (⟨p, 0⟩ : Item).next g = some s) ?_ _ ?_
    · intro found h s hs
      have stays {t : SymbolId} (ht : t ∈ found) : t ∈ predictStep g found :=
        mem_predictStep.2 (.inl ht)
      rcases mem_predictStep.1 hs with hs | ⟨-, -, t, ht, p, hp, hn⟩
      · rcases h s hs with hk | ⟨t, ht, p, hp, hn⟩
        · exact .inl hk
        · exact .inr ⟨t, stays ht, p, hp, hn⟩
      · exact .inr ⟨t, stays ht, p, hp, hn⟩
    · intro s hs
      exact .inl (mem_afterMarks.1 hs).1
  rcases origin s hs with ⟨i, hi, hn⟩ | ⟨t, ht, p, hp, hn⟩
  · exact ⟨i, mem_closure.2 (.inl hi), hn⟩
  · exact ⟨⟨p, 0⟩, mem_closure.2 (.inr ⟨t, ht, p, hp, rfl⟩), hn⟩

/-! ## Transitions -/

theorem mem_goto {items : List Item} {s : SymbolId} {i : Item} :
    i ∈ goto g items s ↔ ∃ j ∈ items, j.next g = some s ∧ j.advance = i := by
  simp only [goto, List.mem_mergeSort, List.mem_eraseDups, List.mem_map, List.mem_filter,
    decide_eq_true_eq, and_assoc]

theorem mem_nextSymbols {items : List Item} {s : SymbolId} :
    s ∈ nextSymbols g items ↔ ∃ i ∈ items, i.next g = some s := by
  simp only [nextSymbols, List.mem_mergeSort, List.mem_eraseDups, List.mem_filterMap]

namespace Found

/-- Everything in the first array stands in the second at the same place. -/
def Extends (a b : Array (List Item)) : Prop :=
  ∀ (q : StateId) (kernel : List Item), a[q]? = some kernel → b[q]? = some kernel

/-- Each kernel but the first is where a symbol after a mark leads to. -/
def Entered (g : FlatGrammar) (kernels : Array (List Item)) : Prop :=
  ∀ (q : StateId) (kernel : List Item), q ≠ 0 → kernels[q]? = some kernel →
    ∃ items s, s ∈ nextSymbols g items ∧ kernel = goto g items s

/-- The transitions lead from the items to states among the kernels. -/
def Leads (g : FlatGrammar) (items : List Item) (kernels : Array (List Item))
    (transitions : List (SymbolId × StateId)) : Prop :=
  ∀ t ∈ transitions, kernels[t.2]? = some (goto g items t.1)

theorem Leads.mono {items : List Item} {kernels kernels' : Array (List Item)}
    {transitions : List (SymbolId × StateId)} (h : Leads g items kernels transitions)
    (he : Extends kernels kernels') : Leads g items kernels' transitions :=
  fun t ht => he _ _ (h t ht)

/-- What adding transitions from `items` keeps. -/
structure Adding (g : FlatGrammar) (items : List Item) (before : Array (List Item))
    (acc : Array (List Item) × List (SymbolId × StateId)) : Prop where
  size : 0 < acc.1.size
  grown : Extends before acc.1
  leads : Leads g items acc.1 acc.2
  entered : Entered g acc.1

theorem Adding.addTransition {items : List Item} {before : Array (List Item)}
    {acc : Array (List Item) × List (SymbolId × StateId)} (h : Adding g items before acc)
    {s : SymbolId} (hs : s ∈ nextSymbols g items) :
    Adding g items before (Found.addTransition acc (s, goto g items s)) := by
  unfold Found.addTransition
  -- The kernel is that of a state already found, or it becomes that of a new state at the end.
  cases hf : acc.1.findIdx? (· == goto g items s) with
  | some q =>
    refine ⟨h.size, h.grown, fun t ht => ?_, h.entered⟩
    rcases List.mem_append.1 ht with ht | ht
    · exact h.leads t ht
    · obtain ⟨hq, hk, -⟩ := Array.findIdx?_eq_some_iff_getElem.1 hf
      rw [List.mem_singleton.1 ht]
      exact (Array.getElem?_eq_getElem hq).trans (congrArg some (eq_of_beq hk))
  | none =>
    have push : Extends acc.1 (acc.1.push (goto g items s)) := by
      intro q k hq
      have := (Array.getElem?_eq_some_iff.1 hq).1
      rw [Array.getElem?_push, if_neg (by omega)]
      exact hq
    refine ⟨by simp, fun q k hq => push q k (h.grown q k hq), fun t ht => ?_,
      fun q kernel h0 hq => ?_⟩
    · rcases List.mem_append.1 ht with ht | ht
      · exact push _ _ (h.leads t ht)
      · rw [List.mem_singleton.1 ht]
        exact Array.getElem?_push_size
    · rw [Array.getElem?_push] at hq
      split at hq
      · exact ⟨items, s, hs, (Option.some.inj hq).symm⟩
      · exact h.entered q kernel h0 hq

theorem map_fst_addTransition (acc : Array (List Item) × List (SymbolId × StateId))
    (t : SymbolId × List Item) :
    (Found.addTransition acc t).2.map Prod.fst = acc.2.map Prod.fst ++ [t.1] := by
  unfold Found.addTransition
  split <;> simp

/-- All transitions of a state, added one after another. -/
theorem Adding.foldl {items : List Item} {before : Array (List Item)} (ss : List SymbolId)
    (hs : ∀ s ∈ ss, s ∈ nextSymbols g items)
    {acc : Array (List Item) × List (SymbolId × StateId)} (h : Adding g items before acc) :
    Adding g items before
      (ss.foldl (fun acc s => Found.addTransition acc (s, goto g items s)) acc) ∧
    (ss.foldl (fun acc s => Found.addTransition acc (s, goto g items s)) acc).2.map Prod.fst =
      acc.2.map Prod.fst ++ ss := by
  induction ss generalizing acc with
  | nil => exact ⟨h, by simp⟩
  | cons s rest ih =>
    have hstep := h.addTransition (hs s List.mem_cons_self)
    obtain ⟨hadd, hmap⟩ := ih (fun t ht => hs t (List.mem_cons_of_mem s ht)) hstep
    refine ⟨hadd, ?_⟩
    rw [List.foldl_cons, hmap, map_fst_addTransition]
    simp

/-- The search so far: the first kernel is that of the start item, and every state visited has a
transition for each symbol after a mark. -/
structure Sound (g : FlatGrammar) (f : Found) : Prop where
  start : f.kernels[0]? = some [g.startItem]
  visited : f.transitions.size ≤ f.kernels.size
  entered : Entered g f.kernels
  moves : ∀ (q : StateId) (transitions : List (SymbolId × StateId)), f.transitions[q]? = some transitions →
    ∃ kernel, f.kernels[q]? = some kernel ∧
      Leads g (closure g kernel) f.kernels transitions ∧
      transitions.map Prod.fst = nextSymbols g (closure g kernel)

theorem sound_start : Sound g ⟨#[[g.startItem]], #[]⟩ where
  start := rfl
  visited := by simp
  entered q kernel h0 hq := by
    have := (Array.getElem?_eq_some_iff.1 hq).1
    simp only [List.size_toArray, List.length_singleton, Nat.lt_one_iff] at this
    exact absurd this h0
  moves q _ hq := by simp at hq

/-- A visit keeps what was found and adds the transitions of one more state. -/
theorem Sound.visit {f : Found} (h : Sound g f) {kernel : List Item}
    (hk : f.kernels[f.transitions.size]? = some kernel) : Sound g (f.visit g kernel) := by
  have hlt := (Array.getElem?_eq_some_iff.1 hk).1
  have initial : Adding g (closure g kernel) f.kernels (f.kernels, []) :=
    ⟨Nat.zero_lt_of_lt hlt, fun _ _ h => h, fun t ht => by simp at ht, h.entered⟩
  obtain ⟨hadd, hmap⟩ := initial.foldl (nextSymbols g (closure g kernel)) (fun _ hs => hs)
  have bigger : f.kernels.size ≤ ((nextSymbols g (closure g kernel)).foldl
      (fun acc s => Found.addTransition acc (s, goto g (closure g kernel) s))
      (f.kernels, [])).1.size := by
    by_contra hb
    have := hadd.grown (f.kernels.size - 1) _ (Array.getElem?_eq_getElem (by omega))
    have := (Array.getElem?_eq_some_iff.1 this).1
    omega
  refine ⟨hadd.grown _ _ h.start, ?_, hadd.entered, fun q transitions hq => ?_⟩
  · simp only [Found.visit, Array.size_push]
    omega
  · simp only [Found.visit, Array.getElem?_push] at hq
    split at hq
    · next hsize =>
      subst hsize
      refine ⟨kernel, hadd.grown _ _ hk, ?_, ?_⟩
      · exact Option.some.inj hq ▸ hadd.leads
      · rw [← Option.some.inj hq, hmap]
        simp
    · obtain ⟨k, hk', hl, hm⟩ := h.moves q transitions hq
      exact ⟨k, hadd.grown _ _ hk', hl.mono hadd.grown, hm⟩

/-- A finished search: each state was visited, and there are not too many. -/
structure Explored (g : FlatGrammar) (f : Found) : Prop extends Sound g f where
  all_visited : f.transitions.size = f.kernels.size
  few : f.kernels.size ≤ maxStates

theorem Sound.explore {f f' : Found} {fuel : Nat} (h : Sound g f) (hfew : f.kernels.size ≤ maxStates)
    (he : Found.explore g fuel f = some f') : Explored g f' := by
  induction fuel generalizing f with
  | zero => simp [Found.explore] at he
  | succ fuel ih =>
    rw [Found.explore] at he
    split at he
    · next hk =>
      obtain rfl := Option.some.inj he
      have := Array.getElem?_eq_none_iff.1 hk
      exact ⟨h, by have := h.visited; omega, hfew⟩
    · next kernel hk =>
      dsimp only at he
      split at he
      · simp at he
      · next hsize => exact ih (h.visit hk) (Nat.not_lt.1 hsize) he

/-- A search that ends does not need more fuel. -/
theorem explore_of_le {f f' : Found} {fuel fuel' : Nat} (h : Found.explore g fuel f = some f')
    (hle : fuel ≤ fuel') : Found.explore g fuel' f = some f' := by
  induction fuel generalizing f fuel' with
  | zero => simp [Found.explore] at h
  | succ fuel ih =>
    obtain ⟨fuel', rfl⟩ := Nat.exists_eq_add_of_le' (Nat.one_le_of_lt hle)
    rw [Found.explore] at h ⊢
    split at h
    · exact h
    · dsimp only at h ⊢
      split at h
      · simp at h
      · next hsize =>
        rw [if_neg hsize]
        exact ih h (Nat.le_of_succ_le_succ hle)

end Found

theorem explored_of_states {f : Found} (h : states g = some f) : f.Explored g :=
  Found.sound_start.explore (show 1 ≤ maxStates by decide) h

end IncrementalGlr.Lr
