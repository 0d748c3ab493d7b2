import IncrementalGlr.Proofs.Lr.Lookahead

/-!
What the items of a parser's states say of each other. Marks move along transitions, in both
directions (`Built.expects_advance`, `Built.has_of_transition`), and a nonterminal after a mark
brings in its productions, with whatever a text can go on with after it (`Built.expects_of_yields`).
Nothing outside this file looks into how states and lookaheads are found.
-/
namespace IncrementalGlr

namespace LrState

/-- The item is one of the state's. -/
def Has (s : LrState) (i : Item) : Prop := i ∈ s.items.map Prod.fst

/-- The item is one of the state's, and the terminal may follow once its production is complete. -/
def Expects (s : LrState) (i : Item) (t : Nat) : Prop :=
  ∃ la, (i, la) ∈ s.items ∧ la.contains t = true

theorem Expects.has {s : LrState} {i : Item} {t : Nat} (h : s.Expects i t) : s.Has i :=
  have ⟨_, hi, _⟩ := h
  List.mem_map_of_mem hi

end LrState

variable {g : FlatGrammar}

theorem FlatGrammar.rhs_eq_nil {p : ProductionId} (h : g.productions.size < p) : g.rhs p = [] := by
  rw [FlatGrammar.rhs, if_neg (Nat.ne_of_gt h), Array.getElem?_eq_none (Nat.le_of_lt h)]

/-- An item with a symbol after its mark is made of a production, or of the one beyond them. -/
theorem Item.production_le_of_next {i : Item} {x : SymbolId} (h : i.next g = some x) :
    i.production ≤ g.productions.size := by
  by_contra hlt
  rw [Item.next, FlatGrammar.rhs_eq_nil (Nat.not_le.1 hlt)] at h
  simp at h

/-- The symbols behind a mark: the next one and the rest. -/
theorem Item.next_of_drop {i : Item} {x : SymbolId} {symbols : List SymbolId}
    (h : (g.rhs i.production).drop i.dot = x :: symbols) :
    i.next g = some x ∧ i.rest g = symbols := by
  have hn : ((g.rhs i.production).drop i.dot)[0]? = some x := by rw [h]; rfl
  have hr : ((g.rhs i.production).drop i.dot).tail = symbols := by rw [h]; rfl
  rw [List.getElem?_drop] at hn
  rw [List.tail_drop] at hr
  exact ⟨hn, hr⟩

/-- The automaton was made for the grammar, from these states and lookaheads. -/
structure Automaton.Built (g : FlatGrammar) (a : Automaton) where
  found : Lr.Found
  explored : found.Explored g
  states_eq : ∀ q : Nat, a.states[q]? = if q < found.kernels.size then
    some
      { kernel := Lr.kernelWith found (Lr.lookaheads g (.ofGrammar g) found) q
        items := Lr.itemsWith g (.ofGrammar g) found (Lr.lookaheads g (.ofGrammar g) found) q
        transitions := (found.transitions[q]?).getD [] }
    else none

namespace Automaton

/-- The states of an automaton are those that the search finds. -/
theorem exists_found {a : Automaton} (h : Automaton.ofGrammar g (.ofGrammar g) = some a) :
    ∃ b : Built g a, Lr.states g = some b.found := by
  simp only [Automaton.ofGrammar, Option.bind_eq_bind, Option.bind_eq_some_iff, Option.pure_def,
    Option.some.injEq] at h
  obtain ⟨found, hfound, rfl⟩ := h
  refine ⟨⟨found, Lr.explored_of_states hfound, fun q => ?_⟩, hfound⟩
  rw [Array.getElem?_map]
  split
  · next hq =>
    rw [Array.getElem?_eq_getElem (by simpa using hq), Array.getElem_range]
    rfl
  · next hq =>
    rw [Array.getElem?_eq_none (by simpa using hq)]
    rfl

theorem exists_built {a : Automaton} (h : Automaton.ofGrammar g (.ofGrammar g) = some a) :
    Nonempty (Built g a) :=
  have ⟨b, _⟩ := exists_found h
  ⟨b⟩

namespace Built

variable {a : Automaton} (b : Built g a) {q : Nat} {s : LrState}
include b

theorem lt_of_state (hs : a.states[q]? = some s) : q < b.found.kernels.size := by
  rw [b.states_eq] at hs
  split at hs
  · assumption
  · simp at hs

theorem lt_maxStates (hs : a.states[q]? = some s) : q < maxStates :=
  Nat.lt_of_lt_of_le (b.lt_of_state hs) b.explored.few

theorem items_of_state (hs : a.states[q]? = some s) :
    s.items = Lr.itemsWith g (.ofGrammar g) b.found
      (Lr.lookaheads g (.ofGrammar g) b.found) q := by
  have hlt := b.lt_of_state hs
  rw [b.states_eq, if_pos hlt] at hs
  exact Option.some.inj hs ▸ rfl

theorem transitions_of_state (hs : a.states[q]? = some s) :
    b.found.transitions[q]? = some s.transitions := by
  have hlt := b.lt_of_state hs
  have hvisited : q < b.found.transitions.size := b.explored.all_visited ▸ hlt
  rw [b.states_eq, if_pos hlt, Array.getElem?_eq_getElem hvisited] at hs
  rw [Array.getElem?_eq_getElem hvisited, ← Option.some.inj hs]
  rfl

theorem exists_state {kernel : List Item} (hk : b.found.kernels[q]? = some kernel) :
    ∃ s, a.states[q]? = some s := by
  rw [b.states_eq, if_pos (Array.getElem?_eq_some_iff.1 hk).1]
  exact ⟨_, rfl⟩

/-- Transitions lead to states. -/
theorem exists_target {x : SymbolId} {r : StateId} (hs : a.states[q]? = some s)
    (hx : s.transitions.lookup x = some r) : ∃ s', a.states[r]? = some s' := by
  obtain ⟨l₁, l₂, hl, -⟩ := List.lookup_eq_some_iff.1 hx
  obtain ⟨kernel, -, leads, -⟩ := b.explored.moves q _ (b.transitions_of_state hs)
  exact b.exists_state (leads (x, r) (hl ▸ List.mem_append_right l₁ List.mem_cons_self))

variable (hg : g.InRange)
include hg

theorem map_fst_kernelWith {kernel : List Item} (hk : b.found.kernels[q]? = some kernel) :
    (Lr.kernelWith b.found (Lr.lookaheads g (.ofGrammar g) b.found) q).map Prod.fst = kernel := by
  have hv := Lr.valid_lookaheads hg FirstSets.valid_ofGrammar b.found
  have hlt := hv.1 ▸ (Array.getElem?_eq_some_iff.1 hk).1
  obtain ⟨hlen, -⟩ := hv.2 q _ (Array.getElem?_eq_getElem hlt)
  rw [Lr.kernelLength, hk, Option.getD_some] at hlen
  rw [Lr.kernelWith, hk, Option.getD_some, Array.getElem?_eq_getElem hlt, Option.getD_some]
  exact List.map_fst_zip (Nat.le_of_eq hlen.symm)

/-- The items of a state are those of the closure of its kernel. -/
theorem has_iff {kernel : List Item} (hs : a.states[q]? = some s)
    (hk : b.found.kernels[q]? = some kernel) {i : Item} : s.Has i ↔ i ∈ Lr.closure g kernel := by
  rw [LrState.Has, b.items_of_state hs, Lr.itemsWith, Lr.map_fst_lookaheadClosure,
    b.map_fst_kernelWith hg hk]

theorem lt_of_expects (hs : a.states[q]? = some s) {i : Item} {t : Nat} (h : s.Expects i t) :
    t < g.terminalCount := by
  obtain ⟨la, hi, ht⟩ := h
  rw [b.items_of_state hs] at hi
  exact Lr.below_lookaheadClosure FirstSets.valid_ofGrammar
    (Lr.below_kernelWith (Lr.valid_lookaheads hg FirstSets.valid_ofGrammar b.found) q) _ hi t ht

/-! ## Which items a state has -/

omit hg in
/-- An item is in the kernel, or a nonterminal brought it in. -/
theorem kernel_or_brought {kernel : List Item} (hs : a.states[q]? = some s)
    (hk : b.found.kernels[q]? = some kernel) {i : Item} (hi : s.Has i) :
    i ∈ kernel ∨ i.dot = 0 ∧ i.production < g.productions.size := by
  rw [LrState.Has, b.items_of_state hs, Lr.itemsWith, Lr.map_fst_lookaheadClosure] at hi
  rcases Lr.mem_closure.1 hi with h | ⟨x, _, p, hp, rfl⟩
  · obtain ⟨e, he, rfl⟩ := List.mem_map.1 h
    rw [Lr.kernelWith, hk, Option.getD_some] at he
    exact .inl (List.of_mem_zip he).1
  · obtain ⟨production, hprod, -⟩ := FlatGrammar.mem_productionsOf.1 hp
    exact .inr ⟨rfl, (Array.getElem?_eq_some_iff.1 hprod).1⟩

omit hg in
/-- The mark of an item stands behind the symbol that leads to the state, or the item was brought
in. -/
theorem advanced_or_brought {r : Nat} {s' : LrState} {x : SymbolId} (hs : a.states[q]? = some s)
    (hx : (x, r) ∈ s.transitions) (hs' : a.states[r]? = some s') {i : Item} (hi : s'.Has i) :
    (∃ j : Item, j.next g = some x ∧ j.advance = i) ∨
      i.dot = 0 ∧ i.production < g.productions.size := by
  obtain ⟨kernel, -, leads, -⟩ := b.explored.moves q _ (b.transitions_of_state hs)
  rcases b.kernel_or_brought hs' (leads _ hx) hi with h | h
  · obtain ⟨j, -, hn, rfl⟩ := Lr.mem_goto.1 h
    exact .inl ⟨j, hn, rfl⟩
  · exact .inr h

omit hg in
/-- No symbol leads to what the first state has. -/
theorem has_first (hs : a.states[0]? = some s) {i : Item} (hi : s.Has i) :
    i = g.startItem ∨ i.dot = 0 ∧ i.production < g.productions.size := by
  rcases b.kernel_or_brought hs b.explored.start hi with h | h
  · exact .inl (List.mem_singleton.1 h)
  · exact .inr h

omit hg in
/-- Without productions, nothing but the start symbol leads on from the first state. -/
theorem eq_start_of_lookup_first (hnone : g.productions = #[]) (hs : a.states[0]? = some s) {x : Nat}
    {r : StateId} (hx : s.transitions.lookup x = some r) : x = g.start := by
  obtain ⟨l₁, l₂, hl, -⟩ := List.lookup_eq_some_iff.1 hx
  obtain ⟨kernel, hk, -, hmap⟩ := b.explored.moves 0 _ (b.transitions_of_state hs)
  have hnext : x ∈ Lr.nextSymbols g (Lr.closure g kernel) :=
    hmap ▸ List.mem_map_of_mem (f := Prod.fst) (hl ▸ List.mem_append_right l₁ List.mem_cons_self)
  obtain ⟨i, hi, hn⟩ := Lr.mem_nextSymbols.1 hnext
  obtain rfl := Option.some.inj (b.explored.start.symm.trans hk)
  rcases Lr.mem_closure.1 hi with h | ⟨y, -, p, hp, rfl⟩
  · rw [List.mem_singleton.1 h, Item.next, FlatGrammar.startItem, FlatGrammar.augmented,
      FlatGrammar.rhs_augmented] at hn
    exact (Option.some.inj hn).symm
  · obtain ⟨production, hprod, -⟩ := FlatGrammar.mem_productionsOf.1 hp
    rw [hnone] at hprod
    cases hprod

/-- The mark of an item was moved on from a state that leads here, or the item was brought in. -/
theorem has_of_transition {r : Nat} {s' : LrState} {x : SymbolId} (hs : a.states[q]? = some s)
    (hx : (x, r) ∈ s.transitions) (hs' : a.states[r]? = some s') {i : Item} (hi : s'.Has i) :
    (∃ j, s.Has j ∧ j.next g = some x ∧ j.advance = i) ∨
      i.dot = 0 ∧ i.production < g.productions.size := by
  obtain ⟨kernel, hk, leads, -⟩ := b.explored.moves q _ (b.transitions_of_state hs)
  rcases b.kernel_or_brought hs' (leads _ hx) hi with h | h
  · obtain ⟨j, hj, hn, rfl⟩ := Lr.mem_goto.1 h
    exact .inl ⟨j, (b.has_iff hg hs hk).2 hj, hn, rfl⟩
  · exact .inr h

/-- Where marks can be moved on, a transition leads to a state. -/
theorem exists_transition {i : Item} {x : SymbolId} (hs : a.states[q]? = some s) (hi : s.Has i)
    (hn : i.next g = some x) :
    ∃ r s', s.transitions.lookup x = some r ∧ (x, r) ∈ s.transitions ∧
      a.states[r]? = some s' := by
  obtain ⟨kernel, hk, leads, hmap⟩ := b.explored.moves q _ (b.transitions_of_state hs)
  have hx : x ∈ s.transitions.map Prod.fst := by
    rw [hmap]
    exact Lr.mem_nextSymbols.2 ⟨i, (b.has_iff hg hs hk).1 hi, hn⟩
  obtain ⟨r, hr⟩ : ∃ r, s.transitions.lookup x = some r := by
    cases hl : s.transitions.lookup x with
    | some r => exact ⟨r, rfl⟩
    | none =>
      obtain ⟨e, he, rfl⟩ := List.mem_map.1 hx
      simpa using List.lookup_eq_none_iff.1 hl e he
  have hmem : (x, r) ∈ s.transitions := by
    obtain ⟨l₁, l₂, hl, -⟩ := List.lookup_eq_some_iff.1 hr
    rw [hl]
    exact List.mem_append_right l₁ List.mem_cons_self
  obtain ⟨s', hs'⟩ := b.exists_state (leads _ hmem)
  exact ⟨r, s', hr, hmem, hs'⟩

omit hg in
/-- What leads on stands on the right of a production, or is the start symbol. -/
theorem mem_rhs_of_lookup {x : SymbolId} {r : StateId} (hs : a.states[q]? = some s)
    (hx : s.transitions.lookup x = some r) : x = g.start ∨ ∃ p ∈ g.productions, x ∈ p.rhs := by
  obtain ⟨l₁, l₂, hl, -⟩ := List.lookup_eq_some_iff.1 hx
  obtain ⟨kernel, -, -, hmap⟩ := b.explored.moves q _ (b.transitions_of_state hs)
  have hnext : x ∈ Lr.nextSymbols g (Lr.closure g kernel) :=
    hmap ▸ List.mem_map_of_mem (f := Prod.fst) (hl ▸ List.mem_append_right l₁ List.mem_cons_self)
  obtain ⟨i, -, hn⟩ := Lr.mem_nextSymbols.1 hnext
  have hmem : x ∈ g.rhs i.production := List.mem_of_getElem? hn
  unfold FlatGrammar.rhs at hmem
  split at hmem
  · exact .inl (List.mem_singleton.1 hmem)
  · split at hmem
    · next production hp => exact .inr ⟨production, Array.mem_of_getElem? hp, hmem⟩
    · cases hmem

/-- Symbols lead on only if they stand after a mark. -/
theorem has_of_lookup {x : SymbolId} {r : StateId} (hs : a.states[q]? = some s)
    (hx : s.transitions.lookup x = some r) :
    ∃ i s', s.Has i ∧ i.next g = some x ∧ (x, r) ∈ s.transitions ∧ a.states[r]? = some s' := by
  obtain ⟨l₁, l₂, hl, -⟩ := List.lookup_eq_some_iff.1 hx
  have hmem : (x, r) ∈ s.transitions := by
    rw [hl]
    exact List.mem_append_right l₁ List.mem_cons_self
  obtain ⟨kernel, hk, leads, hmap⟩ := b.explored.moves q _ (b.transitions_of_state hs)
  have hnext : x ∈ Lr.nextSymbols g (Lr.closure g kernel) :=
    hmap ▸ List.mem_map_of_mem (f := Prod.fst) hmem
  obtain ⟨i, hi, hn⟩ := Lr.mem_nextSymbols.1 hnext
  obtain ⟨s', hs'⟩ := b.exists_state (leads _ hmem)
  exact ⟨i, s', (b.has_iff hg hs hk).2 hi, hn, hmem, hs'⟩

omit hg in
/-- Each item of a kernel but the first has something before its mark. -/
theorem dot_pos_of_mem_kernel {kernel : List Item} (hq : q ≠ 0)
    (hk : b.found.kernels[q]? = some kernel) {i : Item} (hi : i ∈ kernel) :
    0 < i.dot ∧ i.production ≤ g.productions.size := by
  obtain ⟨items, x, -, rfl⟩ := b.explored.entered q kernel hq hk
  obtain ⟨j, -, hn, rfl⟩ := Lr.mem_goto.1 hi
  exact ⟨Nat.succ_pos _, Item.production_le_of_next (i := j) hn⟩

omit hg in
theorem production_le (hs : a.states[q]? = some s) {i : Item} (hi : s.Has i) :
    i.production ≤ g.productions.size := by
  by_cases hq : q = 0
  · subst hq
    rcases b.has_first hs hi with rfl | h
    · exact Nat.le_refl _
    · exact Nat.le_of_lt h.2
  · have hk := Array.getElem?_eq_getElem (b.lt_of_state hs)
    rcases b.kernel_or_brought hs hk hi with h | h
    · exact (b.dot_pos_of_mem_kernel hq hk h).2
    · exact Nat.le_of_lt h.2

/-- Where a production may begin, its nonterminal leads on. -/
theorem exists_transition_of_first (hs : a.states[q]? = some s) {p : ProductionId}
    {production : Production} (hp : g.productions[p]? = some production) (hi : s.Has ⟨p, 0⟩) :
    ∃ r, s.transitions.lookup production.lhs = some r := by
  have hk := Array.getElem?_eq_getElem (b.lt_of_state hs)
  rcases Lr.mem_closure.1 ((b.has_iff hg hs hk).1 hi) with h | ⟨x, hx, p', hp', hsame⟩
  · exfalso
    by_cases hq : q = 0
    · subst hq
      rw [b.explored.start] at hk
      rw [← Option.some.inj hk, List.mem_singleton] at h
      obtain rfl : p = g.productions.size := congrArg Item.production h
      exact absurd (Array.getElem?_eq_some_iff.1 hp).1 (Nat.lt_irrefl _)
    · exact absurd (b.dot_pos_of_mem_kernel hq hk h).1 (Nat.lt_irrefl 0)
  · obtain ⟨production', hprod, rfl⟩ := FlatGrammar.mem_productionsOf.1 hp'
    obtain rfl : p = p' := congrArg Item.production hsame
    obtain rfl := Option.some.inj (hp.symm.trans hprod)
    obtain ⟨i, hi, hn⟩ := Lr.exists_next_of_mem_predicted hx
    obtain ⟨r, -, hr, -⟩ := b.exists_transition hg hs ((b.has_iff hg hs hk).2 hi) hn
    exact ⟨r, hr⟩

/-- If a text is a single terminal, the state that a parse begins in has nothing else to say. -/
theorem eq_startItem_of_terminal (hstart : g.isTerminal g.start = true)
    (hs : a.states[q]? = some s) (hi : s.Has g.startItem) {i : Item} (h : s.Has i) :
    i = g.startItem := by
  have hk := Array.getElem?_eq_getElem (b.lt_of_state hs)
  have first : q = 0 := by
    by_contra hq
    rcases b.kernel_or_brought hs hk hi with h | h
    · exact absurd (b.dot_pos_of_mem_kernel hq hk h).1 (Nat.lt_irrefl 0)
    · exact absurd h.2 (Nat.lt_irrefl _)
  subst first
  rcases Lr.mem_closure.1 ((b.has_iff hg hs b.explored.start).1 h) with h | ⟨x, hx, -⟩
  · exact List.mem_singleton.1 h
  · exfalso
    have nothing : Lr.predicted g [g.startItem] = [] := by
      refine settle_induction (p := fun found => found = []) ?_ _ ?_
      · rintro found rfl
        rfl
      · refine List.eq_nil_iff_forall_not_mem.2 fun x hx => ?_
        obtain ⟨⟨i, hi, hn⟩, hx⟩ := Lr.mem_afterMarks.1 hx
        rw [List.mem_singleton.1 hi, Item.next, FlatGrammar.startItem, FlatGrammar.augmented,
          FlatGrammar.rhs_augmented] at hn
        rw [← Option.some.inj hn, hstart] at hx
        simp at hx
    rw [nothing] at hx
    simp at hx

/-! ## What is expected -/

theorem expects_start : ∃ s, a.states[0]? = some s ∧ s.Expects g.startItem endSymbol := by
  obtain ⟨s, hs⟩ := b.exists_state b.explored.start
  refine ⟨s, hs, ?_⟩
  have hlt : 0 < b.found.kernels.size := b.lt_of_state hs
  have before : (⟨0, 0, endSymbol⟩ : Σ _ : Nat, Nat × Nat) ∈
      (Lr.lookaheadFacts g b.found).known (Lr.initialLookaheads g b.found) := by
    refine EntryFacts.mem_known.2 ⟨hlt, ?_, ?_⟩
    · refine Finset.mem_product.2 ⟨Finset.mem_range.2 ?_, Finset.mem_range.2 hg.endSymbol⟩
      rw [Lr.kernelLength, b.explored.start]
      exact Nat.one_pos
    · refine ⟨[TerminalSet.singleton endSymbol], ?_, ?_⟩
      · rw [Lr.initialLookaheads, Array.getElem?_map, b.explored.start]
        simp
      · simp [Lr.kernelFacts]
  have known := Lr.known_initial_subset hg FirstSets.valid_ofGrammar b.found before
  obtain ⟨-, -, sets, hsets, ht⟩ := EntryFacts.mem_known.1 known
  obtain ⟨set, hset, hc⟩ := (Option.any_eq_true _ _).1 ht
  refine ⟨set, ?_, hc⟩
  rw [b.items_of_state hs]
  refine Lr.mem_lookaheadClosure.2 (.inl ?_)
  refine List.mem_of_getElem? (i := 0) (List.getElem?_zip_eq_some.2 ⟨?_, ?_⟩)
  · rw [b.explored.start]
    rfl
  · exact (congrArg (fun o : Option (List TerminalSet) => (o.getD [])[0]?) hsets).trans hset

/-- Along a transition the mark moves on, and the same is expected. -/
theorem expects_advance {i : Item} {x : SymbolId} {t : Nat} (hs : a.states[q]? = some s)
    (hi : s.Expects i t) (hn : i.next g = some x) :
    ∃ r s', s.transitions.lookup x = some r ∧ a.states[r]? = some s' ∧
      s'.Expects i.advance t := by
  obtain ⟨r, s', hlookup, hmem, hs'⟩ := b.exists_transition hg hs hi.has hn
  refine ⟨r, s', hlookup, hs', ?_⟩
  obtain ⟨kernel, hk, leads, -⟩ := b.explored.moves q _ (b.transitions_of_state hs)
  have target := leads _ hmem
  obtain ⟨la, hla, ht⟩ := hi
  have inKernel : i.advance ∈ Lr.goto g (Lr.closure g kernel) x :=
    Lr.mem_goto.2 ⟨i, (b.has_iff hg hs hk).1 (List.mem_map_of_mem hla), hn, rfl⟩
  rw [b.items_of_state hs] at hla
  obtain ⟨la', hla', ht'⟩ := Lr.mem_kernelWith_of_transition hg FirstSets.valid_ofGrammar b.found
    (b.lt_of_state hs) (b.transitions_of_state hs) hmem hla hn target inKernel ht
  refine ⟨la', ?_, ht'⟩
  rw [b.items_of_state hs']
  exact Lr.mem_lookaheadClosure.2 (.inl hla')

/-- A nonterminal brings in its productions, to be followed by what begins the text after it. -/
theorem expects_of_yields {i : Item} {x : SymbolId} {t t' : Nat} {w rest rest' : List SymbolId}
    (hs : a.states[q]? = some s) (hi : s.Expects i t) (hn : i.next g = some x)
    (hx : g.isTerminal x = false) (hw : g.Yields (i.rest g) w) (ht' : w ++ t :: rest = t' :: rest')
    {p : ProductionId} (hp : p ∈ g.productionsOf x) : s.Expects ⟨p, 0⟩ t' := by
  obtain ⟨la, hla, ht⟩ := hi
  rw [b.items_of_state hs] at hla
  have follows : (Lr.followOf g (.ofGrammar g) i la).contains t' = true := by
    have allowed := FirstSets.allows_of_yields hg hw
    unfold Lr.followOf
    -- Where nothing stands behind the symbol the terminal of the item follows, else the first of `w`.
    cases w with
    | nil =>
      obtain ⟨rfl, -⟩ := List.cons.inj ht'
      have nullable : ((FirstSets.ofGrammar g).ofSymbols (i.rest g)).nullable = true := allowed
      simp only [nullable, if_true, TerminalSet.contains_union, ht, Bool.or_true]
    | cons u w =>
      obtain ⟨rfl, -⟩ := List.cons.inj ht'
      have begins : ((FirstSets.ofGrammar g).ofSymbols (i.rest g)).terminals.contains u = true :=
        allowed
      dsimp only
      split
      · rw [TerminalSet.contains_union, begins, Bool.true_or]
      · exact begins
  obtain ⟨la', hla', hc⟩ := Lr.mem_lookaheadClosure_of_next hg FirstSets.valid_ofGrammar
    (Lr.below_kernelWith (Lr.valid_lookaheads hg FirstSets.valid_ofGrammar b.found) q)
    hla hn hx follows hp
  refine ⟨la', ?_, hc⟩
  rw [b.items_of_state hs]
  exact hla'

end Built

end Automaton

end IncrementalGlr
