import Mathlib.Algebra.BigOperators.Group.Finset.Sigma
import Mathlib.Algebra.BigOperators.Ring.Finset
import Mathlib.Data.Finset.Prod
import IncrementalGlr.Proofs.Lr.First
import IncrementalGlr.Proofs.Lr.States

/-!
Lookaheads. Handing lookaheads on within a state and from state to state comes to rest. Then an item
brought in by a nonterminal has in its lookahead whatever may follow that nonterminal
(`mem_lookaheadClosure_of_next`), and an item whose mark was moved on has the lookahead that it had
before (`mem_kernelWith_of_transition`).
-/
namespace IncrementalGlr.Lr

variable {g : FlatGrammar} {first : FirstSets}

/-! ## Within a state -/

/-- The terminals that are known to follow a nonterminal. -/
def setFacts (terminalCount : Nat) : EntryFacts TerminalSet Nat where
  valid _ s := s.Below terminalCount
  tells s t := s.contains t
  all _ := Finset.range terminalCount
  ext _ a b ha hb h := TerminalSet.ext_contains fun t => by
    rcases Nat.lt_or_ge t terminalCount with ht | ht
    · exact h t (Finset.mem_range.2 ht)
    · rw [ha.contains_of_le ht, hb.contains_of_le ht]

/-- The facts that handing on lookaheads within a state can find. -/
abbrev followFacts (g : FlatGrammar) : Facts Follow (Σ _ : Nat, Nat) :=
  (setFacts g.terminalCount).facts g.nonterminalCount

theorem card_followFacts_all :
    (followFacts g).all.card = g.nonterminalCount * g.terminalCount := by
  simp [followFacts, EntryFacts.facts, setFacts, Finset.card_sigma]

theorem below_followOf (hf : (FirstSets.facts g).valid first) (i : Item) {la : TerminalSet}
    (hla : la.Below g.terminalCount) : (followOf g first i la).Below g.terminalCount := by
  unfold followOf
  dsimp only
  split
  · exact (FirstSets.below_ofSymbols hf _).union hla
  · exact FirstSets.below_ofSymbols hf _

theorem below_lookaheadOf {follow : Follow} (h : (followFacts g).valid follow) (s : SymbolId) :
    (lookaheadOf g follow s).Below g.terminalCount := by
  unfold lookaheadOf
  cases hx : follow[s - g.terminalCount]? with
  | none => exact TerminalSet.below_empty _
  | some set => exact h.2 _ set hx

theorem gains_handOn (hf : (FirstSets.facts g).valid first) (i : Item) {la : TerminalSet}
    (hla : la.Below g.terminalCount) :
    (followFacts g).Gains fun follow => handOn g first follow i la := by
  unfold handOn
  cases i.next g with
  | none => exact Facts.Gains.id
  | some s =>
    dsimp only
    split
    · exact Facts.Gains.id
    · refine EntryFacts.gains_modify (fun _ => s - g.terminalCount) _ (fun _ _ e he => ?_)
        (fun _ _ e _ t ht => ?_)
      · have he : e.Below g.terminalCount := he
        exact he.union (below_followOf hf i hla)
      · exact (TerminalSet.contains_union _ _ _).trans (Bool.or_eq_true_iff.2 (.inl ht))

/-- The items that one nonterminal brings in speak once. -/
theorem gains_handOn_productions (hf : (FirstSets.facts g).valid first) (s : SymbolId)
    (ps : List ProductionId) : (followFacts g).Gains fun follow =>
      ps.foldl (fun f p => handOn g first f ⟨p, 0⟩ (lookaheadOf g f s)) follow :=
  Facts.Gains.foldl fun p _ =>
    Facts.Gains.choose (f := fun follow f => handOn g first f ⟨p, 0⟩ (lookaheadOf g follow s))
      fun _ h => gains_handOn hf ⟨p, 0⟩ (below_lookaheadOf h s)

section Closure

variable (hf : (FirstSets.facts g).valid first) {kernel : List (Item × TerminalSet)}
  (hk : ∀ e ∈ kernel, e.2.Below g.terminalCount) (brought : List SymbolId)
include hf hk

theorem gains_kernel : (followFacts g).Gains fun follow =>
    kernel.foldl (fun f e => handOn g first f e.1 e.2) follow :=
  Facts.Gains.foldl fun e he => gains_handOn hf e.1 (hk e he)

omit hk in
theorem gains_brought : (followFacts g).Gains fun follow =>
    brought.foldl (fun f s => (g.productionsOf s).foldl
      (fun f p => handOn g first f ⟨p, 0⟩ (lookaheadOf g f s)) f) follow :=
  Facts.Gains.foldl fun s _ => gains_handOn_productions hf s (g.productionsOf s)

theorem gains_followStep : (followFacts g).Gains (followStep g first kernel brought) :=
  (gains_kernel hf hk).comp (gains_brought hf brought)

/-- What handing on within a state comes to. -/
def settledFollow (g : FlatGrammar) (first : FirstSets) (kernel : List (Item × TerminalSet))
    (brought : List SymbolId) : Follow :=
  settle (followStep g first kernel brought) (g.nonterminalCount * g.terminalCount + 1)
    (Array.replicate g.nonterminalCount .empty)

omit hf hk in
theorem valid_emptyFollow :
    (followFacts g).valid (Array.replicate g.nonterminalCount TerminalSet.empty) := by
  refine ⟨Array.size_replicate, fun i e he => ?_⟩
  rw [Array.getElem?_replicate] at he
  split at he
  · rw [← Option.some.inj he]
    exact TerminalSet.below_empty _
  · simp at he

theorem valid_settledFollow :
    (followFacts g).valid (settledFollow g first kernel brought) :=
  settle_induction (p := (followFacts g).valid) (gains_followStep hf hk brought).valid _
    valid_emptyFollow

theorem followStep_settled :
    followStep g first kernel brought (settledFollow g first kernel brought) =
      settledFollow g first kernel brought :=
  Facts.settle_fixed (gains_followStep hf hk brought) _ valid_emptyFollow
    (by rw [card_followFacts_all]; omega)

/-- Once all is settled, neither the kernel's items nor those brought in have anything to add. -/
theorem handOn_settled {i : Item} {la : TerminalSet}
    (h : (i, la) ∈ kernel ∨ ∃ s ∈ brought, ∃ p ∈ g.productionsOf s,
      i = ⟨p, 0⟩ ∧ la = lookaheadOf g (settledFollow g first kernel brought) s) :
    handOn g first (settledFollow g first kernel brought) i la =
      settledFollow g first kernel brought := by
  have hv := valid_settledFollow hf hk brought
  have kernelRests : kernel.foldl (fun f e => handOn g first f e.1 e.2)
      (settledFollow g first kernel brought) = settledFollow g first kernel brought :=
    (gains_kernel hf hk).comp_fixed (gains_brought hf brought) hv (followStep_settled hf hk brought)
  rcases h with h | ⟨s, hs, p, hp, rfl, rfl⟩
  · exact Facts.Gains.foldl_fixed (fun e he => gains_handOn hf e.1 (hk e he)) hv kernelRests _ h
  · have broughtRests := followStep_settled hf hk brought
    simp only [followStep, kernelRests] at broughtRests
    have one := Facts.Gains.foldl_fixed
      (fun s _ => gains_handOn_productions hf s (g.productionsOf s)) hv broughtRests s hs
    exact Facts.Gains.foldl_fixed (L := followFacts g)
      (f := fun f p => handOn g first f ⟨p, 0⟩ (lookaheadOf g f s))
      (fun p _ => Facts.Gains.choose
        (f := fun follow f => handOn g first f ⟨p, 0⟩ (lookaheadOf g follow s))
        fun _ h => gains_handOn hf ⟨p, 0⟩ (below_lookaheadOf h s)) hv one p hp

end Closure

theorem lookaheadClosure_eq (kernel : List (Item × TerminalSet)) :
    lookaheadClosure g first kernel = kernel ++
      (predicted g (kernel.map Prod.fst)).flatMap fun s => (g.productionsOf s).map fun p =>
        (⟨p, 0⟩, lookaheadOf g
          (settledFollow g first kernel (predicted g (kernel.map Prod.fst))) s) :=
  rfl

theorem mem_lookaheadClosure {kernel : List (Item × TerminalSet)} {i : Item} {la : TerminalSet} :
    (i, la) ∈ lookaheadClosure g first kernel ↔ (i, la) ∈ kernel ∨
      ∃ s ∈ predicted g (kernel.map Prod.fst), ∃ p ∈ g.productionsOf s, i = ⟨p, 0⟩ ∧
        la = lookaheadOf g
          (settledFollow g first kernel (predicted g (kernel.map Prod.fst))) s := by
  rw [lookaheadClosure_eq]
  simp only [List.mem_append, List.mem_flatMap, List.mem_map, Prod.mk.injEq]
  simp only [eq_comm]

theorem map_fst_lookaheadClosure (kernel : List (Item × TerminalSet)) :
    (lookaheadClosure g first kernel).map Prod.fst = closure g (kernel.map Prod.fst) := by
  rw [lookaheadClosure_eq, List.map_append, closure, List.map_flatMap]
  simp [Function.comp_def]

theorem below_lookaheadClosure (hf : (FirstSets.facts g).valid first)
    {kernel : List (Item × TerminalSet)} (hk : ∀ e ∈ kernel, e.2.Below g.terminalCount) :
    ∀ e ∈ lookaheadClosure g first kernel, e.2.Below g.terminalCount := by
  rintro ⟨i, la⟩ he
  rcases mem_lookaheadClosure.1 he with he | ⟨s, _, _, _, _, rfl⟩
  · exact hk _ he
  · exact below_lookaheadOf (valid_settledFollow hf hk _) s

/-- The lookahead of an item that a nonterminal brings in has what may follow the nonterminal. -/
theorem mem_lookaheadClosure_of_next (hg : g.InRange) (hf : (FirstSets.facts g).valid first)
    {kernel : List (Item × TerminalSet)} (hk : ∀ e ∈ kernel, e.2.Below g.terminalCount)
    {i : Item} {la : TerminalSet} (hi : (i, la) ∈ lookaheadClosure g first kernel) {s : SymbolId}
    (hs : i.next g = some s) (hn : g.isTerminal s = false) {t : SymbolId}
    (ht : (followOf g first i la).contains t = true) {p : ProductionId}
    (hp : p ∈ g.productionsOf s) :
    ∃ la', (⟨p, 0⟩, la') ∈ lookaheadClosure g first kernel ∧ la'.contains t = true := by
  have inClosure : i ∈ closure g (kernel.map Prod.fst) := by
    exact map_fst_lookaheadClosure (g := g) kernel ▸ List.mem_map_of_mem hi
  have hpred := mem_predicted_of_mem_closure hg inClosure hs hn
  refine ⟨_, mem_lookaheadClosure.2 (.inr ⟨s, hpred, p, hp, rfl, rfl⟩), ?_⟩
  generalize hb : predicted g (kernel.map Prod.fst) = brought at *
  have settled := handOn_settled hf hk brought (by
    have := mem_lookaheadClosure.1 hi
    rwa [hb] at this)
  obtain ⟨hle, hlt⟩ := isNonterminal_of_next hg hs hn
  have hv := valid_settledFollow hf hk brought
  have hsize : s - g.terminalCount < (settledFollow g first kernel brought).size := by
    rw [hv.1]
    exact Nat.sub_lt_left_of_lt_add hle hlt
  -- The sets are settled: what the item hands on to the symbol is already there.
  have here := congrArg (fun follow : Follow => follow[s - g.terminalCount]?) settled
  simp only [handOn, hs, hn, Bool.false_eq_true, if_false, Array.getElem?_modify, if_true,
    Array.getElem?_eq_getElem hsize, Option.map_some, Option.some.injEq] at here
  rw [lookaheadOf, Array.getElem?_eq_getElem hsize, Option.getD_some, ← here]
  exact (TerminalSet.contains_union _ _ _).trans (Bool.or_eq_true_iff.2 (.inr ht))

/-! ## Between states -/

/-- The number of items in the kernel of a state. -/
def kernelLength (found : Found) (q : Nat) : Nat := ((found.kernels[q]?).getD []).length

/-- The terminals in the lookaheads of a kernel, by the place of the item. -/
def kernelFacts (found : Found) (terminalCount : Nat) :
    EntryFacts (List TerminalSet) (Nat × Nat) where
  valid q sets := sets.length = kernelLength found q ∧ ∀ set ∈ sets, set.Below terminalCount
  tells sets x := (sets[x.1]?).any (·.contains x.2)
  all q := Finset.range (kernelLength found q) ×ˢ Finset.range terminalCount
  ext q a b ha hb h := by
    refine List.ext_getElem (ha.1.trans hb.1.symm) fun j hj hj' => ?_
    refine TerminalSet.ext_contains fun t => ?_
    rcases Nat.lt_or_ge t terminalCount with ht | ht
    · have := h (j, t) (Finset.mem_product.2 ⟨Finset.mem_range.2 (ha.1 ▸ hj), Finset.mem_range.2 ht⟩)
      rwa [List.getElem?_eq_getElem hj, List.getElem?_eq_getElem hj'] at this
    · rw [(ha.2 _ (List.getElem_mem hj)).contains_of_le ht,
        (hb.2 _ (List.getElem_mem hj')).contains_of_le ht]

/-- The facts that handing on lookaheads from state to state can find. -/
abbrev lookaheadFacts (g : FlatGrammar) (found : Found) :
    Facts Lookaheads (Σ _ : Nat, Nat × Nat) :=
  (kernelFacts found g.terminalCount).facts found.kernels.size

theorem sum_range_getD (l : List Nat) :
    ∑ i ∈ Finset.range l.length, (l[i]?).getD 0 = l.foldl (· + ·) 0 := by
  induction l using List.reverseRecOn with
  | nil => rfl
  | append_singleton l n ih =>
    rw [List.foldl_append, List.length_append, List.length_singleton, Finset.sum_range_succ, ← ih]
    congr 1
    · refine Finset.sum_congr rfl fun i hi => ?_
      rw [List.getElem?_append_left (Finset.mem_range.1 hi)]
    · simp

theorem card_lookaheadFacts_all (found : Found) :
    (lookaheadFacts g found).all.card =
      (found.kernels.map List.length).foldl (· + ·) 0 * g.terminalCount := by
  have lengths : ∀ q, kernelLength found q = ((found.kernels.toList.map List.length)[q]?).getD 0 := by
    intro q
    rw [kernelLength, List.getElem?_map, Array.getElem?_toList]
    cases found.kernels[q]? <;> rfl
  simp only [lookaheadFacts, EntryFacts.facts, kernelFacts, Finset.card_sigma, Finset.card_product,
    Finset.card_range, ← Finset.sum_mul, lengths]
  have sum := sum_range_getD (found.kernels.toList.map List.length)
  rw [List.length_map, Array.length_toList] at sum
  rw [sum, ← Array.foldl_toList, Array.toList_map]

theorem contains_foldl_union (l : List (Item × TerminalSet)) (set : TerminalSet) (t : SymbolId) :
    (l.foldl (fun acc e => acc ∪ e.2) set).contains t = true ↔
      set.contains t = true ∨ ∃ e ∈ l, e.2.contains t = true := by
  induction l generalizing set with
  | nil => simp
  | cons e rest ih =>
    rw [List.foldl_cons, ih, TerminalSet.contains_union, Bool.or_eq_true]
    simp only [List.mem_cons, exists_eq_or_imp, or_assoc]

/-- The lookaheads of a kernel after what items hand on to it along a symbol. -/
def receive (g : FlatGrammar) (items : List (Item × TerminalSet)) (s : SymbolId)
    (kernel : List Item) (old : List TerminalSet) : List TerminalSet :=
  (kernel.zip old).map fun (item, set) =>
    (items.filter fun e => e.1.next g = some s && e.1.advance = item).foldl
      (fun acc e => acc ∪ e.2) set

theorem length_receive (items : List (Item × TerminalSet)) (s : SymbolId) (kernel : List Item)
    (old : List TerminalSet) :
    (receive g items s kernel old).length = min kernel.length old.length := by
  rw [receive, List.length_map, List.length_zip]

theorem contains_receive {items : List (Item × TerminalSet)} {s : SymbolId} {kernel : List Item}
    {old : List TerminalSet} {j : Nat} {item : Item} {set : TerminalSet}
    (hi : kernel[j]? = some item) (hs : old[j]? = some set) (t : Nat) :
    ((receive g items s kernel old)[j]?).any (·.contains t) = true ↔ set.contains t = true ∨
      ∃ e ∈ items, e.1.next g = some s ∧ e.1.advance = item ∧ e.2.contains t = true := by
  have hz : (kernel.zip old)[j]? = some (item, set) := List.getElem?_zip_eq_some.2 ⟨hi, hs⟩
  rw [receive, List.getElem?_map, hz, Option.map_some, Option.any_some, contains_foldl_union]
  simp only [List.mem_filter, Bool.and_eq_true, decide_eq_true_eq, and_assoc]

theorem below_receive {items : List (Item × TerminalSet)} {s : SymbolId} {kernel : List Item}
    {old : List TerminalSet} {n : Nat} (hitems : ∀ e ∈ items, e.2.Below n)
    (hold : ∀ set ∈ old, set.Below n) : ∀ set ∈ receive g items s kernel old, set.Below n := by
  intro set hset t ht
  obtain ⟨⟨item, set⟩, hmem, rfl⟩ := List.mem_map.1 hset
  rcases (contains_foldl_union _ _ _).1 ht with ht | ⟨e, he, ht⟩
  · exact hold _ (List.of_mem_zip hmem).2 t ht
  · exact hitems e (List.mem_filter.1 he).1 t ht

theorem gains_receive {found : Found} {items : List (Item × TerminalSet)}
    (hitems : ∀ e ∈ items, e.2.Below g.terminalCount) (s : SymbolId) (r : Nat) :
    (lookaheadFacts g found).Gains fun las =>
      las.modify r (receive g items s ((found.kernels[r]?).getD [])) := by
  refine EntryFacts.gains_modify (fun _ => r) _ (fun _ _ old h => ?_) (fun _ _ old h x hx => ?_)
  · obtain ⟨hlen, hold⟩ : old.length = kernelLength found r ∧ _ := h
    refine ⟨?_, below_receive hitems hold⟩
    rw [length_receive, hlen, kernelLength, Nat.min_self]
  · obtain ⟨hlen, hold⟩ : old.length = kernelLength found r ∧ _ := h
    obtain ⟨set, hset, ht⟩ := (Option.any_eq_true _ _).1 hx
    have hj : x.1 < ((found.kernels[r]?).getD []).length :=
      Nat.lt_of_lt_of_eq (List.getElem?_eq_some_iff.1 hset).1 hlen
    exact (contains_receive (List.getElem?_eq_getElem hj) hset _).2 (.inl ht)

theorem below_kernelWith {found : Found} {las : Lookaheads}
    (h : (lookaheadFacts g found).valid las) (q : Nat) :
    ∀ e ∈ kernelWith found las q, e.2.Below g.terminalCount := by
  intro e he
  have hmem := (List.of_mem_zip he).2
  cases hq : las[q]? with
  | none => simp [hq] at hmem
  | some sets =>
    rw [hq, Option.getD_some] at hmem
    exact (h.2 q sets hq).2 _ hmem

/-- The items of a state with the lookaheads found so far. -/
def itemsWith (g : FlatGrammar) (first : FirstSets) (found : Found) (las : Lookaheads) (q : Nat) :
    List (Item × TerminalSet) :=
  lookaheadClosure g first (kernelWith found las q)

theorem gains_receive_itemsWith (hf : (FirstSets.facts g).valid first) (found : Found) (q : Nat)
    {las : Lookaheads} (h : (lookaheadFacts g found).valid las) (e : SymbolId × StateId) :
    (lookaheadFacts g found).Gains fun las' =>
      las'.modify e.2 (receive g (itemsWith g first found las q) e.1
        ((found.kernels[e.2]?).getD [])) :=
  gains_receive (below_lookaheadClosure hf (below_kernelWith h q)) e.1 e.2

theorem propagate_eq (found : Found) (las : Lookaheads) (q : Nat) :
    propagate g first found las q = ((found.transitions[q]?).getD []).foldl
      (fun las' e => las'.modify e.2 (receive g (itemsWith g first found las q) e.1
        ((found.kernels[e.2]?).getD []))) las :=
  rfl

theorem gains_propagate (hf : (FirstSets.facts g).valid first) (found : Found) (q : Nat) :
    (lookaheadFacts g found).Gains fun las => propagate g first found las q := by
  simp only [propagate_eq]
  exact Facts.Gains.choose (f := fun las las' => ((found.transitions[q]?).getD []).foldl
    (fun las' e => las'.modify e.2 (receive g (itemsWith g first found las q) e.1
      ((found.kernels[e.2]?).getD []))) las')
    fun _ h => Facts.Gains.foldl fun e _ => gains_receive_itemsWith hf found q h e

theorem gains_propagateAll (hf : (FirstSets.facts g).valid first) (found : Found) :
    (lookaheadFacts g found).Gains (propagateAll g first found) :=
  Facts.Gains.foldl fun q _ => gains_propagate hf found q

/-- The lookaheads before anything is handed on. -/
def initialLookaheads (g : FlatGrammar) (found : Found) : Lookaheads :=
  found.kernels.map fun kernel =>
    kernel.map fun i => if i = g.startItem then TerminalSet.singleton endSymbol else .empty

theorem valid_initialLookaheads (hg : g.InRange) (found : Found) :
    (lookaheadFacts g found).valid (initialLookaheads g found) := by
  refine ⟨by simp [initialLookaheads], fun q sets hq => ?_⟩
  rw [initialLookaheads, Array.getElem?_map] at hq
  obtain ⟨kernel, hk, rfl⟩ := Option.map_eq_some_iff.1 hq
  refine ⟨by simp [kernelLength, hk], fun set hset => ?_⟩
  obtain ⟨i, _, rfl⟩ := List.mem_map.1 hset
  split
  · exact TerminalSet.below_singleton hg.endSymbol
  · exact TerminalSet.below_empty _

section Settled

variable (hg : g.InRange) (hf : (FirstSets.facts g).valid first) (found : Found)
include hg hf

theorem valid_lookaheads : (lookaheadFacts g found).valid (lookaheads g first found) :=
  settle_induction (p := (lookaheadFacts g found).valid) (gains_propagateAll hf found).valid _
    (valid_initialLookaheads hg found)

/-- Nothing that is known at the beginning is lost. -/
theorem known_initial_subset : (lookaheadFacts g found).known (initialLookaheads g found) ⊆
    (lookaheadFacts g found).known (lookaheads g first found) :=
  Facts.known_subset_settle (gains_propagateAll hf found) _ (valid_initialLookaheads hg found)

theorem propagateAll_lookaheads :
    propagateAll g first found (lookaheads g first found) = lookaheads g first found :=
  Facts.settle_fixed (gains_propagateAll hf found) _ (valid_initialLookaheads hg found)
    (by rw [card_lookaheadFacts_all]; omega)

/-- Once all is settled, no state has anything to hand on to another. -/
theorem receive_lookaheads {q r : Nat} {s : SymbolId} {transitions : List (SymbolId × StateId)}
    (hq : q < found.kernels.size) (ht : found.transitions[q]? = some transitions)
    (he : (s, r) ∈ transitions) :
    (lookaheads g first found).modify r
      (receive g (itemsWith g first found (lookaheads g first found) q) s
        ((found.kernels[r]?).getD [])) = lookaheads g first found := by
  have hv := valid_lookaheads hg hf found
  have state : propagate g first found (lookaheads g first found) q = lookaheads g first found :=
    Facts.Gains.foldl_fixed (fun q _ => gains_propagate hf found q) hv
      (propagateAll_lookaheads hg hf found) q (List.mem_range.2 hq)
  have fold : transitions.foldl
      (fun las' e => las'.modify e.2 (receive g
        (itemsWith g first found (lookaheads g first found) q) e.1
        ((found.kernels[e.2]?).getD []))) (lookaheads g first found) =
      lookaheads g first found := by
    have := state
    rwa [propagate_eq, ht] at this
  exact Facts.Gains.foldl_fixed (fun e _ => gains_receive_itemsWith hf found q hv e) hv fold _ he

/-- An item whose mark was moved on along a transition keeps its lookahead. -/
theorem mem_kernelWith_of_transition {q r : Nat} {s : SymbolId} {i : Item} {la : TerminalSet}
    {transitions : List (SymbolId × StateId)} {kernel : List Item} (hq : q < found.kernels.size)
    (ht : found.transitions[q]? = some transitions) (he : (s, r) ∈ transitions)
    (hi : (i, la) ∈ itemsWith g first found (lookaheads g first found) q)
    (hs : i.next g = some s) (hr : found.kernels[r]? = some kernel) (hk : i.advance ∈ kernel)
    {t : SymbolId} (hla : la.contains t = true) :
    ∃ la', (i.advance, la') ∈ kernelWith found (lookaheads g first found) r ∧
      la'.contains t = true := by
  have hv := valid_lookaheads hg hf found
  have hrlt : r < (lookaheads g first found).size :=
    hv.1 ▸ (Array.getElem?_eq_some_iff.1 hr).1
  have hsets := Array.getElem?_eq_getElem hrlt
  obtain ⟨hlen, -⟩ := hv.2 r _ hsets
  obtain ⟨j, hj, hitem⟩ := List.getElem_of_mem hk
  rw [kernelLength, hr, Option.getD_some] at hlen
  have hset := List.getElem?_eq_getElem (hlen ▸ hj)
  refine ⟨_, List.mem_of_getElem? (List.getElem?_zip_eq_some.2
    ⟨by rw [hr]; exact hitem ▸ List.getElem?_eq_getElem hj, by rw [hsets]; exact hset⟩), ?_⟩
  -- The sets are settled: what goes along the transition has already arrived.
  have here := congrArg (fun las : Lookaheads => las[r]?) (receive_lookaheads hg hf found hq ht he)
  simp only [Array.getElem?_modify, if_true, hsets, Option.map_some, Option.some.injEq] at here
  have received : ((receive g (itemsWith g first found (lookaheads g first found) q) s kernel
      _)[j]?).any (·.contains t) = true :=
    (contains_receive (List.getElem?_eq_getElem hj) hset t).2
      (.inr ⟨(i, la), hi, hs, hitem.symm, hla⟩)
  rw [hr, Option.getD_some] at here
  rw [here, hset] at received
  exact received

end Settled

end IncrementalGlr.Lr
