import Mathlib.Data.List.Permutation
import IncrementalGlr.Proofs.Lr.Origin
import IncrementalGlr.Proofs.Lr.Validity

/-!
The parser's states are those of the LALR(1) automaton. What that automaton is, is said of the grammar
alone (`IsLalr`): its states are the kernels that symbols lead to from the start item, each once, with
the transitions between them, and a terminal is in the lookahead of an item just if some row of
symbols leads to the state for which the item is valid before the terminal. No lookahead is missing,
because lookaheads are handed on until nothing is new, and none is there without a reason, because
what is handed on is valid for the row that it is handed on along (`isLalr_ofGrammar`). For the second
half the grammar must be productive: a nonterminal that yields no text has items, but no sentence in
which they are valid.
-/
namespace IncrementalGlr

/-- The items of the kernel. -/
def LrState.core (s : LrState) : Set Item := {i | i ∈ s.kernel.map Prod.fst}

namespace Automaton

/-- Transitions lead from the first state to this one along the symbols. -/
inductive Leads (a : Automaton) : List SymbolId → StateId → Prop where
  | start : Leads a [] 0
  | step {row : List SymbolId} {q r : StateId} {s : LrState} {x : SymbolId} (h : Leads a row q)
      (hs : a.states[q]? = some s) (hx : (x, r) ∈ s.transitions) : Leads a (row ++ [x]) r

/-- The automaton is the LALR(1) automaton of the grammar. -/
structure IsLalr (g : FlatGrammar) (a : Automaton) : Prop where
  /-- The kernels of states are those that symbols lead to. -/
  kernel : ∀ kernel, Lr.IsKernel g kernel ↔ ∃ (q : StateId) (s : LrState),
    a.states[q]? = some s ∧ s.core = kernel
  unique : ∀ (q r : StateId) (s s' : LrState), a.states[q]? = some s → a.states[r]? = some s' →
    s.core = s'.core → q = r
  transition : ∀ (q : StateId) (s : LrState) (x : SymbolId) (r : StateId), a.states[q]? = some s →
    ((x, r) ∈ s.transitions ↔ (Lr.successor g s.core x).Nonempty ∧
      ∃ s', a.states[r]? = some s' ∧ s'.core = Lr.successor g s.core x)
  item : ∀ (q : StateId) (s : LrState) (i : Item), a.states[q]? = some s →
    (s.Has i ↔ Lr.Brings g s.core i)
  once : ∀ (q : StateId) (s : LrState), a.states[q]? = some s → (s.items.map Prod.fst).Nodup
  /-- Lookaheads are those of the valid items of all rows that lead to the state. -/
  lookahead : ∀ (q : StateId) (s : LrState) (i : Item) (t : SymbolId), a.states[q]? = some s →
    (s.Expects i t ↔ ∃ row, a.Leads row q ∧ g.Valid row i t)

variable {g : FlatGrammar} {a : Automaton}

theorem leads_nil {q : StateId} (h : a.Leads [] q) : q = 0 := by
  generalize hrow : ([] : List SymbolId) = row at h
  cases h with
  | start => rfl
  | step => simp at hrow

theorem leads_append {row : List SymbolId} {x : SymbolId} {r : StateId} (h : a.Leads (row ++ [x]) r) :
    ∃ q s, a.Leads row q ∧ a.states[q]? = some s ∧ (x, r) ∈ s.transitions := by
  generalize hrow : row ++ [x] = row' at h
  cases h with
  | start => simp at hrow
  | @step row' q _ s _ h hs hx =>
    obtain ⟨rfl, hlast⟩ := List.append_inj' hrow rfl
    obtain rfl : x = _ := (List.cons.inj hlast).1
    exact ⟨q, s, h, hs, hx⟩

namespace Built

variable (b : Built g a) (hg : g.InRange) {q : StateId} {s : LrState}
include b

/-! ## Kernels -/

theorem ordered_kernel {kernel : List Item} (hk : b.found.kernels[q]? = some kernel) :
    Lr.Ordered kernel := by
  by_cases hq : q = 0
  · subst hq
    rw [b.explored.start] at hk
    exact Option.some.inj hk ▸ Lr.ordered_singleton _
  · obtain ⟨items, x, -, rfl⟩ := b.explored.entered q kernel hq hk
    exact Lr.ordered_goto items x

theorem advanced_of_mem_kernel {kernel : List Item} (hk : b.found.kernels[q]? = some kernel)
    {i : Item} (hi : i ∈ kernel) : Lr.Advanced g i := by
  by_cases hq : q = 0
  · subst hq
    rw [b.explored.start] at hk
    exact .inl (List.mem_singleton.1 (Option.some.inj hk ▸ hi))
  · exact .inr (b.dot_pos_of_mem_kernel hq hk hi).1

include hg

theorem core_eq {kernel : List Item} (hs : a.states[q]? = some s)
    (hk : b.found.kernels[q]? = some kernel) : s.core = {i | i ∈ kernel} := by
  have hlt := b.lt_of_state hs
  rw [b.states_eq, if_pos hlt] at hs
  have hkernel : s.kernel =
      Lr.kernelWith b.found (Lr.lookaheads g (.ofGrammar g) b.found) q :=
    Option.some.inj hs ▸ rfl
  rw [LrState.core, hkernel, b.map_fst_kernelWith hg hk]

/-- The kernel of a state as a list and as a set. -/
theorem exists_kernel (hs : a.states[q]? = some s) :
    ∃ kernel, b.found.kernels[q]? = some kernel ∧ s.core = {i | i ∈ kernel} := by
  have hk := Array.getElem?_eq_getElem (b.lt_of_state hs)
  exact ⟨_, hk, b.core_eq hg hs hk⟩

/-- States with the same kernel are the same. -/
theorem eq_of_core (hf : b.found.Searched) {r : StateId} {s' : LrState} (hs : a.states[q]? = some s)
    (hs' : a.states[r]? = some s') (same : s.core = s'.core) : q = r := by
  obtain ⟨k, hk, hcore⟩ := b.exists_kernel hg hs
  obtain ⟨k', hk', hcore'⟩ := b.exists_kernel hg hs'
  have items : ∀ i, i ∈ k ↔ i ∈ k' := by
    intro i
    rw [hcore, hcore'] at same
    exact Set.ext_iff.1 same i
  have := (b.ordered_kernel hk).eq_of_sameItems (b.ordered_kernel hk') items
  exact hf.distinct q r k hk (this ▸ hk')

theorem has_iff_brings (hs : a.states[q]? = some s) {i : Item} :
    s.Has i ↔ Lr.Brings g s.core i := by
  obtain ⟨k, hk, hcore⟩ := b.exists_kernel hg hs
  rw [hcore, b.has_iff hg hs hk, Lr.mem_closure_iff hg]

theorem nodup_items (hs : a.states[q]? = some s) : (s.items.map Prod.fst).Nodup := by
  obtain ⟨k, hk, -⟩ := b.exists_kernel hg hs
  rw [b.items_of_state hs, Lr.itemsWith, Lr.map_fst_lookaheadClosure, b.map_fst_kernelWith hg hk]
  exact Lr.nodup_closure (b.ordered_kernel hk).nodup fun i hi => b.advanced_of_mem_kernel hk hi

/-- A transition leads to the state whose kernel the marks that move on make up. -/
theorem core_of_transition {x : SymbolId} {r : StateId} (hs : a.states[q]? = some s)
    (hx : (x, r) ∈ s.transitions) :
    ∃ s', a.states[r]? = some s' ∧ s'.core = Lr.successor g s.core x := by
  obtain ⟨k, hk, leads, -⟩ := b.explored.moves q _ (b.transitions_of_state hs)
  have target := leads _ hx
  obtain ⟨s', hs'⟩ := b.exists_state target
  refine ⟨s', hs', Set.ext fun i => ?_⟩
  rw [b.core_eq hg hs' target, b.core_eq hg hs hk]
  exact Lr.mem_goto_iff hg

/-- Over the symbols after marks, and over no others, transitions lead on. -/
theorem exists_transition_iff {x : SymbolId} (hs : a.states[q]? = some s) :
    (∃ r, (x, r) ∈ s.transitions) ↔ (Lr.successor g s.core x).Nonempty := by
  obtain ⟨k, hk, leads, hmap⟩ := b.explored.moves q _ (b.transitions_of_state hs)
  have next : x ∈ s.transitions.map Prod.fst ↔ ∃ i ∈ Lr.closure g k, i.next g = some x := by
    rw [hmap, Lr.mem_nextSymbols]
  constructor
  · rintro ⟨r, hr⟩
    obtain ⟨i, hi, hx⟩ := next.1 (List.mem_map_of_mem hr)
    exact ⟨i.advance, i, (b.has_iff_brings hg hs).1 ((b.has_iff hg hs hk).2 hi), hx, rfl⟩
  · rintro ⟨-, j, hj, hx, -⟩
    have hj := (b.has_iff hg hs hk).1 ((b.has_iff_brings hg hs).2 hj)
    obtain ⟨⟨x', r⟩, hr, rfl⟩ := List.mem_map.1 (next.2 ⟨j, hj, hx⟩)
    exact ⟨r, hr⟩

theorem transition_iff (hf : b.found.Searched) {x : SymbolId} {r : StateId}
    (hs : a.states[q]? = some s) :
    (x, r) ∈ s.transitions ↔ (Lr.successor g s.core x).Nonempty ∧
      ∃ s', a.states[r]? = some s' ∧ s'.core = Lr.successor g s.core x := by
  constructor
  · intro hx
    exact ⟨(b.exists_transition_iff hg hs).1 ⟨r, hx⟩, b.core_of_transition hg hs hx⟩
  · rintro ⟨hne, s', hs', hcore⟩
    obtain ⟨r', hr'⟩ := (b.exists_transition_iff hg hs).2 hne
    obtain ⟨s'', hs'', hcore'⟩ := b.core_of_transition hg hs hr'
    exact b.eq_of_core hg hf hs'' hs' (hcore'.trans hcore.symm) ▸ hr'

/-- Over one symbol there is one transition. -/
theorem eq_of_transitions {x : SymbolId} {r r' : StateId} (hf : b.found.Searched)
    (hs : a.states[q]? = some s) (hr : (x, r) ∈ s.transitions) (hr' : (x, r') ∈ s.transitions) :
    r = r' := by
  obtain ⟨t, ht, hcore⟩ := b.core_of_transition hg hs hr
  obtain ⟨t', ht', hcore'⟩ := b.core_of_transition hg hs hr'
  exact b.eq_of_core hg hf ht ht' (hcore.trans hcore'.symm)

omit hg in
/-- A state but the first is entered from one found before it. -/
theorem exists_entry (hf : b.found.Searched) (hq : 0 < q) (hs : a.states[q]? = some s) :
    ∃ p t x, p < q ∧ a.states[p]? = some t ∧ (x, q) ∈ t.transitions := by
  obtain ⟨p, x, transitions, hlt, hp, hx⟩ := hf.entered q hq (b.lt_of_state hs)
  have hsize : p < b.found.kernels.size := Nat.lt_trans hlt (b.lt_of_state hs)
  obtain ⟨t, ht⟩ := b.exists_state (Array.getElem?_eq_getElem hsize)
  have := b.transitions_of_state ht
  rw [hp] at this
  exact ⟨p, t, x, hlt, ht, Option.some.inj this ▸ hx⟩

theorem isKernel_core (hf : b.found.Searched) (hs : a.states[q]? = some s) :
    Lr.IsKernel g s.core := by
  induction q using Nat.strongRecOn generalizing s with
  | ind q ih =>
    rcases Nat.eq_zero_or_pos q with rfl | hq
    · rw [b.core_eq hg hs b.explored.start]
      have : {i | i ∈ [g.startItem]} = ({g.startItem} : Set Item) := by ext; simp
      exact this ▸ .start
    · obtain ⟨p, t, x, hlt, ht, hx⟩ := b.exists_entry hf hq hs
      obtain ⟨hne, s', hs', hcore⟩ := (b.transition_iff hg hf ht).1 hx
      obtain rfl := Option.some.inj (hs.symm.trans hs')
      exact hcore ▸ .successor (ih p hlt ht) hne

theorem isKernel_iff (hf : b.found.Searched) {kernel : Set Item} :
    Lr.IsKernel g kernel ↔ ∃ (q : StateId) (s : LrState), a.states[q]? = some s ∧ s.core = kernel := by
  constructor
  · intro h
    induction h with
    | start =>
      obtain ⟨s, hs⟩ := b.exists_state b.explored.start
      refine ⟨0, s, hs, ?_⟩
      rw [b.core_eq hg hs b.explored.start]
      ext
      simp
    | successor _ hx ih =>
      obtain ⟨q, s, hs, rfl⟩ := ih
      obtain ⟨r, hr⟩ := (b.exists_transition_iff hg hs).2 hx
      obtain ⟨s', hs', hcore⟩ := b.core_of_transition hg hs hr
      exact ⟨r, s', hs', hcore⟩
  · rintro ⟨q, s, hs, rfl⟩
    exact b.isKernel_core hg hf hs

/-! ## Lookaheads -/

omit hg in
theorem exists_leads (hf : b.found.Searched) (hs : a.states[q]? = some s) : ∃ row, a.Leads row q := by
  induction q using Nat.strongRecOn generalizing s with
  | ind q ih =>
    rcases Nat.eq_zero_or_pos q with rfl | hq
    · exact ⟨[], .start⟩
    · obtain ⟨p, t, x, hlt, ht, hx⟩ := b.exists_entry hf hq hs
      obtain ⟨row, hrow⟩ := ih p hlt ht
      exact ⟨row ++ [x], hrow.step ht hx⟩

/-- What arises along a row is expected in the state that the row leads to. -/
theorem expects_of_arises (hf : b.found.Searched) {row : List SymbolId} {i : Item} {t : SymbolId}
    (h : g.Arises row i t) :
    ∀ {q : StateId}, a.Leads row q → ∃ s, a.states[q]? = some s ∧ s.Expects i t := by
  induction h with
  | start =>
    intro q hq
    obtain rfl := leads_nil hq
    exact b.expects_start hg
  | @advance row i x t _ hx ih =>
    intro r hr
    obtain ⟨q, s, hq, hs, hxr⟩ := leads_append hr
    obtain ⟨s, hs', hi⟩ := ih hq
    obtain rfl := Option.some.inj (hs.symm.trans hs')
    obtain ⟨r', s', hlookup, hs', hadvance⟩ := b.expects_advance hg hs hi hx
    obtain ⟨l₁, l₂, hl, -⟩ := List.lookup_eq_some_iff.1 hlookup
    have hxr' : (x, r') ∈ s.transitions := hl ▸ List.mem_append_right l₁ List.mem_cons_self
    exact ⟨s', b.eq_of_transitions hg hf hs hxr hxr' ▸ hs', hadvance⟩
  | @bring row w i x t t' p _ hx hp hw ht ih =>
    intro q hq
    obtain ⟨s, hs, hi⟩ := ih hq
    obtain ⟨rest, hrest⟩ : ∃ rest, w ++ t :: [] = t' :: rest := by
      cases hwt : w ++ [t] with
      | nil => simp at hwt
      | cons u rest =>
        rw [hwt] at ht
        exact ⟨rest, by rw [Option.some.inj ht]⟩
    exact ⟨s, hs, b.expects_of_yields hg hs hi hx (Lr.isTerminal_of_mem_productionsOf hg hp) hw
      hrest hp⟩

/-- Every item of a state arises along each row that leads there, with some terminal after it. -/
theorem arises_of_leads (hp : g.Productive) {row : List SymbolId} (h : a.Leads row q)
    (hs : a.states[q]? = some s) {i : Item} (hi : s.Has i) : ∃ t, g.Arises row i t := by
  have closed {row : List SymbolId} {kernel : List Item}
      (hk : ∀ i ∈ kernel, ∃ t, g.Arises row i t) :
      ∀ i ∈ Lr.closure g kernel, ∃ t, g.Arises row i t := by
    refine Lr.closure_induction hk ?_
    rintro i x p ⟨t, ht⟩ hx hp'
    obtain ⟨w, hw⟩ := hp.exists_yields fun s hs =>
      hg.isSymbol_of_mem_rhs (i := i.production) (List.mem_of_mem_drop hs)
    cases hwt : (w ++ [t]).head? with
    | none => simp at hwt
    | some t' => exact ⟨t', ht.bring hx hp' hw hwt⟩
  induction h generalizing s i with
  | start =>
    refine closed (fun i hi => ?_) i ((b.has_iff hg hs b.explored.start).1 hi)
    exact ⟨endSymbol, List.mem_singleton.1 hi ▸ .start⟩
  | @step row q r s' x _ hs' hx ih =>
    obtain ⟨k, hk, leads, -⟩ := b.explored.moves q _ (b.transitions_of_state hs')
    refine closed (fun i hi => ?_) i ((b.has_iff hg hs (leads _ hx)).1 hi)
    obtain ⟨j, hj, hn, rfl⟩ := Lr.mem_goto.1 hi
    obtain ⟨t, ht⟩ := ih hs' ((b.has_iff hg hs' hk).2 hj)
    exact ⟨t, ht.advance hn⟩

omit b in
/-- Along the rows that lead to a state its nonterminals bring in their productions. -/
theorem handsOn (hp : g.Productive) (q : StateId) :
    Lr.HandsOn g (.ofGrammar g) (fun i => ∃ row t, a.Leads row q ∧ g.Arises row i t)
      (fun i t => ∃ row, a.Leads row q ∧ g.Arises row i t) := by
  have symbols (i : Item) : ∀ s ∈ i.rest g, g.IsSymbol s := fun s hs =>
    hg.isSymbol_of_mem_rhs (i := i.production) (List.mem_of_mem_drop hs)
  refine ⟨?_, ?_, ?_⟩
  · rintro i x p ⟨row, t, hrow, ht⟩ hx hp'
    obtain ⟨w, hw⟩ := hp.exists_yields (symbols i)
    cases hwt : (w ++ [t]).head? with
    | none => simp at hwt
    | some t' => exact ⟨row, t', hrow, ht.bring hx hp' hw hwt⟩
  · rintro i x p t ⟨row, t', hrow, ht⟩ hx hp' hfirst
    obtain ⟨w, hw, hhead⟩ := FirstSets.exists_yields_of_allows hg hp (v := [t]) (symbols i) hfirst
    refine ⟨row, hrow, ht.bring hx hp' hw ?_⟩
    rw [List.head?_append, hhead]
    rfl
  · rintro i x p t ⟨row, hrow, ht⟩ hx hp' hnull
    obtain ⟨w, hw, hhead⟩ := FirstSets.exists_yields_of_allows hg hp (v := []) (symbols i) hnull
    obtain rfl := List.head?_eq_none_iff.1 hhead
    exact ⟨row, hrow, ht.bring hx hp' hw rfl⟩

/-- What is expected in a state arises along some row that leads there. -/
theorem arises_of_expects (hp : g.Productive) (hf : b.found.Searched) (hs : a.states[q]? = some s)
    {i : Item} {t : SymbolId} (h : s.Expects i t) : ∃ row, a.Leads row q ∧ g.Arises row i t := by
  -- Lookaheads come from the start and are handed on, so it is enough that `Arises` has these rules too.
  have kernels : ∀ q kernel, b.found.kernels[q]? = some kernel → ∀ i ∈ kernel,
      ∃ row t, a.Leads row q ∧ g.Arises row i t := by
    intro q kernel hk i hi
    obtain ⟨s, hs⟩ := b.exists_state hk
    obtain ⟨row, hrow⟩ := b.exists_leads hf hs
    have hi : s.Has i := (b.has_iff hg hs hk).2 (Lr.mem_closure.2 (.inl hi))
    obtain ⟨t, ht⟩ := b.arises_of_leads hg hp hrow hs hi
    exact ⟨row, t, hrow, ht⟩
  have moves : ∀ q r x i t transitions, b.found.transitions[q]? = some transitions →
      (x, r) ∈ transitions → (∃ row, a.Leads row q ∧ g.Arises row i t) → i.next g = some x →
      ∃ row, a.Leads row r ∧ g.Arises row i.advance t := by
    rintro q r x i t transitions hq hx ⟨row, hrow, ht⟩ hn
    have hlt : q < b.found.kernels.size :=
      b.explored.all_visited ▸ (Array.getElem?_eq_some_iff.1 hq).1
    obtain ⟨s, hs⟩ := b.exists_state (Array.getElem?_eq_getElem hlt)
    obtain rfl := Option.some.inj (hq.symm.trans (b.transitions_of_state hs))
    exact ⟨row ++ [x], hrow.step hs hx, ht.advance hn⟩
  have start : ∀ q kernel, b.found.kernels[q]? = some kernel → g.startItem ∈ kernel →
      ∃ row, a.Leads row q ∧ g.Arises row g.startItem endSymbol := by
    intro q kernel hk hi
    by_cases hq : q = 0
    · exact ⟨[], hq ▸ .start, .start⟩
    · exact absurd (b.dot_pos_of_mem_kernel hq hk hi).1 (Nat.lt_irrefl 0)
  have sound := Lr.onKernels_lookaheads hg kernels (fun q _ => handsOn hg hp q) moves start
  obtain ⟨la, hi, ht⟩ := h
  rw [b.items_of_state hs] at hi
  exact Lr.OnKernels.itemsWith hg kernels (fun q _ => handsOn hg hp q) sound (b.lt_of_state hs)
    _ hi t ht

end Built

/-- The terminal 3 as nonterminal 7, between 1 and 4 or between 2 and 5: the two places share the state
behind the terminal. -/
def shared : FlatGrammar where
  name := "shared"
  symbols := #[]
  terminalCount := 6
  nonterminalCount := 2
  externalCount := 0
  fields := []
  productions := #[
    { lhs := 6, children := [{ symbol := 1 }, { symbol := 7 }, { symbol := 4 }] },
    { lhs := 6, children := [{ symbol := 2 }, { symbol := 7 }, { symbol := 5 }] },
    { lhs := 7, children := [{ symbol := 3 }] }]
  start := 6
  terminals := #[]
  padding := none
  extras := []
  word := none
  recovery := []
  conflicts := []
  owners := #[]

end Automaton

end IncrementalGlr
