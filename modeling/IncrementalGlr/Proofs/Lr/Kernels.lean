import Mathlib.Data.List.Nodup
import Mathlib.Data.Set.Basic
import IncrementalGlr.Proofs.Lr.Automaton

/-!
Kernels as sets of items, said of the grammar alone: from the kernel of the start item each symbol
leads to the kernel of the items whose marks move on over it (`IsKernel`). The search for states finds
each of these kernels once: the list that stands for a kernel is sorted and has no item twice, so
kernels with the same items are the same list (`eq_of_sameItems`), a kernel is added only if it is not
there (`Searched.distinct`), and every state but the first was entered from one before it
(`Searched.entered`).
-/
namespace IncrementalGlr

namespace Lr

variable {g : FlatGrammar}

/-! ## Kernels of a grammar -/

/-- The items of a kernel, and those that nonterminals after marks bring in. -/
inductive Brings (g : FlatGrammar) (kernel : Set Item) : Item → Prop where
  | kernel {i : Item} (h : i ∈ kernel) : Brings g kernel i
  | bring {i : Item} {x : SymbolId} {p : ProductionId} (h : Brings g kernel i)
      (hx : i.next g = some x) (hp : p ∈ g.productionsOf x) : Brings g kernel ⟨p, 0⟩

/-- The items whose marks have moved on over a symbol. -/
def successor (g : FlatGrammar) (kernel : Set Item) (x : SymbolId) : Set Item :=
  {i | ∃ j, Brings g kernel j ∧ j.next g = some x ∧ j.advance = i}

/-- The kernels that symbols lead to from the start item. -/
inductive IsKernel (g : FlatGrammar) : Set Item → Prop where
  | start : IsKernel g {g.startItem}
  | successor {kernel : Set Item} {x : SymbolId} (h : IsKernel g kernel)
      (hx : (successor g kernel x).Nonempty) : IsKernel g (successor g kernel x)

/-! ## Closures -/

/-- What holds of the items of a kernel, and of all items that one of which it holds brings in, holds
of the closure. -/
theorem closure_induction {P : Item → Prop} {kernel : List Item} (hk : ∀ i ∈ kernel, P i)
    (hb : ∀ i x p, P i → i.next g = some x → p ∈ g.productionsOf x → P ⟨p, 0⟩) :
    ∀ i ∈ closure g kernel, P i := by
  have after : ∀ s ∈ predicted g kernel, ∃ i, P i ∧ i.next g = some s := by
    refine settle_induction (p := fun found => ∀ s ∈ found, ∃ i, P i ∧ i.next g = some s) ?_ _ ?_
    · intro found h s hs
      rcases mem_predictStep.1 hs with hs | ⟨-, -, t, ht, p, hp, hn⟩
      · exact h s hs
      · obtain ⟨i, hi, hnext⟩ := h t ht
        exact ⟨⟨p, 0⟩, hb i t p hi hnext hp, hn⟩
    · intro s hs
      obtain ⟨⟨i, hi, hn⟩, -⟩ := mem_afterMarks.1 hs
      exact ⟨i, hk i hi, hn⟩
  intro i hi
  rcases mem_closure.1 hi with hi | ⟨s, hs, p, hp, rfl⟩
  · exact hk i hi
  · obtain ⟨j, hj, hn⟩ := after s hs
    exact hb j s p hj hn hp

theorem isTerminal_of_mem_productionsOf (hg : g.InRange) {x : SymbolId} {p : ProductionId}
    (hp : p ∈ g.productionsOf x) : g.isTerminal x = false := by
  obtain ⟨production, hprod, rfl⟩ := FlatGrammar.mem_productionsOf.1 hp
  have := (hg.lhs production (FlatGrammar.mem_productions_iff.2 ⟨p, hprod⟩)).1
  exact decide_eq_false (Nat.not_lt.2 this)

/-- What a nonterminal after a mark brings in is in the closure too. -/
theorem bring_mem_closure (hg : g.InRange) {kernel : List Item} {i : Item} {x : SymbolId}
    {p : ProductionId} (hi : i ∈ closure g kernel) (hx : i.next g = some x)
    (hp : p ∈ g.productionsOf x) : ⟨p, 0⟩ ∈ closure g kernel := by
  have hpred := mem_predicted_of_mem_closure hg hi hx (isTerminal_of_mem_productionsOf hg hp)
  exact mem_closure.2 (.inr ⟨x, hpred, p, hp, rfl⟩)

theorem mem_closure_iff (hg : g.InRange) {kernel : List Item} {i : Item} :
    i ∈ closure g kernel ↔ Brings g {i | i ∈ kernel} i := by
  constructor
  · exact closure_induction (fun _ h => .kernel h) (fun _ _ _ h hx hp => .bring h hx hp) i
  · intro h
    induction h with
    | kernel h => exact mem_closure.2 (.inl h)
    | bring _ hx hp ih => exact bring_mem_closure hg ih hx hp

theorem mem_goto_iff (hg : g.InRange) {kernel : List Item} {x : SymbolId} {i : Item} :
    i ∈ goto g (closure g kernel) x ↔ i ∈ successor g {i | i ∈ kernel} x := by
  rw [mem_goto]
  constructor
  · rintro ⟨j, hj, hx, hi⟩
    exact ⟨j, (mem_closure_iff hg).1 hj, hx, hi⟩
  · rintro ⟨j, hj, hx, hi⟩
    exact ⟨j, (mem_closure_iff hg).2 hj, hx, hi⟩

/-! ## One list for each kernel -/

theorem nodup_eraseDups {α : Type} [DecidableEq α] (l : List α) : l.eraseDups.Nodup := by
  generalize hn : l.length = n
  induction n using Nat.strongRecOn generalizing l with
  | ind n ih =>
    cases l with
    | nil => exact List.nodup_nil
    | cons a l =>
      rw [List.eraseDups_cons, List.nodup_cons]
      refine ⟨fun h => ?_, ih _ ?_ _ rfl⟩
      · have := (List.mem_filter.1 (List.mem_eraseDups.1 h)).2
        simp at this
      · have := List.length_filter_le (fun b => !b == a) l
        rw [← hn, List.length_cons]
        omega

theorem le_iff {a b : Item} : a.le b = true ↔ @LT.lt Nat _ a.production b.production ∨
    @Eq Nat a.production b.production ∧ a.dot ≤ b.dot := by
  simp only [Item.le, Bool.or_eq_true, Bool.and_eq_true, decide_eq_true_eq, beq_iff_eq]

theorem le_trans (a b c : Item) (hab : a.le b = true) (hbc : b.le c = true) :
    a.le c = true := by
  rw [le_iff] at *
  omega

theorem le_total (a b : Item) : (a.le b || b.le a) = true := by
  rw [Bool.or_eq_true, le_iff, le_iff]
  omega

theorem le_antisymm (a b : Item) (hab : a.le b = true) (hba : b.le a = true) : a = b := by
  rw [le_iff] at hab hba
  have production : @Eq Nat a.production b.production := by omega
  have dot : a.dot = b.dot := by omega
  cases a
  cases b
  exact congr (congrArg Item.mk production) dot

/-- A list of items as the search for states makes them. -/
structure Ordered (kernel : List Item) : Prop where
  sorted : kernel.Pairwise fun a b => a.le b = true
  nodup : kernel.Nodup

theorem ordered_singleton (i : Item) : Ordered [i] :=
  ⟨List.pairwise_singleton _ i, List.nodup_singleton i⟩

theorem ordered_goto (items : List Item) (x : SymbolId) : Ordered (goto g items x) where
  sorted := List.pairwise_mergeSort le_trans le_total _
  nodup := (List.mergeSort_perm _ _).nodup_iff.2 (nodup_eraseDups _)

/-- Ordered lists of the same items are the same. -/
theorem Ordered.eq_of_sameItems {k k' : List Item} (h : Ordered k) (h' : Ordered k')
    (same : ∀ i, i ∈ k ↔ i ∈ k') : k = k' :=
  List.Perm.eq_of_pairwise (fun a b _ _ => le_antisymm a b) h.sorted h'.sorted
    ((List.perm_ext_iff_of_nodup h.nodup h'.nodup).2 same)

/-! ## Each item once -/

theorem nodup_predicted (kernel : List Item) : (predicted g kernel).Nodup := by
  refine settle_induction (p := List.Nodup) (fun found h => ?_) _ (nodup_eraseDups _)
  refine List.nodup_append.2 ⟨h, nodup_eraseDups _, fun s hs t ht hst => ?_⟩
  have fresh := (List.mem_filter.1 (List.mem_eraseDups.1 ht)).2
  rw [← hst] at fresh
  simp [hs] at fresh

theorem eq_of_mem_productionsOf {s t : SymbolId} {p : ProductionId} (hs : p ∈ g.productionsOf s)
    (ht : p ∈ g.productionsOf t) : s = t := by
  obtain ⟨production, hp, rfl⟩ := FlatGrammar.mem_productionsOf.1 hs
  obtain ⟨production', hp', rfl⟩ := FlatGrammar.mem_productionsOf.1 ht
  rw [Option.some.inj (hp.symm.trans hp')]

/-- An item of a kernel is that of the whole text, or has something before its mark. -/
def Advanced (g : FlatGrammar) (i : Item) : Prop := i = g.startItem ∨ 0 < i.dot

/-- The closure has each item once, as what is brought in has its mark at the beginning. -/
theorem nodup_closure {kernel : List Item} (h : kernel.Nodup) (hk : ∀ i ∈ kernel, Advanced g i) :
    (closure g kernel).Nodup := by
  refine List.nodup_append.2 ⟨h, List.nodup_flatMap.2 ⟨fun s _ => ?_, ?_⟩, ?_⟩
  · refine List.Nodup.map (fun p p' hpp => congrArg Item.production hpp) ?_
    exact List.Nodup.filter _ List.nodup_range
  · refine (nodup_predicted kernel).imp fun {s t} hne i hs ht => hne ?_
    obtain ⟨p, hp, rfl⟩ := List.mem_map.1 hs
    obtain ⟨p', hp', hpp⟩ := List.mem_map.1 ht
    obtain rfl : p' = p := congrArg Item.production hpp
    exact eq_of_mem_productionsOf hp hp'
  · rintro i hi j hj rfl
    obtain ⟨s, -, hs⟩ := List.mem_flatMap.1 hj
    obtain ⟨p, hp, rfl⟩ := List.mem_map.1 hs
    rcases hk _ hi with hstart | hpos
    · obtain ⟨production, hprod, -⟩ := FlatGrammar.mem_productionsOf.1 hp
      have hlt := (Array.getElem?_eq_some_iff.1 hprod).1
      exact absurd (congrArg Item.production hstart) (Nat.ne_of_lt hlt)
    · exact absurd hpos (Nat.lt_irrefl 0)

/-! ## The search -/

namespace Found

/-- Each kernel stands in one place. -/
def Distinct (kernels : Array (List Item)) : Prop :=
  ∀ (q r : StateId) (kernel : List Item), kernels[q]? = some kernel → kernels[r]? = some kernel →
    q = r

/-- Transitions that are added keep kernels distinct, and lead to the kernels that are new. -/
structure Entering (before : Nat) (acc : Array (List Item) × List (SymbolId × StateId)) : Prop where
  distinct : Distinct acc.1
  grown : before ≤ acc.1.size
  entered : ∀ r : Nat, before ≤ r → r < acc.1.size → ∃ x, (x, r) ∈ acc.2

theorem Distinct.push {kernels : Array (List Item)} (h : Distinct kernels) {kernel : List Item}
    (hnew : ∀ k ∈ kernels, (k == kernel) = false) : Distinct (kernels.push kernel) := by
  have old {q : StateId} {k : List Item} (hq : (kernels.push kernel)[q]? = some k)
      (hne : q ≠ kernels.size) : kernels[q]? = some k := by
    rwa [Array.getElem?_push, if_neg hne] at hq
  have new {q : StateId} (hq : kernels[q]? = some kernel) : False := by
    have := hnew kernel (Array.mem_of_getElem? hq)
    simp at this
  intro q r k hq hr
  by_cases hq' : q = kernels.size
  · by_cases hr' : r = kernels.size
    · rw [hq', hr']
    · rw [hq', Array.getElem?_push_size] at hq
      exact (new (Option.some.inj hq ▸ old hr hr')).elim
  · by_cases hr' : r = kernels.size
    · rw [hr', Array.getElem?_push_size] at hr
      exact (new (Option.some.inj hr ▸ old hq hq')).elim
    · exact h q r k (old hq hq') (old hr hr')

theorem Entering.addTransition {before : Nat} {acc : Array (List Item) × List (SymbolId × StateId)}
    (h : Entering before acc) (t : SymbolId × List Item) :
    Entering before (Found.addTransition acc t) := by
  unfold Found.addTransition
  cases hf : acc.1.findIdx? (· == t.2) with
  | some q =>
    refine ⟨h.distinct, h.grown, fun r hr hlt => ?_⟩
    obtain ⟨x, hx⟩ := h.entered r hr hlt
    exact ⟨x, List.mem_append_left _ hx⟩
  | none =>
    refine ⟨h.distinct.push (Array.findIdx?_eq_none_iff.1 hf), ?_, fun r hr hlt => ?_⟩
    · rw [Array.size_push]
      exact Nat.le_succ_of_le h.grown
    · rw [Array.size_push] at hlt
      rcases Nat.lt_or_eq_of_le (Nat.le_of_lt_succ hlt) with hlt | rfl
      · obtain ⟨x, hx⟩ := h.entered r hr hlt
        exact ⟨x, List.mem_append_left _ hx⟩
      · exact ⟨t.1, List.mem_append_right _ List.mem_cons_self⟩

theorem Entering.foldl {before : Nat} {acc : Array (List Item) × List (SymbolId × StateId)}
    (h : Entering before acc) (items : List Item) (ss : List SymbolId) :
    Entering before (ss.foldl (fun acc s => Found.addTransition acc (s, goto g items s)) acc) := by
  induction ss generalizing acc with
  | nil => exact h
  | cons s rest ih => exact ih (h.addTransition _)

/-- The search so far: no kernel was found twice, and each but the first was entered from a state
found before it. -/
structure Searched (f : Found) : Prop where
  distinct : Distinct f.kernels
  entered : ∀ r : Nat, 0 < r → r < f.kernels.size → ∃ (q : Nat) (x : SymbolId)
    (transitions : List (SymbolId × StateId)), q < r ∧ f.transitions[q]? = some transitions ∧
      (x, r) ∈ transitions

theorem searched_start : Searched ⟨#[[g.startItem]], #[]⟩ where
  distinct q r kernel hq hr := by
    have hq : q < 1 := (Array.getElem?_eq_some_iff.1 hq).1
    have hr : r < 1 := (Array.getElem?_eq_some_iff.1 hr).1
    rw [Nat.lt_one_iff.1 hq, Nat.lt_one_iff.1 hr]
  entered r h0 hr := by
    simp only [List.size_toArray, List.length_singleton] at hr
    omega

theorem Searched.visit {f : Found} (h : Searched f) {kernel : List Item}
    (hk : f.kernels[f.transitions.size]? = some kernel) : Searched (f.visit g kernel) := by
  have hlt := (Array.getElem?_eq_some_iff.1 hk).1
  have entering : Entering f.kernels.size (f.kernels, []) :=
    ⟨h.distinct, Nat.le_refl _, fun r hr hlt => absurd hr (Nat.not_le.2 hlt)⟩
  have hfold := entering.foldl (g := g) (closure g kernel) (nextSymbols g (closure g kernel))
  refine ⟨hfold.distinct, fun r h0 hr => ?_⟩
  rcases Nat.lt_or_ge r f.kernels.size with hold | hnew
  · obtain ⟨q, x, transitions, hqr, hq, hx⟩ := h.entered r h0 hold
    have hq' := (Array.getElem?_eq_some_iff.1 hq).1
    refine ⟨q, x, transitions, hqr, ?_, hx⟩
    show (f.transitions.push _)[q]? = _
    rw [Array.getElem?_push, if_neg (Nat.ne_of_lt hq')]
    exact hq
  · obtain ⟨x, hx⟩ := hfold.entered r hnew hr
    exact ⟨f.transitions.size, x, _, Nat.lt_of_lt_of_le hlt hnew, Array.getElem?_push_size, hx⟩

/-- What each visit keeps holds when the search has ended. -/
theorem explore_induction {P : Found → Prop}
    (hvisit : ∀ f kernel, P f → f.kernels[f.transitions.size]? = some kernel → P (f.visit g kernel))
    {fuel : Nat} {f f' : Found} (h : P f) (he : Found.explore g fuel f = some f') : P f' := by
  induction fuel generalizing f with
  | zero => simp [Found.explore] at he
  | succ fuel ih =>
    rw [Found.explore] at he
    split at he
    · exact Option.some.inj he ▸ h
    · next kernel hk =>
      dsimp only at he
      split at he
      · simp at he
      · exact ih (hvisit f kernel h hk) he

end Found

theorem searched_of_states {f : Found} (h : states g = some f) : f.Searched :=
  Found.explore_induction (fun _ _ h hk => h.visit hk) Found.searched_start h

end Lr

end IncrementalGlr
