import Mathlib.Data.List.Perm.Subperm
import IncrementalGlr.Proofs.Lr.Lalr

/-!
When the search for states comes to its end. It finds nothing but kernels of the grammar, and each of
them once, so it never has more states than there are kernels (`Found.size_le`). The search does not
give up if a table has room for all kernels, and it does if there is none
(`Automaton.exists_ofGrammar_iff`).
-/
namespace IncrementalGlr.Lr

variable {g : FlatGrammar} {kernels : List (Set Item)}

namespace Found

variable {f : Found}

/-- A search under way finds kernels of the grammar only. -/
theorem isKernel_of_getElem? (hg : g.InRange) (sound : f.Sound g) (searched : f.Searched) {q : Nat}
    {kernel : List Item} (hk : f.kernels[q]? = some kernel) : IsKernel g {i | i ∈ kernel} := by
  induction q using Nat.strongRecOn generalizing kernel with
  | ind q ih =>
    rcases Nat.eq_zero_or_pos q with rfl | hq
    · obtain rfl := Option.some.inj (sound.start.symm.trans hk)
      have only : {i | i ∈ [g.startItem]} = ({g.startItem} : Set Item) := by ext; simp
      exact only ▸ .start
    · obtain ⟨p, x, transitions, hlt, hp, hx⟩ :=
        searched.entered q hq (Array.getElem?_eq_some_iff.1 hk).1
      obtain ⟨before, hbefore, leads, hnext⟩ := sound.moves p transitions hp
      obtain rfl := Option.some.inj ((leads _ hx).symm.trans hk)
      have same : {i | i ∈ goto g (closure g before) x} = successor g {i | i ∈ before} x :=
        Set.ext fun i => mem_goto_iff hg
      obtain ⟨i, hi, hi'⟩ := mem_nextSymbols.1 (hnext ▸ List.mem_map_of_mem hx)
      have moved : i.advance ∈ goto g (closure g before) x := mem_goto.2 ⟨i, hi, hi', rfl⟩
      rw [same]
      exact .successor (ih p hlt hbefore) ⟨i.advance, (mem_goto_iff hg).1 moved⟩

theorem ordered_of_getElem? (sound : f.Sound g) {q : Nat} {kernel : List Item}
    (hk : f.kernels[q]? = some kernel) : Ordered kernel := by
  by_cases hq : q = 0
  · subst hq
    exact Option.some.inj (sound.start.symm.trans hk) ▸ ordered_singleton _
  · obtain ⟨items, x, -, rfl⟩ := sound.entered q kernel hq hk
    exact ordered_goto items x

/-- No two places of a search hold the same items. -/
theorem nodup_kernels (sound : f.Sound g) (searched : f.Searched) :
    (f.kernels.toList.map fun kernel => {i | i ∈ kernel}).Nodup := by
  refine List.nodup_iff_getElem?_ne_getElem?.2 fun q r hlt hr same => ?_
  have place (q : Nat) : (f.kernels.toList.map fun kernel => {i | i ∈ kernel})[q]? =
      f.kernels[q]?.map fun kernel => {i | i ∈ kernel} := by
    rw [List.getElem?_map, Array.getElem?_toList]
  rw [List.length_map, Array.length_toList] at hr
  obtain ⟨k, hk⟩ : ∃ k, f.kernels[q]? = some k := ⟨_, Array.getElem?_eq_getElem (hlt.trans hr)⟩
  obtain ⟨k', hk'⟩ : ∃ k', f.kernels[r]? = some k' := ⟨_, Array.getElem?_eq_getElem hr⟩
  rw [place, place, hk, hk', Option.map_some, Option.map_some] at same
  have items : ∀ i, i ∈ k ↔ i ∈ k' := Set.ext_iff.1 (Option.some.inj same)
  obtain rfl := (ordered_of_getElem? sound hk).eq_of_sameItems (ordered_of_getElem? sound hk') items
  exact absurd (searched.distinct q r k hk hk') (Nat.ne_of_lt hlt)

theorem size_le (hg : g.InRange) (sound : f.Sound g) (searched : f.Searched)
    (all : ∀ kernel, IsKernel g kernel → kernel ∈ kernels) : f.kernels.size ≤ kernels.length := by
  have found : f.kernels.toList.map (fun kernel => {i | i ∈ kernel}) ⊆ kernels := by
    intro items h
    obtain ⟨kernel, hk, rfl⟩ := List.mem_map.1 h
    obtain ⟨q, hq⟩ := Array.getElem?_of_mem (Array.mem_toList_iff.1 hk)
    exact all _ (isKernel_of_getElem? hg sound searched hq)
  have := ((nodup_kernels sound searched).subperm found).length_le
  rwa [List.length_map, Array.length_toList] at this

/-- While states are left to be visited each round visits one. -/
theorem exists_explore (hg : g.InRange) (few : kernels.length ≤ maxStates)
    (all : ∀ kernel, IsKernel g kernel → kernel ∈ kernels) {fuel : Nat} (sound : f.Sound g)
    (searched : f.Searched) (hfuel : maxStates < f.transitions.size + fuel) :
    ∃ f', Found.explore g fuel f = some f' := by
  induction fuel generalizing f with
  | zero =>
    have visited := sound.visited
    have := size_le hg sound searched all
    omega
  | succ fuel ih =>
    rw [Found.explore]
    split
    · exact ⟨f, rfl⟩
    · next kernel hk =>
      have sound' := sound.visit hk
      have searched' := searched.visit (g := g) hk
      have size := size_le hg sound' searched' all
      rw [if_neg (Nat.not_lt.2 (Nat.le_trans size few))]
      have visited : (f.visit g kernel).transitions.size = f.transitions.size + 1 :=
        Array.size_push _
      exact ih sound' searched' (by omega)

end Found

theorem exists_states (hg : g.InRange) (few : kernels.length ≤ maxStates)
    (all : ∀ kernel, IsKernel g kernel → kernel ∈ kernels) : ∃ f, states g = some f :=
  Found.exists_explore hg few all Found.sound_start Found.searched_start
    (Nat.lt_of_lt_of_eq (Nat.lt_succ_self _) (Nat.zero_add _).symm)

end IncrementalGlr.Lr

namespace IncrementalGlr.Automaton

variable {g : FlatGrammar} {a : Automaton} {kernels : List (Set Item)}

/-- Every kernel has a state, so there are no more of them than fit in a table. -/
theorem Built.length_kernels_le (b : a.Built g) (hf : b.found.Searched) (hg : g.InRange)
    (nodup : kernels.Nodup) (each : ∀ kernel ∈ kernels, Lr.IsKernel g kernel) :
    kernels.length ≤ maxStates := by
  have found : kernels ⊆ b.found.kernels.toList.map fun kernel => {i | i ∈ kernel} := by
    intro items h
    obtain ⟨q, s, hs, rfl⟩ := (b.isKernel_iff hg hf).1 (each items h)
    obtain ⟨kernel, hk, hcore⟩ := b.exists_kernel hg hs
    exact hcore ▸ List.mem_map_of_mem (Array.mem_toList_iff.2 (Array.mem_of_getElem? hk))
  have size := (nodup.subperm found).length_le
  rw [List.length_map, Array.length_toList] at size
  exact Nat.le_trans size b.explored.few

/-- An automaton is built just if there are not too many kernels. -/
theorem exists_ofGrammar_iff (hg : g.InRange) (nodup : kernels.Nodup)
    (all : ∀ kernel, Lr.IsKernel g kernel ↔ kernel ∈ kernels) :
    (∃ a, Automaton.ofGrammar g (.ofGrammar g) = some a) ↔ kernels.length ≤ maxStates := by
  constructor
  · rintro ⟨a, ha⟩
    obtain ⟨b, hfound⟩ := exists_found ha
    exact b.length_kernels_le (Lr.searched_of_states hfound) hg nodup fun kernel => (all kernel).2
  · intro few
    obtain ⟨f, hf⟩ := Lr.exists_states hg few fun kernel => (all kernel).1
    rw [Automaton.ofGrammar, hf]
    exact ⟨_, rfl⟩

end IncrementalGlr.Automaton
