import IncrementalGlr.Proofs.Parse.Shift

/-!
Which heads are left. Heads are put in order, the best first, and the first of those with the same
states is kept. So as long as no head is dropped for being one too many, every head that takes a
token has among those that are left one with the same states that is at least as good
(`Engine.exists_kept_of_shift`).
-/
namespace IncrementalGlr

namespace Head

/-- Heads are compared by their errors, then by dynamic precedence, then by their choices. -/
theorem preference_eq : preference = compareLex (compareOn errorCost)
    (compareLex (fun a b => compareOn dynamicPrecedence b a)
      (compareOn fun h => h.path.reverse)) := by
  funext a b
  rw [preference, Choices.compare_eq]
  rfl

instance : Std.TransCmp preference := by
  rw [preference_eq]
  infer_instance

theorem preference_self (h : Head) : h.preference h = .eq := Std.ReflCmp.compare_self

theorem dynamicPrecedence_le {a b : Head} (h : a.preference b ≠ .gt)
    (hcost : a.errorCost = b.errorCost) : b.dynamicPrecedence ≤ a.dynamicPrecedence := by
  rw [preference, hcost, Nat.compare_eq_eq.2 rfl] at h
  by_contra hlt
  refine h ?_
  rw [Int.compare_eq_gt.2 (Int.not_le.1 hlt)]
  rfl

theorem not_gt_of_preferredBy {α : Type} {head : α → Head} {xs : List α} {best : α}
    (h : preferredBy head xs = some best) :
    ∀ x ∈ xs, (head best).preference (head x) ≠ .gt := by
  induction xs generalizing best with
  | nil => cases h
  | cons x rest ih =>
    rw [preferredBy] at h
    split at h
    · next hnone =>
      obtain rfl := Option.some.inj h
      rw [eq_nil_of_preferredBy hnone]
      intro y hy
      rw [List.mem_singleton.1 hy, preference_self]
      decide
    · next other hother =>
      split at h
      · next hlt =>
        obtain rfl := Option.some.inj h
        refine List.forall_mem_cons.2 ⟨?_, ih hother⟩
        rw [hlt]
        decide
      · next hge =>
        obtain rfl := Option.some.inj h
        refine List.forall_mem_cons.2 ⟨?_, fun y hy => ?_⟩
        · rw [preference_self]
          decide
        -- The first is at least as good as the best of the rest, which is as good as each of them.
        · have first : ((head x).preference (head other)).isLE = true := by
            rw [(Std.OrientedCmp.eq_swap : (head x).preference (head other) = _)]
            revert hge
            cases (head other).preference (head x) <;> decide
          have second : ((head other).preference (head y)).isLE = true := by
            have := ih hother y hy
            revert this
            cases (head other).preference (head y) <;> decide
          have := Std.TransCmp.isLE_trans first second
          intro hgt
          rw [hgt] at this
          cases this

/-- Heads in the order in which they are merged, the best first. -/
def ordered (heads : List Head) : List Head := heads.mergeSort fun a b => a.preference b != .gt

theorem perm_ordered (heads : List Head) : (ordered heads).Perm heads := List.mergeSort_perm _ _

theorem pairwise_ordered (heads : List Head) :
    (ordered heads).Pairwise fun a b => a.preference b ≠ .gt := by
  have sorted := @List.pairwise_mergeSort Head (fun a b => a.preference b != .gt)
    (fun x y z hxy hyz => by
      have : (x.preference y).isLE → (y.preference z).isLE → (x.preference z).isLE :=
        Std.TransCmp.isLE_trans
      revert this hxy hyz
      cases x.preference y <;> cases y.preference z <;> cases x.preference z <;> decide)
    (fun x y => by
      rw [(Std.OrientedCmp.eq_swap : y.preference x = _)]
      cases x.preference y <;> decide) heads
  exact sorted.imp fun h => by simpa using h

end Head

namespace Stack

theorem sameStates_iff {s s' : Stack} :
    sameStates s s' = true ↔ s.map Entry.state = s'.map Entry.state := by
  induction s generalizing s' with
  | nil => cases s' <;> simp [sameStates]
  | cons e rest ih => cases s' <;> simp [sameStates, ih]

end Stack

namespace Engine

open Parsing

variable {e : Engine} {token : Token} {c c' : Configuration}

theorem exists_kept_of_mergeInto {kept heads merged : List Head}
    (hr : Returns (mergeInto kept heads) c merged c')
    (hkept : ∀ k ∈ kept, ∀ h ∈ heads, k.preference h ≠ .gt)
    (hsorted : heads.Pairwise fun h h' => h.preference h' ≠ .gt) :
    ∀ h ∈ heads, ∃ k ∈ merged, k.stack.sameStates h.stack = true ∧ k.preference h ≠ .gt := by
  induction heads generalizing kept c with
  | nil => exact fun _ h => absurd h List.not_mem_nil
  | cons head rest ih =>
    obtain ⟨hhead, hrest⟩ := List.pairwise_cons.1 hsorted
    rw [mergeInto] at hr
    split at hr
    · next hany =>
      simp only [returns_bind] at hr
      obtain ⟨_, _, -, hr⟩ := hr
      obtain ⟨-, -, hmerged, -⟩ := returns_mergeInto hr
      obtain ⟨k, hk, hsame⟩ := List.any_eq_true.1 hany
      exact List.forall_mem_cons.2 ⟨⟨k, hmerged k hk, hsame, hkept k hk _ List.mem_cons_self⟩,
        ih hr (fun k hk h hh => hkept k hk h (List.mem_cons_of_mem _ hh)) hrest⟩
    · obtain ⟨-, -, hmerged, -⟩ := returns_mergeInto hr
      refine List.forall_mem_cons.2 ⟨⟨head, hmerged head (by simp), ?_, ?_⟩, ih hr ?_ hrest⟩
      · exact Stack.sameStates_iff.2 rfl
      · rw [Head.preference_self]
        decide
      · intro k hk h hh
        rcases List.mem_append.1 hk with hk | hk
        · exact hkept k hk h (List.mem_cons_of_mem _ hh)
        · exact List.mem_singleton.1 hk ▸ hhead h hh

/-- A head that is left alone forgets its choices. -/
def withoutChoices : List Head → List Head
  | [only] => [{ only with path := [] }]
  | heads => heads

theorem exists_mem_withoutChoices {heads : List Head} {h : Head} (hh : h ∈ heads) :
    ∃ k ∈ withoutChoices heads, k.stack = h.stack ∧ k.dynamicPrecedence = h.dynamicPrecedence := by
  unfold withoutChoices
  split
  · obtain rfl := List.mem_singleton.1 hh
    exact ⟨_, List.mem_singleton_self _, rfl, rfl⟩
  · exact ⟨h, hh, rfl, rfl⟩

/-- Merging puts heads in order and keeps the first of those with the same states, as many of them as
there may be. If there are more of them, that is recorded. -/
theorem heads_of_mergeHeads {heads : List Head} {u : Unit}
    (hr : Returns (e.mergeHeads heads) c u c') :
    ∃ merged d, Returns (mergeInto [] (Head.ordered heads)) c merged d ∧
      c'.heads = withoutChoices (merged.take e.options.maxHeads) ∧
      (e.options.maxHeads < merged.length → ∃ n, .prune n ∈ c'.trace) := by
  simp only [mergeHeads, returns_bind] at hr
  obtain ⟨merged, d, hmerge, hr⟩ := hr
  refine ⟨merged, d, hmerge, ?_⟩
  split at hr
  · simp only [returns_bind, returns_record, returns_modify] at hr
    obtain ⟨_, _, rfl, rfl⟩ := hr
    exact ⟨rfl, fun _ => ⟨_, Array.mem_push_self⟩⟩
  · next hlimit =>
    rw [returns_modify.1 hr]
    exact ⟨rfl, fun h => absurd h hlimit⟩

/-- As long as no head is one too many, heads are only dropped for better ones with the same states. -/
theorem exists_better_of_mergeHeads {heads : List Head} {u : Unit}
    (hr : Returns (e.mergeHeads heads) c u c') (hprune : ∀ n, .prune n ∉ c'.trace) :
    ∃ merged, c'.heads = withoutChoices merged ∧ (∀ k ∈ merged, k ∈ heads) ∧
      ∀ h ∈ heads, ∃ k ∈ merged, k.stack.sameStates h.stack = true ∧ k.preference h ≠ .gt := by
  obtain ⟨merged, d, hmerge, left, pruned⟩ := heads_of_mergeHeads hr
  have kept := exists_kept_of_mergeInto hmerge (fun _ h => absurd h List.not_mem_nil)
    (Head.pairwise_ordered heads)
  obtain ⟨-, hsub, -, -⟩ := returns_mergeInto hmerge
  have few : merged.length ≤ e.options.maxHeads := Nat.le_of_not_lt fun hmany => by
    obtain ⟨n, hn⟩ := pruned hmany
    exact hprune n hn
  rw [List.take_of_length_le few] at left
  refine ⟨merged, left, fun k hk => ?_, fun h hh => kept h ((Head.perm_ordered heads).mem_iff.2 hh)⟩
  rcases hsub k hk with hk | hk
  · exact absurd hk List.not_mem_nil
  · exact (Head.perm_ordered heads).mem_iff.1 hk

theorem exists_kept_of_mergeHeads {heads : List Head} {u : Unit}
    (hr : Returns (e.mergeHeads heads) c u c') (hcost : ∀ h ∈ heads, h.errorCost = 0)
    (hprune : ∀ n, .prune n ∉ c'.trace) :
    ∀ h ∈ heads, ∃ k ∈ c'.heads, k.stack.sameStates h.stack = true ∧
      h.dynamicPrecedence ≤ k.dynamicPrecedence := by
  obtain ⟨merged, left, hsub, kept⟩ := exists_better_of_mergeHeads hr hprune
  intro h hh
  obtain ⟨k, hk, hsame, hbest⟩ := kept h hh
  have hle := Head.dynamicPrecedence_le hbest ((hcost k (hsub k hk)).trans (hcost h hh).symm)
  obtain ⟨k', hk', hstack, hprecedence⟩ := exists_mem_withoutChoices hk
  exact ⟨k', left ▸ hk', hstack ▸ hsame, hprecedence ▸ hle⟩

/-- For every head that takes the token, one with the same states that is as good is left. -/
theorem exists_kept_of_shift {shifts : List (Head × Option StateId)} {fragile : Bool} {u : Unit}
    (hr : Returns (e.shift shifts token fragile none) c u c')
    (hcost : ∀ x ∈ shifts, x.1.errorCost = 0) (hprune : ∀ n, .prune n ∉ c'.trace) :
    ∀ x ∈ shifts, ∃ k ∈ c'.heads, ∃ fragile,
      k.stack.sameStates (shifted token fragile none x).stack = true ∧
        x.1.dynamicPrecedence ≤ k.dynamicPrecedence := by
  simp only [shift, returns_bind, returns_modify] at hr
  obtain ⟨heads, d, hmap, _, _, rfl, hr⟩ := hr
  obtain ⟨-, rfl⟩ := returns_mapM_shiftHead hmap
  intro x hx
  obtain ⟨k, hk, hsame, hle⟩ := exists_kept_of_mergeHeads hr (fun h hh => by
    obtain ⟨x, hx, rfl⟩ := List.mem_map.1 hh
    exact hcost x hx) hprune _ (List.mem_map_of_mem hx)
  exact ⟨k, hk, _, hsame, hle⟩

end Engine

end IncrementalGlr
