import Mathlib.Data.Finset.Card
import Mathlib.Data.Finset.Sigma
import Mathlib.Logic.Function.Iterate
import IncrementalGlr.Fixpoint

/-!
Searches that only gain. A state of a search is seen as the finite set of facts that it knows, out of
all facts there are. Steps that lose no fact, and that change nothing unless they learn one, come to
rest once they have been repeated more often than there are facts (`Facts.settle_fixed`). When such
steps are made one after another and together change nothing, none of them does
(`Facts.Gains.foldl_fixed`). An array knows what its entries tell (`EntryFacts.facts`).
-/
namespace IncrementalGlr

/-- What the states of a search know, out of finitely many facts. -/
structure Facts (α F : Type) [DecidableEq F] where
  /-- The states that the search can come to. -/
  valid : α → Prop
  known : α → Finset F
  all : Finset F
  known_subset : ∀ a, valid a → known a ⊆ all

/-- Settling repeats a step as long as it changes something, if there is fuel for that. -/
theorem exists_iterate_of_settle {α : Type} [DecidableEq α] (step : α → α) (fuel : Nat) (a : α) :
    ∃ n ≤ fuel, settle step fuel a = step^[n] a ∧ ∀ m < n, step (step^[m] a) ≠ step^[m] a := by
  induction fuel generalizing a with
  | zero => exact ⟨0, Nat.le_refl 0, rfl, nofun⟩
  | succ fuel ih =>
    rw [settle]
    split
    · exact ⟨0, Nat.zero_le _, rfl, nofun⟩
    · next changed =>
      obtain ⟨n, hn, heq, before⟩ := ih (step a)
      refine ⟨n + 1, Nat.succ_le_succ hn, heq, fun m hm => ?_⟩
      cases m with
      | zero => exact changed
      | succ m => exact before m (Nat.lt_of_succ_lt_succ hm)

namespace Facts

variable {α β F : Type} [DecidableEq F] {L : Facts α F}

/-- A step that loses no fact and changes nothing unless it learns one. -/
structure Gains (L : Facts α F) (f : α → α) : Prop where
  valid : ∀ a, L.valid a → L.valid (f a)
  mono : ∀ a, L.valid a → L.known a ⊆ L.known (f a)
  fixed : ∀ a, L.valid a → L.known (f a) = L.known a → f a = a

namespace Gains

theorem id : L.Gains fun a => a where
  valid _ h := h
  mono _ _ := Finset.Subset.refl _
  fixed _ _ _ := rfl

theorem comp {f g : α → α} (hf : L.Gains f) (hg : L.Gains g) : L.Gains fun a => g (f a) where
  valid a h := hg.valid _ (hf.valid a h)
  mono a h := (hf.mono a h).trans (hg.mono _ (hf.valid a h))
  fixed a h same := by
    have back : L.known (f a) ⊆ L.known a := same ▸ hg.mono _ (hf.valid a h)
    have first : f a = a := hf.fixed a h (Finset.Subset.antisymm back (hf.mono a h))
    rw [first] at same ⊢
    exact hg.fixed a h same

/-- A step may choose what to do by the state that it begins in. -/
theorem choose {f : α → α → α} (h : ∀ a, L.valid a → L.Gains (f a)) : L.Gains fun a => f a a where
  valid a ha := (h a ha).valid a ha
  mono a ha := (h a ha).mono a ha
  fixed a ha same := (h a ha).fixed a ha same

theorem foldl {f : α → β → α} {l : List β} (h : ∀ b ∈ l, L.Gains fun a => f a b) :
    L.Gains fun a => l.foldl f a := by
  induction l with
  | nil => exact id
  | cons b rest ih =>
    exact (h b List.mem_cons_self).comp (ih fun c hc => h c (List.mem_cons_of_mem b hc))

/-- If two steps together change nothing, the first does not, and neither does the second. -/
theorem comp_fixed {f g : α → α} (hf : L.Gains f) (hg : L.Gains g) {a : α} (ha : L.valid a)
    (h : g (f a) = a) : f a = a := by
  have back : L.known (f a) ⊆ L.known a := by
    have := hg.mono _ (hf.valid a ha)
    rwa [h] at this
  exact hf.fixed a ha (Finset.Subset.antisymm back (hf.mono a ha))

theorem foldl_fixed {f : α → β → α} {l : List β} (h : ∀ b ∈ l, L.Gains fun a => f a b) {a : α}
    (ha : L.valid a) (hl : l.foldl f a = a) : ∀ b ∈ l, f a b = a := by
  induction l with
  | nil => intro b hb; simp at hb
  | cons c rest ih =>
    have hc := h c List.mem_cons_self
    have hrest : ∀ b ∈ rest, L.Gains fun a => f a b :=
      fun b hb => h b (List.mem_cons_of_mem c hb)
    rw [List.foldl_cons] at hl
    have first : f a c = a := comp_fixed hc (foldl hrest) ha hl
    rw [first] at hl
    intro b hb
    rcases List.mem_cons.1 hb with rfl | hb
    · exact first
    · exact ih hrest hl b hb

end Gains

theorem known_subset_settle [DecidableEq α] {step : α → α} (h : L.Gains step) (fuel : Nat) {a : α}
    (ha : L.valid a) : L.known a ⊆ L.known (settle step fuel a) :=
  (settle_induction (p := fun b => L.valid b ∧ L.known a ⊆ L.known b)
    (fun b hb => ⟨h.valid b hb.1, hb.2.trans (h.mono b hb.1)⟩) fuel
    ⟨ha, Finset.Subset.refl _⟩).2

/-- Each step before the last learns a fact, so there are not more of them than facts. -/
theorem settle_fixed [DecidableEq α] {step : α → α} (h : L.Gains step) (fuel : Nat) {a : α}
    (ha : L.valid a) (hf : L.all.card < (L.known a).card + fuel) :
    step (settle step fuel a) = settle step fuel a := by
  induction fuel generalizing a with
  | zero =>
    have := Finset.card_le_card (L.known_subset a ha)
    omega
  | succ fuel ih =>
    rw [settle]
    split
    · next same => exact same
    · next changed =>
      have more : L.known a ⊂ L.known (step a) :=
        Finset.ssubset_iff_subset_ne.2
          ⟨h.mono a ha, fun same => changed (h.fixed a ha same.symm)⟩
      have := Finset.card_lt_card more
      exact ih (h.valid a ha) (by omega)

end Facts

/-! ## Arrays -/

/-- What the entries of an array tell. Two entries at one place that tell the same are equal. -/
structure EntryFacts (α F : Type) [DecidableEq F] where
  valid : Nat → α → Prop
  tells : α → F → Bool
  all : Nat → Finset F
  ext : ∀ i a b, valid i a → valid i b → (∀ x ∈ all i, tells a x = tells b x) → a = b

namespace EntryFacts

variable {α F : Type} [DecidableEq F]

/-- The facts of an array of `n` entries. -/
def facts (E : EntryFacts α F) (n : Nat) : Facts (Array α) (Σ _ : Nat, F) where
  valid xs := xs.size = n ∧ ∀ i a, xs[i]? = some a → E.valid i a
  known xs := (Finset.range n).sigma fun i => (E.all i).filter fun x => (xs[i]?).any (E.tells · x)
  all := (Finset.range n).sigma E.all
  known_subset _ _ := Finset.sigma_mono (Finset.Subset.refl _) fun _ => Finset.filter_subset _ _

variable {E : EntryFacts α F} {n : Nat}

theorem mem_known {xs : Array α} {i : Nat} {x : F} :
    ⟨i, x⟩ ∈ (E.facts n).known xs ↔ i < n ∧ x ∈ E.all i ∧ ∃ a, xs[i]? = some a ∧ E.tells a x := by
  simp only [facts, Finset.mem_sigma, Finset.mem_range, Finset.mem_filter, Option.any_eq_true]

/-- Changing an entry loses no fact if the new entry tells all that the old one did. -/
theorem gains_modify (place : Array α → Nat) (f : Array α → α → α)
    (hv : ∀ xs, (E.facts n).valid xs → ∀ a, E.valid (place xs) a → E.valid (place xs) (f xs a))
    (hs : ∀ xs, (E.facts n).valid xs → ∀ a, E.valid (place xs) a →
      ∀ x, E.tells a x = true → E.tells (f xs a) x = true) :
    (E.facts n).Gains fun xs => xs.modify (place xs) (f xs) where
  valid xs h := by
    refine ⟨by rw [Array.size_modify, h.1], fun i a ha => ?_⟩
    rw [Array.getElem?_modify] at ha
    split at ha
    · next hi =>
      obtain ⟨b, hb, rfl⟩ := Option.map_eq_some_iff.1 ha
      exact hi ▸ hv xs h b (hi ▸ h.2 i b hb)
    · exact h.2 i a ha
  mono xs h := by
    intro ⟨i, x⟩ hx
    obtain ⟨hi, hall, a, ha, ht⟩ := mem_known.1 hx
    refine mem_known.2 ⟨hi, hall, ?_⟩
    simp only [Array.getElem?_modify]
    split
    · next hp => exact ⟨f xs a, by rw [ha]; rfl, hs xs h a (hp ▸ h.2 i a ha) x ht⟩
    · exact ⟨a, ha, ht⟩
  fixed xs h same := by
    refine Array.ext_getElem? fun i => ?_
    rw [Array.getElem?_modify]
    split
    · next hp =>
      cases hx : xs[i]? with
      | none => rfl
      | some a =>
        have ha : E.valid i a := h.2 i a hx
        have hlt : i < n := h.1 ▸ (Array.getElem?_eq_some_iff.1 hx).1
        -- An entry is known by its facts, so it is enough that the new one tells nothing new.
        refine congrArg some (E.ext i _ _ (hp ▸ hv xs h a (hp ▸ ha)) ha fun x hall => ?_)
        rw [Bool.eq_iff_iff]
        refine ⟨fun ht => ?_, fun ht => hs xs h a (hp ▸ ha) x ht⟩
        have known : (⟨i, x⟩ : Σ _ : Nat, F) ∈ (E.facts n).known (xs.modify (place xs) (f xs)) :=
          mem_known.2 ⟨hlt, hall, f xs a, by rw [Array.getElem?_modify, if_pos hp, hx]; rfl, ht⟩
        rw [same] at known
        obtain ⟨_, _, b, hb, ht'⟩ := mem_known.1 known
        rw [hx] at hb
        exact Option.some.inj hb ▸ ht'
    · rfl

end EntryFacts

end IncrementalGlr
