import Mathlib.Data.List.Sort
import IncrementalGlr.Proofs.Parse.Phase

/-!
What happens to heads that take a token. Each gets the token on its stack (`shifted`); then heads
with the same states are merged and the best are kept, at least one of them (`returns_shift`).
-/
namespace IncrementalGlr.Engine

open Parsing

variable {e : Engine} {token : Token} {c c' : Configuration}

/-! ## Putting a token on a stack -/

/-- What is put on the stack of a head, and the state that it leads to. -/
def leafFor (token : Token) (fragile : Bool) (missing : Option SymbolId)
    (x : Head × Option StateId) : Subtree :=
  match missing with
  | some symbol => .missing symbol token
  | none => .leaf token x.2.isNone fragile x.1.state (x.2.getD x.1.state)

/-- The head with the token, or what stands for a missing one, on its stack. -/
def shifted (token : Token) (fragile : Bool) (missing : Option SymbolId)
    (x : Head × Option StateId) : Head :=
  let stack := x.1.stack.push (x.2.getD x.1.state) (leafFor token fragile missing x)
  match missing with
  | some _ => { x.1 with
      stack
      insertions := x.1.insertions + 1
      errorCost := x.1.errorCost + 1 }
  | none => { x.1 with stack, insertions := if x.2.isNone then x.1.insertions else 0 }

theorem returns_shiftHead {fragile : Bool} {missing : Option SymbolId}
    {x : Head × Option StateId} {h : Head}
    (hr : Returns (shiftHead token fragile missing x) c h c') :
    Quiet c c' ∧ h = shifted token fragile missing x := by
  obtain ⟨head, target⟩ := x
  simp only [shiftHead, returns_bind, returns_pure] at hr
  obtain ⟨_, d, hrecord, hr⟩ := hr
  have quiet := hrecord.quiet_of_record rfl
  cases missing with
  | none =>
    obtain ⟨rfl, rfl⟩ := hr
    exact ⟨quiet, rfl⟩
  | some symbol =>
    obtain ⟨rfl, rfl⟩ := hr
    exact ⟨quiet, rfl⟩

theorem returns_mapM_shiftHead {fragile : Bool} {missing : Option SymbolId}
    {xs : List (Head × Option StateId)} {hs : List Head}
    (hr : Returns (xs.mapM (shiftHead token fragile missing)) c hs c') :
    Quiet c c' ∧ hs = xs.map (shifted token fragile missing) := by
  induction xs generalizing c hs with
  | nil =>
    obtain ⟨rfl, rfl⟩ := returns_pure.1 hr
    exact ⟨Quiet.refl _, rfl⟩
  | cons x xs ih =>
    simp only [List.mapM_cons, returns_bind, returns_pure] at hr
    obtain ⟨h, _, hx, rest, _, hxs, rfl, rfl⟩ := hr
    obtain ⟨quiet, rfl⟩ := returns_shiftHead hx
    obtain ⟨quiet', rfl⟩ := ih hxs
    exact ⟨quiet.trans quiet', rfl⟩

/-! ## Merging -/

theorem returns_mergeInto {kept heads merged : List Head}
    (hr : Returns (mergeInto kept heads) c merged c') :
    Quiet c c' ∧ (∀ h ∈ merged, h ∈ kept ∨ h ∈ heads) ∧ (∀ h ∈ kept, h ∈ merged) ∧
      (heads ≠ [] → merged ≠ []) := by
  induction heads generalizing kept c with
  | nil =>
    obtain ⟨rfl, rfl⟩ := returns_pure.1 hr
    exact ⟨Quiet.refl _, fun h hh => .inl hh, fun h hh => hh, fun hne => absurd rfl hne⟩
  | cons head rest ih =>
    rw [mergeInto] at hr
    split at hr
    · next hany =>
      simp only [returns_bind] at hr
      obtain ⟨_, _, hrecord, hr⟩ := hr
      obtain ⟨quiet, hsub, hkept, -⟩ := ih hr
      obtain ⟨k, hk, -⟩ := List.any_eq_true.1 hany
      refine ⟨(hrecord.quiet_of_record rfl).trans quiet, fun h hh => ?_, hkept,
        fun _ => List.ne_nil_of_mem (hkept k hk)⟩
      exact (hsub h hh).imp_right (List.mem_cons_of_mem _)
    · obtain ⟨quiet, hsub, hkept, -⟩ := ih hr
      refine ⟨quiet, fun h hh => ?_, fun h hh => hkept h (List.mem_append_left _ hh),
        fun _ => List.ne_nil_of_mem (hkept head (by simp))⟩
      rcases hsub h hh with hh | hh
      · rcases List.mem_append.1 hh with hh | hh
        · exact .inl hh
        · exact .inr (List.mem_singleton.1 hh ▸ List.mem_cons_self)
      · exact .inr (List.mem_cons_of_mem _ hh)

/-- What is left after merging, where a head that is alone need not know any more where it came from. -/
theorem exists_kept {heads merged : List Head} {d d' : Configuration} (hd : Quiet c d)
    (hr : d' = { d with heads := match merged with
      | [only] => [{ only with path := [] }]
      | heads => heads })
    (hne : merged ≠ []) (origin : ∀ h ∈ merged, h ∈ heads) :
    ∃ kept, Quiet { c with heads := kept } d' ∧ kept ≠ [] ∧
      ∀ h ∈ kept, ∃ h₀ ∈ heads, ∃ path, h = { h₀ with path } := by
  subst hr
  refine ⟨_, ⟨rfl, hd.position, hd.lexState, hd.pending, hd.resync, hd.stats, hd.polls,
    hd.pulled⟩, ?_, ?_⟩
  · split
    · simp
    · exact hne
  · split
    · next _ only =>
      intro h hh
      rw [List.mem_singleton.1 hh]
      exact ⟨only, origin only List.mem_cons_self, [], rfl⟩
    · intro h hh
      exact ⟨h, origin h hh, h.path, rfl⟩

/-- Merging keeps some of the heads, which may forget their choices. -/
theorem returns_mergeHeads {heads : List Head} {u : Unit} (hne : heads ≠ [])
    (hr : Returns (e.mergeHeads heads) c u c') :
    ∃ kept, Quiet { c with heads := kept } c' ∧ kept ≠ [] ∧
      ∀ h ∈ kept, ∃ h₀ ∈ heads, ∃ path, h = { h₀ with path } := by
  simp only [mergeHeads, returns_bind] at hr
  obtain ⟨merged, d, hmerge, hr⟩ := hr
  obtain ⟨quiet, hsub, -, hmerged⟩ := returns_mergeInto hmerge
  -- Sorting and merging lose no head without keeping another.
  have sorted_ne : heads.mergeSort (fun a b => a.preference b != .gt) ≠ [] := by
    intro h
    have := congrArg List.length h
    rw [List.length_mergeSort] at this
    exact hne (List.length_eq_zero_iff.1 this)
  have merged_ne := hmerged sorted_ne
  have origin : ∀ h ∈ merged.take e.options.maxHeads, h ∈ heads := by
    intro h hh
    rcases hsub h (List.mem_of_mem_take hh) with hh | hh
    · exact absurd hh List.not_mem_nil
    · exact List.mem_mergeSort.1 hh
  have some_left : merged.take e.options.maxHeads ≠ [] := by
    intro h
    rcases List.take_eq_nil_iff.1 h with h | h
    · exact absurd h (Nat.ne_of_gt e.options.maxHeads_pos)
    · exact merged_ne h
  split at hr
  · simp only [returns_bind, returns_modify] at hr
    obtain ⟨_, _, hrecord, hr⟩ := hr
    exact exists_kept (quiet.trans (hrecord.quiet_of_record rfl)) hr some_left origin
  · exact exists_kept quiet (returns_modify.1 hr) some_left origin

/-- Every head that is left has the token on its stack, and one is left. -/
theorem returns_shift {shifts : List (Head × Option StateId)} {fragile : Bool}
    {missing : Option SymbolId} {u : Unit} (hne : shifts ≠ [])
    (hr : Returns (e.shift shifts token fragile missing) c u c') :
    ∃ kept, Quiet { c with position := token.stop, heads := kept } c' ∧ kept ≠ [] ∧
      ∀ h ∈ kept, ∃ x ∈ shifts, ∃ path,
        h = { shifted token (fragile || decide (1 < shifts.length)) missing x with path } := by
  simp only [shift, returns_bind, returns_modify] at hr
  obtain ⟨heads, d, hmap, _, _, rfl, hr⟩ := hr
  obtain ⟨quiet, rfl⟩ := returns_mapM_shiftHead hmap
  obtain ⟨kept, quiet', hkept, horigin⟩ := returns_mergeHeads (by simpa using hne) hr
  refine ⟨kept, ⟨quiet'.heads, quiet'.position, ?_, ?_, ?_, ?_, ?_, ?_⟩, hkept, fun h hh => ?_⟩
  · exact quiet'.lexState.trans quiet.lexState
  · exact quiet'.pending.trans quiet.pending
  · exact quiet'.resync.trans quiet.resync
  · exact quiet'.stats.trans quiet.stats
  · exact quiet'.polls.trans quiet.polls
  · exact quiet'.pulled.trans quiet.pulled
  · obtain ⟨_, hmem, path, rfl⟩ := horigin h hh
    obtain ⟨x, hx, rfl⟩ := List.mem_map.1 hmem
    exact ⟨x, hx, path, rfl⟩

end IncrementalGlr.Engine
