import Mathlib.Data.List.Pairwise
import IncrementalGlr.Proofs.Parse.Merging

/-!
Heads that part. Choices are apart if neither are the beginning of the other (`Choices.Apart`). A head
with a choice hands its own choices on to all heads that it becomes, each with another one behind them,
so a phase of reductions that begins with heads whose choices are apart ends with such heads
(`spread_reducePhase`). Between heads whose choices are apart there is always a better one, so in
whatever order they are kept the best comes out (`Head.preferred_of_perm`). The number of a choice is
noted modulo a limit; all this holds of tables with no more actions for a state and a token than that.
-/
namespace IncrementalGlr

namespace Choices

/-- Neither of two rows of choices is the beginning of the other. The last choice stands first. -/
def Apart (a b : Choices) : Prop := ¬ a <:+ b ∧ ¬ b <:+ a

variable {a b : Choices}

theorem Apart.symm (h : Apart a b) : Apart b a := ⟨h.2, h.1⟩

theorem Apart.ne (h : Apart a b) : a ≠ b := fun hab => h.1 (hab ▸ List.suffix_refl _)

/-- One choice more leads no closer to choices that were apart before it. -/
theorem Apart.cons (h : Apart a b) (i : Nat) : Apart (i :: a) b := by
  refine ⟨fun hsuffix => h.1 ((List.suffix_cons i a).trans hsuffix), fun hsuffix => ?_⟩
  rcases List.suffix_cons_iff.1 hsuffix with rfl | hsuffix
  · exact h.1 (List.suffix_cons i a)
  · exact h.2 hsuffix

/-- Two choices that differ part. -/
theorem apart_of_ne {i j : Nat} (hne : i ≠ j) (a : Choices) : Apart (i :: a) (j :: a) := by
  have differ {i j : Nat} (hne : i ≠ j) : ¬ (i :: a) <:+ (j :: a) := fun h =>
    hne (List.cons.inj (h.eq_of_length rfl)).1
  exact ⟨differ hne, differ (Ne.symm hne)⟩

theorem eq_of_compare (h : compare a b = .eq) : a = b := by
  rw [compare_eq] at h
  exact List.reverse_injective (Std.LawfulEqCmp.eq_of_compare h)

end Choices

namespace Head

/-- Of any two of these heads the choices are apart. -/
def Spread (heads : List Head) : Prop := heads.Pairwise fun a b => a.path.Apart b.path

variable {heads heads' : List Head}

instance : Std.Symm fun a b : Head => a.path.Apart b.path := ⟨fun _ _ h => h.symm⟩

theorem Spread.of_perm (h : Spread heads) (hperm : heads.Perm heads') : Spread heads' :=
  List.Pairwise.perm h hperm fun hab => hab.symm

theorem Spread.sublist (h : Spread heads) (hsub : heads'.Sublist heads) : Spread heads' :=
  List.Pairwise.sublist hsub h

theorem spread_singleton (h : Head) : Spread [h] := List.pairwise_singleton _ _

/-- Of two heads whose choices are apart one is better. -/
theorem preference_ne_eq {a b : Head} (h : a.path.Apart b.path) : a.preference b ≠ .eq := by
  intro heq
  have paths := (Ordering.then_eq_eq.1 (Ordering.then_eq_eq.1 heq).2).2
  exact h.ne (Choices.eq_of_compare paths)

theorem Spread.strict (h : Spread heads) : heads.Pairwise fun a b => a.preference b ≠ .eq :=
  h.imp preference_ne_eq

theorem eq_of_not_gt {a b : Head} (hab : a.preference b ≠ .gt) (hba : b.preference a ≠ .gt) :
    a.preference b = .eq := by
  have swap : b.preference a = (a.preference b).swap := Std.OrientedCmp.eq_swap
  rw [swap] at hba
  revert hab hba
  cases a.preference b <;> decide

/-- The best of heads whose choices are apart is the same in whatever order they stand. -/
theorem preferred_of_perm (h : Spread heads) (hperm : heads.Perm heads') :
    preferred heads = preferred heads' := by
  cases hbest : preferred heads with
  | none =>
    obtain rfl : heads = [] := eq_nil_of_preferredBy hbest
    rw [hperm.nil_eq.symm]
    rfl
  | some best =>
    cases hbest' : preferred heads' with
    | none =>
      obtain rfl : heads' = [] := eq_nil_of_preferredBy hbest'
      obtain rfl := hperm.eq_nil
      cases hbest
    | some best' =>
      have mem : best ∈ heads := mem_of_preferredBy hbest
      have mem' : best' ∈ heads := hperm.mem_iff.2 (mem_of_preferredBy hbest')
      by_contra hne
      have hne : best ≠ best' := fun heq => hne (congrArg some heq)
      have apart := List.Pairwise.forall h mem mem' hne
      refine preference_ne_eq apart (eq_of_not_gt ?_ ?_)
      · exact not_gt_of_preferredBy hbest best' mem'
      · exact not_gt_of_preferredBy hbest' best (hperm.mem_iff.1 mem)

end Head

namespace Engine

open Head Parsing

variable {e : Engine} {token : Token} {c c' : Configuration}

/-! ## Phases -/

/-- The heads that a phase has come to. -/
def PhaseState.heads (s : PhaseState) : List Head :=
  s.shifts.map Prod.fst ++ (s.accepts ++ (s.dead ++ (s.work.map Prod.fst ++ s.later.map Prod.fst)))

/-- The heads that come out of a phase. -/
def Phase.heads (p : Phase) : List Head := p.shifts.map Prod.fst ++ (p.accepts ++ p.dead)

/-- An action makes one head more, with the choices of the head on which it is done. -/
theorem Acted.perm_heads {k : Circumstances} {head : Head} {s s' : PhaseState}
    {choice : Action × Nat} {events : List TraceEvent}
    (h : Acted e token k head s choice s' events) :
    ∃ made : Head, made.path = (k.branch head choice.2).path ∧ s'.heads.Perm (made :: s.heads) := by
  have dead (made : Head) (reductions : Nat) :
      ({ s with reductions, dead := made :: s.dead } : PhaseState).heads.Perm (made :: s.heads) := by
    refine (List.Perm.append_left _ ?_).trans List.perm_middle
    exact List.perm_middle
  cases h with
  | shift r i => exact ⟨_, rfl, .refl _⟩
  | shiftExtra i => exact ⟨_, rfl, .refl _⟩
  | accept i => exact ⟨_, rfl, List.perm_middle⟩
  | stop id i _ => exact ⟨_, rfl, dead _ _⟩
  | fail id i _ _ => exact ⟨_, rfl, dead _ _⟩
  | reduce id i next _ _ _ hr =>
    have path : next.path = (k.branch head i).path := by
      obtain ⟨p, stack, state, -, -, rfl⟩ := hr
      rfl
    refine ⟨next, path, (List.Perm.append_left _ ?_).trans List.perm_middle⟩
    refine (List.Perm.append_left _ ?_).trans List.perm_middle
    refine (List.Perm.append_left _ ?_).trans List.perm_middle
    exact List.perm_middle

/-- Several actions make as many heads, with the choices of the heads on which they are done. -/
theorem ActedAll.perm_heads {k : Circumstances} {head : Head} {s s' : PhaseState}
    {choices : List (Action × Nat)} {events : List TraceEvent}
    (h : ActedAll e token k head s choices s' events) : ∃ made : List Head,
      made.map Head.path = (choices.map Prod.snd).map (fun i => (k.branch head i).path) ∧
        s'.heads.Perm (made ++ s.heads) := by
  induction h with
  | nil => exact ⟨[], rfl, .refl _⟩
  | cons hact _ ih =>
    obtain ⟨first, hfirst, perm⟩ := hact.perm_heads
    obtain ⟨rest, hrest, perm'⟩ := ih
    refine ⟨first :: rest, ?_, (perm'.trans (perm.append_left rest)).trans List.perm_middle⟩
    rw [List.map_cons, hfirst, hrest]
    rfl

theorem PhaseState.perm_heads_of_next {s s' : PhaseState} {x : Head × Bool}
    (h : s.next? = some (x, s')) : s.heads.Perm (x.1 :: s'.heads) := by
  unfold PhaseState.next? at h
  split at h
  · next first work hwork =>
    cases h
    rw [PhaseState.heads, hwork]
    refine (List.Perm.append_left _ ?_).trans List.perm_middle
    exact (List.Perm.append_left _ List.perm_middle).trans List.perm_middle
  · next hwork =>
    split at h
    · next first work hlater =>
      cases h
      have later : (s.later.map Prod.fst).Perm (x.1 :: work.map Prod.fst) := by
        rw [← List.map_cons, ← hlater]
        exact ((List.reverse_perm s.later).map Prod.fst).symm
      rw [PhaseState.heads, hwork]
      refine (List.Perm.append_left _ ?_).trans List.perm_middle
      refine (List.Perm.append_left _ ?_).trans List.perm_middle
      refine (List.Perm.append_left _ ?_).trans List.perm_middle
      rw [List.map_nil, List.append_nil, List.nil_append]
      exact later
    · cases h

theorem apart_branch {k : Circumstances} {head other : Head} (h : head.path.Apart other.path)
    (i : Nat) : (k.branch head i).path.Apart other.path := by
  unfold Circumstances.branch
  split
  · exact h.cons _
  · exact h

section Spread

variable (hfew : ∀ q s, (e.table.actions q s).length ≤ choiceLimit)
include hfew

/-- The heads that a head becomes part where there is a choice. -/
theorem Handled.spread {fragile forked : Bool} {head : Head} {s s' : PhaseState}
    {events : List TraceEvent} (h : Handled e token fragile forked head s s' events)
    (hs : Spread (head :: s.heads)) : Spread s'.heads := by
  obtain ⟨hhead, hrest⟩ := List.pairwise_cons.1 hs
  cases h with
  | dead _ =>
    refine hs.of_perm (List.Perm.symm ?_)
    exact (List.Perm.append_left _ List.perm_middle).trans List.perm_middle
  | @acted actions _ _ ha hne hall =>
    obtain ⟨made, hpaths, perm⟩ := hall.perm_heads
    refine Spread.of_perm ?_ perm.symm
    have few : actions.length ≤ choiceLimit := ha ▸ hfew _ _
    have hsnd : actions.zipIdx.map Prod.snd = List.range' 0 actions.length := by simp
    rw [hsnd] at hpaths
    refine List.pairwise_append.2 ⟨?_, hrest, fun a hmade b hb => ?_⟩
    · rw [← List.pairwise_map (f := Head.path) (R := Choices.Apart), hpaths, List.pairwise_map]
      refine List.Pairwise.imp_of_mem (fun {i j} hi hj hlt => ?_) (List.pairwise_lt_range' ..)
      obtain ⟨-, hj⟩ := List.mem_range'_1.1 hj
      have conflict : 1 < actions.length := by omega
      -- There are no more actions than numbers, so no two get the same one.
      have differ : i % choiceLimit ≠ j % choiceLimit := by
        rw [Nat.mod_eq_of_lt (by omega), Nat.mod_eq_of_lt (by omega)]
        exact Nat.ne_of_lt hlt
      simpa only [Circumstances.branch, conflict, decide_true, if_true] using
        Choices.apart_of_ne differ head.path
    -- What the head becomes stays apart from all other heads, as the head was.
    · have hpath := List.mem_map_of_mem (f := Head.path) hmade
      rw [hpaths] at hpath
      obtain ⟨i, -, hi⟩ := List.mem_map.1 hpath
      rw [← hi]
      exact apart_branch (hhead b hb) i

theorem Loops.spread {fragile : Bool} {fuel : Nat} {s s' : PhaseState} {events : List TraceEvent}
    (h : Loops e token fragile fuel s s' events) (hs : Spread s.heads) : Spread s'.heads := by
  induction h with
  | out s => exact hs
  | done _ => exact hs
  | step hnext hhandled _ ih =>
    exact ih (hhandled.spread hfew (hs.of_perm (PhaseState.perm_heads_of_next hnext)))

/-- Heads that part go on apart: if the choices of the heads are apart, so are those of the heads that
come out of a phase. -/
theorem spread_reducePhase {recovering : Bool} {phase : Phase}
    (hr : Returns (e.reducePhase token recovering) c phase c') (hc : Spread c.heads) :
    Spread phase.heads := by
  obtain ⟨-, s', _, rfl, -, loops⟩ := returns_reducePhase hr
  have begun : (PhaseState.begin c.heads).heads = c.heads := by
    simp [PhaseState.begin, PhaseState.heads, Function.comp_def]
  have spread := loops.spread hfew (begun.symm ▸ hc)
  have sub : (s'.shifts.map Prod.fst ++ (s'.accepts ++ s'.dead)).Sublist s'.heads := by
    rw [PhaseState.heads]
    refine List.Sublist.append_left (List.Sublist.append_left ?_ _) _
    exact List.sublist_append_left _ _
  refine (spread.sublist sub).of_perm ?_
  refine (((List.reverse_perm _).map _).symm.append ?_)
  exact (List.reverse_perm _).symm.append (List.reverse_perm _).symm

end Spread

end Engine

end IncrementalGlr
