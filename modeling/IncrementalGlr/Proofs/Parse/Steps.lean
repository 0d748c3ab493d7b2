import IncrementalGlr.Parse.Run
import IncrementalGlr.Proofs.Parse.Phase

/-!
What dealing with a token consists of. After a phase of reductions the heads accept, none of them is
left, an old subtree is taken over or they take the token (`Engine.Advances`). That is tried once, and
once more after every repair, until it leads on or the token is given up (`Engine.Consumes`). What the
engine does with a token is proved along these cases and not of the programs.
-/
namespace IncrementalGlr.Engine

open Parsing

variable {e : Engine} {token : Token} {c c' : Configuration}

/-- What comes of the heads after the phase at a token. -/
inductive Advances (e : Engine) (token : Token) (phase : Phase) (c c' : Configuration) :
    Progress → Prop where
  | finished {head : Head} {root : Subtree} (hbest : Head.preferred phase.accepts = some head)
      (haccept : Returns (accept head token) c root c') :
      Advances e token phase c c' (.finished root)
  | stuck (hnone : Head.preferred phase.accepts = none) (hempty : phase.shifts = []) (hc : c' = c) :
      Advances e token phase c c' (.stuck ((Head.preferred phase.dead).getD {}))
  | reused (hnone : Head.preferred phase.accepts = none) (hne : phase.shifts ≠ [])
      (hreuse : Returns (e.tryReuse phase.shifts token) c true c') :
      Advances e token phase c c' .taken
  | shifted {d : Configuration} (hnone : Head.preferred phase.accepts = none)
      (hne : phase.shifts ≠ []) (hreuse : Returns (e.tryReuse phase.shifts token) c false d)
      (hshift : Returns (e.shift phase.shifts token phase.fragile none) d () c') :
      Advances e token phase c c' .taken

theorem returns_advance {recovering : Bool} {progress : Progress}
    (hr : Returns (e.advance token recovering) c progress c') :
    ∃ phase d, Returns (e.reducePhase token recovering) c phase d ∧
      Advances e token phase d c' progress := by
  simp only [Engine.advance, returns_bind] at hr
  obtain ⟨phase, d, hphase, hr⟩ := hr
  refine ⟨phase, d, hphase, ?_⟩
  split at hr
  · next head hbest =>
    simp only [returns_bind, returns_pure] at hr
    obtain ⟨root, _, haccept, rfl, rfl⟩ := hr
    exact .finished hbest haccept
  · next hnone =>
    split at hr
    · next hempty =>
      obtain ⟨rfl, rfl⟩ := returns_pure.1 hr
      exact .stuck hnone (List.isEmpty_iff.1 hempty) rfl
    · next hne =>
      have hne : phase.shifts ≠ [] := fun h => hne (List.isEmpty_iff.2 h)
      simp only [returns_bind] at hr
      obtain ⟨reused, d', hreuse, hr⟩ := hr
      cases reused with
      | true =>
        simp only [Bool.not_true, Bool.false_eq_true, if_false, returns_pure] at hr
        obtain ⟨rfl, rfl⟩ := hr
        exact .reused hnone hne hreuse
      | false =>
        simp only [Bool.not_false, if_true, returns_bind, returns_pure] at hr
        obtain ⟨_, _, hshift, rfl, rfl⟩ := hr
        exact .shifted hnone hne hreuse hshift

/-- A phase that begins with a head and comes to nothing has a head with which nothing can be done. -/
theorem exists_dead {phase : Phase} (h : phase.shifts ≠ [] ∨ phase.accepts ≠ [] ∨ phase.dead ≠ [])
    (hnone : Head.preferred phase.accepts = none) (hempty : phase.shifts = []) :
    ∃ head, Head.preferred phase.dead = some head := by
  cases hdead : Head.preferred phase.dead with
  | some head => exact ⟨head, rfl⟩
  | none =>
    exfalso
    rcases h with h | h | h
    · exact h hempty
    · exact h (Head.eq_nil_of_preferredBy hnone)
    · exact h (Head.eq_nil_of_preferredBy hdead)

/-- How a token is dealt with when so many repairs are left. -/
inductive Consumes (e : Engine) :
    Nat → Token → Configuration → Option Subtree → Configuration → Prop where
  | finished {repairs : Nat} {token : Token} {c c' : Configuration} {again : Bool} {root : Subtree}
      (hattempt : Returns (e.attempt token again) c (.finished root) c') :
      Consumes e repairs token c (some root) c'
  | taken {repairs : Nat} {token : Token} {c c' : Configuration} {again : Bool}
      (hattempt : Returns (e.attempt token again) c .taken c') :
      Consumes e repairs token c none c'
  | last {token : Token} {c d d' c' : Configuration} {again : Bool} {head : Head}
      {result : Option Subtree} (hattempt : Returns (e.attempt token again) c (.stuck head) d)
      (hspend : Returns spend d () d') (hgiven : Returns (e.giveUp head token) d' result c') :
      Consumes e 0 token c result c'
  | beyond {repairs : Nat} {token : Token} {c d d' d₁ c' : Configuration} {again : Bool}
      {head : Head} {result : Option Subtree}
      (hattempt : Returns (e.attempt token again) c (.stuck head) d)
      (hspend : Returns spend d () d') (hrepair : Returns (e.repair head token) d' none d₁)
      (hgiven : Returns (e.giveUp head token) d₁ result c') :
      Consumes e (repairs + 1) token c result c'
  | repaired {repairs : Nat} {token token' : Token} {c d d' d₁ c' : Configuration} {again : Bool}
      {head : Head} {result : Option Subtree}
      (hattempt : Returns (e.attempt token again) c (.stuck head) d)
      (hspend : Returns spend d () d') (hrepair : Returns (e.repair head token) d' (some token') d₁)
      (hr : Returns (e.consume repairs token') d₁ result c')
      (rest : Consumes e repairs token' d₁ result c') :
      Consumes e (repairs + 1) token c result c'

/-- By induction on the number of repairs that are left, as `consume` goes on. -/
theorem returns_consume {repairs : Nat} {result : Option Subtree}
    (hr : Returns (e.consume repairs token) c result c') : Consumes e repairs token c result c' := by
  induction repairs generalizing c token with
  | zero =>
    simp only [Engine.consume, returns_bind] at hr
    obtain ⟨progress, d, hattempt, hr⟩ := hr
    cases progress with
    | finished root =>
      obtain ⟨rfl, rfl⟩ := returns_pure.1 hr
      exact .finished hattempt
    | taken =>
      obtain ⟨rfl, rfl⟩ := returns_pure.1 hr
      exact .taken hattempt
    | stuck head =>
      simp only [returns_bind] at hr
      obtain ⟨_, _, hspend, hr⟩ := hr
      exact .last hattempt hspend hr
  | succ repairs ih =>
    simp only [Engine.consume, returns_bind] at hr
    obtain ⟨progress, d, hattempt, hr⟩ := hr
    cases progress with
    | finished root =>
      obtain ⟨rfl, rfl⟩ := returns_pure.1 hr
      exact .finished hattempt
    | taken =>
      obtain ⟨rfl, rfl⟩ := returns_pure.1 hr
      exact .taken hattempt
    | stuck head =>
      simp only [returns_bind] at hr
      obtain ⟨_, _, hspend, repaired, _, hrepair, hr⟩ := hr
      cases repaired with
      | none => exact .beyond hattempt hspend hrepair hr
      | some token' => exact .repaired hattempt hspend hrepair hr (ih hr)

end IncrementalGlr.Engine
