import IncrementalGlr.Proofs.Parse.Driving

/-!
How parses end. Either heads accept at a token, and the root stands over the stack of the best of them
(`Engine.Accepts`), or nothing can be done about the end of the text, and everything becomes one error
node (`Engine.Wraps`). Every parse that has a root ends in one of these ways (`Engine.ends_of_run`).
-/
namespace IncrementalGlr.Engine

open Parsing

variable {e : Engine} {fuel : Option Nat} {token : Token} {c c' : Configuration} {head : Head}
  {root : Subtree}

/-- The head is the best of those that accept in a parse, and the root stands over its stack. -/
inductive Accepts (e : Engine) (fuel : Option Nat) (head : Head) : Subtree → Prop where
  | intro {token : Token} {recovering : Bool} {c c' : Configuration} {phase : Phase}
      (hc : e.Faces fuel token c) (hphase : Returns (e.reducePhase token recovering) c phase c')
      (hbest : Head.preferred phase.accepts = some head) :
      Accepts e fuel head (rootOf head.stack.subtrees token.lookaheadEnd)

/-- A parse is stuck with the head at the end of the text, and the root is an error node over its stack
and the tokens put aside. -/
inductive Wraps (e : Engine) (fuel : Option Nat) (head : Head) : Subtree → Prop where
  | intro {repairs : Nat} {token : Token} {again : Bool} {c d : Configuration}
      (hc : e.Tries fuel repairs token c) (hend : token.symbol = endSymbol)
      (hstuck : Returns (e.attempt token again) c (.stuck head) d) :
      Wraps e fuel head (.error (head.stack.subtrees ++ d.pending) 0 token.lookaheadEnd false)

theorem accepts_of_advance {recovering : Bool} (hc : e.Faces fuel token c)
    (hr : Returns (e.advance token recovering) c (.finished root) c') :
    ∃ head, e.Accepts fuel head root := by
  obtain ⟨phase, d, hphase, h⟩ := returns_advance hr
  cases h with
  | @finished head _ hbest haccept =>
    simp only [Engine.accept, returns_bind, returns_record, returns_pure] at haccept
    obtain ⟨_, _, rfl, rfl, rfl⟩ := haccept
    exact ⟨head, .intro hc hphase hbest⟩

theorem accepts_of_attempt {repairs : Nat} {again : Bool} (hc : e.Tries fuel repairs token c)
    (hr : Returns (e.attempt token again) c (.finished root) c') :
    ∃ head, e.Accepts fuel head root := by
  rw [Engine.attempt, returns_get_bind] at hr
  split at hr
  · next hnone => exact accepts_of_advance (.tried hc (List.isEmpty_iff.1 hnone)) hr
  · next hsome =>
    have hsome : c.pending ≠ [] := fun h => hsome (List.isEmpty_iff.2 h)
    simp only [returns_bind] at hr
    obtain ⟨resumed, d, hresume, hr⟩ := hr
    cases resumed with
    | true => exact accepts_of_advance (.resumed hc hsome hresume) hr
    | false => cases (returns_pure.1 hr).1

/-- What does not make a token welcome leaves the tokens put aside as they are. -/
theorem pending_of_repair (hr : Returns (e.repair head token) c none c') : c'.pending = c.pending := by
  -- Of a token that is made welcome nothing is said, so nothing is asked of what is done to that end.
  have mends : e.Mending (fun _ _ => True) (fun _ pending _ => pending = c.pending)
      (fun _ _ _ => True) fun _ => True := {
    unpadded _ := trivial
    keeps _ _ := ⟨fun _ _ h => h, fun _ _ _ _ h _ _ _ => h⟩
    path _ _ _ := trivial
    nonterminal _ _ _ := trivial
    terminal := by intros; trivial
    pop _ _ _ := trivial
    skip _ _ := trivial
    wrap _ _ := trivial }
  exact (mends.repair trivial rfl hr).1

theorem wraps_of_giveUp {repairs : Nat} {again : Bool} {d d' : Configuration}
    (hc : e.Tries fuel repairs token c) (hstuck : Returns (e.attempt token again) c (.stuck head) d)
    (hpending : d'.pending = d.pending) (hr : Returns (e.giveUp head token) d' (some root) c') :
    e.Wraps fuel head root := by
  unfold Engine.giveUp at hr
  split at hr
  · next hend =>
    simp only [returns_bind, returns_pure, Engine.wrap, returns_record, returns_get] at hr
    obtain ⟨_, _, ⟨_, _, rfl, _, _, ⟨rfl, rfl⟩, rfl, rfl⟩, hroot, rfl⟩ := hr
    obtain rfl := Option.some.inj hroot
    show e.Wraps fuel head (.error (head.stack.subtrees ++ d'.pending) 0 token.lookaheadEnd false)
    rw [hpending]
    exact .intro hc hend hstuck
  · simp only [returns_bind, returns_pure] at hr
    obtain ⟨_, _, _, hroot, -⟩ := hr
    cases hroot

/-- By induction on the number of repairs that are left. -/
theorem ends_of_consume {repairs : Nat} (hc : e.Tries fuel repairs token c)
    (hr : Returns (e.consume repairs token) c (some root) c') :
    ∃ head, e.Accepts fuel head root ∨ e.Wraps fuel head root := by
  induction repairs generalizing c token with
  | zero =>
    simp only [Engine.consume, returns_bind] at hr
    obtain ⟨progress, d, hattempt, hr⟩ := hr
    cases progress with
    | finished root' =>
      obtain rfl := Option.some.inj (returns_pure.1 hr).1
      exact (accepts_of_attempt hc hattempt).imp fun _ h => .inl h
    | taken => cases (returns_pure.1 hr).1
    | stuck head =>
      simp only [returns_bind] at hr
      obtain ⟨_, _, hspend, hr⟩ := hr
      exact ⟨head, .inr (wraps_of_giveUp hc hattempt hspend.quiet_of_spend.pending hr)⟩
  | succ repairs ih =>
    simp only [Engine.consume, returns_bind] at hr
    obtain ⟨progress, d, hattempt, hr⟩ := hr
    cases progress with
    | finished root' =>
      obtain rfl := Option.some.inj (returns_pure.1 hr).1
      exact (accepts_of_attempt hc hattempt).imp fun _ h => .inl h
    | taken => cases (returns_pure.1 hr).1
    | stuck head =>
      simp only [returns_bind] at hr
      obtain ⟨_, d', hspend, repaired, _, hrepair, hr⟩ := hr
      cases repaired with
      | some token' =>
        refine ih (.repaired hc hattempt ?_) hr
        exact returns_bind.2 ⟨_, d', hspend, hrepair⟩
      | none =>
        have hpending := (pending_of_repair hrepair).trans hspend.quiet_of_spend.pending
        exact ⟨head, .inr (wraps_of_giveUp hc hattempt hpending hr)⟩

theorem ends_of_runFrom {pulls : Nat} (hc : e.Between fuel c)
    (hr : Returns (e.runFrom pulls) c root c') :
    ∃ head, e.Accepts fuel head root ∨ e.Wraps fuel head root := by
  induction pulls generalizing c with
  | zero => exact absurd hr not_returns_throw
  | succ pulls ih =>
    simp only [Engine.runFrom, returns_bind] at hr
    obtain ⟨_, d, hpoll, token, d', hnext, result, _, hconsume, hr⟩ := hr
    cases result with
    | some root' =>
      obtain rfl := (returns_pure.1 hr).1
      exact ends_of_consume (.pulled hc (returns_bind.2 ⟨_, _, hpoll, hnext⟩)) hconsume
    | none =>
      refine ih (.next hc ?_) hr
      simp only [returns_bind]
      exact ⟨_, _, hpoll, _, _, hnext, hconsume⟩

/-- The root of a parse stands over a head that was accepted, or is an error over one. -/
theorem ends_of_run (hr : Returns e.run { fuel } root c) :
    ∃ head, e.Accepts fuel head root ∨ e.Wraps fuel head root :=
  ends_of_runFrom .start hr

end IncrementalGlr.Engine
