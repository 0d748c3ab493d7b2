import IncrementalGlr.Proofs.Parse.Coverage

/-!
Phases with one head and without a choice. Where no state has two actions at the token, a head is
reduced again and again (`Engine.Reduced`) until it takes the token, accepts, or nothing can be done
with it, be it that the table has no action or that there were as many reductions as a phase may do
(`Engine.Settled`). So a phase that begins with one head comes to one (`Engine.exists_settled`).
-/
namespace IncrementalGlr.Engine

open Parsing

variable {e : Engine} {token : Token} {c c' : Configuration} {h h' : Head}

/-- So many reductions that the table names at the token lead from one head to the other. -/
inductive Reduced (e : Engine) (token : Token) : Nat → Head → Head → Prop where
  | refl (h : Head) : Reduced e token 0 h h
  | step {n : Nat} {h next h' : Head} {id : ProductionId} {fragile : Bool}
      (ha : .reduce id ∈ e.table.actions h.state token.symbol)
      (hr : Reduces e token fragile id h next) (rest : Reduced e token n next h') :
      Reduced e token (n + 1) h h'

/-- What a property of heads that reductions keep is worth: it still holds after many of them. -/
theorem Keeps.reduced {P : Head → Prop} (hP : e.Keeps token P) {n : Nat}
    (hr : Reduced e token n h h') (hh : P h) : P h' := by
  induction hr with
  | refl => exact hh
  | step ha hr _ ih => exact ih (hP.reduce _ _ _ _ hh ha hr)

/-- What becomes of a head when `n` reductions were done in the phase: it takes the token or accepts,
or nothing more can be done with it. -/
inductive Settled (e : Engine) (token : Token) (n : Nat) (h : Head) :
    List (Head × Option StateId) → List Head → Prop where
  | taken (target : Option StateId) (ha : taking target ∈ e.table.actions h.state token.symbol) :
      Settled e token n h [(h, target)] []
  | accepted (ha : .accept ∈ e.table.actions h.state token.symbol) : Settled e token n h [] [h]
  | dead (hreduce : ∀ action ∈ e.table.actions h.state token.symbol, ∃ id, action = .reduce id)
      (hstop : n = maxReductions ∨ ∀ id, .reduce id ∈ e.table.actions h.state token.symbol →
        ∃ fragile, ∀ next, ¬ Reduces e token fragile id h next) : Settled e token n h [] []

theorem Settled.reverse {n : Nat} {shifts : List (Head × Option StateId)} {accepts : List Head}
    (h : Settled e token n h' shifts accepts) :
    Settled e token n h' shifts.reverse accepts.reverse := by
  cases h with
  | taken target ha => exact .taken target ha
  | accepted ha => exact .accepted ha
  | dead hreduce hstop => exact .dead hreduce hstop

/-- Nothing has come of a phase yet, and one head is to be dealt with. -/
structure PhaseState.Lone (s : PhaseState) (h : Head) : Prop where
  next : ∃ s₁, s.next? = some ((h, false), s₁) ∧ s₁.work = [] ∧ s₁.later = []
  shifts : s.shifts = []
  accepts : s.accepts = []

theorem PhaseState.settled_of_next {s s' : PhaseState} {x : Head × Bool}
    (h : s.next? = some (x, s')) :
    s'.shifts = s.shifts ∧ s'.accepts = s.accepts ∧ s'.reductions = s.reductions := by
  unfold PhaseState.next? at h
  split at h
  · cases h
    exact ⟨rfl, rfl, rfl⟩
  · split at h
    · cases h
      exact ⟨rfl, rfl, rfl⟩
    · cases h

theorem Loops.eq_of_done {fragile : Bool} {fuel : Nat} {s s' : PhaseState}
    {events : List TraceEvent} (hl : Loops e token fragile fuel s s' events) (hwork : s.work = [])
    (hlater : s.later = []) : s' = s := by
  cases hl with
  | out => rfl
  | done _ => rfl
  | step hnext _ _ =>
    unfold PhaseState.next? at hnext
    rw [hwork, hlater] at hnext
    cases hnext

/-- Nothing has come of a phase yet, and no head is left to be dealt with. -/
structure PhaseState.Bare (s : PhaseState) : Prop where
  work : s.work = []
  later : s.later = []
  shifts : s.shifts = []
  accepts : s.accepts = []

/-- The head that is taken up is the only one, and after that there is none. -/
theorem PhaseState.Lone.bare {s s₁ : PhaseState} {x : Head × Bool} (hs : s.Lone h)
    (hnext : s.next? = some (x, s₁)) :
    x = (h, false) ∧ s₁.Bare ∧ s₁.reductions = s.reductions := by
  obtain ⟨_, hnext', hwork, hlater⟩ := hs.next
  obtain ⟨rfl, rfl⟩ := Prod.mk.inj (Option.some.inj (hnext.symm.trans hnext'))
  obtain ⟨hshifts, haccepts, hreductions⟩ := PhaseState.settled_of_next hnext
  exact ⟨rfl, ⟨hwork, hlater, hshifts.trans hs.shifts, haccepts.trans hs.accepts⟩, hreductions⟩

/-- What a round makes of the only head of a phase when `n` reductions were done before: the head is
done with, or a reduction was done and the head that it made is the only one. -/
inductive Rounded (e : Engine) (token : Token) (h : Head) (n : Nat) (s : PhaseState) : Prop where
  | ended (hwork : s.work = []) (hlater : s.later = [])
      (hsettled : Settled e token n h s.shifts s.accepts) : Rounded e token h n s
  | reduced {id : ProductionId} {next : Head} {fragile : Bool} (hlt : n < maxReductions)
      (ha : .reduce id ∈ e.table.actions h.state token.symbol)
      (hr : Reduces e token fragile id h next) (hs : s.Lone next)
      (hreductions : s.reductions = n + 1) : Rounded e token h n s

/-- As there is one action, the head does not have to remember a choice. -/
theorem Acted.rounded {fragile : Bool} {action : Action} {s s' : PhaseState}
    {events : List TraceEvent} (ha : e.table.actions h.state token.symbol = [action])
    (hs : s.Bare) (hle : s.reductions ≤ maxReductions)
    (hacted : Acted e token ⟨fragile, false, false⟩ h s (action, 0) s' events) :
    Rounded e token h s.reductions s' := by
  have only : ∀ {action'}, action' ∈ e.table.actions h.state token.symbol →
      action' = action := fun ha' => List.mem_singleton.1 (ha ▸ ha')
  have listed : action ∈ e.table.actions h.state token.symbol :=
    ha ▸ List.mem_singleton_self action
  obtain ⟨shifts, accepts, dead, fragile, work, later, reductions⟩ := s
  obtain ⟨rfl, rfl, rfl, rfl⟩ := hs
  cases hacted with
  | shift r => exact .ended rfl rfl (.taken (some r) listed)
  | shiftExtra => exact .ended rfl rfl (.taken none listed)
  | accept => exact .ended rfl rfl (.accepted listed)
  | stop id _ hstop =>
    exact .ended rfl rfl
      (.dead (fun _ ha' => ⟨id, only ha'⟩) (.inl (Nat.le_antisymm hle hstop)))
  | fail id _ _ hnone =>
    refine .ended rfl rfl (.dead (fun _ ha' => ⟨id, only ha'⟩) (.inr fun id' ha' => ?_))
    cases only ha'
    exact ⟨_, hnone⟩
  | reduce id _ next _ _ hlt hreduces =>
    exact .reduced hlt listed hreduces ⟨⟨_, rfl, rfl, rfl⟩, rfl, rfl⟩ rfl

theorem Handled.rounded (hsingle : ∀ q x, (e.table.actions q x).length ≤ 1) {fragile : Bool}
    {s s' : PhaseState} {events : List TraceEvent} (hs : s.Bare)
    (hle : s.reductions ≤ maxReductions) (hh : Handled e token fragile false h s s' events) :
    Rounded e token h s.reductions s' := by
  cases hh with
  | dead hnone =>
    refine .ended hs.work hs.later ?_
    dsimp only
    rw [hs.shifts, hs.accepts]
    refine .dead (fun action ha => ?_) (.inr fun id ha => ?_)
    · rw [hnone] at ha
      cases ha
    · rw [hnone] at ha
      cases ha
  | acted ha hne hall =>
    have hlength := hsingle h.state token.symbol
    rw [ha] at hlength
    obtain ⟨action, rfl⟩ := List.length_eq_one_iff.1
      (Nat.le_antisymm hlength (List.length_pos_iff.2 hne))
    cases hall with
    | cons hacted hnil =>
      cases hnil
      -- Whether a choice was met does not matter to how many reductions were done.
      have hbare : PhaseState.Bare { s with fragile := s.fragile || decide (1 < 1) } :=
        ⟨hs.work, hs.later, hs.shifts, hs.accepts⟩
      have hrounded := Acted.rounded ha hbare hle hacted
      exact hrounded

/-- By induction on the rounds of the phase: the head is done with, or the only head in the next round
is what a reduction made of it. -/
theorem Loops.settled (hsingle : ∀ q x, (e.table.actions q x).length ≤ 1) {fragile : Bool}
    {fuel : Nat} {s s' : PhaseState} {events : List TraceEvent}
    (hl : Loops e token fragile fuel s s' events) (hs : s.Lone h)
    (hle : s.reductions ≤ maxReductions) (hfuel : maxReductions < fuel + s.reductions) :
    ∃ n h', s.reductions + n ≤ maxReductions ∧ Reduced e token n h h' ∧
      Settled e token (s.reductions + n) h' s'.shifts s'.accepts := by
  -- Fuel and the reductions done are together more than may be done, so the fuel is not used up.
  induction hl generalizing h with
  | out s => omega
  | done hnone =>
    obtain ⟨s₁, hnext, -⟩ := hs.next
    rw [hnone] at hnext
    cases hnext
  | @step fuel s s₁ s₂ s' head forked events events' hnext hhandled hl ih =>
    obtain ⟨hx, hbare, hreductions⟩ := hs.bare hnext
    obtain ⟨rfl, rfl⟩ := Prod.mk.inj hx
    rw [← hreductions] at hle hfuel ⊢
    cases hhandled.rounded hsingle hbare hle with
    | ended hwork hlater hsettled =>
      rw [hl.eq_of_done hwork hlater]
      exact ⟨0, head, hle, .refl head, hsettled⟩
    | reduced hlt ha hr hs' hone =>
      obtain ⟨n, h', hn, hreduced, hsettled⟩ := ih hs' (by omega) (by omega)
      rw [hone, Nat.add_assoc, Nat.add_comm 1] at hn hsettled
      exact ⟨n + 1, h', hn, .step ha hr hreduced, hsettled⟩

/-- A phase that begins with one head comes to one, and it does so by reducing. -/
theorem exists_settled (hsingle : ∀ q x, (e.table.actions q x).length ≤ 1) {recovering : Bool}
    {phase : Phase} (h₀ : Returns (e.reducePhase token recovering) c phase c')
    (hc : c.heads = [h]) : ∃ n h', n ≤ maxReductions ∧ Reduced e token n h h' ∧
      Settled e token n h' phase.shifts phase.accepts := by
  obtain ⟨-, s', _, rfl, -, loops⟩ := returns_reducePhase h₀
  rw [hc] at loops
  obtain ⟨n, h', hn, hreduced, hsettled⟩ := loops.settled hsingle
    ⟨⟨_, rfl, rfl, rfl⟩, rfl, rfl⟩ (Nat.zero_le _) (Nat.lt_of_lt_of_le (Nat.lt_add_of_pos_left
      Nat.one_pos) (Nat.le_add_right _ _))
  rw [PhaseState.begin, Nat.zero_add] at hn hsettled
  exact ⟨n, h', hn, hreduced, hsettled.reverse⟩

/-! ## Trying a token -/

/-- A head that takes a token alone has nothing to be merged with. -/
theorem returns_shift_single {x : Head × Option StateId} {fragile : Bool} {u : Unit}
    (hr : Returns (e.shift [x] token fragile none) c u c') :
    ∃ fragile, c'.heads = [{ shifted token fragile none x with path := [] }] := by
  simp only [Engine.shift, returns_bind, returns_modify] at hr
  obtain ⟨heads, d, hmap, _, _, rfl, hr⟩ := hr
  obtain ⟨-, rfl⟩ := returns_mapM_shiftHead hmap
  simp only [mergeHeads, List.map_cons, List.map_nil, List.mergeSort_singleton, mergeInto,
    List.any_nil, Bool.false_eq_true, if_false, List.nil_append, returns_bind, returns_pure] at hr
  obtain ⟨_, _, ⟨rfl, rfl⟩, hr⟩ := hr
  refine ⟨fragile || decide (1 < [x].length), ?_⟩
  generalize shifted token (fragile || decide (1 < [x].length)) none x = head at hr ⊢
  have hlimit : [head].take e.options.maxHeads = [head] :=
    List.take_of_length_le e.options.maxHeads_pos
  split at hr
  · next hmany => exact absurd hmany (Nat.not_lt.2 e.options.maxHeads_pos)
  · rw [hlimit] at hr
    rw [returns_modify.1 hr]

/-- What trying a token leads to when there is one head and no choice. -/
inductive Attempted (e : Engine) (token : Token) (h : Head) (c c' : Configuration) :
    Progress → Prop where
  | taken {n : Nat} {next : Head} (target : Option StateId) (fragile : Bool)
      (hn : n ≤ maxReductions) (hr : Reduced e token n h next)
      (ha : taking target ∈ e.table.actions next.state token.symbol)
      (hheads : c'.heads = [{ shifted token fragile none (next, target) with path := [] }])
      (hpending : c'.pending = c.pending) :
      Attempted e token h c c' .taken
  | accepted {n : Nat} {next : Head} (hn : n ≤ maxReductions) (hr : Reduced e token n h next)
      (ha : .accept ∈ e.table.actions next.state token.symbol) :
      Attempted e token h c c' (.finished (rootOf next.stack.subtrees token.lookaheadEnd))
  | stuck {n : Nat} {next : Head} (head : Head) (hr : Reduced e token n h next)
      (hdead : Settled e token n next [] []) : Attempted e token h c c' (.stuck head)

theorem attempted (hsingle : ∀ q x, (e.table.actions q x).length ≤ 1) (hfresh : e.reuse = none)
    (hc : c.heads = [h]) {recovering : Bool} {progress : Progress}
    (hr : Returns (e.advance token recovering) c progress c') :
    Attempted e token h c c' progress := by
  obtain ⟨phase, d, hphase, h⟩ := returns_advance hr
  obtain ⟨n, next, hn, hreduced, hsettled⟩ := exists_settled hsingle hphase hc
  generalize hshifts : phase.shifts = shifts at hsettled
  generalize haccepts : phase.accepts = accepts at hsettled
  -- What the head has come to leaves one thing to be done after the phase.
  cases hsettled with
  | accepted ha =>
    have best : Head.preferred phase.accepts = some next := haccepts ▸ rfl
    have some_best : Head.preferred phase.accepts ≠ none := best ▸ Option.some_ne_none _
    cases h with
    | finished hbest haccept =>
      obtain rfl := Option.some.inj (best.symm.trans hbest)
      simp only [returns_bind, Engine.accept, returns_record, returns_pure] at haccept
      obtain ⟨_, _, rfl, rfl, rfl⟩ := haccept
      exact .accepted hn hreduced ha
    | stuck hnone => exact absurd hnone some_best
    | reused hnone => exact absurd hnone some_best
    | shifted hnone => exact absurd hnone some_best
  | dead hreduce hstop =>
    have none_best : Head.preferred phase.accepts = none := haccepts ▸ rfl
    cases h with
    | finished hbest => cases none_best.symm.trans hbest
    | stuck => exact .stuck _ hreduced (.dead hreduce hstop)
    | reused _ hne => exact absurd hshifts hne
    | shifted _ hne => exact absurd hshifts hne
  | taken target ha =>
    have none_best : Head.preferred phase.accepts = none := haccepts ▸ rfl
    cases h with
    | finished hbest => cases none_best.symm.trans hbest
    | stuck _ hempty => cases hshifts.symm.trans hempty
    | reused _ _ hreuse => cases (returns_tryReuse_of_fresh hfresh hreuse).1
    | shifted _ _ hreuse hshift =>
      obtain ⟨-, rfl⟩ := returns_tryReuse_of_fresh hfresh hreuse
      rw [hshifts] at hshift
      obtain ⟨fragile, hheads⟩ := returns_shift_single hshift
      obtain ⟨_, quiet, -⟩ := returns_shift (List.cons_ne_nil _ _) hshift
      exact .taken target fragile hn hreduced ha hheads
        (quiet.pending.trans (returns_reducePhase hphase).1.pending)

end IncrementalGlr.Engine
