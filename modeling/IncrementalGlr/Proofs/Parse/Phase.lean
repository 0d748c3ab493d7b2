import IncrementalGlr.Proofs.Parse.Parsing

/-!
What happens to the heads at one token. `Acted` says what one action can do with a head. From it
follows what a whole phase does (`Keeps.reducePhase`): a property of heads that reducing keeps holds
of every head that comes out, each head that takes the token or accepts has an action that says so,
and no phase that begins with a head ends without one.
-/
namespace IncrementalGlr

/-- The token that was looked for in a step. -/
def TraceEvent.token? : TraceEvent → Option Token
  | .lex token => some token
  | _ => none

/-- The tokens that were looked for so far. -/
def Configuration.pulled (c : Configuration) : List Token := c.trace.toList.filterMap (·.token?)

namespace Parsing

/-- Nothing but the fuel and the trace has changed, and no token was looked for. -/
structure Quiet (c c' : Configuration) : Prop where
  heads : c'.heads = c.heads
  position : c'.position = c.position
  lexState : c'.lexState = c.lexState
  pending : c'.pending = c.pending
  resync : c'.resync = c.resync
  stats : c'.stats = c.stats
  polls : c'.polls = c.polls
  pulled : c'.pulled = c.pulled

theorem Quiet.refl (c : Configuration) : Quiet c c := ⟨rfl, rfl, rfl, rfl, rfl, rfl, rfl, rfl⟩

theorem Quiet.trans {a b c : Configuration} (h : Quiet a b) (h' : Quiet b c) : Quiet a c where
  heads := h'.heads.trans h.heads
  position := h'.position.trans h.position
  lexState := h'.lexState.trans h.lexState
  pending := h'.pending.trans h.pending
  resync := h'.resync.trans h.resync
  stats := h'.stats.trans h.stats
  polls := h'.polls.trans h.polls
  pulled := h'.pulled.trans h.pulled

theorem quiet_fuel (c : Configuration) (fuel : Option Nat) : Quiet c { c with fuel } :=
  ⟨rfl, rfl, rfl, rfl, rfl, rfl, rfl, rfl⟩

theorem pulled_push (c : Configuration) (event : TraceEvent) :
    ({ c with trace := c.trace.push event } : Configuration).pulled =
      c.pulled ++ event.token?.toList := by
  rw [Configuration.pulled, Array.toList_push, List.filterMap_append]
  cases h : event.token? <;> simp [h, Configuration.pulled]

theorem quiet_record {c : Configuration} {event : TraceEvent} (h : event.token? = none) :
    Quiet c { c with trace := c.trace.push event } := by
  refine ⟨rfl, rfl, rfl, rfl, rfl, rfl, rfl, ?_⟩
  rw [pulled_push, h]
  exact List.append_nil _

theorem Returns.quiet_of_record {c c' : Configuration} {event : TraceEvent} {u : Unit}
    (h : Returns (record event) c u c') (he : event.token? = none) : Quiet c c' := by
  rw [returns_record.1 h]
  exact quiet_record he

theorem Returns.quiet_of_spend {c c' : Configuration} {u : Unit}
    (h : Returns Parsing.spend c u c') : Quiet c c' := by
  obtain ⟨fuel, rfl⟩ := h.spend
  exact quiet_fuel c fuel

end Parsing

namespace Head

/-- The best value is one of them. -/
theorem mem_of_preferredBy {α : Type} {head : α → Head} {xs : List α} {best : α}
    (h : preferredBy head xs = some best) : best ∈ xs := by
  induction xs generalizing best with
  | nil => cases h
  | cons x rest ih =>
    rw [preferredBy] at h
    split at h
    · exact Option.some.inj h ▸ List.mem_cons_self
    · next hrest =>
      split at h
      · exact List.mem_cons_of_mem x (ih (hrest.trans h))
      · exact Option.some.inj h ▸ List.mem_cons_self

theorem eq_nil_of_preferredBy {α : Type} {head : α → Head} {xs : List α}
    (h : preferredBy head xs = none) : xs = [] := by
  cases xs with
  | nil => rfl
  | cons x rest =>
    rw [preferredBy] at h
    split at h
    · cases h
    · split at h <;> cases h

end Head

namespace Engine

open Parsing

variable {e : Engine} {token : Token} {c c' : Configuration}

/-! ## One action -/

/-- The head on which an action is done: where there is a choice, it remembers it. -/
def Circumstances.branch (k : Circumstances) (head : Head) (index : Nat) : Head :=
  if k.conflict then { head with path := index % choiceLimit :: head.path } else head

theorem stack_branch (k : Circumstances) (head : Head) (i : Nat) :
    (k.branch head i).stack = head.stack := by
  unfold Circumstances.branch
  split <;> rfl

theorem state_branch (k : Circumstances) (head : Head) (i : Nat) :
    (k.branch head i).state = head.state :=
  congrArg Stack.state (stack_branch k head i)

/-- What a reduction makes of a head. -/
def Reduces (e : Engine) (token : Token) (fragile : Bool) (id : ProductionId)
    (head next : Head) : Prop :=
  ∃ p stack state, e.table.production? id = some p ∧
    head.stack.reduce e.table id token.lookaheadEnd fragile = some (stack, state) ∧
    next = { head with
      stack
      dynamicPrecedence := wrap32 (head.dynamicPrecedence + p.dynamicPrecedence) }

/-- What one action does with a head in a phase, and the steps that are recorded. -/
inductive Acted (e : Engine) (token : Token) (k : Circumstances) (head : Head) (s : PhaseState) :
    Action × Nat → PhaseState → List TraceEvent → Prop where
  | shift (r : StateId) (i : Nat) : Acted e token k head s (.shift r, i)
      { s with shifts := (k.branch head i, some r) :: s.shifts } []
  | shiftExtra (i : Nat) : Acted e token k head s (.shiftExtra, i)
      { s with shifts := (k.branch head i, none) :: s.shifts } []
  | accept (i : Nat) : Acted e token k head s (.accept, i)
      { s with accepts := k.branch head i :: s.accepts } []
  | stop (id : ProductionId) (i : Nat) (h : maxReductions ≤ s.reductions) :
      Acted e token k head s (.reduce id, i) { s with dead := k.branch head i :: s.dead } []
  | fail (id : ProductionId) (i : Nat) (h : s.reductions < maxReductions)
      (hr : ∀ next, ¬ Reduces e token (k.fragile || k.forked || k.conflict) id (k.branch head i) next) :
      Acted e token k head s (.reduce id, i)
        { s with reductions := s.reductions + 1, dead := k.branch head i :: s.dead } []
  | reduce (id : ProductionId) (i : Nat) (next : Head) (symbol : SymbolId) (state : StateId)
      (h : s.reductions < maxReductions)
      (hr : Reduces e token (k.fragile || k.forked || k.conflict) id (k.branch head i) next) :
      Acted e token k head s (.reduce id, i)
        { s with
          reductions := s.reductions + 1
          later := (next, k.forked || k.conflict) :: s.later } [.reduce id symbol state]

theorem returns_reduce {head : Head} {id : ProductionId} {fragile : Bool} {next : Option Head}
    (h : Returns (e.reduce head id token fragile) c next c') : Quiet c c' ∧ match next with
      | some head' => Reduces e token fragile id head head' ∧ ∃ symbol state,
        c'.trace.toList = c.trace.toList ++ [.reduce id symbol state]
      | none => (∀ head', ¬ Reduces e token fragile id head head') ∧ c' = c := by
  unfold Engine.reduce at h
  split at h
  · next p stack state hp hs =>
    simp only [returns_bind, returns_record, returns_pure] at h
    obtain ⟨_, _, rfl, rfl, rfl⟩ := h
    exact ⟨quiet_record rfl, ⟨p, stack, state, hp, hs, rfl⟩, p.lhs, state, Array.toList_push⟩
  · next hnone =>
    obtain ⟨rfl, rfl⟩ := returns_pure.1 h
    refine ⟨Quiet.refl c', ?_, rfl⟩
    rintro _ ⟨p, stack, state, hp, hs, -⟩
    exact hnone p stack state hp hs

theorem returns_act {k : Circumstances} {head : Head} {s s' : PhaseState} {choice : Action × Nat}
    (h : Returns (e.act token k head s choice) c s' c') :
    Quiet c c' ∧ ∃ events, c'.trace.toList = c.trace.toList ++ events ∧
      Acted e token k head s choice s' events := by
  obtain ⟨action, i⟩ := choice
  simp only [Engine.act, returns_bind] at h
  obtain ⟨_, d, hspend, h⟩ := h
  have quiet := hspend.quiet_of_spend
  obtain ⟨fuel, rfl⟩ := hspend.spend
  cases action with
  | shift r =>
    obtain ⟨rfl, rfl⟩ := returns_pure.1 h
    exact ⟨quiet, [], (List.append_nil _).symm, .shift r i⟩
  | shiftExtra =>
    obtain ⟨rfl, rfl⟩ := returns_pure.1 h
    exact ⟨quiet, [], (List.append_nil _).symm, .shiftExtra i⟩
  | accept =>
    obtain ⟨rfl, rfl⟩ := returns_pure.1 h
    exact ⟨quiet, [], (List.append_nil _).symm, .accept i⟩
  | reduce id =>
    dsimp only at h
    split at h
    · next hlimit =>
      obtain ⟨rfl, rfl⟩ := returns_pure.1 h
      exact ⟨quiet, [], (List.append_nil _).symm, .stop id i hlimit⟩
    · next hlimit =>
      have hlimit := Nat.not_le.1 hlimit
      simp only [returns_bind] at h
      obtain ⟨next, d', hreduce, h⟩ := h
      obtain ⟨quiet', made⟩ := returns_reduce hreduce
      cases next with
      | none =>
        obtain ⟨rfl, rfl⟩ := returns_pure.1 h
        obtain ⟨hnone, rfl⟩ := made
        exact ⟨quiet, [], (List.append_nil _).symm, .fail id i hlimit hnone⟩
      | some next =>
        obtain ⟨rfl, rfl⟩ := returns_pure.1 h
        obtain ⟨hr, symbol, state, htrace⟩ := made
        exact ⟨quiet.trans quiet', _, htrace, .reduce id i next symbol state hlimit hr⟩

/-- What several actions do with a head, one after another. -/
inductive ActedAll (e : Engine) (token : Token) (k : Circumstances) (head : Head) :
    PhaseState → List (Action × Nat) → PhaseState → List TraceEvent → Prop where
  | nil (s : PhaseState) : ActedAll e token k head s [] s []
  | cons {s s' s'' : PhaseState} {choice : Action × Nat} {rest : List (Action × Nat)}
      {events events' : List TraceEvent} (h : Acted e token k head s choice s' events)
      (hrest : ActedAll e token k head s' rest s'' events') :
      ActedAll e token k head s (choice :: rest) s'' (events ++ events')

theorem returns_foldlM_act {k : Circumstances} {head : Head} {choices : List (Action × Nat)}
    {s s' : PhaseState} (h : Returns (choices.foldlM (e.act token k head) s) c s' c') :
    Quiet c c' ∧ ∃ events, c'.trace.toList = c.trace.toList ++ events ∧
      ActedAll e token k head s choices s' events := by
  induction choices generalizing s c with
  | nil =>
    rw [List.foldlM_nil] at h
    obtain ⟨rfl, rfl⟩ := returns_pure.1 h
    exact ⟨Quiet.refl _, [], (List.append_nil _).symm, .nil _⟩
  | cons choice rest ih =>
    simp only [List.foldlM_cons, returns_bind] at h
    obtain ⟨_, _, hact, hrest⟩ := h
    obtain ⟨quiet, events, htrace, acted⟩ := returns_act hact
    obtain ⟨quiet', events', htrace', actedAll⟩ := ih hrest
    refine ⟨quiet.trans quiet', events ++ events', ?_, .cons acted actedAll⟩
    rw [htrace', htrace, List.append_assoc]

/-! ## All actions of a head -/

/-- What becomes of a head that a phase deals with. -/
inductive Handled (e : Engine) (token : Token) (fragile forked : Bool) (head : Head)
    (s : PhaseState) : PhaseState → List TraceEvent → Prop where
  | dead (h : e.table.actions head.state token.symbol = []) :
      Handled e token fragile forked head s { s with dead := head :: s.dead } []
  | acted {actions : List Action} {s' : PhaseState} {events : List TraceEvent}
      (ha : e.table.actions head.state token.symbol = actions) (hne : actions ≠ [])
      (h : ActedAll e token ⟨fragile, forked, decide (1 < actions.length)⟩ head
        { s with fragile := s.fragile || decide (1 < actions.length) } actions.zipIdx s' events) :
      Handled e token fragile forked head s s' ((if 1 < actions.length then
        [.fork head.state token.symbol actions.length] else []) ++ events)

theorem returns_actAll {fragile forked : Bool} {head : Head} {s s' : PhaseState}
    (h : Returns (e.actAll token fragile head forked s) c s' c') :
    Quiet c c' ∧ ∃ events, c'.trace.toList = c.trace.toList ++ events ∧
      Handled e token fragile forked head s s' events := by
  unfold Engine.actAll at h
  dsimp only at h
  split at h
  · next hempty =>
    obtain ⟨rfl, rfl⟩ := returns_pure.1 h
    exact ⟨Quiet.refl _, [], (List.append_nil _).symm, .dead (List.isEmpty_iff.1 hempty)⟩
  · next hne =>
    have hne : e.table.actions head.state token.symbol ≠ [] := fun h => hne (List.isEmpty_iff.2 h)
    split at h
    · next hmany =>
      simp only [returns_bind] at h
      obtain ⟨_, _, hrecord, h⟩ := h
      obtain ⟨quiet, events, htrace, actedAll⟩ := returns_foldlM_act h
      refine ⟨(hrecord.quiet_of_record rfl).trans quiet, _, ?_, .acted rfl hne actedAll⟩
      rw [htrace, returns_record.1 hrecord, if_pos hmany, Array.toList_push,
        List.append_assoc]
    · next hsingle =>
      obtain ⟨quiet, events, htrace, actedAll⟩ := returns_foldlM_act h
      refine ⟨quiet, _, ?_, .acted rfl hne actedAll⟩
      rw [htrace, if_neg hsingle, List.nil_append]

/-! ## Whole phases -/

/-- How a phase goes on until no head is left to be dealt with. -/
inductive Loops (e : Engine) (token : Token) (fragile : Bool) :
    Nat → PhaseState → PhaseState → List TraceEvent → Prop where
  | out (s : PhaseState) : Loops e token fragile 0 s s []
  | done {fuel : Nat} {s : PhaseState} (h : s.next? = none) :
      Loops e token fragile (fuel + 1) s s []
  | step {fuel : Nat} {s s₁ s₂ s' : PhaseState} {head : Head} {forked : Bool}
      {events events' : List TraceEvent} (h : s.next? = some ((head, forked), s₁))
      (hh : Handled e token fragile forked head s₁ s₂ events)
      (hl : Loops e token fragile fuel s₂ s' events') :
      Loops e token fragile (fuel + 1) s s' (events ++ events')

theorem returns_phaseLoop {fragile : Bool} {fuel : Nat} {s : PhaseState} {phase : Phase}
    (h : Returns (e.phaseLoop token fragile fuel s) c phase c') :
    Quiet c c' ∧ ∃ s' events, phase = s'.phase ∧ c'.trace.toList = c.trace.toList ++ events ∧
      Loops e token fragile fuel s s' events := by
  induction fuel generalizing s c with
  | zero =>
    obtain ⟨rfl, rfl⟩ := returns_pure.1 h
    exact ⟨Quiet.refl _, s, [], rfl, (List.append_nil _).symm, .out s⟩
  | succ fuel ih =>
    rw [Engine.phaseLoop] at h
    split at h
    · next hnext =>
      obtain ⟨rfl, rfl⟩ := returns_pure.1 h
      exact ⟨Quiet.refl _, s, [], rfl, (List.append_nil _).symm, .done hnext⟩
    · next head forked s₁ hnext =>
      simp only [returns_bind] at h
      obtain ⟨s₂, _, hact, hrest⟩ := h
      obtain ⟨quiet, events, htrace, handled⟩ := returns_actAll hact
      obtain ⟨quiet', s', events', hphase, htrace', loops⟩ := ih hrest
      refine ⟨quiet.trans quiet', s', events ++ events', hphase, ?_, .step hnext handled loops⟩
      rw [htrace', htrace, List.append_assoc]

/-- A phase as it begins with several heads. -/
def PhaseState.begin (heads : List Head) : PhaseState where
  fragile := decide (1 < heads.length)
  work := heads.map fun h => (h, false)

theorem returns_reducePhase {recovering : Bool} {phase : Phase}
    (h : Returns (e.reducePhase token recovering) c phase c') :
    Quiet { c with heads := [] } c' ∧
      ∃ s' events, phase = s'.phase ∧ c'.trace.toList = c.trace.toList ++ events ∧
        Loops e token (recovering || decide (1 < c.heads.length)) (c.heads.length + maxReductions)
          (.begin c.heads) s' events := by
  simp only [Engine.reducePhase, returns_bind, returns_get, returns_modify] at h
  obtain ⟨_, _, ⟨rfl, rfl⟩, _, _, rfl, h⟩ := h
  exact returns_phaseLoop h

/-! ## What every head keeps -/

/-- A property of heads that reductions at a token keep, whatever choices a head remembers. -/
structure Keeps (e : Engine) (token : Token) (P : Head → Prop) : Prop where
  path : ∀ (h : Head) (path : Choices), P h → P { h with path }
  reduce : ∀ (fragile : Bool) (id : ProductionId) (h next : Head), P h →
    .reduce id ∈ e.table.actions h.state token.symbol → Reduces e token fragile id h next → P next

/-- A property of heads that the reductions of a phase at a token keep. A node that does not come out
fragile was built while the phase did not make all nodes so, and there was no choice. -/
structure KeepsIn (e : Engine) (token : Token) (fragile₀ : Bool) (P : Head → Prop) : Prop where
  path : ∀ (h : Head) (path : Choices), P h → P { h with path }
  reduce : ∀ (fragile : Bool) (id : ProductionId) (h next : Head), P h →
    .reduce id ∈ e.table.actions h.state token.symbol →
    (fragile = false → fragile₀ = false ∧
      e.table.actions h.state token.symbol = [.reduce id]) →
    Reduces e token fragile id h next → P next

/-- The action by which a token is taken: it leads to a state, or it is taken as an extra. -/
def taking : Option StateId → Action
  | some r => .shift r
  | none => .shiftExtra

/-- The heads that a phase has come to have the property, and those that are done with the token
have actions that say so. -/
structure PhaseState.Holds (e : Engine) (token : Token) (P : Head → Prop) (s : PhaseState) :
    Prop where
  shifts : ∀ x ∈ s.shifts, P x.1 ∧ taking x.2 ∈ e.table.actions x.1.state token.symbol
  accepts : ∀ h ∈ s.accepts, P h ∧ .accept ∈ e.table.actions h.state token.symbol
  dead : ∀ h ∈ s.dead, P h
  work : ∀ x ∈ s.work, P x.1
  later : ∀ x ∈ s.later, P x.1

/-- The heads that come out of a phase have the property, and their actions say what they do. -/
structure Phase.Holds (e : Engine) (token : Token) (P : Head → Prop) (p : Phase) : Prop where
  shifts : ∀ x ∈ p.shifts, P x.1 ∧ taking x.2 ∈ e.table.actions x.1.state token.symbol
  accepts : ∀ h ∈ p.accepts, P h ∧ .accept ∈ e.table.actions h.state token.symbol
  dead : ∀ h ∈ p.dead, P h

theorem PhaseState.Holds.phase {P : Head → Prop} {s : PhaseState} (h : s.Holds e token P) :
    s.phase.Holds e token P where
  shifts x hx := h.shifts x (List.mem_reverse.1 hx)
  accepts x hx := h.accepts x (List.mem_reverse.1 hx)
  dead x hx := h.dead x (List.mem_reverse.1 hx)

theorem PhaseState.Holds.begin {P : Head → Prop} {heads : List Head} (h : ∀ x ∈ heads, P x) :
    (PhaseState.begin heads).Holds e token P where
  shifts _ hx := absurd hx List.not_mem_nil
  accepts _ hx := absurd hx List.not_mem_nil
  dead _ hx := absurd hx List.not_mem_nil
  work x hx := by
    obtain ⟨head, hhead, rfl⟩ := List.mem_map.1 hx
    exact h head hhead
  later _ hx := absurd hx List.not_mem_nil

section KeepsIn

variable {P : Head → Prop} {fragile₀ : Bool}

theorem Keeps.keepsIn (hP : e.Keeps token P) (fragile₀ : Bool) : e.KeepsIn token fragile₀ P where
  path := hP.path
  reduce fragile id h next hh ha _ hr := hP.reduce fragile id h next hh ha hr

variable (hP : e.KeepsIn token fragile₀ P)
include hP

theorem KeepsIn.branch {k : Circumstances} {head : Head} (h : P head) (i : Nat) :
    P (k.branch head i) := by
  unfold Circumstances.branch
  split
  · exact hP.path head _ h
  · exact h

theorem KeepsIn.acted {forked conflict : Bool} {head : Head} {s s' : PhaseState}
    {choice : Action × Nat} {events : List TraceEvent}
    (h : Acted e token ⟨fragile₀, forked, conflict⟩ head s choice s' events) (hh : P head)
    (hc : choice.1 ∈ e.table.actions head.state token.symbol)
    (hsingle : conflict = false → e.table.actions head.state token.symbol = [choice.1])
    (hs : s.Holds e token P) : s'.Holds e token P := by
  have branch := hP.branch (k := ⟨fragile₀, forked, conflict⟩) hh
  cases h with
  | shift r i =>
    refine { hs with shifts := List.forall_mem_cons.2 ⟨⟨branch i, ?_⟩, hs.shifts⟩ }
    rw [state_branch]
    exact hc
  | shiftExtra i =>
    refine { hs with shifts := List.forall_mem_cons.2 ⟨⟨branch i, ?_⟩, hs.shifts⟩ }
    rw [state_branch]
    exact hc
  | accept i =>
    refine { hs with accepts := List.forall_mem_cons.2 ⟨⟨branch i, ?_⟩, hs.accepts⟩ }
    rw [state_branch]
    exact hc
  | stop id i _ => exact { hs with dead := List.forall_mem_cons.2 ⟨branch i, hs.dead⟩ }
  | fail id i _ _ => exact { hs with dead := List.forall_mem_cons.2 ⟨branch i, hs.dead⟩ }
  | reduce id i next _ _ _ hr =>
    have next_holds : P next := by
      refine hP.reduce _ id _ next (branch i) ?_ (fun hcalm => ?_) hr
      · rw [state_branch]
        exact hc
      · simp only [Bool.or_eq_false_iff] at hcalm
        rw [state_branch]
        exact ⟨hcalm.1.1, hsingle hcalm.2⟩
    exact { hs with later := List.forall_mem_cons.2 ⟨next_holds, hs.later⟩ }

theorem KeepsIn.actedAll {forked conflict : Bool} {head : Head} {s s' : PhaseState}
    {choices : List (Action × Nat)} {events : List TraceEvent}
    (h : ActedAll e token ⟨fragile₀, forked, conflict⟩ head s choices s' events) (hh : P head)
    (hc : ∀ x ∈ choices, x.1 ∈ e.table.actions head.state token.symbol ∧
      (conflict = false → e.table.actions head.state token.symbol = [x.1]))
    (hs : s.Holds e token P) : s'.Holds e token P := by
  induction h with
  | nil => exact hs
  | cons hact _ ih =>
    obtain ⟨ha, hsingle⟩ := hc _ List.mem_cons_self
    exact ih (fun x hx => hc x (List.mem_cons_of_mem _ hx)) (hP.acted hact hh ha hsingle hs)

omit hP in
/-- Where there is no conflict an action of a head is its only one. -/
theorem eq_singleton_of_mem {α : Type} {x : α} {xs : List α} (hx : x ∈ xs)
    (h : decide (1 < xs.length) = false) : xs = [x] := by
  match xs with
  | [] => cases hx
  | [y] => rw [List.mem_singleton.1 hx]
  | y :: z :: rest => simp at h

theorem KeepsIn.handled {forked : Bool} {head : Head} {s s' : PhaseState}
    {events : List TraceEvent} (h : Handled e token fragile₀ forked head s s' events) (hh : P head)
    (hs : s.Holds e token P) : s'.Holds e token P := by
  cases h with
  | dead _ => exact { hs with dead := List.forall_mem_cons.2 ⟨hh, hs.dead⟩ }
  | acted ha _ hall =>
    refine hP.actedAll hall hh (fun x hx => ?_) { hs with }
    rw [ha]
    have listed := List.fst_mem_of_mem_zipIdx hx
    exact ⟨listed, eq_singleton_of_mem listed⟩

omit hP in
theorem PhaseState.Holds.next {s s' : PhaseState} {head : Head} {forked : Bool}
    (h : s.next? = some ((head, forked), s')) (hs : s.Holds e token P) :
    P head ∧ s'.Holds e token P := by
  unfold PhaseState.next? at h
  split at h
  · next first work hwork =>
    cases h
    exact ⟨hs.work _ (hwork ▸ List.mem_cons_self),
      { hs with work := fun x hx => hs.work x (hwork ▸ List.mem_cons_of_mem _ hx) }⟩
  · split at h
    · next first work hlater =>
      cases h
      have waiting : ∀ x ∈ (head, forked) :: work, P x.1 := fun x hx =>
        hs.later x (List.mem_reverse.1 (hlater ▸ hx))
      exact ⟨waiting _ List.mem_cons_self,
        { hs with
          work := fun x hx => waiting x (List.mem_cons_of_mem _ hx)
          later := fun x hx => absurd hx List.not_mem_nil }⟩
    · cases h

theorem KeepsIn.loops {fuel : Nat} {s s' : PhaseState} {events : List TraceEvent}
    (h : Loops e token fragile₀ fuel s s' events) (hs : s.Holds e token P) :
    s'.Holds e token P := by
  induction h with
  | out s => exact hs
  | done _ => exact hs
  | step hnext hhandled _ ih =>
    obtain ⟨hhead, hs⟩ := hs.next hnext
    exact ih (hP.handled hhandled hhead hs)

omit hP in
/-- What holds of all heads holds of those that come out of a phase. -/
theorem KeepsIn.reducePhase {recovering : Bool} {phase : Phase}
    (hP : e.KeepsIn token (recovering || decide (1 < c.heads.length)) P)
    (h : Returns (e.reducePhase token recovering) c phase c') (hc : ∀ h ∈ c.heads, P h) :
    phase.Holds e token P := by
  obtain ⟨-, s', _, rfl, -, loops⟩ := returns_reducePhase h
  exact (hP.loops loops (.begin hc)).phase

end KeepsIn

section Keeps

variable {P : Head → Prop} (hP : e.Keeps token P)
include hP

theorem Keeps.branch {k : Circumstances} {head : Head} (h : P head) (i : Nat) :
    P (k.branch head i) := (hP.keepsIn k.fragile).branch h i

theorem Keeps.handled {fragile forked : Bool} {head : Head} {s s' : PhaseState}
    {events : List TraceEvent} (h : Handled e token fragile forked head s s' events) (hh : P head)
    (hs : s.Holds e token P) : s'.Holds e token P :=
  (hP.keepsIn fragile).handled h hh hs

theorem Keeps.reducePhase {recovering : Bool} {phase : Phase}
    (h : Returns (e.reducePhase token recovering) c phase c') (hc : ∀ h ∈ c.heads, P h) :
    phase.Holds e token P :=
  (hP.keepsIn _).reducePhase h hc

end Keeps

/-! ## Phases without a choice -/

/-- As long as no choice was met, the heads that take the token had none. -/
def PhaseState.Single (e : Engine) (token : Token) (s : PhaseState) : Prop :=
  s.fragile = false → ∀ x ∈ s.shifts, (e.table.actions x.1.state token.symbol).length ≤ 1

theorem ActedAll.origin {k : Circumstances} {head : Head} {s s' : PhaseState}
    {choices : List (Action × Nat)} {events : List TraceEvent}
    (h : ActedAll e token k head s choices s' events) :
    s'.fragile = s.fragile ∧ ∀ x ∈ s'.shifts, x ∈ s.shifts ∨ x.1.state = head.state := by
  induction h with
  | nil => exact ⟨rfl, fun x hx => .inl hx⟩
  | cons hact _ ih =>
    cases hact with
    | shift r i | shiftExtra i =>
      refine ⟨ih.1, fun x hx => (ih.2 x hx).elim (fun hx => ?_) .inr⟩
      rcases List.mem_cons.1 hx with rfl | hx
      · exact .inr (state_branch k head i)
      · exact .inl hx
    | accept i => exact ih
    | stop => exact ih
    | fail => exact ih
    | reduce => exact ih

theorem Handled.single {fragile forked : Bool} {head : Head} {s s' : PhaseState}
    {events : List TraceEvent} (h : Handled e token fragile forked head s s' events)
    (hs : s.Single e token) : s'.Single e token := by
  cases h with
  | dead _ => exact hs
  | acted ha _ hall =>
    obtain ⟨same, origin⟩ := hall.origin
    intro hcalm x hx
    rw [same, Bool.or_eq_false_iff, decide_eq_false_iff_not, Nat.not_lt] at hcalm
    rcases origin x hx with hx | hstate
    · exact hs hcalm.1 x hx
    · rw [hstate, ha]
      exact hcalm.2

theorem Loops.single {fragile : Bool} {fuel : Nat} {s s' : PhaseState} {events : List TraceEvent}
    (h : Loops e token fragile fuel s s' events) (hs : s.Single e token) : s'.Single e token := by
  induction h with
  | out | done => exact hs
  | step hnext hhandled _ ih =>
    refine ih (hhandled.single ?_)
    unfold PhaseState.next? at hnext
    split at hnext
    · cases hnext
      exact hs
    · split at hnext
      · cases hnext
        exact hs
      · cases hnext

/-- A head that takes the token in a phase that is not fragile has nothing else to do. -/
theorem single_of_reducePhase {recovering : Bool} {phase : Phase}
    (h : Returns (e.reducePhase token recovering) c phase c') (hcalm : phase.fragile = false)
    {x : Head × Option StateId} (hx : x ∈ phase.shifts)
    (ha : taking x.2 ∈ e.table.actions x.1.state token.symbol) :
    e.table.actions x.1.state token.symbol = [taking x.2] := by
  obtain ⟨-, s', _, rfl, -, loops⟩ := returns_reducePhase h
  have single := loops.single (fun _ x hx => absurd hx List.not_mem_nil) hcalm x
    (List.mem_reverse.1 hx)
  exact eq_singleton_of_mem ha (decide_eq_false (Nat.not_lt.2 single))

/-! ## No head gets lost -/

/-- The number of heads that are done with the token. -/
def PhaseState.settled (s : PhaseState) : Nat := s.shifts.length + s.accepts.length + s.dead.length

/-- The number of heads still to be dealt with, those that reductions can still lead to included. -/
def PhaseState.open (s : PhaseState) : Nat :=
  s.work.length + s.later.length + (maxReductions - s.reductions)

theorem Acted.counts {k : Circumstances} {head : Head} {s s' : PhaseState}
    {choice : Action × Nat} {events : List TraceEvent}
    (h : Acted e token k head s choice s' events) :
    s'.open ≤ s.open ∧ s'.settled + s'.later.length = s.settled + s.later.length + 1 := by
  simp only [PhaseState.open, PhaseState.settled]
  cases h <;> simp only [List.length_cons] <;> omega

theorem ActedAll.counts {k : Circumstances} {head : Head} {s s' : PhaseState}
    {choices : List (Action × Nat)} {events : List TraceEvent}
    (h : ActedAll e token k head s choices s' events) :
    s'.open ≤ s.open ∧
      s'.settled + s'.later.length = s.settled + s.later.length + choices.length := by
  induction h with
  | nil => exact ⟨Nat.le_refl _, rfl⟩
  | cons hact _ ih =>
    have := hact.counts
    simp only [List.length_cons]
    omega

theorem Handled.counts {fragile forked : Bool} {head : Head} {s s' : PhaseState}
    {events : List TraceEvent} (h : Handled e token fragile forked head s s' events) :
    s'.open ≤ s.open ∧ 0 < s'.settled + s'.later.length := by
  cases h with
  | dead _ =>
    simp only [PhaseState.open, PhaseState.settled, List.length_cons]
    omega
  | acted _ hne hall =>
    obtain ⟨hopen, hsettled⟩ := hall.counts
    have := List.length_pos_iff.2 hne
    rw [List.length_zipIdx] at hsettled
    exact ⟨hopen, by omega⟩

theorem PhaseState.counts_of_next {s s' : PhaseState} {x : Head × Bool}
    (h : s.next? = some (x, s')) : s'.open + 1 = s.open := by
  unfold PhaseState.next? at h
  simp only [PhaseState.open]
  split at h
  · next hwork =>
    cases h
    simp only [hwork, List.length_cons]
    omega
  · next hwork =>
    split at h
    · next hlater =>
      cases h
      have := congrArg List.length hlater
      simp only [List.length_reverse, List.length_cons] at this
      simp only [hwork, List.length_nil, this]
      omega
    · cases h

theorem PhaseState.reductions_of_next {s s' : PhaseState} {x : Head × Bool}
    (h : s.next? = some (x, s')) : s'.reductions = s.reductions := by
  unfold PhaseState.next? at h
  split at h
  · cases h
    rfl
  · split at h
    · cases h
      rfl
    · cases h

theorem PhaseState.eq_nil_of_next {s : PhaseState} (h : s.next? = none) :
    s.work = [] ∧ s.later = [] := by
  unfold PhaseState.next? at h
  split at h
  · cases h
  · next hwork =>
    split at h
    · cases h
    · next hlater => exact ⟨hwork, List.reverse_eq_nil_iff.1 hlater⟩

/-- With fuel for all heads that there can be, a phase comes to an end, and one that has a head ends
with one. -/
theorem Loops.finished {fragile : Bool} {fuel : Nat} {s s' : PhaseState} {events : List TraceEvent}
    (h : Loops e token fragile fuel s s' events) (hfuel : s.open ≤ fuel) :
    s'.work = [] ∧ s'.later = [] ∧
      (0 < s.settled + s.work.length + s.later.length → 0 < s'.settled) := by
  have ends {s : PhaseState} (hw : s.work = []) (hl : s.later = []) :
      s.work = [] ∧ s.later = [] ∧
        (0 < s.settled + s.work.length + s.later.length → 0 < s.settled) := by
    refine ⟨hw, hl, ?_⟩
    rw [hw, hl]
    exact id
  induction h with
  | out s =>
    simp only [PhaseState.open] at hfuel
    exact ends (List.length_eq_zero_iff.1 (by omega)) (List.length_eq_zero_iff.1 (by omega))
  | done hnext =>
    obtain ⟨hw, hl⟩ := PhaseState.eq_nil_of_next hnext
    exact ends hw hl
  | step hnext hhandled _ ih =>
    have hopen := PhaseState.counts_of_next hnext
    obtain ⟨hopen', hsettled⟩ := hhandled.counts
    obtain ⟨hw, hl, hpos⟩ := ih (by omega)
    exact ⟨hw, hl, fun _ => hpos (by omega)⟩

/-- A phase that begins with a head ends with one. -/
theorem exists_of_reducePhase {recovering : Bool} {phase : Phase}
    (h : Returns (e.reducePhase token recovering) c phase c') (hc : c.heads ≠ []) :
    phase.shifts ≠ [] ∨ phase.accepts ≠ [] ∨ phase.dead ≠ [] := by
  have hlen := List.length_pos_iff.2 hc
  obtain ⟨-, s', _, rfl, -, loops⟩ := returns_reducePhase h
  have pos := (loops.finished (by simp [PhaseState.open, PhaseState.begin])).2.2
    (by simpa [PhaseState.settled, PhaseState.begin] using hlen)
  simp only [← List.length_pos_iff, PhaseState.phase, List.length_reverse]
  unfold PhaseState.settled at pos
  omega

end Engine

end IncrementalGlr
