import IncrementalGlr.Proofs.Parse.Driving
import IncrementalGlr.Proofs.Parse.Promise

/-!
Trying a terminal out and taking it agree. For the table all that counts is the states on the stack
without those of extras: reductions that it names, and then an action that takes the terminal, lead
from one such list of states to another (`ParseTable.Takes`). A simulation finds what can be taken so,
a phase does, and each looks at all ways before it gives up, if it does not come to its limit
(`Simulation.isSome_run_iff`, `Engine.nonempty_iff_takes`). So where neither does, a stack of a parse
is viable for a terminal if and only if a head with this stack takes it
(`Engine.viable_iff_reducePhase`).
-/
namespace IncrementalGlr

/-! ## What the table does with states -/

namespace ParseTable

variable {t : ParseTable} {terminal : SymbolId} {id : ProductionId}
  {states states' states'' : List StateId}

/-- A reduction takes as many states off as its production is long, and its symbol leads to a new
one. -/
def Replaces (t : ParseTable) (id : ProductionId) (states states' : List StateId) : Prop :=
  ∃ p q below next, t.production? id = some p ∧ states.drop p.length = q :: below ∧
    t.goto q p.lhs = some next ∧ states' = next :: q :: below

theorem Replaces.unique (h : t.Replaces id states states') (h' : t.Replaces id states states'') :
    states' = states'' := by
  obtain ⟨p, q, below, next, hp, hdrop, hgoto, rfl⟩ := h
  obtain ⟨p', q', below', next', hp', hdrop', hgoto', rfl⟩ := h'
  obtain rfl := Option.some.inj (hp.symm.trans hp')
  obtain ⟨rfl, rfl⟩ := List.cons.inj (hdrop.symm.trans hdrop')
  rw [Option.some.inj (hgoto.symm.trans hgoto')]

/-- Reductions that the table names at the terminal, and then an action that takes it, lead from one
list of states to the other. -/
inductive Takes (t : ParseTable) (terminal : SymbolId) : List StateId → List StateId → Prop where
  | shift {q r : StateId} {below : List StateId} (ha : .shift r ∈ t.actions q terminal) :
      Takes t terminal (q :: below) (r :: q :: below)
  | stay {action : Action} {q : StateId} {below : List StateId}
      (ha : action ∈ t.actions q terminal) (h : action = .shiftExtra ∨ action = .accept) :
      Takes t terminal (q :: below) (q :: below)
  | reduce {id : ProductionId} {q : StateId} {below states states' : List StateId}
      (ha : .reduce id ∈ t.actions q terminal) (hr : t.Replaces id (q :: below) states)
      (h : Takes t terminal states states') : Takes t terminal (q :: below) states'

/-- Where the table has only reductions, one of them is done first. -/
theorem Takes.exists_of_reductions {q : StateId} {below : List StateId}
    (h : t.Takes terminal (q :: below) states) (ids : List ProductionId)
    (ha : t.actions q terminal = ids.map .reduce) :
    ∃ id ∈ ids, ∃ after, t.Replaces id (q :: below) after ∧ t.Takes terminal after states := by
  cases h with
  | shift hmem => simp [ha] at hmem
  | stay hmem htaken => rcases htaken with rfl | rfl <;> simp [ha] at hmem
  | reduce hmem hr h =>
    rw [ha] at hmem
    obtain ⟨id, hid, hsame⟩ := List.mem_map.1 hmem
    obtain rfl := Action.reduce.inj hsame
    exact ⟨id, hid, _, hr, h⟩

end ParseTable

/-! ## Simulations -/

namespace Simulation

open Stack

variable {t : ParseTable} {terminal : SymbolId} {s s' : Simulation} {id : ProductionId}

/-- The states of a simulation down to the first one, those of extras left out. -/
def states (s : Simulation) : List StateId := s.pushed ++ s.base.states

theorem states_eq (h : s.base.Steady) : ∃ below, s.states = s.top :: below := by
  obtain ⟨base, pushed⟩ := s
  cases pushed with
  | nil => exact h.states_eq
  | cons q rest => exact ⟨rest ++ Stack.states base, rfl⟩

theorem exists_of_dropOne {base base' : Stack} (h : dropOne base = some base') :
    (∃ q, Stack.states base = q :: Stack.states base') ∧ (base.Steady → base'.Steady) := by
  induction base with
  | nil => cases h
  | cons e below ih =>
    rw [dropOne] at h
    split at h
    · next hextra =>
      obtain ⟨⟨q, hq⟩, hsteady⟩ := ih h
      refine ⟨⟨q, ?_⟩, fun hs => hsteady hs.2⟩
      rw [← hq]
      simp [Stack.states, mains, hextra]
    · next hextra =>
      cases h
      exact ⟨⟨e.state, by simp [Stack.states, mains, hextra]⟩, fun hs => hs.2⟩

theorem exists_dropOne {base : Stack} (h : 1 < (Stack.states base).length) :
    ∃ base', dropOne base = some base' := by
  induction base with
  | nil => exact absurd h (Nat.lt_irrefl 1)
  | cons e below ih =>
    rw [dropOne]
    split
    · next hextra => exact ih (by simpa [Stack.states, mains, hextra] using h)
    · exact ⟨below, rfl⟩

/-- Taking states off takes them off the list, be they pushed or on the stack. -/
theorem exists_of_pop {count : Nat} (h : s.pop count = some s') :
    (∃ top, s.states = top ++ s'.states ∧ top.length = count) ∧
      (s.base.Steady → s'.base.Steady) := by
  induction count generalizing s with
  | zero =>
    cases h
    exact ⟨⟨[], rfl, rfl⟩, id⟩
  | succ count ih =>
    obtain ⟨base, pushed⟩ := s
    cases pushed with
    | cons q rest =>
      obtain ⟨⟨top, htop, hcount⟩, hsteady⟩ := ih h
      exact ⟨⟨q :: top, congrArg (q :: ·) htop, congrArg (· + 1) hcount⟩, hsteady⟩
    | nil =>
      obtain ⟨base', hdrop, h⟩ := Option.bind_eq_some_iff.1 h
      obtain ⟨⟨q, hq⟩, hbase⟩ := exists_of_dropOne hdrop
      obtain ⟨⟨top, htop, hcount⟩, hsteady⟩ := ih h
      exact ⟨⟨q :: top, hq.trans (congrArg (q :: ·) htop), congrArg (· + 1) hcount⟩,
        fun hs => hsteady (hbase hs)⟩

theorem exists_pop {count : Nat} (h : count < s.states.length) : ∃ s', s.pop count = some s' := by
  induction count generalizing s with
  | zero => exact ⟨s, rfl⟩
  | succ count ih =>
    obtain ⟨base, pushed⟩ := s
    cases pushed with
    | cons q rest => exact ih (Nat.lt_of_succ_lt_succ h)
    | nil =>
      obtain ⟨base', hdrop⟩ := exists_dropOne (Nat.lt_of_le_of_lt (Nat.le_add_left 1 count) h)
      obtain ⟨⟨q, hq⟩, -⟩ := exists_of_dropOne hdrop
      obtain ⟨s', hs'⟩ := ih (s := ⟨base', []⟩) (by
        rw [states, List.nil_append, hq] at h
        exact Nat.lt_of_succ_lt_succ h)
      exact ⟨s', Option.bind_eq_some_iff.2 ⟨base', hdrop, hs'⟩⟩

theorem replaces_of_reduce (hs : s.base.Steady) (h : s.reduce t id = some s') :
    t.Replaces id s.states s'.states ∧ s'.base.Steady := by
  simp only [reduce, Option.bind_eq_bind, Option.bind_eq_some_iff, Option.pure_def,
    Option.some.injEq] at h
  obtain ⟨p, hp, rest, hpop, next, hgoto, rfl⟩ := h
  obtain ⟨⟨top, htop, hcount⟩, hsteady⟩ := exists_of_pop hpop
  obtain ⟨below, hbelow⟩ := states_eq (hsteady hs)
  refine ⟨⟨p, rest.top, below, next, hp, ?_, hgoto, ?_⟩, hsteady hs⟩
  · rw [htop, List.drop_left' hcount, hbelow]
  · rw [← hbelow]
    rfl

theorem exists_reduce (hs : s.base.Steady) {states' : List StateId}
    (h : t.Replaces id s.states states') :
    ∃ s', s.reduce t id = some s' ∧ s'.states = states' ∧ s'.base.Steady := by
  obtain ⟨p, q, below, next, hp, hdrop, hgoto, rfl⟩ := h
  have hdeep : p.length < s.states.length := by
    have := congrArg List.length hdrop
    rw [List.length_drop, List.length_cons] at this
    omega
  obtain ⟨rest, hpop⟩ := exists_pop hdeep
  obtain ⟨⟨top, htop, hcount⟩, hsteady⟩ := exists_of_pop hpop
  rw [htop, List.drop_left' hcount] at hdrop
  obtain ⟨below', hbelow⟩ := states_eq (hsteady hs)
  obtain ⟨rfl, -⟩ := List.cons.inj (hbelow.symm.trans hdrop)
  refine ⟨{ rest with pushed := next :: rest.pushed }, ?_, congrArg (next :: ·) hdrop, hsteady hs⟩
  simp only [reduce, hp, hpop, hgoto, Option.bind_eq_bind, Option.bind_some, Option.pure_def]

/-! ### One step -/

/-- What is left of a simulation when an action takes the terminal. -/
inductive Done (s : Simulation) : Action → Simulation → Prop where
  | shift (r : StateId) : Done s (.shift r) { s with pushed := r :: s.pushed }
  | shiftExtra : Done s .shiftExtra s
  | accept : Done s .accept s

theorem exists_of_done {actions : List Action} {result : Simulation}
    (h : tryActions t s actions = .done result) : ∃ action ∈ actions, s.Done action result := by
  induction actions with
  | nil => cases h
  | cons action rest ih =>
    cases action with
    | shift r =>
      cases h
      exact ⟨_, List.mem_cons_self, .shift r⟩
    | shiftExtra =>
      cases h
      exact ⟨_, List.mem_cons_self, .shiftExtra⟩
    | accept =>
      cases h
      exact ⟨_, List.mem_cons_self, .accept⟩
    | reduce id =>
      rw [tryActions] at h
      split at h
      · next hrest =>
        cases h
        obtain ⟨action, hmem, done⟩ := ih hrest
        exact ⟨action, List.mem_cons_of_mem _ hmem, done⟩
      · cases h

/-- A step that does not take the terminal does all reductions that can be done. -/
theorem of_next {actions : List Action} {ways : List Simulation}
    (h : tryActions t s actions = .next ways) :
    (∀ action ∈ actions, ∃ id, action = .reduce id) ∧
      ∀ s', s' ∈ ways ↔ ∃ id, .reduce id ∈ actions ∧ s.reduce t id = some s' := by
  induction actions generalizing ways with
  | nil =>
    cases h
    refine ⟨fun _ h => absurd h List.not_mem_nil, fun s' => ⟨fun h => absurd h List.not_mem_nil, ?_⟩⟩
    rintro ⟨id, hmem, -⟩
    exact absurd hmem List.not_mem_nil
  | cons action rest ih =>
    cases action with
    | shift r => cases h
    | shiftExtra => cases h
    | accept => cases h
    | reduce id =>
      rw [tryActions] at h
      split at h
      · cases h
      · next ways' hrest =>
        cases h
        obtain ⟨reductions, ways⟩ := ih hrest
        refine ⟨List.forall_mem_cons.2 ⟨⟨id, rfl⟩, reductions⟩, fun s' => ?_⟩
        simp only [List.mem_append, Option.mem_toList, ways, List.mem_cons, Action.reduce.injEq,
          or_and_right, exists_or, exists_eq_left]

/-! ### Whole simulations -/

/-- What takes the terminal at once is what the table takes it by. -/
theorem Done.takes {action : Action} {result : Simulation} (h : s.Done action result)
    (hs : s.base.Steady) (ha : action ∈ t.actions s.top terminal) :
    t.Takes terminal s.states result.states ∧ result.base.Steady := by
  obtain ⟨below, hbelow⟩ := states_eq hs
  cases h with
  | shift r =>
    refine ⟨?_, hs⟩
    rw [show states { s with pushed := r :: s.pushed } = r :: s.states from rfl, hbelow]
    exact .shift ha
  | shiftExtra => exact ⟨hbelow ▸ .stay ha (.inl rfl), hs⟩
  | accept => exact ⟨hbelow ▸ .stay ha (.inr rfl), hs⟩

/-- What a simulation comes to, the table takes the terminal to. -/
theorem takes_of_runFrom {fuel : Nat} {waiting : List Simulation} {result : Simulation}
    (h : runFrom t terminal fuel s waiting = some result)
    (hs : ∀ x ∈ s :: waiting, x.base.Steady) :
    ∃ x ∈ s :: waiting, t.Takes terminal x.states result.states ∧ result.base.Steady := by
  induction fuel generalizing s waiting with
  | zero => cases h
  | succ fuel ih =>
    obtain ⟨hfirst, hwaiting⟩ := List.forall_mem_cons.1 hs
    unfold runFrom at h
    split at h
    · next hdone =>
      cases h
      obtain ⟨action, ha, done⟩ := exists_of_done hdone
      exact ⟨s, List.mem_cons_self, done.takes hfirst ha⟩
    · next first others hnext =>
      obtain ⟨-, ways⟩ := of_next hnext
      have steady : ∀ x ∈ first :: others, x.base.Steady := fun x hx =>
        have ⟨_, _, hreduce⟩ := (ways x).1 hx
        (replaces_of_reduce hfirst hreduce).2
      obtain ⟨x, hx, takes, hresult⟩ := ih h (by
        simp only [List.forall_mem_cons, List.forall_mem_append, List.mem_reverse] at steady ⊢
        exact ⟨steady.1, steady.2, hwaiting⟩)
      have hmem : x ∈ first :: others ∨ x ∈ waiting := by
        simpa [or_assoc] using hx
      rcases hmem with hx | hx
      · obtain ⟨id, ha, hreduce⟩ := (ways x).1 hx
        obtain ⟨below, hbelow⟩ := states_eq hfirst
        have replaces := (replaces_of_reduce hfirst hreduce).1
        rw [hbelow] at replaces
        exact ⟨s, List.mem_cons_self, hbelow ▸ .reduce ha replaces takes, hresult⟩
      · exact ⟨x, List.mem_cons_of_mem _ hx, takes, hresult⟩
    · split at h
      · cases h
      · obtain ⟨x, hx, takes⟩ := ih h hwaiting
        exact ⟨x, List.mem_cons_of_mem _ hx, takes⟩

/-- Whether a simulation comes to an end before it runs out of steps. -/
def ends (t : ParseTable) (terminal : SymbolId) : Nat → Simulation → List Simulation → Bool
  | 0, _, _ => false
  | fuel + 1, s, waiting =>
    match tryActions t s (t.actions s.top terminal) with
    | .done _ => true
    | .next (first :: others) => ends t terminal fuel first (others.reverse ++ waiting)
    | .next [] =>
      match waiting with
      | [] => true
      | s :: rest => ends t terminal fuel s rest

/-- More steps do not change what a simulation that ends comes to. -/
theorem runFrom_add_of_ends {fuel : Nat} {waiting : List Simulation} (n : Nat)
    (h : ends t terminal fuel s waiting = true) :
    runFrom t terminal (fuel + n) s waiting = runFrom t terminal fuel s waiting := by
  induction fuel generalizing s waiting with
  | zero => cases h
  | succ fuel ih =>
    rw [Nat.add_right_comm]
    unfold ends at h
    unfold runFrom
    cases hstep : tryActions t s (t.actions s.top terminal) with
    | done result => rfl
    | next ways =>
      rw [hstep] at h
      cases ways with
      | cons first others => exact ih h
      | nil =>
        cases waiting with
        | nil => rfl
        | cons x rest => exact ih h

/-- A simulation that comes to an end has looked at all ways to take the terminal. -/
theorem isSome_of_takes {fuel : Nat} {waiting : List Simulation}
    (h : ends t terminal fuel s waiting = true) (hs : ∀ x ∈ s :: waiting, x.base.Steady)
    (htakes : ∃ x ∈ s :: waiting, ∃ states', t.Takes terminal x.states states') :
    (runFrom t terminal fuel s waiting).isSome = true := by
  induction fuel generalizing s waiting with
  | zero => cases h
  | succ fuel ih =>
    obtain ⟨hfirst, hwaiting⟩ := List.forall_mem_cons.1 hs
    obtain ⟨below, hbelow⟩ := states_eq hfirst
    -- A step that only reduces does the reduction by which the table goes on.
    have goes {ways : List Simulation} {states' : List StateId}
        (hnext : tryActions t s (t.actions s.top terminal) = .next ways)
        (htakes : t.Takes terminal s.states states') :
        ∃ x ∈ ways, t.Takes terminal x.states states' := by
      obtain ⟨reductions, ways⟩ := of_next hnext
      rw [hbelow] at htakes
      cases htakes with
      | shift ha =>
        obtain ⟨_, h⟩ := reductions _ ha
        cases h
      | stay ha htaken =>
        obtain ⟨_, rfl⟩ := reductions _ ha
        rcases htaken with h | h <;> cases h
      | reduce ha hr hrest =>
        obtain ⟨x, hreduce, hstates, -⟩ := exists_reduce hfirst (hbelow ▸ hr)
        exact ⟨x, (ways x).2 ⟨_, ha, hreduce⟩, hstates ▸ hrest⟩
    unfold ends at h
    unfold runFrom
    obtain ⟨x, hx, states', htakes⟩ := htakes
    cases hstep : tryActions t s (t.actions s.top terminal) with
    | done result => rfl
    | next ways =>
      rw [hstep] at h
      have hways := (of_next hstep).2
      cases ways with
      | cons first others =>
        have steady : ∀ x ∈ first :: others, x.base.Steady := fun x hx =>
          have ⟨_, _, hreduce⟩ := (hways x).1 hx
          (replaces_of_reduce hfirst hreduce).2
        refine ih h ?_ ?_
        · simp only [List.forall_mem_cons, List.forall_mem_append, List.mem_reverse] at steady ⊢
          exact ⟨steady.1, steady.2, hwaiting⟩
        · rcases List.mem_cons.1 hx with rfl | hx
          · obtain ⟨y, hy, htakes⟩ := goes hstep htakes
            refine ⟨y, ?_, states', htakes⟩
            rw [List.mem_cons] at hy ⊢
            exact hy.imp_right fun hy => List.mem_append_left _ (List.mem_reverse.2 hy)
          · exact ⟨x, List.mem_cons_of_mem _ (List.mem_append_right _ hx), states', htakes⟩
      | nil =>
        rcases List.mem_cons.1 hx with rfl | hx
        · obtain ⟨y, hy, -⟩ := goes hstep htakes
          exact absurd hy List.not_mem_nil
        · cases waiting with
          | nil => exact absurd hx List.not_mem_nil
          | cons first rest => exact ih h hwaiting ⟨x, hx, states', htakes⟩

/-- A simulation that comes to an end finds a way to take the terminal if the table has one. -/
theorem isSome_run_iff (h : ends t terminal simulationBudget s [] = true) (hs : s.base.Steady) :
    (s.run t terminal).isSome = true ↔ ∃ states', t.Takes terminal s.states states' := by
  have steady : ∀ x ∈ [s], x.base.Steady := fun x hx => List.mem_singleton.1 hx ▸ hs
  constructor
  · intro hsome
    obtain ⟨result, hrun⟩ := Option.isSome_iff_exists.1 hsome
    obtain ⟨x, hx, takes, -⟩ := takes_of_runFrom hrun steady
    exact ⟨result.states, List.mem_singleton.1 hx ▸ takes⟩
  · intro htakes
    exact isSome_of_takes h steady ⟨s, List.mem_cons_self, htakes⟩

end Simulation

/-! ## Phases -/

theorem Stack.Steady.replaces {t : ParseTable} {s s' : Stack} {id : ProductionId} {next : StateId}
    {lookaheadEnd : Nat} {fragile : Bool} (hs : s.Steady)
    (h : s.reduce t id lookaheadEnd fragile = some (s', next)) :
    t.Replaces id s.states s'.states := by
  obtain ⟨p, q, below, hp, -, hdrop, hgoto, hstates, -⟩ := hs.reduce h
  exact ⟨p, q, below, next, hp, hdrop, hgoto, hstates⟩

namespace Engine

open Parsing

variable {e : Engine} {token : Token} {c c' : Configuration} {h : Head}

/-- The reductions that the table can do are those that can be done with a head. -/
theorem exists_reduces {id : ProductionId} {fragile : Bool} {states : List StateId}
    (hs : h.stack.Steady) (hr : e.table.Replaces id h.stack.states states) :
    ∃ next, Reduces e token fragile id h next := by
  obtain ⟨p, q, below, next, hp, hdrop, hgoto, -⟩ := hr
  obtain ⟨stack, hreduce⟩ := @Stack.Steady.exists_reduce _ _ _ token.lookaheadEnd fragile _ hs
    _ _ _ hp hdrop hgoto
  exact ⟨_, p, stack, next, hp, hreduce, rfl⟩

theorem Reduces.replaces {id : ProductionId} {fragile : Bool} {next : Head}
    (hr : Reduces e token fragile id h next) (hs : h.stack.Steady) :
    e.table.Replaces id h.stack.states next.stack.states := by
  obtain ⟨p, stack, state, -, hreduce, rfl⟩ := hr
  exact hs.replaces hreduce

/-- Whatever the table takes the token to from the head, it takes it to from one of the first heads. -/
structure Descends (e : Engine) (token : Token) (heads : List Head) (h : Head) : Prop where
  steady : h.stack.Steady
  takes : ∀ states', e.table.Takes token.symbol h.stack.states states' →
    ∃ h₀ ∈ heads, e.table.Takes token.symbol h₀.stack.states states'

theorem keeps_descends (heads : List Head) : e.Keeps token (e.Descends token heads) where
  path _ _ h := ⟨h.steady, h.takes⟩
  reduce fragile id h next hh ha hr := by
    refine ⟨((steady e).keeps 0 token).reduce _ _ _ _ hh.steady ha hr, fun states' takes => ?_⟩
    refine hh.takes states' ?_
    obtain ⟨below, hbelow⟩ : ∃ below, h.stack.states = h.state :: below := hh.steady.states_eq
    have replaces := hr.replaces hh.steady
    rw [hbelow] at replaces ⊢
    exact .reduce ha replaces takes

section Phase

variable {recovering : Bool} {phase : Phase}
  (hr : Returns (e.reducePhase token recovering) c phase c') (hc : ∀ h ∈ c.heads, h.stack.Steady)
include hr hc

theorem holds_descends : phase.Holds e token (e.Descends token c.heads) :=
  (keeps_descends c.heads).reducePhase hr fun h hh => ⟨hc h hh, fun _ takes => ⟨h, hh, takes⟩⟩

/-- A head that takes the token does so as the table takes it from one of the first heads. -/
theorem takes_of_mem_shifts {x : Head × Option StateId} (hx : x ∈ phase.shifts) :
    ∃ h ∈ c.heads,
      e.table.Takes token.symbol h.stack.states (x.2.toList ++ x.1.stack.states) := by
  obtain ⟨descends, ha⟩ := (holds_descends hr hc).shifts x hx
  obtain ⟨below, hbelow⟩ : ∃ below, x.1.stack.states = x.1.state :: below :=
    descends.steady.states_eq
  obtain ⟨head, target⟩ := x
  refine descends.takes _ ?_
  cases target with
  | none => exact hbelow ▸ .stay ha (.inl rfl)
  | some r => exact hbelow ▸ .shift ha

theorem takes_of_mem_accepts (hh : h ∈ phase.accepts) :
    ∃ h₀ ∈ c.heads, e.table.Takes token.symbol h₀.stack.states h.stack.states := by
  obtain ⟨descends, ha⟩ := (holds_descends hr hc).accepts h hh
  obtain ⟨below, hbelow⟩ : ∃ below, h.stack.states = h.state :: below := descends.steady.states_eq
  exact descends.takes _ (hbelow ▸ .stay ha (.inr rfl))

end Phase

/-- A phase that begins with the heads does not come to the limit of reductions. -/
def Restrained (e : Engine) (token : Token) (recovering : Bool) (heads : List Head) : Prop :=
  ∃ s' events, Loops e token (recovering || decide (1 < heads.length))
    (heads.length + maxReductions) (.begin heads) s' events ∧ s'.reductions < maxReductions

/-- A head from which the table takes the token has an action that does, or a reduction after which
it still can. -/
theorem pursuit_takes : e.Pursuit token (·.stack.Steady)
    (fun h => ∃ states', e.table.Takes token.symbol h.stack.states states')
    (fun shifts accepts => shifts ≠ [] ∨ accepts ≠ []) where
  keeps := (steady e).keeps 0 token
  mono hshifts haccepts := Or.imp (fun hne hnil => hne (List.subset_nil.1 (hnil ▸ hshifts)))
    fun hne hnil => hne (List.subset_nil.1 (hnil ▸ haccepts))
  acts h hs htakes := by
    obtain ⟨states', htakes⟩ := htakes
    obtain ⟨below, hbelow⟩ : ∃ below, h.stack.states = h.state :: below := hs.states_eq
    generalize hstates : h.stack.states = states at htakes
    cases htakes with
    | shift ha =>
      obtain ⟨rfl, -⟩ := List.cons.inj (hbelow.symm.trans hstates)
      refine ⟨_, ha, fun hacted _ => ?_⟩
      cases hacted with
      | shift => exact .reached (.inl (List.cons_ne_nil _ _))
    | stay ha htaken =>
      obtain ⟨rfl, -⟩ := List.cons.inj (hbelow.symm.trans hstates)
      refine ⟨_, ha, fun hacted _ => ?_⟩
      rcases htaken with rfl | rfl
      · cases hacted with
        | shiftExtra => exact .reached (.inl (List.cons_ne_nil _ _))
      · cases hacted with
        | accept => exact .reached (.inr (List.cons_ne_nil _ _))
    | @reduce id _ _ states _ ha hr htakes =>
      obtain ⟨rfl, -⟩ := List.cons.inj (hbelow.symm.trans hstates)
      rw [← hstates] at hr
      refine ⟨_, ha, fun {k s s' i events} hacted hlimit => ?_⟩
      have hbranch : (k.branch h i).stack.Steady := (stack_branch k h i).symm ▸ hs
      rw [← stack_branch k h i] at hr
      cases hacted with
      | stop _ _ hstop => exact absurd hlimit (Nat.not_lt.2 hstop)
      | fail _ _ _ hnone =>
        obtain ⟨next, hnext⟩ := exists_reduces hbranch hr
        exact absurd hnext (hnone next)
      | reduce _ _ next _ _ _ hreduces =>
        obtain rfl := (hreduces.replaces hbranch).unique hr
        exact .later (next, _) List.mem_cons_self ⟨states', htakes⟩

/-- A phase that does not come to its limit has a head that takes the token or accepts, if and only if
the table can take it from one of the first heads. -/
theorem nonempty_iff_takes {recovering : Bool} {phase : Phase}
    (hr : Returns (e.reducePhase token recovering) c phase c')
    (hc : ∀ h ∈ c.heads, h.stack.Steady) (hlimit : e.Restrained token recovering c.heads) :
    phase.shifts ≠ [] ∨ phase.accepts ≠ [] ↔
      ∃ h ∈ c.heads, ∃ states', e.table.Takes token.symbol h.stack.states states' := by
  constructor
  · rintro (hne | hne)
    · obtain ⟨x, hx⟩ := List.exists_mem_of_ne_nil _ hne
      obtain ⟨h, hh, takes⟩ := takes_of_mem_shifts hr hc hx
      exact ⟨h, hh, _, takes⟩
    · obtain ⟨x, hx⟩ := List.exists_mem_of_ne_nil _ hne
      obtain ⟨h, hh, takes⟩ := takes_of_mem_accepts hr hc hx
      exact ⟨h, hh, _, takes⟩
  · intro htakes
    obtain ⟨-, s', events, rfl, -, loops⟩ := returns_reducePhase hr
    obtain ⟨s'', events', loops', hlimit⟩ := hlimit
    obtain rfl := loops.unique loops'
    exact pursuit_takes.reached loops hc htakes hlimit

/-- With the table of an automaton every reduction is recorded, so the steps recorded show that a
phase did not come to its limit. -/
theorem Uses.restrained {g : FlatGrammar} {a : Automaton} (uses : e.Uses g a) {recovering : Bool}
    {phase : Phase} (hr : Returns (e.reducePhase token recovering) c phase c')
    (hc : ∀ h ∈ c.heads, e.OnPath a h)
    (hbrief : c'.trace.toList.countP TraceEvent.isReduction < maxReductions) :
    e.Restrained token recovering c.heads := by
  obtain ⟨-, s', events, rfl, htrace, loops⟩ := returns_reducePhase hr
  have keeps : e.Keeps token (e.OnPath a) := {
    path := fun _ _ h => h
    reduce := by
      rintro fragile id h next hpath ha ⟨p, stack, state, -, hreduce, rfl⟩
      exact hpath.reduce uses.guides ha hreduce }
  have count : s'.reductions = 0 + events.countP TraceEvent.isReduction :=
    loops.count keeps (fun h hh fragile id => uses.exists_reduces hh fragile) (.begin hc)
  refine ⟨s', events, loops, ?_⟩
  rw [htrace, List.countP_append] at hbrief
  omega

/-! ## Stacks of a parse -/

variable {fuel : Option Nat}

/-- The stacks of a parse: those of its heads before it looks for a token, while it tries one and when
it lets heads take one, and what comes of these by reducing, by taking a token or a symbol that is made
up, and by taking entries off. -/
inductive Visits (e : Engine) (fuel : Option Nat) : Stack → Prop where
  | between {c : Configuration} {h : Head} (hc : e.Between fuel c) (hh : h ∈ c.heads) :
      Visits e fuel h.stack
  | tried {repairs : Nat} {token : Token} {c : Configuration} {h : Head}
      (hc : e.Tries fuel repairs token c) (hh : h ∈ c.heads) : Visits e fuel h.stack
  | faced {token : Token} {c : Configuration} {h : Head} (hc : e.Faces fuel token c)
      (hh : h ∈ c.heads) : Visits e fuel h.stack
  | reduced {s s' : Stack} {id : ProductionId} {lookaheadEnd : Nat} {fragile : Bool}
      {next : StateId} (hs : Visits e fuel s)
      (hr : s.reduce e.table id lookaheadEnd fragile = some (s', next)) : Visits e fuel s'
  | taken {h : Head} {token : Token} {target : Option StateId} (hs : Visits e fuel h.stack)
      (ha : taking target ∈ e.table.actions h.state token.symbol) (fragile : Bool)
      (missing : Option SymbolId) : Visits e fuel (shifted token fragile missing (h, target)).stack
  | rest {entry : Entry} {s : Stack} (hs : Visits e fuel (entry :: s)) : Visits e fuel s

theorem Visits.steady {s : Stack} (hs : e.Visits fuel s) : s.Steady := by
  induction hs with
  | between hc hh => exact (hc.fair (Engine.steady e) trivial).heads _ hh
  | tried hc hh => exact (hc.fair (Engine.steady e) trivial).1.heads _ hh
  | faced hc hh => exact (hc.holds (Engine.steady e) trivial).2 _ hh
  | reduced _ hr ih =>
    obtain ⟨-, -, -, -, -, -, -, -, -, hsteady, -⟩ := ih.reduce hr
    exact hsteady
  | @taken h token target _ _ fragile missing ih =>
    cases missing with
    | none => exact steady_shifted ih fragile target
    | some symbol => exact ih.push fun hextra => absurd hextra Bool.false_ne_true
  | rest _ ih => exact ih.2

/-- On every stack of a parse, trying a terminal out tells whether a head alone with this stack takes
a token with this symbol or accepts at it, where neither comes to its limit. Only a limit of fuel
keeps such a phase from coming to an end. -/
theorem viable_iff_reducePhase (hs : e.Visits fuel h.stack) (hc : c.heads = [h])
    (recovering : Bool)
    (hends : Simulation.ends e.table token.symbol simulationBudget ⟨h.stack, []⟩ [] = true)
    (hlimit : e.Restrained token recovering [h]) :
    (c.fuel = none → ∃ phase c', Returns (e.reducePhase token recovering) c phase c') ∧
      ∀ phase c', Returns (e.reducePhase token recovering) c phase c' →
        (h.stack.viable e.table [] token.symbol = true ↔
          phase.shifts ≠ [] ∨ phase.accepts ≠ []) := by
  constructor
  · intro hfuel
    obtain ⟨phase, c', hr, -⟩ := (e.tame_reducePhase token recovering).returns hfuel
    exact ⟨phase, c', hr⟩
  · intro phase c' hr
    have steady : ∀ x ∈ c.heads, x.stack.Steady := by
      rw [hc]
      exact fun x hx => List.mem_singleton.1 hx ▸ hs.steady
    have taken := nonempty_iff_takes hr steady (hc ▸ hlimit)
    rw [hc] at taken
    simp only [List.mem_singleton, exists_eq_left] at taken
    exact (Simulation.isSome_run_iff hends hs.steady).trans taken.symm

end Engine

namespace Noted

variable (text : String)

theorem uses : (parser.engine text none fun _ => false).Uses flat automaton where
  built := Automaton.exists_built ofGrammar_flat
  inRange := {
    endSymbol := by decide
    start := by
      unfold FlatGrammar.IsSymbol
      decide
    lhs := by
      unfold FlatGrammar.IsNonterminal FlatGrammar.IsSymbol
      decide
    rhs := by
      unfold FlatGrammar.IsSymbol
      decide }
  table := rfl

/-- Every step for a text of these letters keeps the heads on paths of the automaton. -/
theorem guided : (parser.engine text none fun _ => false).Invariant (fun _ => Token.HasText)
    (fun _ => Head.Guided table automaton.Path) (Subtree.GenuineRoot table) := by
  exact Engine.guided (uses text).guides rfl fun _ h => by cases h

theorem guided_start : Head.Guided table automaton.Path [] {} :=
  ⟨⟨trivial, (uses "").guides.start, fun _ h => absurd h List.not_mem_nil⟩,
    fun _ h => absurd h List.not_mem_nil⟩

/-- After the first letter with a note behind it, the second letter is welcome: what the first one is
has to be settled by reductions under the note. -/
theorem viable_resumed : ∃ h, resumed.heads = [h] ∧ engine.Visits none h.stack ∧
    Simulation.ends engine.table 2 simulationBudget ⟨h.stack, []⟩ [] = true ∧
    engine.Restrained ⟨2, 2, 2, 3, 3⟩ false [h] ∧ h.stack.viable engine.table [] 2 = true ∧
    ∃ phase c', Parsing.Returns (engine.reducePhase ⟨2, 2, 2, 3, 3⟩ false) resumed phase c' ∧
      (h.stack.viable engine.table [] 2 = true ↔ phase.shifts ≠ [] ∨ phase.accepts ≠ []) := by
  have heads : resumed.heads = [resumed.heads.headD {}] := rfl
  have visits : engine.Visits none (resumed.heads.headD {}).stack :=
    .faced faces_resumed (heads ▸ List.mem_cons_self)
  have ends : Simulation.ends engine.table 2 simulationBudget
      ⟨(resumed.heads.headD {}).stack, []⟩ [] = true := by
    cbv
  have viable : (resumed.heads.headD {}).stack.viable engine.table [] 2 = true := by cbv
  have count : ((engine.reducePhase ⟨2, 2, 2, 3, 3⟩ false).run.run resumed).2.trace.toList.countP
      TraceEvent.isReduction = 4 := by
    cbv
  obtain ⟨phase, c', hr, -⟩ : ∃ phase c',
      Parsing.Returns (engine.reducePhase ⟨2, 2, 2, 3, 3⟩ false) resumed phase c' ∧ _ :=
    (engine.tame_reducePhase ⟨2, 2, 2, 3, 3⟩ false).returns rfl
  have brief : c'.trace.toList.countP TraceEvent.isReduction < maxReductions := by
    rw [Parsing.Returns] at hr
    rw [hr] at count
    exact count ▸ (by decide)
  have path := (faces_resumed.holds (guided "a#b") guided_start).2
  have restrained := (uses "a#b").restrained hr (fun h hh => (path h hh).1) brief
  obtain ⟨-, agrees⟩ := Engine.viable_iff_reducePhase visits heads false ends (heads ▸ restrained)
  exact ⟨_, heads, visits, ends, heads ▸ restrained, viable, phase, c', hr, agrees phase c' hr⟩

end Noted

end IncrementalGlr
