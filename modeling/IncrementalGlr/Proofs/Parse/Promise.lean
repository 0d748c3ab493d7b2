import IncrementalGlr.Proofs.Parse.Coverage
import IncrementalGlr.Proofs.Parse.Growth
import IncrementalGlr.Proofs.Parse.Guided
import IncrementalGlr.Proofs.Parse.Merging
import IncrementalGlr.Proofs.Parse.Pursuit
import IncrementalGlr.Proofs.Parse.Worth

/-!
Promising heads. A head promises to accept the rest of a text if the machine can do so from the
states on its stack (`Head.Promises`). A phase that does not come to the limit of reductions follows
all that its heads could do: where a head promises to accept a token and what comes after it, one of
those that come out of the phase does, if it takes the token or accepts
(`Engine.promises_of_reducePhase`). So a parse whose heads always promise something comes from one
token to the next, and accepts at the end (`Engine.Comes.step`, `Engine.Comes.exists_best`).
-/
namespace IncrementalGlr

/-- A reduction was done. -/
def TraceEvent.isReduction : TraceEvent → Bool
  | .reduce _ _ _ => true
  | _ => false

/-- Between one token and the next there are less reductions than a phase may do. -/
def TraceEvent.Brief (trace : List TraceEvent) : Prop :=
  ∀ row, row <:+: trace → (∀ event ∈ row, event.token? = none) →
    row.countP TraceEvent.isReduction < maxReductions

theorem TraceEvent.Brief.of_infix {row trace : List TraceEvent} (h : TraceEvent.Brief trace)
    (hrow : row <:+: trace) : TraceEvent.Brief row := fun _ hsub => h _ (hsub.trans hrow)

theorem TraceEvent.Brief.of_count {trace : List TraceEvent}
    (h : trace.countP TraceEvent.isReduction < maxReductions) : TraceEvent.Brief trace :=
  fun _ hrow _ => Nat.lt_of_le_of_lt hrow.sublist.countP_le h

/-- From the stack of the head the rest of the text can be accepted, and what the productions on the
stack are then worth is at least `d`. -/
def Head.Promises (t : ParseTable) (g : FlatGrammar) (a : Automaton) (input : List SymbolId) (d : Int)
    (h : Head) : Prop :=
  ∃ more, Machine.AcceptsFrom g (.ofAutomaton g a) ⟨h.stack.states, input⟩ more ∧
    d ≤ h.stack.sumOf t.worthOf + more

namespace Engine

open Parsing

/-- The engine uses the table of the grammar's automaton. -/
structure Uses (e : Engine) (g : FlatGrammar) (a : Automaton) : Prop where
  built : Nonempty (a.Built g)
  inRange : g.InRange
  table : e.table.data = .ofActions g (.ofAutomaton g a)

variable {e : Engine} {token : Token} {c c' : Configuration} {g : FlatGrammar} {a : Automaton}

/-- A head whose stack has states that transitions join. -/
abbrev OnPath (e : Engine) (a : Automaton) (h : Head) : Prop := h.stack.Guided e.table a.Path

theorem Uses.guides (uses : e.Uses g a) : e.table.Guides a.Path :=
  have ⟨b⟩ := uses.built
  ParseTable.guides_of_inRange b uses.table uses.inRange

/-- On a path every reduction that the table names can be done. -/
theorem Uses.exists_reduces (uses : e.Uses g a) {h : Head} (hh : e.OnPath a h) (fragile : Bool)
    {id : ProductionId} (ha : .reduce id ∈ e.table.actions h.state token.symbol) :
    ∃ next, Reduces e token fragile id h next := by
  obtain ⟨b⟩ := uses.built
  obtain ⟨below, hbelow⟩ : ∃ below, h.stack.states = h.state :: below := hh.steady.states_eq
  obtain ⟨p, q, rest, r, hp, hdrop, hgoto⟩ := Machine.exists_goto_of_reduce b uses.inRange
    (hbelow ▸ hh.on) (ParseTable.actionsAt_of_mem uses.table ha nofun)
  have hp' : e.table.production? id = some p := by
    rw [ParseTable.production?, uses.table]
    exact hp
  have hgoto' : e.table.goto q p.lhs = some r := by
    rw [ParseTable.goto_eq_gotoAt uses.table b uses.inRange
      (uses.inRange.lhs p (Array.mem_of_getElem? hp)), hgoto]
  have hlength : p.rhs.length = p.length := List.length_map _
  obtain ⟨stack, hreduce⟩ := @Stack.Steady.exists_reduce _ _ _ token.lookaheadEnd fragile _ hh.steady _ _ _ hp'
    (by rw [hbelow, ← hlength, hdrop]) hgoto'
  exact ⟨_, p, stack, r, hp', hreduce, rfl⟩

/-! ## Counting reductions -/

section Count

variable {P : Head → Prop} (hP : e.Keeps token P)
  (hreduces : ∀ h, P h → ∀ fragile id, .reduce id ∈ e.table.actions h.state token.symbol →
    ∃ next, Reduces e token fragile id h next)
include hP hreduces

theorem Acted.count {k : Circumstances} {head : Head} {s s' : PhaseState}
    {choice : Action × Nat} {events : List TraceEvent}
    (h : Acted e token k head s choice s' events) (hh : P head)
    (hc : choice.1 ∈ e.table.actions head.state token.symbol) :
    s'.reductions = s.reductions + events.countP TraceEvent.isReduction := by
  cases h with
  | shift => rfl
  | shiftExtra => rfl
  | accept => rfl
  | stop => rfl
  | fail id i _ hnone =>
    obtain ⟨next, hnext⟩ := hreduces _ (hP.branch (k := k) hh i) _ id
      ((state_branch k head i).symm ▸ hc)
    exact absurd hnext (hnone next)
  | reduce => rfl

theorem ActedAll.count {k : Circumstances} {head : Head} {s s' : PhaseState}
    {choices : List (Action × Nat)} {events : List TraceEvent}
    (h : ActedAll e token k head s choices s' events) (hh : P head)
    (hc : ∀ x ∈ choices, x.1 ∈ e.table.actions head.state token.symbol) :
    s'.reductions = s.reductions + events.countP TraceEvent.isReduction := by
  induction h with
  | nil => rfl
  | cons hact _ ih =>
    rw [ih fun x hx => hc x (List.mem_cons_of_mem _ hx),
      hact.count hP hreduces hh (hc _ List.mem_cons_self), List.countP_append, Nat.add_assoc]

/-- Where every reduction can be done, each is recorded. -/
theorem Loops.count {fragile : Bool} {fuel : Nat} {s s' : PhaseState} {events : List TraceEvent}
    (h : Loops e token fragile fuel s s' events) (hs : s.Holds e token P) :
    s'.reductions = s.reductions + events.countP TraceEvent.isReduction := by
  induction h with
  | out s => rfl
  | done _ => rfl
  | @step fuel s s₁ s₂ s' head forked events events' hnext hhandled _ ih =>
    obtain ⟨hhead, hs₁⟩ := hs.next hnext
    have same : s₁.reductions = s.reductions := PhaseState.reductions_of_next hnext
    rw [ih (hP.handled hhandled hhead hs₁), List.countP_append, ← Nat.add_assoc, ← same]
    congr 1
    cases hhandled with
    | dead _ => rfl
    | acted ha _ hall =>
      rw [hall.count hP hreduces hhead fun x hx => ha ▸ List.fst_mem_of_mem_zipIdx hx,
        List.countP_append]
      split <;> simp [TraceEvent.isReduction]

end Count

/-! ## Promises are kept -/

/-- The head has done what it promised: it takes the token, and then promises to accept the rest, or
it accepts. -/
inductive Keeping (t : ParseTable) (g : FlatGrammar) (a : Automaton) (token : Token)
    (rest : List SymbolId) (d : Int) (shifts : List (Head × Option StateId)) (accepts : List Head) :
    Prop where
  | shift (h : Head) (r : StateId) (more : Int) (hmem : (h, some r) ∈ shifts)
      (hrest : Machine.AcceptsFrom g (.ofAutomaton g a) ⟨r :: h.stack.states, rest⟩ more)
      (hd : d ≤ h.stack.sumOf t.worthOf + more)
  | accept (h : Head) (hend : token.symbol = endSymbol) (hrest : rest = []) (hmem : h ∈ accepts)
      (hd : d ≤ h.stack.sumOf t.worthOf)

/-- A phase in which a head promises to accept the token and the rest, or has done so. -/
inductive PhaseState.Promises (t : ParseTable) (g : FlatGrammar) (a : Automaton) (token : Token)
    (rest : List SymbolId) (d : Int) (s : PhaseState) : Prop where
  | work (x : Head × Bool) (hmem : x ∈ s.work) (h : x.1.Promises t g a (token.symbol :: rest) d)
  | later (x : Head × Bool) (hmem : x ∈ s.later) (h : x.1.Promises t g a (token.symbol :: rest) d)
  | kept (h : Keeping t g a token rest d s.shifts s.accepts)

variable {rest : List SymbolId} {d : Int}

theorem PhaseState.Promises.pursues {t : ParseTable} {s : PhaseState}
    (h : s.Promises t g a token rest d) :
    s.Pursues (·.Promises t g a (token.symbol :: rest) d) (Keeping t g a token rest d) := by
  cases h with
  | work x hmem h => exact .work x hmem h
  | later x hmem h => exact .later x hmem h
  | kept h => exact .reached h

theorem Promises.branch {t : ParseTable} {h : Head} {input : List SymbolId}
    (hh : h.Promises t g a input d) (k : Circumstances) (i : Nat) :
    (k.branch h i).Promises t g a input d := by
  unfold Circumstances.branch
  split <;> exact hh

section Phase

variable (uses : e.Uses g a)
include uses

/-- A reduction by which the automaton comes nearer to accepting leaves the head with what it still
promises. -/
theorem Uses.promises_of_reduces {h next : Head} {fragile : Bool} {p : Production} {id q r : Nat}
    {stack input : List Nat} {more : Int} (hh : e.OnPath a h)
    (hp : g.productions[id]? = some p) (hdrop : h.stack.states.drop p.rhs.length = q :: stack)
    (hgoto : (ActionTable.ofAutomaton g a).gotoAt g q p.lhs = some r)
    (haccepts : Machine.AcceptsFrom g (.ofAutomaton g a) ⟨r :: q :: stack, input⟩ more)
    (hd : d ≤ h.stack.sumOf e.table.worthOf + (p.dynamicPrecedence + more))
    (hr : Reduces e token fragile id h next) : next.Promises e.table g a input d := by
  obtain ⟨b⟩ := uses.built
  obtain ⟨p', stack', state, hp', hreduce, rfl⟩ := hr
  obtain ⟨p'', q', rest', hp'', -, hdrop', hgoto', hstates', -⟩ := hh.steady.reduce hreduce
  obtain rfl := Option.some.inj (hp'.symm.trans hp'')
  obtain rfl : p' = p := by
    rw [ParseTable.production?, uses.table] at hp'
    exact Option.some.inj (hp'.symm.trans hp)
  rw [show p'.length = p'.rhs.length from (List.length_map _).symm, hdrop] at hdrop'
  obtain ⟨rfl, rfl⟩ := List.cons.inj hdrop'
  rw [ParseTable.goto_eq_gotoAt uses.table b uses.inRange
    (uses.inRange.lhs p' (Array.mem_of_getElem? hp)), hgoto] at hgoto'
  obtain rfl := Option.some.inj hgoto'
  refine ⟨more, ?_, ?_⟩
  · show Machine.AcceptsFrom g _ ⟨Stack.states stack', _⟩ _
    rw [hstates']
    exact haccepts
  · show d ≤ Stack.sumOf _ stack' + more
    rwa [Stack.sumOf_of_reduce hreduce, ParseTable.worthOf_of_production hp', Int.add_assoc]

/-- A head that promises something has an action by which it does so. -/
theorem Uses.exists_action {h : Head} (hh : e.OnPath a h)
    (hp : h.Promises e.table g a (token.symbol :: rest) d) :
    ∃ action ∈ e.table.actions h.state token.symbol, ∀ {k : Circumstances} {s s' : PhaseState}
      {i : Nat} {events : List TraceEvent}, Acted e token k h s (action, i) s' events →
        s'.reductions < maxReductions → s'.Promises e.table g a token rest d := by
  obtain ⟨more, ⟨q, stack, runs, haccept⟩, hd⟩ := hp
  obtain ⟨below, hbelow⟩ : ∃ below, h.stack.states = h.state :: below := hh.steady.states_eq
  have listed {action : Action} {t : Nat}
      (ha : action ∈ (ActionTable.ofAutomaton g a).actionsAt h.state t) :
      action ∈ e.table.actions h.state t :=
    ParseTable.mem_of_mem_actionsAt uses.table (fun _ => ParseTable.size_of_mem_actions) ha
  generalize hm : (⟨h.stack.states, token.symbol :: rest⟩ : Machine) = m at runs
  generalize hm' : (⟨q :: stack, [endSymbol]⟩ : Machine) = m' at runs
  -- The first step of the machine, or that it accepts at once, is the action that is looked for.
  cases runs with
  | refl =>
    subst hm'
    obtain ⟨hstates, hinput⟩ := Machine.mk.inj hm
    obtain ⟨hend, rfl⟩ := List.cons.inj hinput
    obtain ⟨rfl, -⟩ := List.cons.inj (hbelow.symm.trans hstates)
    refine ⟨.accept, hend ▸ listed haccept, fun hacted _ => ?_⟩
    cases hacted with
    | accept i =>
      refine .kept (.accept _ hend rfl List.mem_cons_self ?_)
      rw [stack_branch]
      omega
  | shift ha hrest =>
    obtain ⟨hstates, hinput⟩ := Machine.mk.inj hm
    obtain ⟨rfl, rfl⟩ := List.cons.inj hinput
    obtain ⟨rfl, rfl⟩ := List.cons.inj (hbelow.symm.trans hstates)
    refine ⟨_, listed ha, fun hacted _ => ?_⟩
    cases hacted with
    | shift _ i =>
      refine .kept (.shift _ _ more List.mem_cons_self ?_ ?_)
      · rw [stack_branch, hbelow]
        subst hm'
        exact ⟨q, stack, hrest, haccept⟩
      · rw [stack_branch]
        exact hd
  | @reduce q₀ q' r t id p _ stack' _ _ weight ha hp hdrop hgoto hrest =>
    obtain ⟨hstates, hinput⟩ := Machine.mk.inj hm
    obtain ⟨rfl, rfl⟩ := List.cons.inj hinput
    obtain ⟨rfl, rfl⟩ := List.cons.inj (hbelow.symm.trans hstates)
    refine ⟨_, listed ha, fun {k s s' i events} hacted hlimit => ?_⟩
    have hbranch : e.OnPath a (k.branch h i) := by
      rw [OnPath, stack_branch]
      exact hh
    cases hacted with
    | stop _ _ hstop => exact absurd hlimit (Nat.not_lt.2 hstop)
    | fail _ _ _ hnone =>
      obtain ⟨next, hnext⟩ := @Uses.exists_reduces _ token _ _ uses _ hbranch
        (k.fragile || k.forked || k.conflict) _ ((state_branch k h i).symm ▸ listed ha)
      exact absurd hnext (hnone next)
    | reduce _ _ next _ _ _ hreduces =>
      refine .later (next, k.forked || k.conflict) List.mem_cons_self ?_
      rw [← hbelow, ← stack_branch k h i] at hdrop
      rw [← stack_branch k h i] at hd
      subst hm'
      exact uses.promises_of_reduces hbranch hp hdrop hgoto ⟨q, stack, hrest, haccept⟩ hd hreduces

variable {P : Head → Prop} (hP : e.Keeps token P) (hpath : ∀ h, P h → e.OnPath a h)
include hP hpath

theorem Uses.pursuit :
    e.Pursuit token P (·.Promises e.table g a (token.symbol :: rest) d)
      (Keeping e.table g a token rest d) where
  keeps := hP
  mono hshifts haccepts h := by
    cases h with
    | shift h r more hmem hrest hd => exact .shift h r more (hshifts hmem) hrest hd
    | accept h hend hrest hmem hd => exact .accept h hend hrest (haccepts hmem) hd
  acts h hh hp := by
    obtain ⟨action, hmem, keep⟩ := uses.exists_action (hpath h hh) hp
    exact ⟨action, hmem, fun hacted hlimit => (keep hacted hlimit).pursues⟩

/-- A promise at the beginning of a phase is kept by a head that comes out of it. -/
theorem promises_of_reducePhase {recovering : Bool} {phase : Phase}
    (h : Returns (e.reducePhase token recovering) c phase c') (hc : ∀ h ∈ c.heads, P h)
    (hp : ∃ h ∈ c.heads, h.Promises e.table g a (token.symbol :: rest) d)
    (hbrief : ∀ events, c'.trace.toList = c.trace.toList ++ events →
      events.countP TraceEvent.isReduction < maxReductions) :
    Keeping e.table g a token rest d phase.shifts phase.accepts := by
  obtain ⟨-, s', events, rfl, htrace, loops⟩ := returns_reducePhase h
  have count : s'.reductions = 0 + events.countP TraceEvent.isReduction :=
    loops.count hP (fun h hh fragile id => uses.exists_reduces (hpath h hh) fragile) (.begin hc)
  rw [Nat.zero_add] at count
  exact (uses.pursuit hP hpath).reached loops hc hp (count ▸ hbrief events htrace)

end Phase

/-! ## Looking for a token -/

/-- The next token was looked for, and nothing else was done. -/
structure Pulls (e : Engine) (c : Configuration) (token : Token) (c' : Configuration) : Prop where
  heads : c'.heads = c.heads
  position : c'.position = c.position
  pending : c'.pending = c.pending
  fuel : c'.fuel = c.fuel
  pulled : c'.pulled = c.pulled ++ [token]
  lexed : ∃ states, token = e.lexer.lex c.position states
  looked : Returns (do e.poll; e.nextToken) c token c'

theorem pulls_of_nextToken {d : Configuration} {u : Unit} (hpoll : Returns e.poll c u d)
    (hnext : Returns e.nextToken d token c') : e.Pulls c token c' := by
  have looked : Returns (do e.poll; e.nextToken) c token c' := returns_bind.2 ⟨u, d, hpoll, hnext⟩
  obtain ⟨polls, rfl⟩ := returns_poll hpoll
  rw [Engine.nextToken, returns_get_bind] at hnext
  simp only [returns_bind, returns_set, returns_record, returns_pure] at hnext
  obtain ⟨_, _, rfl, _, _, rfl, rfl, rfl⟩ := hnext
  exact ⟨rfl, rfl, rfl, rfl, pulled_push .., ⟨_, rfl⟩, looked⟩

theorem Pulls.hasText (h : e.Pulls c token c') : token.HasText := by
  obtain ⟨states, rfl⟩ := h.lexed
  exact Lexer.nonempty_lex _ _

/-! ## Taking a token -/

/-- What a token leads to at which a head promises something: the text is accepted at its end by a
head at least as good as one that keeps the promise, or the token is taken, also by a head that keeps
it. -/
inductive Consumed (e : Engine) (g : FlatGrammar) (a : Automaton) (P : Head → Prop) (token : Token)
    (rest : List SymbolId) (d : Int) (c c' : Configuration) : Option Subtree → Prop where
  | finished (recovering : Bool) (phase : Phase) (c₁ : Configuration) (best h : Head)
      (hend : token.symbol = endSymbol) (hphase : Returns (e.reducePhase token recovering) c phase c₁)
      (haccepts : ∀ x ∈ phase.accepts, P x) (hbest : best ∈ phase.accepts) (hmem : h ∈ phase.accepts)
      (ha : .accept ∈ e.table.actions best.state endSymbol) (hle : best.preference h ≠ .gt)
      (hd : d ≤ h.stack.sumOf e.table.worthOf) :
      Consumed e g a P token rest d c c' (some (rootOf best.stack.subtrees token.lookaheadEnd))
  | taken (recovering : Bool) (phase : Phase) (c₁ : Configuration) (h : Head) (r : StateId)
      (more : Int) (hend : token.symbol ≠ endSymbol)
      (hphase : Returns (e.reducePhase token recovering) c phase c₁)
      (hshift : Returns (e.shift phase.shifts token phase.fragile none) c₁ () c')
      (hshifts : ∀ x ∈ phase.shifts, P x.1 ∧ taking x.2 ∈ e.table.actions x.1.state token.symbol)
      (hmem : (h, some r) ∈ phase.shifts)
      (hrest : Machine.AcceptsFrom g (.ofAutomaton g a) ⟨r :: h.stack.states, rest⟩ more)
      (hd : d ≤ h.stack.sumOf e.table.worthOf + more) : Consumed e g a P token rest d c c' none

/-- No token is looked for while one is dealt with. -/
theorem pulled_of_advance (hfresh : e.reuse = none) {recovering : Bool} {progress : Progress}
    (hr : Returns (e.advance token recovering) c progress c') : c'.pulled = c.pulled := by
  obtain ⟨phase, c₁, hphase, h⟩ := returns_advance hr
  have hpulled : c₁.pulled = c.pulled := (returns_reducePhase hphase).1.pulled
  cases h with
  | finished _ haccept =>
    simp only [returns_bind, Engine.accept, returns_record, returns_pure] at haccept
    obtain ⟨_, _, rfl, rfl, rfl⟩ := haccept
    exact (quiet_record rfl).pulled.trans hpulled
  | stuck _ _ hc =>
    subst hc
    exact hpulled
  | reused _ _ hreuse => cases (returns_tryReuse_of_fresh hfresh hreuse).1
  | shifted _ hne hreuse hshift =>
    obtain ⟨-, rfl⟩ := returns_tryReuse_of_fresh hfresh hreuse
    obtain ⟨_, quiet, -⟩ := returns_shift hne hshift
    exact quiet.pulled.trans hpulled

theorem exists_pulled_of_prefix (h : c.trace.toList <+: c'.trace.toList) :
    ∃ tokens, c'.pulled = c.pulled ++ tokens := by
  obtain ⟨events, h⟩ := h
  exact ⟨_, by rw [Configuration.pulled, ← h, List.filterMap_append, ← Configuration.pulled]⟩

/-- A parse looks for a token, deals with it, and goes on if that did not end it. -/
theorem exists_pulls_of_runFrom {pulls : Nat} {root : Subtree}
    (hr : Returns (e.runFrom (pulls + 1)) c root c') :
    ∃ token c₂ result c₃ tokens, e.Pulls c token c₂ ∧
      Returns (e.consume maxAttempts token) c₂ result c₃ ∧ c₃.trace.toList <+: c'.trace.toList ∧
      c'.pulled = c.pulled ++ token :: tokens ∧ match result with
        | some root' => root = root' ∧ c' = c₃
        | none => Returns (e.runFrom pulls) c₃ root c' := by
  simp only [Engine.runFrom, returns_bind] at hr
  obtain ⟨_, _, hpoll, token, c₂, hnext, result, c₃, hconsume, hr⟩ := hr
  have pulls := pulls_of_nextToken hpoll hnext
  have grown : c₃.trace.toList <+: c'.trace.toList := by
    cases result with
    | some root => rw [(returns_pure.1 hr).2]
    | none => exact (e.grows_runFrom _ c₃).of_returns hr
  obtain ⟨tokens, hpulled⟩ := exists_pulled_of_prefix
    ((((e.tame_consume ..).grows _).of_returns hconsume).trans grown)
  refine ⟨token, c₂, result, c₃, tokens, pulls, hconsume, grown, ?_, ?_⟩
  · rw [hpulled, pulls.pulled, List.append_assoc, List.singleton_append]
  · cases result with
    | some root' => exact returns_pure.1 hr
    | none => exact hr

theorem none_pulled {events : List TraceEvent} (h : c'.pulled = c.pulled)
    (htrace : c'.trace.toList = c.trace.toList ++ events) :
    ∀ event ∈ events, event.token? = none := by
  rw [Configuration.pulled, htrace, List.filterMap_append] at h
  exact List.filterMap_eq_nil_iff.1 (List.append_right_eq_self.1 h)

theorem not_acceptsFrom_nil {states : List StateId} {more : Int} :
    ¬ Machine.AcceptsFrom g (.ofAutomaton g a) ⟨states, []⟩ more := by
  rintro ⟨q, stack, runs, -⟩
  generalize hm : (⟨states, []⟩ : Machine) = m at runs
  generalize hm' : (⟨q :: stack, [endSymbol]⟩ : Machine) = m' at runs
  cases runs with
  | refl => cases (Machine.mk.inj (hm.trans hm'.symm)).2
  | shift => cases (Machine.mk.inj hm).2
  | reduce => cases (Machine.mk.inj hm).2

section Consume

variable (uses : e.Uses g a) {P : Head → Prop} (hP : e.Keeps token P)
  (hpath : ∀ h, P h → e.OnPath a h) (hclosing : e.table.Closing) (hfresh : e.reuse = none)
  (hc : ∀ h ∈ c.heads, P h)
  (hp : ∃ h ∈ c.heads, h.Promises e.table g a (token.symbol :: rest) d)
  (hrest : token.symbol = endSymbol → rest = [])
include uses hP hpath hclosing hfresh hc hp hrest

theorem advance_of_promise {recovering : Bool} {progress : Progress}
    (hr : Returns (e.advance token recovering) c progress c')
    (hbrief : ∀ events, c'.trace.toList = c.trace.toList ++ events →
      events.countP TraceEvent.isReduction < maxReductions) :
    match progress with
    | .finished root => Consumed e g a P token rest d c c' (some root)
    | .taken => Consumed e g a P token rest d c c' none
    | .stuck _ => False := by
  obtain ⟨phase, c₁, hphase, h⟩ := returns_advance hr
  have holds := hP.reducePhase hphase hc
  -- There were too few reductions for the phase to be stopped by their number.
  have keeping (hgrown : c₁.trace.toList <+: c'.trace.toList) :
      Keeping e.table g a token rest d phase.shifts phase.accepts := by
    obtain ⟨row, hrow⟩ := hgrown
    refine promises_of_reducePhase uses hP hpath hphase hc hp fun events htrace => ?_
    have := hbrief (events ++ row) (by rw [← hrow, htrace, List.append_assoc])
    rw [List.countP_append] at this
    omega
  cases h with
  | @finished best _ hbest haccept =>
    simp only [returns_bind, Engine.accept, returns_record, returns_pure] at haccept
    obtain ⟨_, _, rfl, rfl, rfl⟩ := haccept
    have hmem' := Head.mem_of_preferredBy hbest
    obtain ⟨-, ha⟩ := holds.accepts best hmem'
    have hend := hclosing.accept ha
    cases keeping (by rw [Array.toList_push]; exact List.prefix_append _ _) with
    | shift _ _ _ _ haccepts _ =>
      rw [hrest hend] at haccepts
      exact absurd haccepts not_acceptsFrom_nil
    | accept h _ _ hmem hd =>
      exact .finished recovering phase _ best h hend hphase (fun x hx => (holds.accepts x hx).1) hmem'
        hmem (hend ▸ ha) (Head.not_gt_of_preferredBy hbest h hmem) hd
  | stuck hbest hempty hc =>
    subst hc
    cases keeping (List.prefix_refl _) with
    | shift _ _ _ hmem _ _ => exact absurd (hempty ▸ hmem) List.not_mem_nil
    | accept _ _ _ hmem _ =>
      exact absurd (Head.eq_nil_of_preferredBy hbest ▸ hmem) List.not_mem_nil
  | reused _ _ hreuse => cases (returns_tryReuse_of_fresh hfresh hreuse).1
  | @shifted c₂ hbest _ hreuse hshift =>
    obtain ⟨-, rfl⟩ := returns_tryReuse_of_fresh hfresh hreuse
    cases keeping (((e.tame_shift ..).grows c₂).of_returns hshift) with
    | shift h r more hmem haccepts hd =>
      refine .taken _ phase c₂ h r more (fun hend => ?_) hphase hshift holds.shifts hmem haccepts hd
      rw [hrest hend] at haccepts
      exact absurd haccepts not_acceptsFrom_nil
    | accept _ _ _ hmem _ =>
      exact absurd (Head.eq_nil_of_preferredBy hbest ▸ hmem) List.not_mem_nil

/-- A token at which a head promises something is taken, or the text is accepted. -/
theorem consume_of_promise (hnone : c.pending = []) {repairs : Nat} {result : Option Subtree}
    (hr : Returns (e.consume repairs token) c result c')
    (hbrief : TraceEvent.Brief c'.trace.toList) :
    Consumed e g a P token rest d c c' result ∧ c'.pulled = c.pulled := by
  obtain ⟨recovering, progress, c₁, hadvance, grown, outcome⟩ := advance_of_consume hr hnone
  have pulled := pulled_of_advance hfresh hadvance
  have consumed := advance_of_promise uses hP hpath hclosing hfresh hc hp hrest hadvance
    fun events htrace => hbrief events
      (List.IsInfix.trans (htrace ▸ (List.suffix_append ..).isInfix) grown.isInfix)
      (none_pulled pulled htrace)
  cases progress with
  | finished root =>
    obtain ⟨rfl, rfl⟩ := outcome
    exact ⟨consumed, pulled⟩
  | taken =>
    obtain ⟨rfl, rfl⟩ := outcome
    exact ⟨consumed, pulled⟩
  | stuck head => exact consumed.elim

end Consume

/-! ## Whole parses -/

section Whole

variable {tokens : List Token} {root : Subtree} {P Q : Head → Prop}

/-- Heads with the property keep it at the token, and promise to take it and what comes after it. -/
structure Promising (e : Engine) (g : FlatGrammar) (a : Automaton) (token : Token)
    (rest : List SymbolId) (P : Head → Prop) : Prop where
  keeps : e.Keeps token P
  path : ∀ h, P h → e.OnPath a h
  accepts : ∀ h, P h → ∃ d, Machine.AcceptsFrom g (.ofAutomaton g a)
    ⟨h.stack.states, token.symbol :: rest⟩ d

/-- The parse comes to where these tokens are left, and all heads have the property. -/
def Comes (e : Engine) (root : Subtree) (c' : Configuration) (tokens : List Token)
    (P : Head → Prop) : Prop :=
  ∃ pulls c, Returns (e.runFrom pulls) c root c' ∧ c'.pulled = c.pulled ++ tokens ∧
    c.pending = [] ∧ c.heads ≠ [] ∧ ∀ h ∈ c.heads, P h

theorem Comes.imp (h : e.Comes root c' tokens P) (hPQ : ∀ h, P h → Q h) :
    e.Comes root c' tokens Q :=
  have ⟨pulls, c, hr, hpulled, hnone, hne, hheads⟩ := h
  ⟨pulls, c, hr, hpulled, hnone, hne, fun h hh => hPQ h (hheads h hh)⟩

section Comes

variable (uses : e.Uses g a) (hclosing : e.table.Closing) (hfresh : e.reuse = none)
  (hbrief : TraceEvent.Brief c'.trace.toList) (hP : e.Promising g a token rest P)
  (h : e.Comes root c' (token :: tokens) P)
include uses hclosing hfresh hbrief hP h

theorem Comes.exists_consumed (hrest : token.symbol = endSymbol → rest = []) :
    ∃ c c₁ c₂ result pulls d, e.Pulls c token c₁ ∧ c.pending = [] ∧
      Consumed e g a P token rest d c₁ c₂ result ∧ c'.pulled = c₂.pulled ++ tokens ∧
      match result with
        | some root' => root = root'
        | none => Returns (e.runFrom pulls) c₂ root c' := by
  obtain ⟨pulls, c, hr, hpulled, hnone, hne, hheads⟩ := h
  cases pulls with
  | zero => exact absurd hr not_returns_throw
  | succ count =>
    obtain ⟨token', c₁, result, c₂, tokens', pulls, hconsume, grown, hpulled', hr⟩ :=
      exists_pulls_of_runFrom hr
    obtain ⟨rfl, rfl⟩ := List.cons.inj (List.append_cancel_left (hpulled.symm.trans hpulled'))
    obtain ⟨head, hmem⟩ := List.exists_mem_of_ne_nil _ hne
    obtain ⟨d, haccepts⟩ := hP.accepts head (hheads head hmem)
    obtain ⟨consumed, quiet⟩ := consume_of_promise uses hP.keeps hP.path hclosing hfresh
      (pulls.heads ▸ hheads) ⟨head, pulls.heads ▸ hmem, d, haccepts, Int.le_refl _⟩ hrest
      (pulls.pending.trans hnone) hconsume (hbrief.of_infix grown.isInfix)
    refine ⟨c, c₁, c₂, result, count, _, pulls, hnone, consumed, ?_, ?_⟩
    · rw [hpulled, quiet, pulls.pulled, List.append_assoc, List.singleton_append]
    · cases result with
      | some root' => exact hr.1
      | none => exact hr

/-- At the end the text is accepted. -/
theorem Comes.exists_best (hend : token.symbol = endSymbol) (hrest : rest = []) :
    ∃ best lookaheadEnd, P best ∧ .accept ∈ e.table.actions best.state endSymbol ∧
      root = rootOf best.stack.subtrees lookaheadEnd := by
  obtain ⟨c, c₁, c₂, result, pulls, d, -, -, consumed, -, hroot⟩ :=
    h.exists_consumed uses hclosing hfresh hbrief hP fun _ => hrest
  cases consumed with
  | finished _ _ _ best _ _ _ haccepts hbest _ ha _ _ => exact ⟨best, _, haccepts best hbest, ha, hroot⟩
  | taken _ _ _ _ _ _ hne _ _ _ _ _ _ => exact absurd hend hne

/-- Another token is taken, and then all heads have what follows from taking it. -/
theorem Comes.step (hextra : e.table.isExtra token.symbol = false)
    (hne : token.symbol ≠ endSymbol)
    (hQ : ∀ k r fragile path, P k → .shift r ∈ e.table.actions k.state token.symbol →
      e.OnPath a (shifted token fragile none (k, some r)) →
        Q { shifted token fragile none (k, some r) with path }) :
    e.Comes root c' tokens Q := by
  obtain ⟨c, c₁, c₂, result, pulls, d, pulled, hnone, consumed, hpulled, hr⟩ :=
    h.exists_consumed uses hclosing hfresh hbrief hP fun h => absurd h hne
  cases consumed with
  | finished _ _ _ _ _ hend => exact absurd hend hne
  | taken recovering phase c₃ head r more _ hphase hshift hshifts hmem _ _ =>
    obtain ⟨kept, quiet, some_left, origin⟩ := returns_shift (List.ne_nil_of_mem hmem) hshift
    have heads : c₂.heads = kept := quiet.heads
    refine ⟨pulls, c₂, hr, hpulled, ?_, heads ▸ some_left, fun h hh => ?_⟩
    · exact (quiet.pending.trans (returns_reducePhase hphase).1.pending).trans
        (pulled.pending.trans hnone)
    · obtain ⟨⟨k, target⟩, hx, path, rfl⟩ := origin h (heads ▸ hh)
      obtain ⟨hk, ha⟩ := hshifts _ hx
      cases target with
      | none =>
        have marked := uses.guides.extra ha
        rw [hextra] at marked
        cases marked
      | some r =>
        exact hQ k r _ path hk ha
          (guided_shifted uses.guides pulled.hasText (hP.path k hk) ha _)

end Comes

end Whole

end Engine

end IncrementalGlr
