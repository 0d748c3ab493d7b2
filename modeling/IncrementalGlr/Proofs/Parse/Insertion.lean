import IncrementalGlr.Proofs.Parse.Simulation

/-!
Making up a missing symbol. A symbol is made up only where trying it out and then the token succeeds
(`Engine.MadeUp`). A nonterminal leads to one state, so the token is welcome after it. A terminal is
tried out on the first way that the table takes it, but it is put on the stack of the best head that
takes it. Where it can be taken in several ways, these need not have the same states; where they have,
the token is taken or accepted at once (`Engine.unblocked_of_insert`).
-/
namespace IncrementalGlr.Engine

open Parsing Stack

variable {e : Engine} {token token' : Token} {c c' d d₁ d₂ : Configuration} {head head' : Head}
  {symbol : SymbolId}

/-- What is known of a symbol that was made up before a token: a nonterminal with whose state on the
stack the token is welcome, or a terminal that the table takes, after one way of which it takes the
token too. -/
inductive MadeUp (e : Engine) (head : Head) (token : Token) (symbol : SymbolId) (head' : Head) :
    Prop where
  | nonterminal (next : StateId) (hsteady : head'.stack.Steady)
      (hstates : head'.stack.states = next :: head.stack.states)
      (hviable : head.stack.viable e.table [next] token.symbol = true)
  | terminal (hsteady : head'.stack.Steady)
      (hstates : e.table.Takes symbol head.stack.states head'.stack.states) (states : List StateId)
      (htakes : e.table.Takes symbol head.stack.states states)
      (hviable : ∃ states', e.table.Takes token.symbol states states')

theorem trace_of_inserted (hr : Returns (inserted symbol token) c token' c') :
    c'.trace.back? = some (.insert symbol token.start) := by
  simp only [Engine.inserted, returns_bind, returns_record, returns_modify, returns_pure] at hr
  obtain ⟨_, _, rfl, _, _, rfl, -, rfl⟩ := hr
  exact Array.back?_push

section Steady

variable (hs : head.stack.Steady)
include hs

/-- A head that takes the symbol does so as the table does. -/
theorem takes_of_insertTerminal
    (hr : Returns (e.insertTerminal head token symbol) c (some head') c') :
    head'.stack.Steady ∧ e.table.Takes symbol head.stack.states head'.stack.states := by
  simp only [Engine.insertTerminal, returns_bind, returns_modify] at hr
  obtain ⟨_, _, rfl, phase, d, hphase, hr⟩ := hr
  have steady : ∀ h ∈ [head], h.stack.Steady := fun h hh => List.mem_singleton.1 hh ▸ hs
  split at hr
  · cases (returns_pure.1 hr).1
  · next best hbest =>
    simp only [returns_bind, returns_get, returns_pure] at hr
    obtain ⟨_, d', hshift, _, _, ⟨rfl, rfl⟩, hhead, rfl⟩ := hr
    obtain ⟨kept, quiet, -, origin⟩ := returns_shift (List.cons_ne_nil _ _) hshift
    rw [quiet.heads] at hhead
    obtain ⟨x, hx, path, rfl⟩ := origin head' (List.mem_of_head? hhead.symm)
    obtain rfl := List.mem_singleton.1 hx
    obtain ⟨hshifts, htarget⟩ := List.mem_filter.1 (Head.mem_of_preferredBy hbest)
    obtain ⟨h, hh, takes⟩ := takes_of_mem_shifts hphase steady hshifts
    obtain rfl := List.mem_singleton.1 hh
    have holds := ((Engine.steady e).keeps 0 _).reducePhase hphase steady
    obtain ⟨best, _ | next⟩ := x
    · cases htarget
    · refine ⟨(holds.shifts _ hshifts).1.push fun hextra => absurd hextra Bool.false_ne_true, ?_⟩
      exact takes

omit hs in
theorem takes_of_mem_missingTerminals (hs : head.stack.Steady)
    (hmem : symbol ∈ e.missingTerminals head token) :
    ∃ states, e.table.Takes symbol head.stack.states states ∧
      ∃ states', e.table.Takes token.symbol states states' := by
  have tried := (List.mem_filter.1 hmem).2
  rw [Bool.and_eq_true] at tried
  have tried := tried.2
  split at tried
  · next after hrun =>
    obtain ⟨result, hrun'⟩ := Option.isSome_iff_exists.1 tried
    obtain ⟨x, hx, takes, hsteady⟩ := Simulation.takes_of_runFrom hrun
      fun x hx => List.mem_singleton.1 hx ▸ hs
    obtain rfl := List.mem_singleton.1 hx
    obtain ⟨y, hy, takes', -⟩ := Simulation.takes_of_runFrom hrun'
      fun x hx => List.mem_singleton.1 hx ▸ hsteady
    obtain rfl := List.mem_singleton.1 hy
    exact ⟨_, takes, _, takes'⟩
  · cases tried

theorem madeUp_of_insertFirst {symbols : List SymbolId}
    (hsymbols : ∀ symbol ∈ symbols, symbol ∈ e.missingTerminals head token)
    (hr : Returns (e.insertFirst head token symbols) c (some (head', token')) c') :
    token'.symbol = token.symbol ∧
      ∃ symbol, c'.trace.back? = some (.insert symbol token.start) ∧
        e.MadeUp head token symbol head' := by
  induction symbols generalizing c with
  | nil => cases (returns_pure.1 hr).1
  | cons symbol rest ih =>
    obtain ⟨hmem, hrest⟩ := List.forall_mem_cons.1 hsymbols
    simp only [Engine.insertFirst, returns_bind] at hr
    obtain ⟨result, d, hterminal, hr⟩ := hr
    cases result with
    | none => exact ih hrest hr
    | some first =>
      simp only [returns_bind, returns_pure] at hr
      obtain ⟨_, _, hinserted, hsome, rfl⟩ := hr
      obtain ⟨rfl, rfl⟩ := Prod.mk.inj (Option.some.inj hsome)
      obtain ⟨hsteady, hstates⟩ := takes_of_insertTerminal hs hterminal
      obtain ⟨states, htakes, hviable⟩ := takes_of_mem_missingTerminals hs hmem
      refine ⟨?_, symbol, trace_of_inserted hinserted, .terminal hsteady hstates states htakes hviable⟩
      rw [(Mending.returns_inserted hinserted).1]

/-- What is made up is recorded last, and the token stays but for its padding. -/
theorem madeUp_of_insert (hr : Returns (e.insert head token) c (some (head', token')) c') :
    token'.symbol = token.symbol ∧
      ∃ symbol, c'.trace.back? = some (.insert symbol token.start) ∧
        e.MadeUp head token symbol head' := by
  unfold Engine.insert at hr
  split at hr
  · next symbol next hmissing =>
    simp only [returns_bind, returns_pure] at hr
    obtain ⟨_, _, hinserted, hsome, rfl⟩ := hr
    obtain ⟨rfl, rfl⟩ := Prod.mk.inj (Option.some.inj hsome)
    refine ⟨by rw [(Mending.returns_inserted hinserted).1], symbol, trace_of_inserted hinserted, ?_⟩
    obtain ⟨symbol', -, hfound⟩ := List.exists_of_findSome?_eq_some hmissing
    split at hfound
    · split at hfound
      · next hviable =>
        cases hfound
        exact .nonterminal next (hs.push fun hextra => absurd hextra Bool.false_ne_true)
          (states_push rfl) hviable
      · cases hfound
    · cases hfound
  · exact madeUp_of_insertFirst hs (fun _ hmem => hmem) hr

/-- Where the symbol that was made up can be taken in one way only, the table takes the token after
it. -/
theorem MadeUp.takes (h : e.MadeUp head token symbol head')
    (hways : ∀ states states', e.table.Takes symbol head.stack.states states →
      e.table.Takes symbol head.stack.states states' → states = states') :
    head'.stack.Steady ∧ ∃ states, e.table.Takes token.symbol head'.stack.states states := by
  cases h with
  | nonterminal next hsteady hstates hviable =>
    obtain ⟨result, hrun⟩ := Option.isSome_iff_exists.1 hviable
    obtain ⟨x, hx, takes, -⟩ := Simulation.takes_of_runFrom hrun
      fun x hx => List.mem_singleton.1 hx ▸ hs
    obtain rfl := List.mem_singleton.1 hx
    change e.table.Takes token.symbol (next :: head.stack.states) _ at takes
    rw [← hstates] at takes
    exact ⟨hsteady, _, takes⟩
  | terminal hsteady hstates states htakes hviable =>
    exact ⟨hsteady, hways _ _ htakes hstates ▸ hviable⟩

end Steady

variable {fuel : Option Nat} {repairs : Nat} {again recovering : Bool}

/-- A symbol that is made up at a token that no head takes lets the head take the token or accept at
it, if the symbol can be taken in one way only and there are not too many reductions. -/
theorem unblocked_of_insert (hc : e.Tries fuel repairs token c)
    (hstuck : Returns (e.attempt token again) c (.stuck head) d)
    (hinsert : Returns (e.insert head token) d₁ (some (head', token')) d₂)
    (hways : ∀ symbol, d₂.trace.back? = some (.insert symbol token.start) →
      ∀ states states', e.table.Takes symbol head.stack.states states →
        e.table.Takes symbol head.stack.states states' → states = states')
    (hheads : c'.heads = [head']) (hlimit : e.Restrained token' recovering [head']) :
    (c'.fuel = none → ∃ phase c'', Returns (e.reducePhase token' recovering) c' phase c'') ∧
      ∀ phase c'', Returns (e.reducePhase token' recovering) c' phase c'' →
        phase.shifts ≠ [] ∨ phase.accepts ≠ [] := by
  obtain ⟨fair, ht⟩ := hc.fair (steady e) trivial
  obtain ⟨hs, -⟩ := (steady e).attempt ht fair hstuck
  obtain ⟨hsymbol, symbol, htrace, made⟩ := madeUp_of_insert hs hinsert
  obtain ⟨hs', takes⟩ := made.takes hs (hways symbol htrace)
  constructor
  · intro hfuel
    obtain ⟨phase, c'', hr, -⟩ := (e.tame_reducePhase token' recovering).returns hfuel
    exact ⟨phase, c'', hr⟩
  · intro phase c'' hr
    refine (nonempty_iff_takes hr ?_ (hheads ▸ hlimit)).2 ?_
    · rw [hheads]
      exact fun h hh => List.mem_singleton.1 hh ▸ hs'
    · rw [hheads, hsymbol]
      exact ⟨head', List.mem_singleton_self _, takes⟩

end IncrementalGlr.Engine

/-! ## Two readings of a letter before what is made up -/

namespace IncrementalGlr.Noted

open Parsing Engine

/-- The engine for a text that ends after the first letter. -/
def cut : Engine := parser.engine "a" none fun _ => false

/-- The end of the text is looked at. -/
def ended : Configuration :=
  { begun with polls := 2, trace := begun.trace.push (.lex ⟨0, 1, 1, 1, 1⟩) }

/-- The head that has taken the first letter. -/
def waiting : Head := begun.heads.headD {}

/-- Makes up what is missing and tries the end of the text again. -/
def retry : Parsing Unit := do
  match ← cut.insert waiting ⟨0, 1, 1, 1, 1⟩ with
  | some (head, token) =>
    modify fun c => { c with heads := [head] }
    let _ ← cut.reducePhase token true
  | none => return

theorem actions_second : [1, 4, 5, 3].map (table.actions · 2) =
    [[3, 4].map .reduce, [1].map .reduce, [2].map .reduce, [.shift 6]] := by
  cbv

theorem gotos_start : [5, 6, 7].map (table.goto 0) = [some 3, some 4, some 5] := by cbv

/-- Either reading of the first letter comes to the same states when the second is taken. -/
theorem eq_of_takes {states : List StateId} (h : table.Takes 2 waiting.stack.states states) :
    states = [6, 3, 0] := by
  have actions := actions_second
  have gotos := gotos_start
  simp only [List.map_cons, List.map_nil, List.cons.injEq, and_true] at actions gotos
  obtain ⟨letter, reading₁, reading₂, whole⟩ := actions
  obtain ⟨joins, becomes₁, becomes₂⟩ := gotos
  have replaces₁ : table.Replaces 3 [1, 0] [4, 0] :=
    ⟨flat.productions[3], 0, [], 4, rfl, rfl, becomes₁, rfl⟩
  have replaces₂ : table.Replaces 4 [1, 0] [5, 0] :=
    ⟨flat.productions[4], 0, [], 5, rfl, rfl, becomes₂, rfl⟩
  have joins₁ : table.Replaces 1 [4, 0] [3, 0] :=
    ⟨flat.productions[1], 0, [], 3, rfl, rfl, joins, rfl⟩
  have joins₂ : table.Replaces 2 [5, 0] [3, 0] :=
    ⟨flat.productions[2], 0, [], 3, rfl, rfl, joins, rfl⟩
  have taken (h : table.Takes 2 [3, 0] states) : states = [6, 3, 0] := by
    cases h with
    | shift hmem =>
      rw [whole] at hmem
      cases List.mem_singleton.1 hmem
      rfl
    | stay hmem htaken => rcases htaken with rfl | rfl <;> simp [whole] at hmem
    | reduce hmem => simp [whole] at hmem
  rw [show waiting.stack.states = [1, 0] from rfl] at h
  obtain ⟨id, hid, after, hr, h⟩ := h.exists_of_reductions [3, 4] letter
  rcases List.mem_pair.1 hid with rfl | rfl
  · obtain rfl := hr.unique replaces₁
    obtain ⟨id, hid, after, hr, h⟩ := h.exists_of_reductions [1] reading₁
    obtain rfl := List.mem_singleton.1 hid
    exact taken (hr.unique joins₁ ▸ h)
  · obtain rfl := hr.unique replaces₂
    obtain ⟨id, hid, after, hr, h⟩ := h.exists_of_reductions [2] reading₂
    obtain rfl := List.mem_singleton.1 hid
    exact taken (hr.unique joins₂ ▸ h)

theorem tries_ended : cut.Tries none maxAttempts ⟨0, 1, 1, 1, 1⟩ ended :=
  .pulled (.next .start (by unfold Parsing.Returns; cbv)) (by unfold Parsing.Returns; cbv)

theorem stuck_ended : Returns (cut.attempt ⟨0, 1, 1, 1, 1⟩ false) ended (.stuck waiting)
    { ended with heads := [] } := by
  unfold Parsing.Returns
  cbv

theorem inserts_ended : ((cut.insert waiting ⟨0, 1, 1, 1, 1⟩).run.run { ended with heads := [] }).map
    (fun r => r.toOption.join.isSome) (fun d => d.trace.back?) = (true, some (.insert 2 1)) := by
  cbv

theorem reductions_retry : (retry.run.run { ended with heads := [] }).2.trace.toList.countP
    TraceEvent.isReduction = 5 := by
  cbv

/-- Without the second letter it is made up, and then the end of the text is accepted. -/
theorem unblocked_cut : ∃ head' token' d₂, cut.Tries none maxAttempts ⟨0, 1, 1, 1, 1⟩ ended ∧
    Returns (cut.attempt ⟨0, 1, 1, 1, 1⟩ false) ended (.stuck waiting) { ended with heads := [] } ∧
    Returns (cut.insert waiting ⟨0, 1, 1, 1, 1⟩) { ended with heads := [] }
      (some (head', token')) d₂ ∧
    cut.Restrained token' true [head'] ∧
    ∃ phase c'', Returns (cut.reducePhase token' true) { d₂ with heads := [head'] } phase c'' ∧
      (phase.shifts ≠ [] ∨ phase.accepts ≠ []) := by
  obtain ⟨result, d₂, hinsert, hfuel⟩ : ∃ result d₂, Returns (cut.insert waiting ⟨0, 1, 1, 1, 1⟩)
      { ended with heads := [] } result d₂ ∧ d₂.fuel = none :=
    (cut.tame_insert ..).returns rfl
  obtain ⟨made, htrace⟩ : result.isSome = true ∧ d₂.trace.back? = some (.insert 2 1) := by
    have inserts := inserts_ended
    rw [hinsert] at inserts
    exact Prod.mk.inj inserts
  obtain ⟨⟨head', token'⟩, rfl⟩ := Option.isSome_iff_exists.1 made
  obtain ⟨phase, c'', hr, -⟩ : ∃ phase c'', Returns (cut.reducePhase token' true)
      { d₂ with heads := [head'] } phase c'' ∧ c''.fuel = none :=
    (cut.tame_reducePhase token' true).returns hfuel
  have path : cut.OnPath automaton head' := by
    obtain ⟨fair, htext⟩ := tries_ended.fair (guided "a") guided_start
    obtain ⟨hwaiting, htext⟩ := (guided "a").attempt htext fair stuck_ended
    exact ((guided "a").mending.insert htext hwaiting rfl hinsert).2.1.1
  have retries : Returns retry { ended with heads := [] } () c'' := by
    refine returns_bind.2 ⟨_, _, hinsert, ?_⟩
    exact returns_bind.2 ⟨(), _, rfl, returns_bind.2 ⟨phase, c'', hr, rfl⟩⟩
  have brief : c''.trace.toList.countP TraceEvent.isReduction < maxReductions := by
    have count := reductions_retry
    rw [retries] at count
    exact count ▸ (by decide)
  have restrained : cut.Restrained token' true [head'] :=
    (uses "a").restrained hr (fun h hh => List.mem_singleton.1 hh ▸ path) brief
  have ways : ∀ symbol, d₂.trace.back? = some (.insert symbol 1) → ∀ states states',
      cut.table.Takes symbol waiting.stack.states states →
        cut.table.Takes symbol waiting.stack.states states' → states = states' := by
    intro symbol hsymbol states states' h h'
    obtain ⟨rfl, -⟩ := TraceEvent.insert.inj (Option.some.inj (htrace.symm.trans hsymbol))
    exact (eq_of_takes h).trans (eq_of_takes h').symm
  have alone : ({ d₂ with heads := [head'] } : Configuration).heads = [head'] := rfl
  obtain ⟨-, unblocked⟩ :=
    unblocked_of_insert tries_ended stuck_ended hinsert ways alone restrained
  exact ⟨head', token', d₂, tries_ended, stuck_ended, hinsert, restrained, phase, c'', hr,
    unblocked phase c'' hr⟩

end IncrementalGlr.Noted
