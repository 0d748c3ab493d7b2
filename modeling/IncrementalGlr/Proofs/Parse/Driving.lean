import Mathlib
import IncrementalGlr.Proofs.Parse.Guided
import IncrementalGlr.Proofs.Parse.Merging
import IncrementalGlr.Proofs.Compile

/-!
Where merging is sound. A head can be driven over tokens if actions of the table take it from one to
the next until the last is accepted (`Engine.Drives`). All that counts for that are the states on its
stack without those of extras (`Alike.drives`), since a reduction does not count extras. Merging goes
by all states, those of extras included. So heads with the same states can be driven over the same
tokens where their extras lie at the same places (`Engine.drives_iff_of_sameStates`); where they do
not, they need not be: an extra has the state of what lies below it, and that may be the state of a
symbol on the other stack.
-/
namespace IncrementalGlr

namespace Stack

/-- Where extras lie on a stack. -/
def extras (s : Stack) : List Bool := s.map fun e => e.subtree.extra

theorem states_eq_of_sameStates {s s' : Stack} (hsame : s.sameStates s' = true)
    (hextras : s.extras = s'.extras) : s.states = s'.states := by
  induction s generalizing s' with
  | nil =>
    cases s' with
    | nil => rfl
    | cons e' rest' => cases hsame
  | cons e rest ih =>
    cases s' with
    | nil => cases hsame
    | cons e' rest' =>
      simp only [sameStates, Bool.and_eq_true, beq_iff_eq] at hsame
      obtain ⟨hextra, hrest⟩ := List.cons.inj hextras
      have below := ih hsame.2 hrest
      rw [states, states] at below ⊢
      cases he : e.subtree.extra with
      | true => simpa [mains, he, ← hextra] using below
      | false => simpa [mains, he, ← hextra, hsame.1] using below

end Stack

namespace Engine

open Parsing Stack

variable {e : Engine} {token : Token} {c c' : Configuration} {h h' : Head}

/-! ## Driving a head -/

/-- Actions of the table take the head over the tokens, the last of which is accepted. -/
inductive Drives (e : Engine) : Head → List Token → Prop where
  | accept {h : Head} {token : Token} (ha : .accept ∈ e.table.actions h.state token.symbol) :
      Drives e h [token]
  | reduce {h next : Head} {token : Token} {rest : List Token} {id : ProductionId} {fragile : Bool}
      (ha : .reduce id ∈ e.table.actions h.state token.symbol)
      (hr : Reduces e token fragile id h next) (hn : Drives e next (token :: rest)) :
      Drives e h (token :: rest)
  | shift {h : Head} {token : Token} {rest : List Token} {target : Option StateId} {fragile : Bool}
      (ha : taking target ∈ e.table.actions h.state token.symbol)
      (hn : Drives e (shifted token fragile none (h, target)) rest) : Drives e h (token :: rest)

/-- Two heads have the same states, those of extras left out, which do not change them. -/
structure Alike (h h' : Head) : Prop where
  steady : h.stack.Steady
  steady' : h'.stack.Steady
  states : h.stack.states = h'.stack.states

theorem Alike.symm (hh : Alike h h') : Alike h' h := ⟨hh.steady', hh.steady, hh.states.symm⟩

theorem Alike.state_eq (hh : Alike h h') : h.state = h'.state := by
  obtain ⟨below, hbelow⟩ := hh.steady.states_eq
  obtain ⟨below', hbelow'⟩ := hh.steady'.states_eq
  have heads := hbelow.symm.trans (hh.states.trans hbelow')
  exact (List.cons.inj heads).1

theorem Alike.reduces (hh : Alike h h') {fragile : Bool} {id : ProductionId} {next : Head}
    (hr : Reduces e token fragile id h next) :
    ∃ next', Reduces e token fragile id h' next' ∧ Alike next next' := by
  obtain ⟨p, stack, state, hp, hreduce, rfl⟩ := hr
  obtain ⟨p', q, rest, hp', -, hdrop, hgoto, hstates, -, hsteady, -⟩ := hh.steady.reduce hreduce
  obtain rfl := Option.some.inj (hp.symm.trans hp')
  -- The other stack is as deep as this one, and the same state comes to its top.
  rw [hh.states] at hdrop
  obtain ⟨stack', hreduce'⟩ := @Steady.exists_reduce _ _ _ token.lookaheadEnd fragile _ hh.steady'
    _ _ _ hp hdrop hgoto
  obtain ⟨p', q', rest', hp', -, hdrop', hgoto', hstates', -, hsteady', -⟩ :=
    hh.steady'.reduce hreduce'
  obtain rfl := Option.some.inj (hp.symm.trans hp')
  have same := hdrop.symm.trans hdrop'
  refine ⟨_, ⟨p, stack', state, hp, hreduce', rfl⟩, hsteady, hsteady', ?_⟩
  rw [hstates, hstates', same]

theorem steady_shifted (hs : h.stack.Steady) (fragile : Bool) (target : Option StateId) :
    (shifted token fragile none (h, target)).stack.Steady := by
  cases target with
  | none => exact hs.push fun _ => rfl
  | some next => exact hs.push fun hextra => absurd hextra Bool.false_ne_true

theorem Alike.shifted (hh : Alike h h') (fragile : Bool) (target : Option StateId) :
    Alike (shifted token fragile none (h, target)) (shifted token fragile none (h', target)) := by
  refine ⟨steady_shifted hh.steady .., steady_shifted hh.steady' .., ?_⟩
  cases target with
  | none => exact (states_push_extra rfl).trans (hh.states.trans (states_push_extra rfl).symm)
  | some next =>
    refine (states_push rfl).trans (Eq.trans ?_ (states_push rfl).symm)
    exact congrArg (next :: ·) hh.states

/-- The states of a head without those of extras say over which tokens it can be driven. -/
theorem Alike.drives {tokens : List Token} (hh : Alike h h') (hd : e.Drives h tokens) :
    e.Drives h' tokens := by
  induction hd generalizing h' with
  | accept ha =>
    rw [hh.state_eq] at ha
    exact .accept ha
  | reduce ha hr _ ih =>
    obtain ⟨next', hr', hnext⟩ := hh.reduces hr
    rw [hh.state_eq] at ha
    exact .reduce ha hr' (ih hnext)
  | shift ha _ ih =>
    rw [hh.state_eq] at ha
    exact .shift ha (ih (hh.shifted _ _))

theorem Alike.drives_iff (hh : Alike h h') (tokens : List Token) :
    e.Drives h tokens ↔ e.Drives h' tokens :=
  ⟨hh.drives, hh.symm.drives⟩

/-! ## Heads of a parse -/

/-- No step of an engine puts an extra on a stack that changes its state. -/
theorem steady (e : Engine) :
    e.Invariant (fun _ _ => True) (fun _ _ h => h.stack.Steady) fun _ => True where
  token _ _ := trivial
  unpadded _ := trivial
  keeps _ token := {
    path := fun _ _ h => h
    reduce := by
      rintro fragile id h next hs - ⟨p, stack, state, -, hreduce, rfl⟩
      obtain ⟨-, -, -, -, -, -, -, -, -, hsteady, -⟩ := hs.reduce hreduce
      exact hsteady }
  shift fragile _ target _ hs _ := steady_shifted hs fragile target
  -- Only subtrees that are no extras are taken over.
  reuse _ hs hchoice := by
    obtain ⟨-, hreusable, -⟩ := of_chooseReuse hchoice
    simp only [ReuseCursor.reusable, Bool.and_eq_true, Bool.not_eq_true'] at hreusable
    obtain ⟨⟨⟨⟨⟨⟨⟨⟨⟨-, -⟩, hextra⟩, -⟩, -⟩, -⟩, -⟩, -⟩, -⟩, -⟩ := hreusable
    refine hs.push fun h => ?_
    rw [hextra] at h
    cases h
  nonterminal _ hs _ := hs.push fun hextra => absurd hextra Bool.false_ne_true
  terminal _ _ _ _ _ hs _ := hs.push fun hextra => absurd hextra Bool.false_ne_true
  resume _ _ hs := hs.push fun _ => rfl
  pop _ hs hpop := by
    obtain ⟨top, hstack, -⟩ := Stack.exists_of_popUntil hpop
    rw [hstack] at hs
    exact hs.of_append.push fun _ => rfl
  skip _ hs := hs
  accept _ _ := trivial
  wrap _ _ := trivial

variable {fuel : Option Nat}

/-- The configurations of a parse before it looks for a token. -/
inductive Between (e : Engine) (fuel : Option Nat) : Configuration → Prop where
  | start : Between e fuel { fuel }
  | next {c c' : Configuration} (hc : Between e fuel c)
      (hr : Returns (do e.poll; e.consume maxAttempts (← e.nextToken)) c none c') :
      Between e fuel c'

/-- The configurations in which a parse tries a token with so many repairs left. -/
inductive Tries (e : Engine) (fuel : Option Nat) : Nat → Token → Configuration → Prop where
  | pulled {c c' : Configuration} {token : Token} (hc : Between e fuel c)
      (hr : Returns (do e.poll; e.nextToken) c token c') : Tries e fuel maxAttempts token c'
  | repaired {repairs : Nat} {c d c' : Configuration} {token token' : Token} {head : Head}
      (hc : Tries e fuel (repairs + 1) token c)
      (hattempt : Returns (e.attempt token (decide (repairs + 1 < maxAttempts))) c (.stuck head) d)
      (hr : Returns (do spend; e.repair head token) d (some token') c') :
      Tries e fuel repairs token' c'

/-- The configurations in which a parse lets its heads take a token. -/
inductive Faces (e : Engine) (fuel : Option Nat) : Token → Configuration → Prop where
  | tried {repairs : Nat} {token : Token} {c : Configuration} (hc : Tries e fuel repairs token c)
      (hnone : c.pending = []) : Faces e fuel token c
  | resumed {repairs : Nat} {token : Token} {c c' : Configuration}
      (hc : Tries e fuel repairs token c) (hsome : c.pending ≠ [])
      (hresume : Returns (e.resume token) c true c') : Faces e fuel token c'

section Invariant

variable {T : Nat → Token → Prop} {P : Nat → List Subtree → Head → Prop} {R : Subtree → Prop}
  (inv : e.Invariant T P R) (hstart : P 0 [] {})
include inv hstart

theorem Between.fair (hc : e.Between fuel c) : Fair P c := by
  induction hc with
  | start => exact .of_single hstart rfl
  | next _ hr ih =>
    simp only [returns_bind] at hr
    obtain ⟨_, _, hpoll, _, _, hnext, hconsume⟩ := hr
    obtain ⟨fair, ht⟩ := inv.nextToken (ih.poll hpoll) hnext
    exact inv.consume ht fair hconsume

theorem Tries.fair {repairs : Nat} (hc : e.Tries fuel repairs token c) :
    Fair P c ∧ T c.position token := by
  induction hc with
  | pulled hc hr =>
    simp only [returns_bind] at hr
    obtain ⟨_, _, hpoll, hnext⟩ := hr
    exact inv.nextToken ((hc.fair inv hstart).poll hpoll) hnext
  | @repaired _ _ d _ _ _ _ _ hattempt hr ih =>
    obtain ⟨stuck, ht⟩ := inv.attempt ih.2 ih.1 hattempt
    simp only [returns_bind] at hr
    obtain ⟨_, _, hspend, hrepair⟩ := hr
    obtain ⟨fuel, rfl⟩ := hspend.spend
    exact inv.mending.repair (c := { d with fuel }) ht stuck hrepair

/-- A property that every step keeps holds of all heads that come to take a token. -/
theorem Faces.holds (hc : e.Faces fuel token c) :
    T c.position token ∧ ∀ h ∈ c.heads, P c.position [] h := by
  cases hc with
  | tried hc hnone =>
    obtain ⟨fair, ht⟩ := hc.fair inv hstart
    exact ⟨ht, hnone ▸ fair.heads⟩
  | resumed hc hsome hresume =>
    obtain ⟨fair, ht⟩ := hc.fair inv hstart
    obtain ⟨hnone, fair', hposition⟩ := inv.resume_of_returns fair hsome hresume
    exact ⟨hposition ▸ ht, hnone ▸ fair'.heads⟩

end Invariant

/-- The heads that have taken a token, before they are merged. -/
def Phase.taken (phase : Phase) (token : Token) : List Head :=
  phase.shifts.map (shifted token (phase.fragile || decide (1 < phase.shifts.length)) none)

variable {recovering : Bool} {phase : Phase}

theorem steady_of_mem_taken (hc : e.Faces fuel token c)
    (hphase : Returns (e.reducePhase token recovering) c phase c') (hh : h ∈ phase.taken token) :
    h.stack.Steady := by
  obtain ⟨-, heads⟩ := hc.holds (steady e) trivial
  have holds := ((steady e).keeps 0 token).reducePhase hphase heads
  obtain ⟨x, hx, rfl⟩ := List.mem_map.1 hh
  exact steady_shifted (holds.shifts x hx).1 _ x.2

theorem alike_of_sameStates (hc : e.Faces fuel token c)
    (hphase : Returns (e.reducePhase token recovering) c phase c') (hh : h ∈ phase.taken token)
    (hh' : h' ∈ phase.taken token) (hsame : h.stack.sameStates h'.stack = true)
    (hextras : h.stack.extras = h'.stack.extras) : Alike h h' where
  steady := steady_of_mem_taken hc hphase hh
  steady' := steady_of_mem_taken hc hphase hh'
  states := states_eq_of_sameStates hsame hextras

/-- Where extras lie at the same places whenever heads have the same states, merging loses nothing: if
a head that has taken the token can be driven over what follows, then so can one that is left. -/
theorem exists_drives_of_shift (hc : e.Faces fuel token c)
    (hphase : Returns (e.reducePhase token recovering) c phase c') {u : Unit} {c'' : Configuration}
    (hshift : Returns (e.shift phase.shifts token phase.fragile none) c' u c'')
    (hprune : ∀ n, .prune n ∉ c''.trace)
    (hextras : ∀ h ∈ phase.taken token, ∀ h' ∈ phase.taken token,
      h.stack.sameStates h'.stack = true → h.stack.extras = h'.stack.extras)
    (hh : h ∈ phase.taken token) {tokens : List Token} (hd : e.Drives h tokens) :
    ∃ k ∈ c''.heads, e.Drives k tokens := by
  simp only [shift, returns_bind, returns_modify] at hshift
  obtain ⟨heads, _, hmap, _, _, rfl, hmerge⟩ := hshift
  obtain ⟨-, rfl⟩ := returns_mapM_shiftHead hmap
  obtain ⟨merged, left, hsub, better⟩ := exists_better_of_mergeHeads hmerge hprune
  obtain ⟨k, hk, hsame, -⟩ := better h hh
  have alike := alike_of_sameStates hc hphase (hsub k hk) hh hsame
    (hextras k (hsub k hk) h hh hsame)
  -- A head that is left alone forgets its choices, but nothing that it is driven by.
  obtain ⟨k', hk', hstack, -⟩ := exists_mem_withoutChoices hk
  have forgot : Alike k k' :=
    ⟨alike.steady, hstack ▸ alike.steady, by rw [hstack]⟩
  rw [left]
  exact ⟨k', hk', forgot.drives (alike.symm.drives hd)⟩

/-- Heads that have taken the same token and have the same states can be driven over the same tokens,
if their extras lie at the same places. -/
theorem drives_iff_of_sameStates (hc : e.Faces fuel token c)
    (hphase : Returns (e.reducePhase token recovering) c phase c') (hh : h ∈ phase.taken token)
    (hh' : h' ∈ phase.taken token) (hsame : h.stack.sameStates h'.stack = true)
    (hextras : h.stack.extras = h'.stack.extras) (tokens : List Token) :
    e.Drives h tokens ↔ e.Drives h' tokens := by
  have alike := alike_of_sameStates hc hphase hh hh' hsame hextras
  exact alike.drives_iff tokens

end Engine

/-! ## Two readings that become one -/

namespace Noted

/-- A letter with two readings and another letter, with notes between them. -/
def flat : FlatGrammar where
  name := "noted"
  symbols := #[{ name := "end", kind := .endOfText, named := false, visible := false },
    { name := "note", kind := .literal, named := true, visible := true, extra := true },
    { name := "b", kind := .literal, named := false, visible := true },
    { name := "a", kind := .literal, named := false, visible := true },
    { name := "s", kind := .nonterminal, named := true, visible := true },
    { name := "n", kind := .nonterminal, named := true, visible := true },
    { name := "x", kind := .nonterminal, named := true, visible := true },
    { name := "y", kind := .nonterminal, named := true, visible := true }]
  terminalCount := 4
  nonterminalCount := 4
  externalCount := 0
  fields := []
  productions := #[{ lhs := 4, children := [{ symbol := 5 }, { symbol := 2 }] },
    { lhs := 5, children := [{ symbol := 6 }] }, { lhs := 5, children := [{ symbol := 7 }] },
    { lhs := 6, children := [{ symbol := 3 }] }, { lhs := 7, children := [{ symbol := 3 }] }]
  start := 4
  terminals := #[{ form := .endOfText }, { form := .literal "#" }, { form := .literal "b" },
    { form := .literal "a" }]
  padding := none
  extras := [1]
  word := none
  recovery := []
  conflicts := [[6, 7]]
  owners := #[0, 1, 2, 3, 4, 5, 6, 7]

/-- The start, the first letter, the whole text, what the first letter is, either reading of it, and
the second letter. -/
def automaton : Automaton where
  states := #[
    { kernel := [(⟨5, 0⟩, ⟨1⟩)]
      items := [(⟨5, 0⟩, ⟨1⟩), (⟨0, 0⟩, ⟨1⟩), (⟨1, 0⟩, ⟨4⟩), (⟨2, 0⟩, ⟨4⟩), (⟨3, 0⟩, ⟨4⟩),
        (⟨4, 0⟩, ⟨4⟩)]
      transitions := [(3, 1), (4, 2), (5, 3), (6, 4), (7, 5)] },
    { kernel := [(⟨3, 1⟩, ⟨4⟩), (⟨4, 1⟩, ⟨4⟩)], items := [(⟨3, 1⟩, ⟨4⟩), (⟨4, 1⟩, ⟨4⟩)]
      transitions := [] },
    { kernel := [(⟨5, 1⟩, ⟨1⟩)], items := [(⟨5, 1⟩, ⟨1⟩)], transitions := [] },
    { kernel := [(⟨0, 1⟩, ⟨1⟩)], items := [(⟨0, 1⟩, ⟨1⟩)], transitions := [(2, 6)] },
    { kernel := [(⟨1, 1⟩, ⟨4⟩)], items := [(⟨1, 1⟩, ⟨4⟩)], transitions := [] },
    { kernel := [(⟨2, 1⟩, ⟨4⟩)], items := [(⟨2, 1⟩, ⟨4⟩)], transitions := [] },
    { kernel := [(⟨0, 2⟩, ⟨1⟩)], items := [(⟨0, 2⟩, ⟨1⟩)], transitions := [] }]

def table : ParseTable where
  data := .ofActions flat (.ofAutomaton flat automaton)
  patterns := #[none, none, none, none]
  padding := none
  valid := #[[1, 3], [1, 2], [0, 1], [1, 2], [1, 2], [1, 2], [0, 1]]
  consistent := by cbv
  patterns_eq := by cbv
  padding_eq := by cbv
  valid_eq := by cbv

theorem ofGrammar_flat : Automaton.ofGrammar flat (.ofGrammar flat) = some automaton := by
  have found : Lr.Found.explore flat 8 ⟨#[[flat.startItem]], #[]⟩ =
      some ⟨#[[⟨5, 0⟩], [⟨3, 1⟩, ⟨4, 1⟩], [⟨5, 1⟩], [⟨0, 1⟩], [⟨1, 1⟩], [⟨2, 1⟩], [⟨0, 2⟩]],
        #[[(3, 1), (4, 2), (5, 3), (6, 4), (7, 5)], [], [], [(2, 6)], [], [], []]⟩ := by
    cbv
  have states : Lr.states flat = some _ := Lr.Found.explore_of_le found (by decide)
  rw [Automaton.ofGrammar, states]
  decide +kernel

theorem compileFlat_eq : Grammar.compileFlat flat = (some ⟨table.data, 5, 1⟩, []) := by
  rw [Grammar.compileFlat, ofGrammar_flat]
  cbv

def parser : Parser where
  language := ⟨table, none⟩
  complete := .inl rfl

/-- The engine for the two letters with a note between them. -/
def engine : Engine := parser.engine "a#b" none fun _ => false

/-- The first letter was taken. -/
def begun : Configuration where
  heads := [{ stack := .push [] 1 (.leaf ⟨3, 0, 0, 1, 1⟩ false false 0 1) }]
  position := 1
  polls := 1
  trace := #[.lex ⟨3, 0, 0, 1, 1⟩, .shift 3 1 false]

/-- The note was taken. -/
def interrupted : Configuration where
  heads := begun.heads.map fun h =>
    { h with stack := h.stack.push 1 (.leaf ⟨1, 1, 1, 2, 2⟩ true false 1 1) }
  position := 2
  polls := 2
  trace := begun.trace ++ #[.lex ⟨1, 1, 1, 2, 2⟩, .shift 1 1 true]

/-- The second letter is looked at. -/
def resumed : Configuration :=
  { interrupted with polls := 3, trace := interrupted.trace.push (.lex ⟨2, 2, 2, 3, 3⟩) }

theorem faces_resumed : engine.Faces none ⟨2, 2, 2, 3, 3⟩ resumed := by
  have first : engine.Between none begun := .next .start (by unfold Parsing.Returns; cbv)
  have second : engine.Between none interrupted := .next first (by unfold Parsing.Returns; cbv)
  exact .tried (.pulled second (by unfold Parsing.Returns; cbv)) rfl

/-- A head with both letters on its stack becomes the whole text and is accepted. -/
theorem drives_end {h : Head} (hsteady : h.stack.Steady) (hstates : h.stack.states = [6, 3, 0]) :
    engine.Drives h [⟨0, 3, 3, 3, 3⟩] := by
  have production : engine.table.production? 0 = some flat.productions[0] := by cbv
  have goto : engine.table.goto 0 4 = some 2 := by cbv
  obtain ⟨stack, hreduce⟩ := @Stack.Steady.exists_reduce _ _ _ 3 false _ hsteady _ _ []
    production (by rw [hstates]; rfl) goto
  obtain ⟨-, -, -, -, -, -, -, -, -, -, hnext⟩ := hsteady.reduce hreduce
  have reduces : .reduce 0 ∈ engine.table.actions h.state 0 := by
    obtain ⟨below, hbelow⟩ := hsteady.states_eq
    have state : h.state = 6 := (List.cons.inj (hbelow.symm.trans hstates)).1
    rw [state, show engine.table.actions 6 0 = [.reduce 0] by cbv]
    exact List.mem_singleton_self _
  have accepts : .accept ∈ engine.table.actions stack.state 0 := by
    rw [hnext, show engine.table.actions 2 0 = [.accept] by cbv]
    exact List.mem_singleton_self _
  exact .reduce reduces ⟨_, stack, 2, production, hreduce, rfl⟩ (.accept accepts)

/-- After the second letter there are two heads with the same states, of which one is dropped. They can
be driven over the same tokens, and the end of the text is such. -/
theorem drives_readings : Grammar.compileFlat flat = (some ⟨table.data, 5, 1⟩, []) ∧
    ∃ phase c', Parsing.Returns (engine.reducePhase ⟨2, 2, 2, 3, 3⟩ false) resumed phase c' ∧
    ∃ h h', phase.taken ⟨2, 2, 2, 3, 3⟩ = [h, h'] ∧ h.stack.sameStates h'.stack = true ∧
      (∀ tokens, engine.Drives h tokens ↔ engine.Drives h' tokens) ∧
      engine.Drives h' [⟨0, 3, 3, 3, 3⟩] := by
  have taken : (((engine.reducePhase ⟨2, 2, 2, 3, 3⟩ false).run.run resumed).1.map fun phase =>
      (phase.taken ⟨2, 2, 2, 3, 3⟩).map fun h =>
        (h.stack.map Entry.state, h.stack.extras, h.stack.states)).toOption =
      some [([6, 3, 3], [false, true, false], [6, 3, 0]),
        ([6, 3, 3], [false, true, false], [6, 3, 0])] := by
    cbv
  cases hrun : (engine.reducePhase ⟨2, 2, 2, 3, 3⟩ false).run.run resumed with
  | mk result c' =>
    rw [hrun] at taken
    cases result with
    | error e => cases taken
    | ok phase =>
      obtain ⟨h, rest, htaken, hh, hrest⟩ := List.map_eq_cons_iff.1 (Option.some.inj taken)
      obtain ⟨h', rfl, hh'⟩ := List.map_eq_singleton_iff.1 hrest
      simp only [Prod.mk.injEq] at hh hh'
      have first : h ∈ phase.taken ⟨2, 2, 2, 3, 3⟩ := by simp [htaken]
      have second : h' ∈ phase.taken ⟨2, 2, 2, 3, 3⟩ := by simp [htaken]
      have same : h.stack.sameStates h'.stack = true :=
        Stack.sameStates_iff.2 (hh.1.trans hh'.1.symm)
      refine ⟨compileFlat_eq, phase, c', hrun, h, h', htaken, same, ?_, ?_⟩
      · exact Engine.drives_iff_of_sameStates faces_resumed hrun first second same
          (hh.2.1.trans hh'.2.1.symm)
      · exact drives_end (Engine.steady_of_mem_taken faces_resumed hrun second) hh'.2.2

end Noted

end IncrementalGlr
