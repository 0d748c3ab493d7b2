import Mathlib
import IncrementalGlr.Proofs.Parse.Driving

/-!
Looking for a place to go on from. Once a token at which parsing can resume was put aside, every later
token that is not welcome where the parse stands is looked for lower on the stack as well, and what
lies above is given up if it is welcome there (`Engine.resynchronises`). What carries this is that the
parse remembers such a token exactly as long as it is among those put aside (`Engine.marked_between`).
It is no longer among them when their error node is closed, and any extra closes it: after a note
between the tokens put aside and the next one, the search is over.
-/
namespace IncrementalGlr.Engine

open Parsing

variable {e : Engine} {token : Token} {c c' d : Configuration}

/-! ## Tokens put aside -/

/-- The tokens put aside are those of before. -/
structure Aside (c c' : Configuration) : Prop where
  pending : c'.pending = c.pending
  resync : c'.resync = c.resync

theorem Aside.refl (c : Configuration) : Aside c c := ⟨rfl, rfl⟩

theorem Aside.trans (h : Aside c d) (h' : Aside d c') : Aside c c' :=
  ⟨h'.pending.trans h.pending, h'.resync.trans h.resync⟩

theorem aside_of_quiet (h : Quiet d c') (hd : Aside c d) : Aside c c' :=
  ⟨h.pending.trans hd.pending, h.resync.trans hd.resync⟩

theorem aside_spend {u : Unit} (hr : Returns spend c u c') : Aside c c' := by
  obtain ⟨fuel, rfl⟩ := hr.spend
  exact ⟨rfl, rfl⟩

theorem aside_reducePhase {recovering : Bool} {phase : Phase}
    (hr : Returns (e.reducePhase token recovering) c phase c') : Aside c c' :=
  aside_of_quiet (returns_reducePhase hr).1 ⟨rfl, rfl⟩

theorem aside_shift {shifts : List (Head × Option StateId)} {fragile : Bool}
    {missing : Option SymbolId} {u : Unit} (hne : shifts ≠ [])
    (hr : Returns (e.shift shifts token fragile missing) c u c') : Aside c c' := by
  obtain ⟨kept, quiet, -⟩ := returns_shift hne hr
  exact aside_of_quiet quiet ⟨rfl, rfl⟩

theorem aside_tryReuse {shifts : List (Head × Option StateId)} {reused : Bool}
    (hr : Returns (e.tryReuse shifts token) c reused c') : Aside c c' := by
  unfold Engine.tryReuse at hr
  split at hr
  · rw [returns_get_bind] at hr
    dsimp only at hr
    split at hr
    · obtain ⟨-, rfl⟩ := returns_pure.1 hr
      exact .refl _
    · simp only [returns_bind, returns_record, returns_modify, returns_pure] at hr
      obtain ⟨_, _, hspend, _, _, rfl, _, _, rfl, -, rfl⟩ := hr
      obtain ⟨fuel, rfl⟩ := hspend.spend
      exact ⟨rfl, rfl⟩
  · obtain ⟨-, rfl⟩ := returns_pure.1 hr
    exact .refl _

/-- Letting the heads take a token puts none aside and closes no error node. -/
theorem aside_advance {recovering : Bool} {progress : Progress}
    (hr : Returns (e.advance token recovering) c progress c') : Aside c c' := by
  obtain ⟨phase, d, hphase, h⟩ := returns_advance hr
  have first := aside_reducePhase hphase
  cases h with
  | finished _ haccept =>
    simp only [returns_bind, returns_pure, Engine.accept, returns_record] at haccept
    obtain ⟨_, _, rfl, -, rfl⟩ := haccept
    exact ⟨first.pending, first.resync⟩
  | stuck _ _ hc => exact hc ▸ first
  | reused _ _ hreuse => exact first.trans (aside_tryReuse hreuse)
  | shifted _ hne hreuse hshift =>
    exact (first.trans (aside_tryReuse hreuse)).trans (aside_shift hne hshift)

theorem aside_insertTerminal {head : Head} {symbol : SymbolId} {result : Option Head}
    (hr : Returns (e.insertTerminal head token symbol) c result c') : Aside c c' := by
  simp only [Engine.insertTerminal, returns_bind, returns_modify] at hr
  obtain ⟨_, _, rfl, phase, d, hphase, hr⟩ := hr
  have first := aside_reducePhase hphase
  split at hr
  · obtain ⟨-, rfl⟩ := returns_pure.1 hr
    exact ⟨first.pending, first.resync⟩
  · simp only [returns_bind, returns_get, returns_pure] at hr
    obtain ⟨_, _, hshift, _, _, ⟨-, rfl⟩, -, rfl⟩ := hr
    have second := aside_shift (List.cons_ne_nil _ _) hshift
    exact ⟨second.pending.trans first.pending, second.resync.trans first.resync⟩

theorem aside_inserted {symbol : SymbolId} {token' : Token}
    (hr : Returns (inserted symbol token) c token' c') : Aside c c' := by
  simp only [Engine.inserted, returns_bind, returns_record, returns_modify, returns_pure] at hr
  obtain ⟨_, _, rfl, _, _, rfl, -, rfl⟩ := hr
  exact ⟨rfl, rfl⟩

theorem aside_insertFirst {head : Head} {symbols : List SymbolId} {result : Option (Head × Token)}
    (hr : Returns (e.insertFirst head token symbols) c result c') : Aside c c' := by
  induction symbols generalizing c with
  | nil =>
    obtain ⟨-, rfl⟩ := returns_pure.1 hr
    exact .refl _
  | cons symbol rest ih =>
    simp only [Engine.insertFirst, returns_bind] at hr
    obtain ⟨head', d, hterminal, hr⟩ := hr
    have first := aside_insertTerminal hterminal
    cases head' with
    | none => exact first.trans (ih hr)
    | some head' =>
      simp only [returns_bind, returns_pure] at hr
      obtain ⟨_, _, hinserted, -, rfl⟩ := hr
      exact first.trans (aside_inserted hinserted)

theorem aside_insert {head : Head} {result : Option (Head × Token)}
    (hr : Returns (e.insert head token) c result c') : Aside c c' := by
  unfold Engine.insert at hr
  split at hr
  · simp only [returns_bind, returns_pure] at hr
    obtain ⟨_, _, hinserted, -, rfl⟩ := hr
    exact aside_inserted hinserted
  · exact aside_insertFirst hr

/-! ## Remembering them -/

/-- The parse remembers a token at which it can resume exactly when one is among those put aside. -/
def Marked (e : Engine) (c : Configuration) : Prop :=
  c.resync = c.pending.any fun t => e.table.isRecovery t.symbol

theorem Marked.of_aside (h : e.Marked c) (hc : Aside c c') : e.Marked c' := by
  unfold Marked at h ⊢
  rw [hc.pending, hc.resync, h]

theorem marked_resume (h : e.Marked c) {resumed : Bool}
    (hr : Returns (e.resume token) c resumed c') : e.Marked c' := by
  rw [Engine.resume, returns_get_bind] at hr
  split at hr
  · exact (returns_pure.1 hr).2 ▸ h
  · dsimp only at hr
    split at hr
    · simp only [returns_bind, returns_set, returns_pure] at hr
      obtain ⟨_, _, rfl, -, rfl⟩ := hr
      rfl
    · exact (returns_pure.1 hr).2 ▸ h

theorem marked_attempt (h : e.Marked c) {again : Bool} {progress : Progress}
    (hr : Returns (e.attempt token again) c progress c') : e.Marked c' := by
  rw [Engine.attempt, returns_get_bind] at hr
  split at hr
  · exact h.of_aside (aside_advance hr)
  · simp only [returns_bind] at hr
    obtain ⟨resumed, d, hresume, hr⟩ := hr
    have hd := marked_resume h hresume
    cases resumed with
    | true => exact hd.of_aside (aside_advance hr)
    | false => exact (returns_pure.1 hr).2 ▸ hd

theorem marked_repairByPopping (h : e.Marked c) {head : Head} {result : Option Token}
    (hr : Returns (e.repairByPopping head token) c result c') : e.Marked c' := by
  rw [Engine.repairByPopping, returns_get_bind] at hr
  split at hr
  · simp only [returns_bind] at hr
    obtain ⟨head', d, hpop, hr⟩ := hr
    have hd : e.Marked d := by
      unfold Engine.popToViable at hpop
      split at hpop
      · exact (returns_pure.1 hpop).2 ▸ h
      · rw [returns_get_bind] at hpop
        simp only [returns_bind, returns_set, returns_record, returns_pure] at hpop
        obtain ⟨_, _, rfl, _, _, rfl, -, rfl⟩ := hpop
        rfl
    cases head' with
    | none => exact (returns_pure.1 hr).2 ▸ hd
    | some head' =>
      simp only [returns_bind, returns_modify, returns_pure] at hr
      obtain ⟨_, _, rfl, -, rfl⟩ := hr
      exact hd.of_aside ⟨rfl, rfl⟩
  · exact (returns_pure.1 hr).2 ▸ h

theorem marked_repair (h : e.Marked c) {head : Head} {result : Option Token}
    (hr : Returns (e.repair head token) c result c') : e.Marked c' := by
  rw [Engine.repair, returns_get_bind] at hr
  split at hr
  · simp only [returns_bind] at hr
    obtain ⟨inserted, d, hinsert, hr⟩ := hr
    have hd := h.of_aside (aside_insert hinsert)
    cases inserted with
    | none => exact marked_repairByPopping hd hr
    | some inserted =>
      simp only [returns_bind, returns_modify, returns_pure] at hr
      obtain ⟨_, _, rfl, -, rfl⟩ := hr
      exact hd.of_aside ⟨rfl, rfl⟩
  · exact marked_repairByPopping h hr

/-- A token that is put aside is remembered if parsing can resume at it. -/
theorem marked_giveUp (h : e.Marked c) {head : Head} {result : Option Subtree}
    (hr : Returns (e.giveUp head token) c result c') : e.Marked c' := by
  unfold Engine.giveUp at hr
  split at hr
  · simp only [returns_bind, returns_pure, Engine.wrap, returns_record, returns_get] at hr
    obtain ⟨_, _, ⟨_, _, rfl, _, _, ⟨rfl, rfl⟩, -, rfl⟩, -, rfl⟩ := hr
    exact h.of_aside ⟨rfl, rfl⟩
  · simp only [returns_bind, Engine.skip, returns_record, returns_modify, returns_pure] at hr
    obtain ⟨_, _, ⟨_, _, rfl, rfl⟩, -, rfl⟩ := hr
    unfold Marked at h ⊢
    simp only [h, List.any_append, List.any_cons, List.any_nil, Bool.or_false]
    rfl

theorem marked_consume {repairs : Nat} (h : e.Marked c) {result : Option Subtree}
    (hr : Returns (e.consume repairs token) c result c') : e.Marked c' := by
  induction returns_consume hr with
  | finished hattempt => exact marked_attempt h hattempt
  | taken hattempt => exact marked_attempt h hattempt
  | last hattempt hspend hgiven =>
    have stuck := (marked_attempt h hattempt).of_aside (aside_spend hspend)
    exact marked_giveUp stuck hgiven
  | beyond hattempt hspend hrepair hgiven =>
    have stuck := (marked_attempt h hattempt).of_aside (aside_spend hspend)
    exact marked_giveUp (marked_repair stuck hrepair) hgiven
  | repaired hattempt hspend hrepair hr' _ ih =>
    have stuck := (marked_attempt h hattempt).of_aside (aside_spend hspend)
    exact ih (marked_repair stuck hrepair) hr'

theorem aside_nextToken {token : Token} (hr : Returns e.nextToken c token c') :
    Aside c c' ∧ c'.heads = c.heads := by
  rw [Engine.nextToken, returns_get_bind] at hr
  simp only [returns_bind, returns_set, returns_record, returns_pure] at hr
  obtain ⟨_, _, rfl, _, _, rfl, -, rfl⟩ := hr
  exact ⟨⟨rfl, rfl⟩, rfl⟩

/-- Looking for the next token changes neither the heads nor what was put aside. -/
theorem returns_pull (hr : Returns (do e.poll; e.nextToken) c token d) :
    Aside c d ∧ d.heads = c.heads := by
  simp only [returns_bind] at hr
  obtain ⟨_, _, hpoll, hnext⟩ := hr
  obtain ⟨polls, rfl⟩ := returns_poll hpoll
  have next := aside_nextToken hnext
  exact ⟨⟨next.1.pending, next.1.resync⟩, next.2⟩

variable {fuel : Option Nat}

/-- In every parse, whether to look lower on the stack is remembered along with the tokens. -/
theorem marked_between (hc : e.Between fuel c) : e.Marked c := by
  induction hc with
  | start => rfl
  | next _ hr ih =>
    simp only [returns_bind] at hr
    obtain ⟨_, _, hpoll, _, _, hnext, hconsume⟩ := hr
    have pulled := (returns_pull (returns_bind.2 ⟨_, _, hpoll, hnext⟩)).1
    exact marked_consume (ih.of_aside pulled) hconsume

/-! ## Looking lower on the stack -/

/-- The next token is put aside, behind those that were put aside before it. -/
def PutsAside (e : Engine) (c : Configuration) (token : Token) (c' : Configuration) : Prop :=
  ∃ d, Returns (do e.poll; e.nextToken) c token d ∧ Returns (e.consume maxAttempts token) d none c' ∧
    ∃ t : Subtree, t.symbol = token.symbol ∧ c'.pending = c.pending ++ [t]

/-- A token at which parsing can resume was put aside, and so was every token since. -/
inductive Seeks (e : Engine) (fuel : Option Nat) : Configuration → Prop where
  | begun {c c' : Configuration} {token : Token} (hc : e.Between fuel c)
      (hput : e.PutsAside c token c') (hrecovery : e.table.isRecovery token.symbol = true) :
      Seeks e fuel c'
  | next {c c' : Configuration} {token : Token} (hc : Seeks e fuel c)
      (hput : e.PutsAside c token c') : Seeks e fuel c'

theorem Between.putsAside (hc : e.Between fuel c) (hput : e.PutsAside c token c') :
    e.Between fuel c' := by
  obtain ⟨d, hpull, hconsume, -⟩ := hput
  refine .next hc ?_
  simp only [returns_bind] at hpull ⊢
  obtain ⟨_, _, hpoll, hnext⟩ := hpull
  exact ⟨_, _, hpoll, _, _, hnext, hconsume⟩

theorem Seeks.between (hc : e.Seeks fuel c) : e.Between fuel c := by
  induction hc with
  | begun hc hput _ => exact hc.putsAside hput
  | next _ hput ih => exact ih.putsAside hput

/-- The token is still among those put aside, and the parse remembers it. -/
theorem Seeks.resync (hc : e.Seeks fuel c) : c.resync = true := by
  rw [marked_between hc.between, List.any_eq_true]
  induction hc with
  | begun _ hput hrecovery =>
    obtain ⟨_, _, _, t, hsymbol, hpending⟩ := hput
    exact ⟨t, by simp [hpending], hsymbol ▸ hrecovery⟩
  | next _ hput ih =>
    obtain ⟨_, _, _, _, _, hpending⟩ := hput
    obtain ⟨t, ht, hrecovery⟩ := ih
    exact ⟨t, by simp [hpending, ht], hrecovery⟩

/-- While tokens are put aside nothing is done with one that is not welcome. -/
theorem attempt_of_unwelcome {head : Head} (hsome : d.pending ≠ []) (hheads : d.heads = [head])
    (hextra : e.table.isExtra token.symbol = false)
    (hviable : head.stack.viable e.table [] token.symbol = false) {again : Bool}
    {progress : Progress} (hr : Returns (e.attempt token again) d progress c') :
    progress = .stuck head ∧ c' = d := by
  rw [Engine.attempt, returns_get_bind] at hr
  rw [if_neg fun h => hsome (List.isEmpty_iff.1 h)] at hr
  simp only [returns_bind] at hr
  obtain ⟨resumed, _, hresume, hr⟩ := hr
  rw [Engine.resume, returns_get_bind, hheads] at hresume
  simp only [hextra, hviable, Bool.or_self, Bool.false_eq_true, if_false, returns_pure] at hresume
  obtain ⟨rfl, rfl⟩ := hresume
  obtain ⟨rfl, rfl⟩ := returns_pure.1 hr
  exact ⟨by rw [hheads]; rfl, rfl⟩

/-- While a token is remembered, the stack is taken down to where the next one is welcome. -/
theorem repair_of_resync {head : Head} {result : Option Token}
    (hr : Returns (e.repair head token) d result c') (hsome : d.pending ≠ [])
    (hresync : d.resync = true) :
    match popUntil e.table token.symbol head.stack [] with
    | some (given, below) => result = some token ∧ c' = { d with
        heads := [popped head (given ++ d.pending) below token.lookaheadEnd]
        pending := [], resync := false, trace := d.trace.push (.pop given.length) }
    | none => result = none ∧ c' = d := by
  have hempty : d.pending.isEmpty = false := by simpa using hsome
  rw [Engine.repair, returns_get_bind] at hr
  simp only [hempty, Bool.false_and, Bool.false_eq_true, if_false] at hr
  rw [Engine.repairByPopping, returns_get_bind] at hr
  simp only [hresync, Bool.or_true, Bool.true_or, if_true, returns_bind] at hr
  obtain ⟨head', d', hpop, hr⟩ := hr
  unfold Engine.popToViable at hpop
  split at hpop
  · next hnone =>
    obtain ⟨rfl, rfl⟩ := returns_pure.1 hpop
    rw [hnone]
    exact returns_pure.1 hr
  · next given below hfound =>
    rw [returns_get_bind] at hpop
    simp only [returns_bind, returns_set, returns_record, returns_pure] at hpop
    obtain ⟨_, _, rfl, _, _, rfl, rfl, rfl⟩ := hpop
    simp only [returns_bind, returns_modify, returns_pure] at hr
    obtain ⟨_, _, rfl, rfl, rfl⟩ := hr
    rw [hfound]
    exact ⟨rfl, rfl⟩

/-- While the parse looks for a place to go on from there is one head. A token that is not the end of
the text, no extra and not welcome to that head is looked for lower on its stack. If it is welcome
there, the parse goes on with it from there; else the token is put aside and the search goes on. -/
theorem resynchronises (hc : e.Seeks fuel c)
    (hpull : Returns (do e.poll; e.nextToken) c token d) :
    ∃ head, d.heads = [head] ∧ (token.symbol ≠ endSymbol → e.table.isExtra token.symbol = false →
      head.stack.viable e.table [] token.symbol = false →
      ∀ result c', Returns (e.consume maxAttempts token) d result c' →
        match popUntil e.table token.symbol head.stack [] with
        | some (given, below) => ∃ d', Returns (e.consume (maxAttempts - 1) token) d' result c' ∧
            d'.heads = [popped head (given ++ d.pending) below token.lookaheadEnd] ∧
            d'.pending = [] ∧ d'.trace = d.trace.push (.pop given.length)
        | none => result = none ∧ e.Seeks fuel c') := by
  obtain ⟨aside, hheads⟩ := returns_pull hpull
  have hresync : d.resync = true := aside.resync.trans hc.resync
  have hsome : c.pending ≠ [] := fun h => by
    have marked := marked_between hc.between
    rw [Marked, hc.resync, h] at marked
    cases marked
  have hsome' : d.pending ≠ [] := aside.pending ▸ hsome
  obtain ⟨head, hhead⟩ := (hc.between.fair (steady e) trivial).single hsome
  have hhead' : d.heads = [head] := hheads.trans hhead
  refine ⟨head, hhead', fun hend hextra hviable result c' hr => ?_⟩
  -- The first attempt is stuck with the one head, so there is a repair, and it can only be a pop.
  cases returns_consume hr with
  | finished hattempt => cases (attempt_of_unwelcome hsome' hhead' hextra hviable hattempt).1
  | taken hattempt => cases (attempt_of_unwelcome hsome' hhead' hextra hviable hattempt).1
  | beyond hattempt hspend hrepair hgiven =>
    obtain ⟨hstuck, rfl⟩ := attempt_of_unwelcome hsome' hhead' hextra hviable hattempt
    cases hstuck
    obtain ⟨left, rfl⟩ := hspend.spend
    have repaired := repair_of_resync hrepair hsome' hresync
    split at repaired
    · cases repaired.1
    · obtain ⟨-, rfl⟩ := repaired
      have hput := hgiven
      simp only [Engine.giveUp, if_neg hend, returns_bind, Engine.skip, returns_record,
        returns_modify, returns_pure] at hput
      obtain ⟨_, _, ⟨_, _, rfl, rfl⟩, rfl, rfl⟩ := hput
      let leaf := Subtree.leaf token false true head.state head.state
      exact ⟨rfl, .next hc ⟨_, hpull, hr, leaf, rfl, congrArg (· ++ [leaf]) aside.pending⟩⟩
  | repaired hattempt hspend hrepair hr' _ =>
    obtain ⟨hstuck, rfl⟩ := attempt_of_unwelcome hsome' hhead' hextra hviable hattempt
    cases hstuck
    obtain ⟨left, rfl⟩ := hspend.spend
    have repaired := repair_of_resync hrepair hsome' hresync
    split at repaired
    · obtain ⟨hsame, rfl⟩ := repaired
      cases hsame
      exact ⟨_, hr', rfl, rfl, rfl⟩
    · cases repaired.1

end IncrementalGlr.Engine

/-! ## A statement that breaks off -/

namespace IncrementalGlr.Ended

/-- Two letters and the end of a statement, at which parsing can resume. -/
def flat : FlatGrammar where
  name := "ended"
  symbols := #[{ name := "end", kind := .endOfText, named := false, visible := false },
    { name := "a", kind := .literal, named := false, visible := true },
    { name := "b", kind := .literal, named := false, visible := true },
    { name := ";", kind := .literal, named := false, visible := true },
    { name := "s", kind := .nonterminal, named := true, visible := true }]
  terminalCount := 4
  nonterminalCount := 1
  externalCount := 0
  fields := []
  productions := #[{ lhs := 4, children := [{ symbol := 1 }, { symbol := 2 }, { symbol := 3 }] }]
  start := 4
  terminals := #[{ form := .endOfText }, { form := .literal "a" }, { form := .literal "b" },
    { form := .literal ";" }]
  padding := none
  extras := []
  word := none
  recovery := [3]
  conflicts := []
  owners := #[0, 1, 2, 3, 4]

/-- The start, the first letter, the whole text, both letters, and the end of the statement. -/
def automaton : Automaton where
  states := #[
    { kernel := [(⟨1, 0⟩, ⟨1⟩)], items := [(⟨1, 0⟩, ⟨1⟩), (⟨0, 0⟩, ⟨1⟩)]
      transitions := [(1, 1), (4, 2)] },
    { kernel := [(⟨0, 1⟩, ⟨1⟩)], items := [(⟨0, 1⟩, ⟨1⟩)], transitions := [(2, 3)] },
    { kernel := [(⟨1, 1⟩, ⟨1⟩)], items := [(⟨1, 1⟩, ⟨1⟩)], transitions := [] },
    { kernel := [(⟨0, 2⟩, ⟨1⟩)], items := [(⟨0, 2⟩, ⟨1⟩)], transitions := [(3, 4)] },
    { kernel := [(⟨0, 3⟩, ⟨1⟩)], items := [(⟨0, 3⟩, ⟨1⟩)], transitions := [] }]

def table : ParseTable where
  data := .ofActions flat (.ofAutomaton flat automaton)
  patterns := #[none, none, none, none]
  padding := none
  valid := #[[1], [2], [0], [3], [0]]
  consistent := by cbv
  patterns_eq := by cbv
  padding_eq := by cbv
  valid_eq := by cbv

theorem ofGrammar_flat : Automaton.ofGrammar flat (.ofGrammar flat) = some automaton := by
  have found : Lr.Found.explore flat 6 ⟨#[[flat.startItem]], #[]⟩ =
      some ⟨#[[⟨1, 0⟩], [⟨0, 1⟩], [⟨1, 1⟩], [⟨0, 2⟩], [⟨0, 3⟩]],
        #[[(1, 1), (4, 2)], [(2, 3)], [], [(3, 4)], []]⟩ := by
    cbv
  have states : Lr.states flat = some _ := Lr.Found.explore_of_le found (by decide)
  rw [Automaton.ofGrammar, states]
  decide +kernel

theorem compileFlat_eq : Grammar.compileFlat flat = (some ⟨table.data, 1, 0⟩, []) := by
  rw [Grammar.compileFlat, ofGrammar_flat]
  cbv

/-- A parser that makes nothing up. -/
def parser : Parser where
  language := ⟨table, none⟩
  complete := .inl rfl
  options := { (default : ParseOptions) with maxInsertions := 0 }

/-- The engine for a statement that ends too early, and the beginning of another. -/
def engine : Engine := parser.engine "a;a" none fun _ => false

/-- The first letter was taken. -/
def begun : Configuration where
  heads := [{ stack := .push [] 1 (.leaf ⟨1, 0, 0, 1, 1⟩ false false 0 1) }]
  position := 1
  polls := 1
  trace := #[.lex ⟨1, 0, 0, 1, 1⟩, .shift 1 1 false]

/-- The end of the statement was put aside. -/
def broken : Configuration where
  heads := begun.heads
  position := 2
  pending := [.leaf ⟨3, 1, 1, 2, 2⟩ false true 1 1]
  resync := true
  polls := 2
  trace := begun.trace ++ #[.lex ⟨3, 1, 1, 2, 2⟩, .skip 3 1 2]

/-- The letter after it is looked at. -/
def faced : Configuration :=
  { broken with polls := 3, trace := broken.trace.push (.lex ⟨1, 2, 2, 3, 3⟩) }

theorem seeks_broken : engine.Seeks none broken := by
  have first : engine.Between none begun := .next .start (by unfold Parsing.Returns; cbv)
  have second : engine.PutsAside begun ⟨3, 1, 1, 2, 2⟩ broken := by
    refine ⟨{ begun with polls := 2, trace := begun.trace.push (.lex ⟨3, 1, 1, 2, 2⟩) }, ?_, ?_, _,
      rfl, rfl⟩
    · unfold Parsing.Returns
      cbv
    · unfold Parsing.Returns
      cbv
  exact .begun first second (by cbv)

/-- The letter is not welcome behind the first one, but at the start. The first letter is given up with
the end of the statement, and the letter begins another. -/
theorem resynchronises_broken : Grammar.compileFlat flat = (some ⟨table.data, 1, 0⟩, []) ∧
    ∃ c' d', Parsing.Returns (engine.consume maxAttempts ⟨1, 2, 2, 3, 3⟩) faced none c' ∧
      Parsing.Returns (engine.consume (maxAttempts - 1) ⟨1, 2, 2, 3, 3⟩) d' none c' ∧
      d'.trace = faced.trace.push (.pop 1) := by
  have pulled : Parsing.Returns (do engine.poll; engine.nextToken) broken ⟨1, 2, 2, 3, 3⟩ faced := by
    unfold Parsing.Returns
    cbv
  obtain ⟨head, hheads, hpops⟩ := Engine.resynchronises seeks_broken pulled
  obtain rfl := (List.cons.inj hheads).1
  have consumed : Parsing.Returns (engine.consume maxAttempts ⟨1, 2, 2, 3, 3⟩) faced none
      ((engine.consume maxAttempts ⟨1, 2, 2, 3, 3⟩).run.run faced).2 :=
    Prod.ext (by cbv) rfl
  have below := hpops (by decide) (by cbv) (by cbv) none _ consumed
  rw [show Engine.popUntil engine.table 1 (.push [] 1 (.leaf ⟨1, 0, 0, 1, 1⟩ false false 0 1)) [] =
    some ([.leaf ⟨1, 0, 0, 1, 1⟩ false false 0 1], []) by cbv] at below
  obtain ⟨d', goes, -, -, trace⟩ := below
  exact ⟨compileFlat_eq, _, d', consumed, goes, trace⟩

end IncrementalGlr.Ended
