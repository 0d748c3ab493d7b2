import IncrementalGlr.Proofs.Parse.Shift
import IncrementalGlr.Proofs.Parse.Steps

/-!
Invariants of parses. `Engine.Invariant` lists what the steps of an engine do with a head and with
the tokens put aside: reducing, taking a token or an extra, taking an old subtree over, making up a
symbol, closing an error node, giving up what is on the stack, putting a token aside, and ending the
parse. A property that each of these keeps is kept by the whole engine, so every root has what the
last steps give it (`Invariant.run`). The property may speak of the place where the next token is looked
for. What is done about a token that no head takes may also give a head a property that it did not have
before (`Engine.Mending`).
-/
namespace IncrementalGlr.Engine

open Parsing

/-- The token as it is looked at for a symbol that stands before it without text. -/
def standIn (token : Token) (symbol : SymbolId) : Token :=
  { token with symbol, stop := token.start }

/-- A head that has an error node over skipped tokens on its stack. -/
def resumed (head : Head) (pending : List Subtree) (lookaheadEnd : Nat) : Head :=
  { head with
    stack := head.stack.push head.state (.error pending head.stack.stop lookaheadEnd true)
    errorCost := head.errorCost + 1 }

/-- A head that goes on from `below`, with an error node over what was above and the skipped
tokens. -/
def popped (head : Head) (given : List Subtree) (below : Stack) (lookaheadEnd : Nat) : Head where
  stack := below.push below.state (.error given below.stop lookaheadEnd true)
  errorCost := head.errorCost + 1
  dynamicPrecedence := head.dynamicPrecedence

/-- A head with a nonterminal made up. -/
def supplied (head : Head) (token : Token) (symbol : SymbolId) (next : StateId) : Head :=
  { head with
    stack := head.stack.push next (.missing symbol token)
    errorCost := head.errorCost + 1
    insertions := head.insertions + 1 }

/-- A head that has taken an old subtree over. -/
def reusing (head : Head) (t : Subtree) (next : StateId) : Head :=
  { head with
    stack := head.stack.push next t
    dynamicPrecedence := wrap32 (head.dynamicPrecedence + t.info.dynamicPrecedence)
    insertions := 0 }

/-- An old subtree is chosen from the candidates, and only if it can stand for the parse from here. -/
theorem of_chooseReuse {e : Engine} {head : Head} {token : Token} {candidates : List Subtree}
    {t : Subtree} {next : StateId} (h : e.chooseReuse head token candidates = some (t, next)) :
    t ∈ candidates ∧ ReuseCursor.reusable t token head.state = true ∧
      e.table.goto head.state t.symbol = some next := by
  obtain ⟨x, hx, hchosen⟩ := List.exists_of_findSome?_eq_some h
  split at hchosen
  · next hreusable =>
    obtain ⟨_, hgoto, hsame⟩ := Option.map_eq_some_iff.1 hchosen
    cases hsame
    exact ⟨hx, hreusable, hgoto⟩
  · cases hchosen

/-- A property of heads while tokens are put aside and the next is looked for at a place, which every
step keeps, and a property that roots have then. `T` is what is known of tokens that are dealt with
there. -/
structure Invariant (e : Engine) (T : Nat → Token → Prop) (P : Nat → List Subtree → Head → Prop)
    (R : Subtree → Prop) : Prop where
  token : ∀ {position : Nat} {pending : List Subtree} {head : Head} (states : List StateId),
    P position pending head → T position (e.lexer.lex position states)
  unpadded : ∀ {position : Nat} {token : Token}, T position token →
    T token.start { token with paddingStart := token.start }
  keeps : ∀ position token, e.Keeps token (P position [])
  shift : ∀ {position : Nat} {token : Token} (fragile : Bool) {head : Head}
    {target : Option StateId}, T position token → P position [] head →
    taking target ∈ e.table.actions head.state token.symbol →
    P token.stop [] (shifted token fragile none (head, target))
  reuse : ∀ {r : ReuseCursor} {token : Token} {head : Head} {position : Nat} {t : Subtree}
    {next : StateId}, e.reuse = some r → P position [] head →
    e.chooseReuse head token (r.candidates position) = some (t, next) →
    P (position + t.total) [] (reusing head t next)
  nonterminal : ∀ {position : Nat} {token : Token} {head : Head} {symbol : SymbolId}
    {next : StateId}, T position token → P position [] head →
    e.table.goto head.state symbol = some next →
    P token.start [] (supplied head token symbol next)
  terminal : ∀ {position : Nat} {token : Token} (fragile : Bool) {head : Head} {symbol : SymbolId}
    {next : StateId}, T position token → P position [] head →
    .shift next ∈ e.table.actions head.state symbol →
    P token.start [] (shifted (standIn token symbol) fragile (some symbol) (head, some next))
  resume : ∀ {position : Nat} {pending : List Subtree} {head : Head} (lookaheadEnd : Nat),
    pending ≠ [] → P position pending head → P position [] (resumed head pending lookaheadEnd)
  pop : ∀ {position : Nat} {pending given : List Subtree} {head : Head} {below : Stack}
    {terminal : SymbolId} (lookaheadEnd : Nat), P position pending head →
    popUntil e.table terminal head.stack [] = some (given, below) →
    P position [] (popped head (given ++ pending) below lookaheadEnd)
  skip : ∀ {position : Nat} {pending : List Subtree} {head : Head} {token : Token},
    T position token → P position pending head →
    P token.stop (pending ++ [.leaf token false true head.state head.state]) head
  accept : ∀ {position : Nat} {token : Token} {head : Head}, P position [] head →
    .accept ∈ e.table.actions head.state token.symbol →
    R (rootOf head.stack.subtrees token.lookaheadEnd)
  wrap : ∀ {position : Nat} {pending : List Subtree} {head : Head} (lookaheadEnd : Nat),
    P position pending head → R (.error (head.stack.subtrees ++ pending) 0 lookaheadEnd false)

variable {e : Engine} {T : Nat → Token → Prop} {P : Nat → List Subtree → Head → Prop}
  {R : Subtree → Prop}
  {token : Token} {c c' : Configuration}

/-- All heads have the property. While tokens are put aside there is one head only. -/
structure Fair (P : Nat → List Subtree → Head → Prop) (c : Configuration) : Prop where
  heads : ∀ h ∈ c.heads, P c.position c.pending h
  nonempty : c.heads ≠ []
  single : c.pending ≠ [] → ∃ h, c.heads = [h]

theorem Fair.of_single {h : Head} (hh : P c.position c.pending h) (hheads : c.heads = [h]) : Fair P c where
  heads := by
    rw [hheads]
    exact fun x hx => List.mem_singleton.1 hx ▸ hh
  nonempty := by simp [hheads]
  single _ := ⟨h, hheads⟩

/-- Without tokens put aside there may be several heads. -/
theorem Fair.of_kept {kept : List Head} (hkept : kept ≠ []) (hnone : c.pending = [])
    (hheads : c.heads = kept) (hh : ∀ h ∈ kept, P c.position [] h) : Fair P c where
  heads := by
    rw [hheads, hnone]
    exact hh
  nonempty := hheads ▸ hkept
  single h := absurd hnone h

theorem returns_poll {u : Unit} (hr : Returns e.poll c u c') : ∃ polls, c' = { c with polls } := by
  rw [Engine.poll, returns_get_bind] at hr
  simp only [returns_bind, returns_set] at hr
  obtain ⟨_, _, rfl, hr⟩ := hr
  split at hr
  · exact absurd hr not_returns_throw
  · exact ⟨_, (returns_pure.1 hr).2⟩

theorem Fair.poll {u : Unit} (hc : Fair P c) (hr : Returns e.poll c u c') : Fair P c' := by
  obtain ⟨polls, rfl⟩ := returns_poll hr
  exact ⟨hc.heads, hc.nonempty, hc.single⟩

namespace Invariant

variable (inv : e.Invariant T P R)
include inv

/-! ## Trying a token -/

/-- What trying a token has led to. -/
def Tried (T : Nat → Token → Prop) (P : Nat → List Subtree → Head → Prop) (R : Subtree → Prop)
    (token : Token) (c : Configuration) : Progress → Prop
  | .finished root => R root
  | .taken => Fair P c
  | .stuck head => P c.position c.pending head ∧ T c.position token

theorem shift_of_returns (ht : T c.position token) {shifts : List (Head × Option StateId)} {fragile : Bool}
    {u : Unit} (hne : shifts ≠ []) (hnone : c.pending = [])
    (hs : ∀ x ∈ shifts, P c.position [] x.1 ∧ taking x.2 ∈ e.table.actions x.1.state token.symbol)
    (hr : Returns (e.shift shifts token fragile none) c u c') : Fair P c' := by
  obtain ⟨kept, quiet, hkept, origin⟩ := returns_shift hne hr
  refine .of_kept hkept (quiet.pending.trans hnone) quiet.heads fun h hh => ?_
  obtain ⟨x, hx, path, rfl⟩ := origin h hh
  rw [quiet.position]
  exact (inv.keeps _ token).path _ path (inv.shift _ ht (hs x hx).1 (hs x hx).2)

theorem tryReuse {shifts : List (Head × Option StateId)} (hnone : c.pending = [])
    (hs : ∀ x ∈ shifts, P c.position [] x.1) {reused : Bool}
    (hr : Returns (e.tryReuse shifts token) c reused c') :
    if reused then Fair P c' else c' = c := by
  unfold Engine.tryReuse at hr
  split at hr
  · next head r reuse hreuse =>
    rw [returns_get_bind] at hr
    dsimp only at hr
    split at hr
    · obtain ⟨rfl, rfl⟩ := returns_pure.1 hr
      rw [if_neg Bool.false_ne_true]
    · next t next hchoice =>
      simp only [returns_bind, returns_record, returns_modify, returns_pure] at hr
      obtain ⟨_, d, hspend, _, _, rfl, _, _, rfl, rfl, rfl⟩ := hr
      obtain ⟨fuel, rfl⟩ := hspend.spend
      rw [if_pos rfl]
      refine .of_single ?_ rfl
      show P (c.position + t.total) c.pending _
      rw [hnone]
      exact inv.reuse hreuse (hs _ List.mem_cons_self) hchoice
  · obtain ⟨rfl, rfl⟩ := returns_pure.1 hr
    rw [if_neg Bool.false_ne_true]

theorem advance (ht : T c.position token) (hc : Fair P c) (hnone : c.pending = [])
    {recovering : Bool} {progress : Progress}
    (hr : Returns (e.advance token recovering) c progress c') :
    Tried T P R token c' progress := by
  obtain ⟨phase, d, hphase, h⟩ := returns_advance hr
  have quiet := (returns_reducePhase hphase).1
  have holds := (inv.keeps c.position token).reducePhase hphase (hnone ▸ hc.heads)
  have hnone' : d.pending = [] := quiet.pending.trans hnone
  rw [← show d.position = c.position from quiet.position] at ht holds
  cases h with
  | finished hbest haccept =>
    simp only [returns_bind, returns_pure, Engine.accept, returns_record] at haccept
    obtain ⟨_, _, rfl, rfl, rfl⟩ := haccept
    obtain ⟨hhead, ha⟩ := holds.accepts _ (Head.mem_of_preferredBy hbest)
    exact inv.accept hhead ha
  | stuck hbest hempty hc' =>
    obtain ⟨head, hdead⟩ := exists_dead (exists_of_reducePhase hphase hc.nonempty) hbest hempty
    subst hc'
    refine ⟨?_, ht⟩
    rw [hnone', hdead]
    exact holds.dead head (Head.mem_of_preferredBy hdead)
  | reused _ _ hreuse => exact inv.tryReuse hnone' (fun x hx => (holds.shifts x hx).1) hreuse
  | @shifted d' _ hne hreuse hshift =>
    obtain rfl : d' = d := inv.tryReuse hnone' (fun x hx => (holds.shifts x hx).1) hreuse
    exact inv.shift_of_returns ht hne hnone' holds.shifts hshift

/-- Closing the error node of tokens put aside leaves none of them. -/
theorem resume_of_returns (hc : Fair P c) (hsome : c.pending ≠ []) {resumed : Bool}
    (hr : Returns (e.resume token) c resumed c') :
    if resumed then c'.pending = [] ∧ Fair P c' ∧ c'.position = c.position else c' = c := by
  obtain ⟨head, hheads⟩ := hc.single hsome
  have hhead : P c.position c.pending head := hc.heads head (hheads ▸ List.mem_cons_self)
  rw [Engine.resume, returns_get_bind, hheads] at hr
  dsimp only at hr
  split at hr
  · simp only [returns_bind, returns_set, returns_pure] at hr
    obtain ⟨_, _, rfl, rfl, rfl⟩ := hr
    exact ⟨rfl, .of_single (inv.resume _ hsome hhead) rfl, rfl⟩
  · obtain ⟨rfl, rfl⟩ := returns_pure.1 hr
    rw [if_neg Bool.false_ne_true]

theorem attempt (ht : T c.position token) (hc : Fair P c) {again : Bool} {progress : Progress}
    (hr : Returns (e.attempt token again) c progress c') : Tried T P R token c' progress := by
  rw [Engine.attempt, returns_get_bind] at hr
  split at hr
  · next hnone => exact inv.advance ht hc (List.isEmpty_iff.1 hnone) hr
  · next hsome =>
    have hsome : c.pending ≠ [] := fun h => hsome (List.isEmpty_iff.2 h)
    simp only [returns_bind] at hr
    obtain ⟨resumed, d, hresume, hr⟩ := hr
    have hd := inv.resume_of_returns hc hsome hresume
    cases resumed with
    | true =>
      obtain ⟨hnone, hd, hposition⟩ := hd
      exact inv.advance (hposition ▸ ht) hd hnone hr
    | false =>
      obtain rfl : d = c := hd
      obtain ⟨rfl, rfl⟩ := returns_pure.1 hr
      obtain ⟨head, hheads⟩ := hc.single hsome
      refine ⟨?_, ht⟩
      rw [hheads]
      exact hc.heads head (hheads ▸ List.mem_cons_self)

end Invariant

/-! ## A token that no head takes -/

/-- What is done about a token that no head takes gives a head with the property `P₀` the property
`P`: a symbol is made up, what is on the stack is given up, or the token is put aside or ends the
parse. -/
structure Mending (e : Engine) (T : Nat → Token → Prop) (P₀ P : Nat → List Subtree → Head → Prop)
    (R : Subtree → Prop) : Prop where
  unpadded : ∀ {position : Nat} {token : Token}, T position token →
    T token.start { token with paddingStart := token.start }
  keeps : ∀ position token, e.KeepsIn token true (P₀ position [])
  path : ∀ {position : Nat} (h : Head) (path : Choices), P position [] h →
    P position [] { h with path }
  nonterminal : ∀ {position : Nat} {token : Token} {head : Head} {symbol : SymbolId}
    {next : StateId}, T position token → P₀ position [] head →
    e.table.goto head.state symbol = some next →
    P token.start [] (supplied head token symbol next)
  terminal : ∀ {position : Nat} {token : Token} (fragile : Bool) {head : Head} {symbol : SymbolId}
    {next : StateId}, T position token → P₀ position [] head →
    .shift next ∈ e.table.actions head.state symbol →
    P token.start [] (shifted (standIn token symbol) fragile (some symbol) (head, some next))
  pop : ∀ {position : Nat} {pending given : List Subtree} {head : Head} {below : Stack}
    {terminal : SymbolId} (lookaheadEnd : Nat), P₀ position pending head →
    popUntil e.table terminal head.stack [] = some (given, below) →
    P position [] (popped head (given ++ pending) below lookaheadEnd)
  skip : ∀ {position : Nat} {pending : List Subtree} {head : Head} {token : Token},
    T position token → P₀ position pending head →
    P token.stop (pending ++ [.leaf token false true head.state head.state]) head
  wrap : ∀ {position : Nat} {pending : List Subtree} {head : Head} (lookaheadEnd : Nat),
    P₀ position pending head → R (.error (head.stack.subtrees ++ pending) 0 lookaheadEnd false)

theorem Invariant.mending (inv : e.Invariant T P R) : e.Mending T P P R where
  unpadded := inv.unpadded
  keeps position token := (inv.keeps position token).keepsIn true
  path := (inv.keeps _ ⟨0, 0, 0, 0, 0⟩).path
  nonterminal := inv.nonterminal
  terminal := inv.terminal
  pop := inv.pop
  skip := inv.skip
  wrap := inv.wrap

namespace Mending

/-- What dealing with a token has led to. -/
def Passed (P : Nat → List Subtree → Head → Prop) (R : Subtree → Prop) (c : Configuration) :
    Option Subtree → Prop
  | some root => R root
  | none => Fair P c

variable {P₀ : Nat → List Subtree → Head → Prop} (mends : e.Mending T P₀ P R)
include mends

theorem insertTerminal {head : Head} (ht : T c.position token) (hhead : P₀ c.position [] head)
    (hnone : c.pending = []) {symbol : SymbolId} {result : Option Head}
    (hr : Returns (e.insertTerminal head token symbol) c result c') :
    c'.pending = [] ∧ (result = none → c'.position = c.position) ∧
      ∀ head', result = some head' → P token.start [] head' := by
  simp only [Engine.insertTerminal, returns_bind, returns_modify] at hr
  obtain ⟨_, _, rfl, phase, d, hphase, hr⟩ := hr
  have holds := (mends.keeps c.position _).reducePhase hphase fun h hh =>
    List.mem_singleton.1 hh ▸ hhead
  have quiet := (returns_reducePhase hphase).1
  have hnone' : d.pending = [] := quiet.pending.trans hnone
  split at hr
  · obtain ⟨rfl, rfl⟩ := returns_pure.1 hr
    refine ⟨hnone', fun _ => quiet.position, fun head' h => ?_⟩
    cases h
  · next best hbest =>
    simp only [returns_bind, returns_get, returns_pure] at hr
    obtain ⟨_, d', hshift, _, _, ⟨rfl, rfl⟩, rfl, rfl⟩ := hr
    obtain ⟨kept, quiet', hkept, origin⟩ := returns_shift (List.cons_ne_nil _ _) hshift
    obtain ⟨first, rest, rfl⟩ := List.exists_cons_of_ne_nil hkept
    refine ⟨quiet'.pending.trans hnone', fun h => ?_, fun head' h => ?_⟩
    · rw [quiet'.heads] at h
      cases h
    · have hmem : head' ∈ first :: rest := by
        rw [quiet'.heads] at h
        exact List.mem_of_head? h
      obtain ⟨x, hx, path, rfl⟩ := origin head' hmem
      obtain rfl := List.mem_singleton.1 hx
      obtain ⟨hshifts, htarget⟩ := List.mem_filter.1 (Head.mem_of_preferredBy hbest)
      obtain ⟨hbest, ha⟩ := holds.shifts _ hshifts
      obtain ⟨head, _ | next⟩ := x
      · cases htarget
      · exact mends.path _ path (mends.terminal _ ht hbest ha)

omit mends in
theorem returns_inserted {symbol : SymbolId} {token' : Token}
    (hr : Returns (inserted symbol token) c token' c') :
    token' = { token with paddingStart := token.start } ∧ c'.pending = c.pending ∧
      c'.position = token.start := by
  simp only [Engine.inserted, returns_bind, returns_record, returns_modify, returns_pure] at hr
  obtain ⟨_, _, rfl, _, _, rfl, rfl, rfl⟩ := hr
  exact ⟨rfl, rfl, rfl⟩

/-- What making up a symbol has led to. -/
def Inserted (T : Nat → Token → Prop) (P : Nat → List Subtree → Head → Prop) (c c' : Configuration) :
    Option (Head × Token) → Prop
  | some (head, token) => c'.pending = [] ∧ P c'.position [] head ∧ T c'.position token
  | none => c'.pending = [] ∧ c'.position = c.position

theorem inserted {head : Head} {symbol : SymbolId} (ht : T c.position token)
    (hhead : P token.start [] head) {d : Configuration} (hnone : d.pending = []) {token' : Token}
    (hr : Returns (Engine.inserted symbol token) d token' c') :
    Inserted T P c c' (some (head, token')) := by
  obtain ⟨rfl, hpending, hposition⟩ := returns_inserted hr
  refine ⟨hpending.trans hnone, ?_, ?_⟩
  · rwa [hposition]
  · rw [hposition]
    exact mends.unpadded ht

theorem insertFirst {head : Head} (ht : T c.position token) (hhead : P₀ c.position [] head)
    (hnone : c.pending = []) {symbols : List SymbolId} {result : Option (Head × Token)}
    (hr : Returns (e.insertFirst head token symbols) c result c') : Inserted T P c c' result := by
  induction symbols generalizing c with
  | nil =>
    obtain ⟨rfl, rfl⟩ := returns_pure.1 hr
    exact ⟨hnone, rfl⟩
  | cons symbol rest ih =>
    simp only [Engine.insertFirst, returns_bind] at hr
    obtain ⟨head', d, hterminal, hr⟩ := hr
    obtain ⟨hnone', hback, hhead'⟩ := mends.insertTerminal ht hhead hnone hterminal
    cases head' with
    | none =>
      have hposition := hback rfl
      have hd := ih (c := d) (hposition ▸ ht) (hposition ▸ hhead) hnone' hr
      unfold Inserted at hd ⊢
      rwa [hposition] at hd
    | some head' =>
      simp only [returns_bind, returns_pure] at hr
      obtain ⟨token', _, hinserted, rfl, rfl⟩ := hr
      exact mends.inserted ht (hhead' head' rfl) hnone' hinserted

theorem insert {head : Head} (ht : T c.position token) (hhead : P₀ c.position [] head)
    (hnone : c.pending = []) {result : Option (Head × Token)}
    (hr : Returns (e.insert head token) c result c') : Inserted T P c c' result := by
  unfold Engine.insert at hr
  split at hr
  · next symbol next hmissing =>
    simp only [returns_bind, returns_pure] at hr
    obtain ⟨token', _, hinserted, rfl, rfl⟩ := hr
    refine mends.inserted ht ?_ hnone hinserted
    obtain ⟨symbol', -, hfound⟩ := List.exists_of_findSome?_eq_some hmissing
    split at hfound
    · next hgoto =>
      split at hfound
      · cases hfound
        exact mends.nonterminal ht hhead hgoto
      · cases hfound
    · cases hfound
  · exact mends.insertFirst ht hhead hnone hr

theorem popToViable {head : Head} (hhead : P₀ c.position c.pending head) {result : Option Head}
    (hr : Returns (e.popToViable head token) c result c') :
    (result = none → c' = c) ∧ ∀ head', result = some head' →
      c'.pending = [] ∧ c'.position = c.position ∧ P c.position [] head' := by
  unfold Engine.popToViable at hr
  split at hr
  · obtain ⟨rfl, rfl⟩ := returns_pure.1 hr
    refine ⟨fun _ => rfl, fun head' h => ?_⟩
    cases h
  · next given below hpop =>
    rw [returns_get_bind] at hr
    simp only [returns_bind, returns_set, returns_record, returns_pure] at hr
    obtain ⟨_, _, rfl, _, _, rfl, rfl, rfl⟩ := hr
    refine ⟨fun h => absurd h (Option.some_ne_none _), ?_⟩
    rintro _ ⟨⟩
    exact ⟨rfl, rfl, mends.pop _ hhead hpop⟩

/-- What making a token welcome has led to. -/
def Repaired (T : Nat → Token → Prop) (P₀ P : Nat → List Subtree → Head → Prop) (head : Head)
    (token : Token) (c : Configuration) : Option Token → Prop
  | some token => Fair P c ∧ T c.position token
  | none => P₀ c.position c.pending head ∧ T c.position token

theorem repairByPopping (ht : T c.position token) {head : Head}
    (hhead : P₀ c.position c.pending head) {result : Option Token}
    (hr : Returns (e.repairByPopping head token) c result c') :
    Repaired T P₀ P head token c' result := by
  rw [Engine.repairByPopping, returns_get_bind] at hr
  split at hr
  · simp only [returns_bind] at hr
    obtain ⟨head', d, hpop, hr⟩ := hr
    obtain ⟨hback, hd⟩ := mends.popToViable hhead hpop
    cases head' with
    | none =>
      obtain rfl : d = c := hback rfl
      obtain ⟨rfl, rfl⟩ := returns_pure.1 hr
      exact ⟨hhead, ht⟩
    | some head' =>
      simp only [returns_bind, returns_modify, returns_pure] at hr
      obtain ⟨_, _, rfl, rfl, rfl⟩ := hr
      obtain ⟨hnone, hposition, hhead'⟩ := hd head' rfl
      rw [← hposition] at hhead' ht
      refine ⟨.of_single ?_ rfl, ht⟩
      rw [show ({ d with heads := [head'] } : Configuration).pending = [] from hnone]
      exact hhead'
  · obtain ⟨rfl, rfl⟩ := returns_pure.1 hr
    exact ⟨hhead, ht⟩

theorem repair (ht : T c.position token) {head : Head} (hhead : P₀ c.position c.pending head)
    {result : Option Token} (hr : Returns (e.repair head token) c result c') :
    Repaired T P₀ P head token c' result := by
  rw [Engine.repair, returns_get_bind] at hr
  split at hr
  · next htry =>
    have hnone : c.pending = [] := by
      simp only [Bool.and_eq_true, List.isEmpty_iff] at htry
      exact htry.1.1
    simp only [returns_bind] at hr
    obtain ⟨inserted, d, hinsert, hr⟩ := hr
    have hd := mends.insert ht (hnone ▸ hhead) hnone hinsert
    cases inserted with
    | none =>
      obtain ⟨hnone', hposition⟩ := hd
      refine mends.repairByPopping (hposition ▸ ht) ?_ hr
      rw [hposition, hnone', ← hnone]
      exact hhead
    | some inserted =>
      simp only [returns_bind, returns_modify, returns_pure] at hr
      obtain ⟨_, _, rfl, rfl, rfl⟩ := hr
      obtain ⟨hnone', hhead', ht'⟩ := hd
      refine ⟨.of_single ?_ rfl, ht'⟩
      rw [show ({ d with heads := [inserted.1] } : Configuration).pending = [] from hnone']
      exact hhead'
  · exact mends.repairByPopping ht hhead hr

theorem giveUp {head : Head} (hc : P₀ c.position c.pending head ∧ T c.position token)
    {result : Option Subtree} (hr : Returns (e.giveUp head token) c result c') :
    Passed P R c' result := by
  obtain ⟨hhead, ht⟩ := hc
  unfold Engine.giveUp at hr
  split at hr
  · simp only [returns_bind, returns_pure, Engine.wrap, returns_record, returns_get] at hr
    obtain ⟨root, _, ⟨_, _, rfl, _, _, ⟨rfl, rfl⟩, rfl, rfl⟩, rfl, rfl⟩ := hr
    exact mends.wrap _ hhead
  · simp only [returns_bind, Engine.skip, returns_record, returns_modify, returns_pure] at hr
    obtain ⟨_, _, ⟨_, _, rfl, rfl⟩, rfl, rfl⟩ := hr
    exact Fair.of_single (mends.skip ht hhead) rfl

end Mending

namespace Invariant

variable (inv : e.Invariant T P R)
include inv

/-! ## The whole parse -/

theorem consume {repairs : Nat} (ht : T c.position token) (hc : Fair P c) {result : Option Subtree}
    (hr : Returns (e.consume repairs token) c result c') : Mending.Passed P R c' result := by
  induction returns_consume hr with
  | finished hattempt => exact inv.attempt ht hc hattempt
  | taken hattempt => exact inv.attempt ht hc hattempt
  | @last token c d _ _ _ _ _ hattempt hspend hgiven =>
    obtain ⟨fuel, rfl⟩ := hspend.spend
    exact inv.mending.giveUp (c := { d with fuel }) (inv.attempt ht hc hattempt) hgiven
  | @beyond _ token c d _ _ _ _ _ _ hattempt hspend hrepair hgiven =>
    obtain ⟨fuel, rfl⟩ := hspend.spend
    obtain ⟨hhead, ht⟩ := inv.attempt ht hc hattempt
    exact inv.mending.giveUp (inv.mending.repair (c := { d with fuel }) ht hhead hrepair) hgiven
  | @repaired _ token token' c d _ _ _ _ _ _ hattempt hspend hrepair hr' _ ih =>
    obtain ⟨fuel, rfl⟩ := hspend.spend
    obtain ⟨hhead, ht⟩ := inv.attempt ht hc hattempt
    have hd := inv.mending.repair (c := { d with fuel }) ht hhead hrepair
    exact ih hd.2 hd.1 hr'

theorem nextToken (hc : Fair P c) (hr : Returns e.nextToken c token c') :
    Fair P c' ∧ T c'.position token := by
  rw [Engine.nextToken, returns_get_bind] at hr
  simp only [returns_bind, returns_set, returns_record, returns_pure] at hr
  obtain ⟨_, _, rfl, _, _, rfl, rfl, rfl⟩ := hr
  obtain ⟨head, rest, hheads⟩ := List.exists_cons_of_ne_nil hc.nonempty
  have hhead : P c.position c.pending head := hc.heads head (hheads ▸ List.mem_cons_self)
  exact ⟨⟨hc.heads, hc.nonempty, hc.single⟩, inv.token _ hhead⟩

theorem runFrom {pulls : Nat} (hc : Fair P c) {root : Subtree}
    (hr : Returns (e.runFrom pulls) c root c') : R root := by
  induction pulls generalizing c with
  | zero => exact absurd hr not_returns_throw
  | succ pulls ih =>
    simp only [Engine.runFrom, returns_bind] at hr
    obtain ⟨_, d, hpoll, token, d', hnext, result, _, hconsume, hr⟩ := hr
    obtain ⟨hd', ht⟩ := inv.nextToken (hc.poll hpoll) hnext
    have passed := inv.consume ht hd' hconsume
    cases result with
    | some root =>
      obtain ⟨rfl, rfl⟩ := returns_pure.1 hr
      exact passed
    | none => exact ih passed hr

/-- Every root has the property, if the property of heads holds at the beginning. -/
theorem run (hstart : P 0 [] {}) {fuel : Option Nat} {root : Subtree}
    (hr : Returns e.run { fuel } root c) : R root :=
  inv.runFrom (.of_single hstart rfl) hr

end Invariant

end IncrementalGlr.Engine
