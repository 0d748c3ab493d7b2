import IncrementalGlr.Proofs.Lr.Determined
import IncrementalGlr.Proofs.Parse.Best
import IncrementalGlr.Proofs.Parse.Errors
import IncrementalGlr.Proofs.Parse.Progress
import IncrementalGlr.Proofs.Parse.Single

/-!
Texts that are parsed without an error. Where the table leaves no choice and extras are part of no
production, the one head does what the machine does (`Uses.reduces`), and extras change nothing about
it. So a text that the machine accepts has a root without errors, unless the machine does more
reductions at some token than a phase may do, and then the root has one
(`Engine.errorCount_eq_zero_iff_of_runFrom`).
-/
namespace IncrementalGlr

/-- The symbols of the tokens before the end of the text, extras left out. -/
def ParseTable.sentence (t : ParseTable) (tokens : List Token) : List SymbolId :=
  Token.sentence (tokens.filter fun token => !t.isExtra token.symbol)

theorem ParseTable.sentence_cons_extra {t : ParseTable} {token : Token} (tokens : List Token)
    (h : t.isExtra token.symbol = true) : t.sentence (token :: tokens) = t.sentence tokens := by
  rw [sentence, List.filter_cons_of_neg (by simp [h]), ← sentence]

theorem ParseTable.sentence_cons {t : ParseTable} {token : Token} (tokens : List Token)
    (h : t.isExtra token.symbol = false) : t.sentence (token :: tokens) ++ [endSymbol] =
      token.symbol ::
        if token.symbol = endSymbol then [] else t.sentence tokens ++ [endSymbol] := by
  rw [sentence, List.filter_cons_of_pos (by simp [h]), Token.sentence_cons]
  rfl

/-! ## Roots without errors -/

namespace Subtree

/-- A subtree without errors has none below it. -/
theorem Genuine.errorCounts_children {table : ParseTable} {t : Subtree} (h : t.Genuine table)
    (hcount : t.errorCount = 0) : errorCounts t.children = 0 := by
  cases h with
  | token => rfl
  | placeholder => rfl
  | node _ _ _ _ _ _ _ errorCount _ =>
    exact Nat.le_zero.1 (Nat.le_trans (Nat.le_add_right _ _) (Nat.le_trans errorCount
      (Nat.le_of_eq hcount)))
  | error _ _ _ errorCount _ => exact absurd hcount (Nat.ne_of_gt errorCount)

/-- What counts as another symbol than its own is an error. -/
theorem Genuine.role_eq {table : ParseTable} {t : Subtree} (h : t.Genuine table)
    (hcount : t.errorCount = 0) : t.role = t.symbol := by
  cases h with
  | token _ _ missing _ _ => rw [role, Subtree.info, missing, Option.getD_none, Subtree.symbol, Subtree.info]
  | placeholder _ _ _ _ errorCount => exact absurd hcount (Nat.ne_of_gt errorCount)
  | node _ _ _ _ missing _ _ _ _ => rw [role, Subtree.info, missing, Option.getD_none, Subtree.symbol, Subtree.info]
  | error _ _ _ errorCount _ => exact absurd hcount (Nat.ne_of_gt errorCount)

end Subtree

open Subtree

namespace Stack

/-- Where one thing counts, the subtrees are split around it. -/
theorem exists_splitMain {ts : List Subtree} {x : SymbolId} (h : roles ts = [x]) :
    ∃ leading main trailing, Engine.splitMain ts = some (leading, main, trailing) ∧
      main.role = x := by
  have whole : ts = ts.takeWhile Subtree.extra ++ ts.dropWhile Subtree.extra :=
    List.takeWhile_append_dropWhile.symm
  have leading : ∀ t ∈ ts.takeWhile Subtree.extra, t.extra = true :=
    List.all_eq_true.1 List.all_takeWhile
  rw [whole, roles_append, roles_of_extras leading, List.nil_append] at h
  unfold Engine.splitMain
  have first := List.head?_dropWhile_not Subtree.extra ts
  cases hdrop : ts.dropWhile Subtree.extra with
  | nil =>
    rw [hdrop] at h
    cases h
  | cons main trailing =>
    rw [hdrop] at h first
    have hmain : main.extra = false := by simpa using first
    rw [roles, List.filter_cons_of_pos (by simp [hmain]), List.map_cons] at h
    obtain ⟨hrole, hnone⟩ := List.cons.inj h
    have extras : trailing.all Subtree.extra = true := List.all_eq_true.2 fun t ht => by
      have := List.filter_eq_nil_iff.1 (List.map_eq_nil_iff.1 hnone) t ht
      simpa using this
    dsimp only
    rw [if_pos extras]
    exact ⟨_, _, _, rfl, hrole⟩

/-- The root over a stack without errors has none, if it is no error node. -/
theorem Guided.errorCount_rootOf {t : ParseTable} {On : List StateId → List SymbolId → Prop}
    {s : Stack} (h : s.Guided t On) {x : SymbolId} (hsymbols : s.symbols = [x])
    (hx : x ≠ errorSymbol) (hnone : s.errors = 0) (lookaheadEnd : Nat) :
    (Engine.rootOf s.subtrees lookaheadEnd).errorCount = 0 := by
  have hroles : roles s.subtrees = [x] := by
    rw [subtrees, roles_reverse, ← symbols_eq_roles, hsymbols]
    rfl
  obtain ⟨leading, main, trailing, hsplit, hrole⟩ := exists_splitMain hroles
  obtain ⟨whole, -⟩ := of_splitMain hsplit
  rw [errors, whole, errorCounts_append, errorCounts] at hnone
  have hgenuine : main.Genuine t := by
    have hmain : main ∈ s.subtrees := whole ▸ List.mem_append_right _ List.mem_cons_self
    obtain ⟨e, he, rfl⟩ := List.mem_map.1 (List.mem_reverse.1 hmain)
    exact h.genuine e he
  have hcount : main.errorCount = 0 := by omega
  rw [Engine.rootOf, hsplit]
  dsimp only
  unfold Subtree.withExtras
  split
  · exact hcount
  · show errorCounts (leading ++ main.children ++ trailing) +
      (if main.symbol = errorSymbol then 1 else 0) = 0
    rw [if_neg (hgenuine.role_eq hcount ▸ hrole ▸ hx), errorCounts_append, errorCounts_append,
      hgenuine.errorCounts_children hcount]
    omega

end Stack

namespace Engine

open Parsing

/-- The engine parses from scratch, its table leaves no choice, and there is nothing to be done at
extras but to take them. -/
structure Determined (e : Engine) (g : FlatGrammar) (a : Automaton) : Prop extends e.Uses g a where
  determined : (ActionTable.ofAutomaton g a).Determined
  closing : e.table.Closing
  ends : e.table.Ends
  apart : e.lexer.table.EndApart
  fresh : e.reuse = none
  start : g.terminalCount ≤ g.start
  error : ¬ g.IsNonterminal errorSymbol
  extra : ∀ s, e.table.isExtra s = true →
    s < g.terminalCount ∧ ∀ q, (ActionTable.ofAutomaton g a).actionsAt q s = []

variable {e : Engine} {token : Token} {c c' : Configuration} {g : FlatGrammar} {a : Automaton}
  {h next : Head}

/-! ## The machine's way -/

section Uses

variable (uses : e.Uses g a)
include uses

theorem Uses.length_actions_le (hd : (ActionTable.ofAutomaton g a).Determined) (q : StateId)
    (x : SymbolId) : (e.table.actions q x).length ≤ 1 := by
  rcases List.eq_nil_or_concat (e.table.actions q x) with hnil | ⟨_, action, hconcat⟩
  · rw [hnil]
    exact Nat.zero_le 1
  · have hmem : action ∈ e.table.actions q x := by simp [hconcat]
    obtain ⟨hx, hq⟩ := ParseTable.lt_of_mem_actions uses.table hmem
    rw [ParseTable.actions_ofActions uses.table (fun _ => ParseTable.size_of_mem_actions) hq hx,
      FlatGrammar.storedActions]
    split
    · exact Nat.le_refl 1
    · exact hd q x

theorem Uses.mem_actions {q : StateId} {x : SymbolId} {action : Action}
    (ha : action ∈ (ActionTable.ofAutomaton g a).actionsAt q x) : action ∈ e.table.actions q x :=
  ParseTable.mem_of_mem_actionsAt uses.table (fun _ => ParseTable.size_of_mem_actions) ha

/-- A reduction of a head is a step of the machine. -/
theorem Uses.step (hh : e.OnPath a h) {id : ProductionId} {fragile : Bool}
    (ha : .reduce id ∈ e.table.actions h.state token.symbol)
    (hr : Reduces e token fragile id h next) (rest : List SymbolId) :
    Machine.Step g (.ofAutomaton g a) ⟨h.stack.states, token.symbol :: rest⟩
      ⟨next.stack.states, token.symbol :: rest⟩ := by
  obtain ⟨b⟩ := uses.built
  obtain ⟨p, stack, state, hp, hreduce, rfl⟩ := hr
  obtain ⟨p', q, rest', hp', -, hdrop, hgoto, hstates, -⟩ := hh.steady.reduce hreduce
  obtain rfl := Option.some.inj (hp.symm.trans hp')
  obtain ⟨below, hbelow⟩ : ∃ below, h.stack.states = h.state :: below := hh.steady.states_eq
  rw [ParseTable.production?, uses.table] at hp
  rw [ParseTable.goto_eq_gotoAt uses.table b uses.inRange
    (uses.inRange.lhs p (Array.mem_of_getElem? hp))] at hgoto
  rw [hbelow] at hdrop ⊢
  show Machine.Step g _ _ ⟨Stack.states stack, _⟩
  rw [hstates]
  refine .reduce (ParseTable.actionsAt_of_mem uses.table ha ?_) hp ?_ hgoto
  · intro h
    cases h
  rw [Production.rhs, List.length_map]
  exact hdrop

/-- As many reductions of a head are as many of the machine. -/
theorem Uses.reduces {n : Nat} (hr : Reduced e token n h next) (hh : e.OnPath a h)
    (rest : List SymbolId) :
    Machine.Reduces g (.ofAutomaton g a) n ⟨h.stack.states, token.symbol :: rest⟩
      ⟨next.stack.states, token.symbol :: rest⟩ := by
  induction hr with
  | refl => exact .refl _
  | step ha hr _ ih =>
    refine .step (uses.step hh ha hr rest) rfl (ih ?_)
    obtain ⟨p, stack, state, -, hreduce, rfl⟩ := hr
    exact hh.reduce uses.guides ha hreduce

end Uses

/-- The machine does something in the topmost state if it can come to where it accepts. -/
theorem exists_action_of_acceptsOn {table : ActionTable} {q : StateId} {stack : List StateId}
    {input : List SymbolId} (h : (⟨q :: stack, input⟩ : Machine).AcceptsOn g table) :
    ∃ t action, action ∈ table.actionsAt q t := by
  rcases h.accepting_or_step with ⟨q', stack', hm, haccept⟩ | ⟨m', hstep⟩
  · obtain ⟨rfl, -⟩ := List.cons.inj (Machine.mk.inj hm).1
    exact ⟨_, _, haccept⟩
  · cases hstep with
    | shift ha => exact ⟨_, _, ha⟩
    | reduce ha _ _ _ => exact ⟨_, _, ha⟩

/-- Nothing can be done with an extra but to take it. -/
theorem Determined.actions_extra (det : e.Determined g a) (hh : e.OnPath a h)
    {input : List SymbolId} {s : SymbolId} (hextra : e.table.isExtra s = true)
    (haccepts : (⟨h.stack.states, input⟩ : Machine).AcceptsOn g (.ofAutomaton g a)) :
    e.table.actions h.state s = [.shiftExtra] := by
  obtain ⟨below, hbelow⟩ : ∃ below, h.stack.states = h.state :: below := hh.steady.states_eq
  obtain ⟨hs, hnone⟩ := det.extra s hextra
  obtain ⟨_, _, hmem⟩ := exists_action_of_acceptsOn (hbelow ▸ haccepts)
  obtain ⟨state, hstate, -⟩ := Automaton.Built.exists_state_of_mem_actionsAt hmem
  have hq : h.state < (ActionTable.ofAutomaton g a).actions.size := by
    rw [ActionTable.ofAutomaton, Array.size_map]
    exact (Array.getElem?_eq_some_iff.1 hstate).1
  exact ParseTable.actions_of_extra det.table (fun _ => ParseTable.size_of_mem_actions) hq hs hextra
    (hnone h.state)

/-! ## Heads without errors -/

/-- A head whose stack has states that transitions join, and no errors. -/
structure Clean (e : Engine) (a : Automaton) (h : Head) : Prop where
  path : e.OnPath a h
  errors : h.stack.errors = 0

theorem Clean.counted (hh : e.Clean a h) : h.stack.Counted := by
  intro x hx
  have hmem : x.subtree ∈ h.stack.subtrees := List.mem_reverse.2 (List.mem_map_of_mem hx)
  exact counted_of_errorCount (Nat.le_zero.1 (hh.errors ▸ errorCount_le_of_mem hmem))

section Determined

variable (det : e.Determined g a)
include det

theorem Determined.keeps_clean (token : Token) : e.Keeps token (e.Clean a) where
  path _ _ h := ⟨h.path, h.errors⟩
  reduce := by
    rintro fragile id h next hh ha ⟨p, stack, state, hp, hreduce, rfl⟩
    refine ⟨hh.path.reduce det.guides ha hreduce, ?_⟩
    obtain ⟨p', hp', herrors⟩ := Stack.errors_of_reduce hreduce
    rw [ParseTable.production?, det.table] at hp'
    have hlhs : p'.lhs ≠ errorSymbol := fun h =>
      det.error (h ▸ det.inRange.lhs p' (Array.mem_of_getElem? hp'))
    rw [if_neg hlhs, hh.errors] at herrors
    exact herrors

theorem Determined.clean_shifted (htext : token.HasText) (hh : e.Clean a h)
    {target : Option StateId} (ha : taking target ∈ e.table.actions h.state token.symbol)
    (fragile : Bool) : e.Clean a (shifted token fragile none (h, target)) where
  path := guided_shifted det.guides htext hh.path ha fragile
  errors := (Stack.errors_push ..).trans hh.errors

theorem Determined.errorCount_rootOf (hh : e.Clean a h)
    (ha : .accept ∈ e.table.actions h.state token.symbol) (lookaheadEnd : Nat) :
    (rootOf h.stack.subtrees lookaheadEnd).errorCount = 0 := by
  obtain ⟨below, hbelow⟩ : ∃ below, h.stack.states = h.state :: below :=
    hh.path.steady.states_eq
  have hsymbols := det.guides.accept (hbelow ▸ hh.path.on) ha
  have hstart : e.table.data.startSymbol = g.start := by
    rw [det.table]
    rfl
  refine hh.path.errorCount_rootOf (hstart ▸ hsymbols) (fun h => ?_) hh.errors lookaheadEnd
  exact det.error (h ▸ ⟨det.start, det.inRange.start⟩)

/-! ## Whole parses -/

/-- The machine at the states of a head, with the rest of a text before it. -/
abbrev ahead (e : Engine) (h : Head) (tokens : List Token) : Machine :=
  ⟨h.stack.states, e.table.sentence tokens ++ [endSymbol]⟩

omit det in
theorem ahead_cons_extra (h : Head) (tokens : List Token)
    (hextra : e.table.isExtra token.symbol = true) :
    e.ahead h (token :: tokens) = e.ahead h tokens := by
  rw [ahead, ParseTable.sentence_cons_extra tokens hextra]

omit det in
theorem ahead_cons (h : Head) (tokens : List Token)
    (hextra : e.table.isExtra token.symbol = false) : e.ahead h (token :: tokens) =
      ⟨h.stack.states, token.symbol ::
        if token.symbol = endSymbol then [] else e.table.sentence tokens ++ [endSymbol]⟩ := by
  rw [ahead, ParseTable.sentence_cons tokens hextra]

/-- A token that is taken takes the machine on as well, or it is an extra and changes nothing. -/
theorem Determined.ahead_of_taken {n : Nat} {target : Option StateId} {tokens : List Token}
    (hh : e.Clean a h) (haccepts : (e.ahead h (token :: tokens)).AcceptsOn g (.ofAutomaton g a))
    (hn : n ≤ maxReductions) (hr : Reduced e token n h next)
    (ha : taking target ∈ e.table.actions next.state token.symbol) (fragile : Bool) :
    (e.ahead (shifted token fragile none (next, target)) tokens).AcceptsOn g (.ofAutomaton g a) ∧
      ((e.ahead h (token :: tokens)).Brisk g (.ofAutomaton g a) maxReductions ↔
        (e.ahead (shifted token fragile none (next, target)) tokens).Brisk g (.ofAutomaton g a)
          maxReductions) := by
  obtain ⟨below, hbelow⟩ : ∃ below, next.stack.states = next.state :: below :=
    ((det.keeps_clean token).reduced hr hh).path.steady.states_eq
  cases hextra : e.table.isExtra token.symbol with
  | true =>
    rw [ahead_cons_extra h tokens hextra] at haccepts ⊢
    have hactions := det.actions_extra hh.path hextra haccepts
    -- No reduction is done at an extra, and taking it leaves the states as they are.
    cases hr with
    | step hreduce _ _ =>
      rw [hactions] at hreduce
      cases List.mem_singleton.1 hreduce
    | refl =>
      rw [hactions] at ha
      obtain _ | r := target
      · have hstates : (shifted token fragile none (h, none)).stack.states = h.stack.states :=
          Stack.states_push_extra rfl
        rw [ahead, hstates]
        exact ⟨haccepts, .rfl⟩
      · cases List.mem_singleton.1 ha
  | false =>
    have hend : token.symbol ≠ endSymbol := fun h => det.ends.shift target (h ▸ ha)
    rw [ahead_cons h tokens hextra, if_neg hend] at haccepts ⊢
    have reduces := det.reduces hr hh.path (e.table.sentence tokens ++ [endSymbol])
    obtain _ | r := target
    · rw [det.guides.extra ha] at hextra
      cases hextra
    have hshift : Machine.Step g (.ofAutomaton g a)
        ⟨next.stack.states, token.symbol :: (e.table.sentence tokens ++ [endSymbol])⟩
        (e.ahead (shifted token fragile none (next, some r)) tokens) := by
      have hstates : (shifted token fragile none (next, some r)).stack.states =
          r :: next.stack.states := Stack.states_push rfl
      rw [ahead, hstates, hbelow]
      exact .shift (ParseTable.actionsAt_of_mem det.table ha nofun)
    refine ⟨haccepts.of_steps det.determined (reduces.steps.tail hshift), fun h =>
      h.of_steps (reduces.steps.tail hshift), fun h => ?_⟩
    refine reduces.brisk det.determined (fun m hm => ?_) hn fun m hm => ?_
    · rw [← hshift.unique det.determined hm]
      exact fun h => List.cons_ne_self _ _ h.symm
    · rw [← hshift.unique det.determined hm]
      exact h

/-- Where the text is accepted, no more reductions follow. -/
theorem Determined.brisk_of_accepted {n : Nat} {tokens : List Token} (hh : e.Clean a h)
    (hn : n ≤ maxReductions) (hr : Reduced e token n h next)
    (ha : .accept ∈ e.table.actions next.state token.symbol) :
    (e.ahead h (token :: tokens)).Brisk g (.ofAutomaton g a) maxReductions := by
  obtain ⟨below, hbelow⟩ : ∃ below, next.stack.states = next.state :: below :=
    ((det.keeps_clean token).reduced hr hh).path.steady.states_eq
  have hend := det.closing.accept ha
  have decided := ParseTable.actionsAt_of_mem det.table ha nofun
  have hextra : e.table.isExtra token.symbol = false := by
    refine Bool.eq_false_iff.2 fun hextra => ?_
    rw [(det.extra _ hextra).2] at decided
    cases decided
  rw [ahead_cons h tokens hextra, if_pos hend]
  have accepting : (⟨next.stack.states, [token.symbol]⟩ : Machine).Accepting
      (.ofAutomaton g a) := ⟨_, below, by rw [hbelow, hend], hend ▸ decided⟩
  exact (det.reduces hr hh.path []).brisk det.determined
    (fun _ hm => absurd hm (accepting.not_step det.determined)) hn
    fun _ hm => absurd hm (accepting.not_step det.determined)

/-- A machine that can go on where a head cannot has more reductions to do than a phase may. -/
theorem Determined.not_brisk_of_stuck {n : Nat} {tokens : List Token} (hh : e.Clean a h)
    (haccepts : (e.ahead h (token :: tokens)).AcceptsOn g (.ofAutomaton g a))
    (hr : Reduced e token n h next) (hdead : Settled e token n next [] []) :
    ¬ (e.ahead h (token :: tokens)).Brisk g (.ofAutomaton g a) maxReductions := by
  have hnext := ((det.keeps_clean token).reduced hr hh).path
  obtain ⟨below, hbelow⟩ : ∃ below, next.stack.states = next.state :: below := hnext.steady.states_eq
  cases hdead with
  | dead hreduce hstop =>
  have only {action : Action} (ha : action ∈ (ActionTable.ofAutomaton g a).actionsAt next.state
      token.symbol) : ∃ id, action = .reduce id := hreduce _ (det.mem_actions ha)
  -- An extra is taken in every state where the machine goes on, so only a token of the sentence is stuck.
  cases hextra : e.table.isExtra token.symbol with
  | true =>
    rw [ahead_cons_extra h tokens hextra] at haccepts
    have hactions := det.actions_extra hh.path hextra haccepts
    cases hr with
    | step hreduce _ _ =>
      rw [hactions] at hreduce
      cases List.mem_singleton.1 hreduce
    | refl =>
      obtain ⟨id, hid⟩ := hreduce .shiftExtra (hactions ▸ List.mem_singleton_self _)
      cases hid
  | false =>
    rw [ahead_cons h tokens hextra] at haccepts ⊢
    generalize (if token.symbol = endSymbol then [] else e.table.sentence tokens ++ [endSymbol]) =
      rest at haccepts ⊢
    have reduces := det.reduces hr hh.path rest
    intro hbrisk
    rcases (haccepts.of_steps det.determined reduces.steps).accepting_or_step with
      ⟨q, stack, hm, haccept⟩ | ⟨m, hstep⟩
    · obtain ⟨hstates, hinput⟩ := Machine.mk.inj hm
      obtain ⟨rfl, -⟩ := List.cons.inj (hbelow.symm.trans hstates)
      obtain ⟨hend, -⟩ := List.cons.inj hinput
      obtain ⟨id, hid⟩ := only (hend ▸ haccept)
      cases hid
    · have further := hstep
      rw [hbelow] at further
      cases further with
      | shift ha =>
        obtain ⟨id, hid⟩ := only ha
        cases hid
      | reduce ha _ _ _ =>
        -- Either the head has done as many reductions as it may, and the machine does one more, or the
        -- reduction cannot be done, but on a path each can.
        rcases hstop with rfl | hnone
        · have := hbrisk _ .refl _ _ (reduces.trans (.step hstep rfl (.refl _)))
          exact absurd this (Nat.not_succ_le_self _)
        · obtain ⟨fragile, hnone⟩ := hnone _ (det.mem_actions ha)
          obtain ⟨made, hmade⟩ := det.exists_reduces hnext fragile (det.mem_actions ha)
          exact hnone made hmade

/-- The root of a text that the machine accepts has no errors, unless there are too many reductions
at some token. -/
theorem Determined.errorCount_eq_zero_iff_of_runFrom {pulls : Nat} {root : Subtree}
    (hr : Returns (e.runFrom pulls) c root c') {tokens : List Token}
    (hpulled : c'.pulled = c.pulled ++ tokens) (hnone : c.pending = []) (hheads : c.heads = [h])
    (hh : e.Clean a h) (haccepts : (e.ahead h tokens).AcceptsOn g (.ofAutomaton g a)) :
    root.errorCount = 0 ↔ (e.ahead h tokens).Brisk g (.ofAutomaton g a) maxReductions := by
  -- By induction on the tokens that may still be pulled, with one head that has no errors.
  induction pulls generalizing c h tokens with
  | zero => exact absurd hr not_returns_throw
  | succ count ih =>
    obtain ⟨token, c₂, result, c₃, tokens, pulls, hconsume, -, hpulled', hr⟩ :=
      exists_pulls_of_runFrom hr
    obtain rfl := List.append_cancel_left (hpulled.symm.trans hpulled')
    have hnone₂ : c₂.pending = [] := pulls.pending.trans hnone
    have hheads₂ : c₂.heads = [h] := pulls.heads.trans hheads
    obtain ⟨again, progress, d, hattempt, outcome⟩ := exists_attempt_of_consume det.fresh
      (.of_single (P := fun _ _ h => h.stack.Counted) hh.counted hheads₂) hconsume
    have hadvance : Returns (e.advance token again) c₂ progress d := by
      rw [Engine.attempt, returns_get_bind, hnone₂] at hattempt
      exact hattempt
    have tried := attempted (det.length_actions_le det.determined) det.fresh hheads₂ hadvance
    cases attempted (det.length_actions_le det.determined) det.fresh hheads₂ hadvance with
    | @taken n next target fragile hn hreduced ha hheads' hpending =>
      obtain ⟨rfl, rfl⟩ := outcome
      obtain ⟨haccepts', hbrisk⟩ := det.ahead_of_taken hh haccepts hn hreduced ha fragile
      have hclean := det.clean_shifted pulls.hasText
        ((det.keeps_clean token).reduced hreduced hh) ha fragile
      rw [hbrisk]
      refine ih (h := { shifted token fragile none (next, target) with path := [] }) hr ?_
        (hpending.trans hnone₂) hheads' ⟨hclean.path, hclean.errors⟩ haccepts'
      rw [hpulled', pulled_of_advance det.fresh hadvance, pulls.pulled, List.append_assoc,
        List.singleton_append]
    | accepted hn hreduced ha =>
      obtain ⟨rfl, rfl⟩ := outcome
      obtain ⟨rfl, rfl⟩ := hr
      exact iff_of_true (det.errorCount_rootOf ((det.keeps_clean token).reduced hreduced hh) ha _)
        (det.brisk_of_accepted hh hn hreduced ha)
    | stuck head hreduced hdead =>
      refine iff_of_false (Nat.ne_of_gt ?_) (det.not_brisk_of_stuck hh haccepts hreduced hdead)
      cases result with
      | some root' =>
        obtain ⟨rfl, rfl⟩ := hr
        exact outcome
      | none => exact (faulty det.fresh).runFrom outcome hr

end Determined

end Engine

end IncrementalGlr
