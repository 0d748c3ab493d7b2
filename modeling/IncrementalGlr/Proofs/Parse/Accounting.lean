import IncrementalGlr.Proofs.Parse.Driving
import IncrementalGlr.Proofs.Parse.Errors
import IncrementalGlr.Proofs.Parse.Known

/-!
Accounts of errors. A fault is an error node over something, or what stands for a symbol that is
missing; a token that was put aside is none by itself. Every subtree counts the faults in it
(`Tallied.errorCount_eq`), and a head counts the errors on its stack (`Head.Tallied`): every step of an
engine keeps both (`Engine.tallied`), if no symbol of the table has the number of errors. A root counts
itself besides when it is an error, even one over nothing (`Subtree.TalliedRoot`).
-/
namespace IncrementalGlr

namespace Subtree

/-- An error node over something, or what stands for a symbol that is missing. -/
def isFault (t : Subtree) : Bool :=
  t.isError && (!t.children.isEmpty || t.info.missing.isSome)

theorem isError_of_isFault {t : Subtree} (h : t.isFault = true) : t.isError = true :=
  (Bool.and_eq_true_iff.1 h).1

/-- All that is in a subtree, itself included, has the errors of its children, and one more if it is
a fault. -/
structure Tallied (t : Subtree) : Prop where
  parts : ∀ x ∈ t.parts,
    x.errorCount = errorCounts x.children + if x.isFault then 1 else 0

/-- A root over tallied children has their errors, and one more if it is an error. -/
structure TalliedRoot (t : Subtree) : Prop where
  children : ∀ c ∈ t.children, c.Tallied
  errorCount : t.errorCount = errorCounts t.children + if t.isError then 1 else 0

variable {t : Subtree} {children : List Subtree}

theorem tallied_iff : t.Tallied ↔
    t.errorCount = errorCounts t.children + (if t.isFault then 1 else 0) ∧
      ∀ c ∈ t.children, c.Tallied := by
  constructor
  · rintro ⟨h⟩
    obtain ⟨hcount, hchildren⟩ := forall_parts.1 h
    exact ⟨hcount, fun c hc => ⟨hchildren c hc⟩⟩
  · rintro ⟨hcount, hchildren⟩
    exact ⟨forall_parts.2 ⟨hcount, fun c hc => (hchildren c hc).parts⟩⟩

mutual

/-- The errors of a tallied subtree are the faults in it. -/
theorem Tallied.errorCount_eq : (t : Subtree) → t.Tallied → t.errorCount = t.parts.countP isFault
  | mk info children, h => by
    obtain ⟨hcount, hchildren⟩ := tallied_iff.1 h
    rw [hcount, parts, List.countP_cons, ← errorCounts_eq children hchildren]
    rfl

theorem errorCounts_eq : (ts : List Subtree) → (∀ t ∈ ts, t.Tallied) →
    errorCounts ts = (partsOf ts).countP isFault
  | [], _ => rfl
  | t :: rest, h => by
    obtain ⟨ht, hrest⟩ := List.forall_mem_cons.1 h
    rw [errorCounts, partsOf, List.countP_append, Tallied.errorCount_eq t ht,
      errorCounts_eq rest hrest]

end

/-! ## Building -/

theorem tallied_leaf (token : Token) (extra fragile : Bool) (q r : StateId) :
    (leaf token extra fragile q r).Tallied :=
  tallied_iff.2 ⟨by simp [leaf, isFault, errorCount, errorCounts, info, Subtree.children], nofun⟩

theorem tallied_missing (symbol : SymbolId) (token : Token) : (missing symbol token).Tallied :=
  tallied_iff.2 ⟨rfl, nofun⟩

theorem tallied_node {symbol : SymbolId} (h : symbol = errorSymbol → children ≠ [])
    (hall : ∀ c ∈ children, c.Tallied) (production : Option ProductionId) (start lookaheadEnd : Nat)
    (dynamicPrecedence : Int) (fragile : Bool) (parseState : Option StateId) :
    (node symbol production children start lookaheadEnd dynamicPrecedence fragile
      parseState).Tallied := by
  refine tallied_iff.2 ⟨?_, hall⟩
  have fault : (node symbol production children start lookaheadEnd dynamicPrecedence fragile
      parseState).isFault = decide (symbol = errorSymbol) := by
    by_cases herror : symbol = errorSymbol
    · simp [isFault, isError, Subtree.symbol, node, info, Subtree.children, herror, h herror]
    · simp [isFault, isError, Subtree.symbol, node, info, herror]
  rw [fault]
  simp [errorCount, node, info, Subtree.children]

theorem tallied_error (h : children ≠ []) (hall : ∀ c ∈ children, c.Tallied)
    (start lookaheadEnd : Nat) (extra : Bool) :
    (error children start lookaheadEnd extra).Tallied := by
  have fault : (error children start lookaheadEnd extra).isFault = true := by
    simp [isFault, isError, Subtree.symbol, error, node, info, Subtree.children, h]
  refine tallied_iff.2 ⟨?_, hall⟩
  rw [fault]
  rfl

theorem TalliedRoot.of_error (hall : ∀ c ∈ children, c.Tallied) (start lookaheadEnd : Nat) :
    (error children start lookaheadEnd false).TalliedRoot := ⟨hall, rfl⟩

/-- Every error on a stack is a fault. -/
def Proper (t : Subtree) : Prop := t.Tallied ∧ (t.isError = true → t.isFault = true)

theorem Proper.root (h : t.Proper) : t.TalliedRoot := by
  obtain ⟨hcount, hchildren⟩ := tallied_iff.1 h.1
  refine ⟨hchildren, hcount.trans ?_⟩
  cases herror : t.isError with
  | true => rw [h.2 herror]
  | false => rw [isFault, herror, Bool.false_and]

theorem proper_of_children (h : t.Tallied) (hne : t.children ≠ []) : t.Proper := by
  refine ⟨h, fun herror => ?_⟩
  simp [isFault, herror, hne]

theorem proper_of_symbol (h : t.Tallied) (hsymbol : t.symbol ≠ errorSymbol) : t.Proper :=
  ⟨h, fun herror => absurd (beq_iff_eq.1 herror) hsymbol⟩

/-- With extras around it a subtree has the errors of all of them, and its own if it is an error. -/
theorem Proper.withExtras (h : t.Proper) {leading trailing : List Subtree}
    (hleading : ∀ c ∈ leading, c.Tallied) (htrailing : ∀ c ∈ trailing, c.Tallied)
    (start lookaheadEnd : Nat) : (t.withExtras leading trailing start lookaheadEnd).TalliedRoot := by
  unfold Subtree.withExtras
  split
  · exact h.root
  · refine ⟨?_, ?_⟩
    · have own := (tallied_iff.1 h.1).2
      exact List.forall_mem_append.2 ⟨List.forall_mem_append.2 ⟨hleading, own⟩, htrailing⟩
    · show _ + (if t.symbol = errorSymbol then 1 else 0) =
        _ + (if (t.symbol == errorSymbol) = true then 1 else 0)
      simp only [beq_iff_eq]
      rfl

theorem talliedRoot_rootOf (hall : ∀ c ∈ children, c.Proper) (lookaheadEnd : Nat) :
    (Engine.rootOf children lookaheadEnd).TalliedRoot := by
  unfold Engine.rootOf
  split
  · next leading main trailing hsplit =>
    obtain ⟨whole, -⟩ := Stack.of_splitMain hsplit
    rw [whole, List.forall_mem_append, List.forall_mem_cons] at hall
    obtain ⟨hleading, hmain, htrailing⟩ := hall
    exact hmain.withExtras (fun c hc => (hleading c hc).1) (fun c hc => (htrailing c hc).1) ..
  · exact .of_error (fun c hc => (hall c hc).1) ..

/-- All that is below a tallied root is tallied. -/
theorem TalliedRoot.of_mem_partsOf {root : Subtree} (h : root.TalliedRoot)
    (ht : t ∈ partsOf root.children) : t.Tallied := by
  obtain ⟨c, hc, hpart⟩ := mem_partsOf.1 ht
  exact ⟨fun x hx => (h.children c hc).parts x (mem_parts_trans hx c hpart)⟩

theorem errorCounts_of_eq_zero (h : ∀ c ∈ children, c.errorCount = 0) : errorCounts children = 0 := by
  induction children with
  | nil => rfl
  | cons c rest ih =>
    obtain ⟨hc, hrest⟩ := List.forall_mem_cons.1 h
    rw [errorCounts, hc, ih hrest]

end Subtree

open Subtree

theorem Stack.ne_nil_of_popUntil {t : ParseTable} {s below : Stack} {terminal : SymbolId}
    {popped given : List Subtree}
    (h : Engine.popUntil t terminal s popped = some (given, below)) : given ≠ [] := by
  induction s generalizing popped with
  | nil => cases h
  | cons e rest ih =>
    rw [Engine.popUntil] at h
    split at h
    · cases h
      exact List.cons_ne_nil _ _
    · exact ih h

/-! ## Heads -/

/-- A head counts the errors on its stack, which are all faults. Tokens put aside are not counted. -/
structure Head.Tallied (pending : List Subtree) (h : Head) : Prop where
  stack : ∀ x ∈ h.stack, x.subtree.Proper
  errorCost : h.errorCost = h.stack.errors
  pending : ∀ x ∈ pending, x.Tallied ∧ x.errorCount = 0

namespace Head.Tallied

variable {h : Head} {pending : List Subtree}

theorem subtrees (hh : h.Tallied pending) : ∀ x ∈ h.stack.subtrees, x.Proper := by
  intro x hx
  obtain ⟨e, he, rfl⟩ := List.mem_map.1 (List.mem_reverse.1 hx)
  exact hh.stack e he

/-- A head that puts something on a stack counts the errors of both. -/
theorem push {below : Stack} (hbelow : ∀ x ∈ below, x.subtree.Proper) {t : Subtree} (ht : t.Proper)
    {q : StateId} {head : Head} (hstack : head.stack = below.push q t)
    (hcost : head.errorCost = below.errors + t.errorCount) : head.Tallied [] where
  stack := hstack ▸ List.forall_mem_cons.2 ⟨ht, hbelow⟩
  errorCost := by rw [hcost, hstack, Stack.errors_push]
  pending := nofun

/-- A symbol that is made up is one error more. -/
theorem push_missing (hh : h.Tallied pending) (symbol : SymbolId) (token : Token) {q : StateId}
    {head : Head} (hstack : head.stack = h.stack.push q (.missing symbol token))
    (hcost : head.errorCost = h.errorCost + 1) : head.Tallied [] :=
  push hh.stack ⟨tallied_missing symbol token, fun _ => rfl⟩ hstack (hcost.trans (by rw [hh.errorCost]; rfl))

end Head.Tallied

namespace Engine

open Parsing

variable {e : Engine}

/-- No step of an engine miscounts, if no symbol has the number of errors. -/
theorem tallied (hsymbols : e.table.symbolCount ≤ errorSymbol)
    (hreuse : ∀ r, e.reuse = some r → r.root.TalliedRoot) :
    e.Invariant (fun _ _ => True) (fun _ => Head.Tallied) TalliedRoot where
  token _ _ := trivial
  unpadded _ := trivial
  keeps _ token := {
    path := fun _ _ h => ⟨h.stack, h.errorCost, h.pending⟩
    reduce := by
      rintro fragile id h next hh - ⟨p, stack, state, hp, hreduce, rfl⟩
      have hlhs : p.lhs ≠ errorSymbol :=
        Nat.ne_of_lt (Nat.lt_of_lt_of_le (ParseTable.lt_of_production hp).1 hsymbols)
      refine ⟨?_, ?_, hh.pending⟩
      -- Only the node is new, and it is no error: its symbol is one of the table.
      · refine Stack.forall_of_reduce hreduce hh.stack ?_
        intro p' extras top below hp' hstack _ _
        obtain rfl := Option.some.inj (hp.symm.trans hp')
        refine proper_of_symbol (tallied_node (fun herror => absurd herror hlhs) ?_ ..) hlhs
        intro c hc
        obtain ⟨x, hx, rfl⟩ := List.mem_map.1 (List.mem_reverse.1 hc)
        exact (hh.stack x (hstack ▸ List.mem_append_right _ (List.mem_append_left _ hx))).1
      · obtain ⟨p', hp', herrors⟩ := Stack.errors_of_reduce hreduce
        obtain rfl := Option.some.inj (hp.symm.trans hp')
        rw [if_neg hlhs, Nat.add_zero] at herrors
        exact hh.errorCost.trans herrors.symm }
  shift {_ token} fragile {head target} _ hh ha := by
    have hname : token.symbol ≠ errorSymbol :=
      have terminal := of_decide_eq_true (ParseTable.isTerminal_of_mem_actions ha)
      Nat.ne_of_lt (Nat.lt_of_lt_of_le terminal (Nat.le_trans ParseTable.terminalCount_le hsymbols))
    exact .push hh.stack (proper_of_symbol (tallied_leaf ..) hname) rfl hh.errorCost
  reuse hr hh hchoice := by
    obtain ⟨hmem, hreusable, -⟩ := of_chooseReuse hchoice
    simp only [ReuseCursor.reusable, Bool.and_eq_true, beq_iff_eq, Bool.not_eq_true',
      List.isEmpty_eq_false_iff] at hreusable
    obtain ⟨⟨⟨⟨⟨⟨⟨⟨⟨hcount, -⟩, -⟩, hne⟩, -⟩, -⟩, -⟩, -⟩, -⟩, -⟩ := hreusable
    have old := (hreuse _ hr).of_mem_partsOf (mem_partsOf_of_mem_candidates hmem)
    exact .push hh.stack (proper_of_children old hne) rfl (by rw [hcount]; exact hh.errorCost)
  nonterminal {_ token _ symbol _} _ hh _ := hh.push_missing symbol token rfl rfl
  terminal {_ token} _ {_ symbol _} _ hh _ := hh.push_missing symbol (standIn token symbol) rfl rfl
  resume lookaheadEnd hne hh := by
    have none := errorCounts_of_eq_zero fun x hx => (hh.pending x hx).2
    refine .push hh.stack (proper_of_children (tallied_error hne ?_ ..) hne) rfl ?_
    · exact fun x hx => (hh.pending x hx).1
    · rw [errorCount_error, none, ← hh.errorCost]
      rfl
  -- What is given up keeps its errors, and the error node over it is one more.
  pop {_ pending given head below terminal} lookaheadEnd hh hpop := by
    have none := errorCounts_of_eq_zero fun x hx => (hh.pending x hx).2
    have hne := Stack.ne_nil_of_popUntil hpop
    obtain ⟨top, hstack, rfl⟩ := Stack.exists_of_popUntil hpop
    rw [List.append_nil] at hne ⊢
    have above : ∀ x ∈ top, x.subtree.Proper := fun x hx =>
      hh.stack x (hstack ▸ List.mem_append_left _ hx)
    refine .push (fun x hx => hh.stack x (hstack ▸ List.mem_append_right _ hx))
      (proper_of_children (tallied_error ?_ (List.forall_mem_append.2 ⟨?_, ?_⟩) ..) ?_) rfl ?_
    · exact fun h => hne (List.append_eq_nil_iff.1 h).1
    · intro x hx
      obtain ⟨y, hy, rfl⟩ := List.mem_map.1 (List.mem_reverse.1 hx)
      exact (above y hy).1
    · exact fun x hx => (hh.pending x hx).1
    · exact fun h => hne (List.append_eq_nil_iff.1 h).1
    · rw [errorCount_error, errorCounts_append, none]
      show head.errorCost + 1 = _
      rw [hh.errorCost, hstack, Stack.errors_append]
      rfl
  skip {_ pending head token} _ hh := by
    refine ⟨hh.stack, hh.errorCost, List.forall_mem_append.2 ⟨hh.pending, fun x hx => ?_⟩⟩
    rw [List.mem_singleton.1 hx]
    exact ⟨tallied_leaf .., rfl⟩
  accept hh _ := talliedRoot_rootOf hh.subtrees _
  wrap _ hh := .of_error (List.forall_mem_append.2
    ⟨fun x hx => (hh.subtrees x hx).1, fun x hx => (hh.pending x hx).1⟩) ..

/-- The heads of a parse: those that wait for a token, those that a token or what is made up before it
leads to, and those that are left after the reductions at a token. -/
inductive Live (e : Engine) (fuel : Option Nat) : Head → Prop where
  | waiting {c : Configuration} {h : Head} (hc : e.Between fuel c) (hh : h ∈ c.heads) : Live e fuel h
  | trying {repairs : Nat} {token : Token} {c : Configuration} {h : Head}
      (hc : e.Tries fuel repairs token c) (hh : h ∈ c.heads) : Live e fuel h
  | facing {token : Token} {c : Configuration} {h : Head} (hc : e.Faces fuel token c)
      (hh : h ∈ c.heads) : Live e fuel h
  | reduced {token : Token} {recovering : Bool} {c c' : Configuration} {phase : Phase} {h : Head}
      (hc : e.Faces fuel token c) (hphase : Returns (e.reducePhase token recovering) c phase c')
      (hh : h ∈ phase.shifts.map Prod.fst ++ phase.accepts ++ phase.dead) : Live e fuel h

/-- A property that every step keeps holds of all heads of a parse. -/
theorem Live.holds {T : Nat → Token → Prop} {P : Nat → List Subtree → Head → Prop}
    {R : Subtree → Prop} (inv : e.Invariant T P R) (hstart : P 0 [] {}) {fuel : Option Nat} {h : Head}
    (hlive : e.Live fuel h) : ∃ position pending, P position pending h := by
  cases hlive with
  | waiting hc hh => exact ⟨_, _, (hc.fair inv hstart).heads h hh⟩
  | trying hc hh => exact ⟨_, _, (hc.fair inv hstart).1.heads h hh⟩
  | facing hc hh => exact ⟨_, _, (hc.holds inv hstart).2 h hh⟩
  | @reduced _ _ c _ _ _ hc hphase hh =>
    have holds := (inv.keeps c.position _).reducePhase hphase (hc.holds inv hstart).2
    refine ⟨c.position, [], ?_⟩
    rcases List.mem_append.1 hh with hh | hh
    · rcases List.mem_append.1 hh with hh | hh
      · obtain ⟨x, hx, rfl⟩ := List.mem_map.1 hh
        exact (holds.shifts x hx).1
      · exact (holds.accepts h hh).1
    · exact holds.dead h hh

/-- In every parse the heads count the errors on their stacks. -/
theorem Live.errorCost_eq {fuel : Option Nat} {h : Head} (hlive : e.Live fuel h)
    (hsymbols : e.table.symbolCount ≤ errorSymbol)
    (hreuse : ∀ r, e.reuse = some r → r.root.TalliedRoot) :
    h.errorCost = errorCounts h.stack.subtrees :=
  have ⟨_, _, hh⟩ := hlive.holds (tallied hsymbols hreuse) ⟨nofun, rfl, nofun⟩
  hh.errorCost

/-- Every root is tallied, if the old root is. -/
theorem talliedRoot_of_run (hsymbols : e.table.symbolCount ≤ errorSymbol)
    (hreuse : ∀ r, e.reuse = some r → r.root.TalliedRoot) {fuel : Option Nat} {root : Subtree}
    {c : Configuration} (hr : Returns e.run { fuel } root c) : root.TalliedRoot :=
  (tallied hsymbols hreuse).run ⟨nofun, rfl, nofun⟩ hr

end Engine

end IncrementalGlr
