import IncrementalGlr.Proofs.Parse.Checked
import IncrementalGlr.Proofs.Parse.Guided

/-!
What a parse takes from its table is there. A subtree and all below it have symbols of the table or
that of errors, productions of the table, and states of the table (`Subtree.Known`). The symbols are
those of tokens, of productions and of what is made up; the productions and states are those that the
actions name. Every step keeps this of the subtrees and states on its stacks, recovery and reuse
included, if the lexer never reads outside of the table (`Engine.known_of_run`).
-/
namespace IncrementalGlr

/-- A number of a symbol of the table, or that of errors. -/
def ParseTable.IsName (t : ParseTable) (s : SymbolId) : Prop := s = errorSymbol ∨ s < t.symbolCount

/-- The numbers that a subtree takes from the table are those of symbols, productions and states. -/
structure SubtreeInfo.Known (t : ParseTable) (info : SubtreeInfo) : Prop where
  symbol : t.IsName info.symbol
  missing : ∀ s ∈ info.missing, t.IsName s
  production : ∀ id ∈ info.production, ∃ p, t.production? id = some p
  parseState : ∀ q ∈ info.parseState, q < t.stateCount
  lexAfter : ∀ q ∈ info.lexAfter, q < t.stateCount

/-- All that a subtree and what is below it take from the table is there. -/
structure Subtree.Known (t : ParseTable) (x : Subtree) : Prop where
  parts : ∀ y ∈ x.parts, y.info.Known t

variable {t : ParseTable}

namespace ParseTable

theorem terminalCount_le : t.terminalCount ≤ t.symbolCount :=
  Nat.le_trans (Nat.le_add_right _ _) t.consistent_data.symbols

theorem isName_of_isTerminal {s : SymbolId} (h : t.isTerminal s = true) : t.IsName s :=
  .inr (Nat.lt_of_lt_of_le (of_decide_eq_true h) terminalCount_le)

theorem isName_of_goto {q r : StateId} {s : SymbolId} (h : t.goto q s = some r) : t.IsName s := by
  unfold goto at h
  split at h
  · next inside =>
    simp only [isNonterminal, Bool.and_eq_true, decide_eq_true_eq] at inside
    exact .inr (Nat.lt_of_lt_of_le inside.1.2 t.consistent_data.symbols)
  · cases h

theorem isName_of_production {id : ProductionId} {p : Production}
    (h : t.production? id = some p) : t.IsName p.lhs := .inr (lt_of_production h).1

end ParseTable

/-! ## Subtrees -/

namespace Subtree

variable {x : Subtree}

theorem known_mk {info : SubtreeInfo} {children : List Subtree} :
    (mk info children).Known t ↔ info.Known t ∧ ∀ c ∈ children, c.Known t := by
  constructor
  · rintro ⟨h⟩
    obtain ⟨hinfo, hchildren⟩ := forall_parts.1 h
    exact ⟨hinfo, fun c hc => ⟨hchildren c hc⟩⟩
  · rintro ⟨hinfo, hchildren⟩
    exact ⟨forall_parts.2 ⟨hinfo, fun c hc => (hchildren c hc).parts⟩⟩

theorem Known.info (h : x.Known t) : x.info.Known t := by
  obtain ⟨info, children⟩ := x
  exact (known_mk.1 h).1

theorem Known.children (h : x.Known t) : ∀ c ∈ x.children, c.Known t := by
  obtain ⟨info, children⟩ := x
  exact (known_mk.1 h).2

variable {children : List Subtree}

theorem known_leaf {token : Token} (h : t.IsName token.symbol) {q r : StateId}
    (hq : q < t.stateCount) (hr : r < t.stateCount) (extra fragile : Bool) :
    (leaf token extra fragile q r).Known t :=
  known_mk.2 ⟨{
    symbol := h
    missing := nofun
    production := nofun
    parseState := fun _ h => Option.some.inj h ▸ hq
    lexAfter := fun _ h => Option.some.inj h ▸ hr }, nofun⟩

theorem known_missing {symbol : SymbolId} (h : t.IsName symbol) (token : Token) :
    (missing symbol token).Known t :=
  known_mk.2 ⟨{
    symbol := .inl rfl
    missing := fun _ hs => Option.some.inj hs ▸ h
    production := nofun
    parseState := nofun
    lexAfter := nofun }, nofun⟩

/-- A node over known subtrees looks for the token behind it in the state in which one of them did. -/
theorem known_node {symbol : SymbolId} (hsymbol : t.IsName symbol) {production : Option ProductionId}
    (hproduction : ∀ id ∈ production, ∃ p, t.production? id = some p) {parseState : Option StateId}
    (hstate : ∀ q ∈ parseState, q < t.stateCount) (hall : ∀ c ∈ children, c.Known t)
    (start lookaheadEnd : Nat) (dynamicPrecedence : Int) (fragile : Bool) :
    (node symbol production children start lookaheadEnd dynamicPrecedence fragile
      parseState).Known t := by
  refine known_mk.2 ⟨{
    symbol := hsymbol
    missing := nofun
    production := hproduction
    parseState := fun q hq => ?_
    lexAfter := fun q hq => ?_ }, hall⟩
  · dsimp only at hq
    split at hq
    · exact hstate q hq
    · cases hq
  · obtain ⟨c, hc, hq⟩ := Option.bind_eq_some_iff.1 hq
    exact (hall c (List.mem_reverse.1 (List.mem_of_find?_eq_some hc))).info.lexAfter q hq

theorem known_error (hall : ∀ c ∈ children, c.Known t) (start lookaheadEnd : Nat) (extra : Bool) :
    (error children start lookaheadEnd extra).Known t := by
  have made : (node errorSymbol none children start lookaheadEnd 0 true none).Known t := by
    refine known_node (.inl rfl) (fun _ h => ?_) (fun _ h => ?_) hall ..
    · cases h
    · cases h
  exact known_mk.2 ⟨{ made.info with }, hall⟩

theorem Known.withExtras (h : x.Known t) {leading trailing : List Subtree}
    (hleading : ∀ c ∈ leading, c.Known t) (htrailing : ∀ c ∈ trailing, c.Known t)
    (start lookaheadEnd : Nat) : (x.withExtras leading trailing start lookaheadEnd).Known t := by
  unfold Subtree.withExtras
  split
  · exact h
  · refine known_node h.info.symbol h.info.production h.info.parseState ?_ ..
    exact List.forall_mem_append.2 ⟨List.forall_mem_append.2 ⟨hleading, h.children⟩, htrailing⟩

theorem Known.of_candidate {r : ReuseCursor} (h : r.root.Known t) {position : Nat}
    (hc : x ∈ r.candidates position) : x.Known t := by
  obtain ⟨c, hchild, hpart⟩ := mem_partsOf.1 (mem_partsOf_of_mem_candidates hc)
  exact ⟨fun y hy => (h.children c hchild).parts y (mem_parts_trans hy c hpart)⟩

/-- The root over known subtrees is known. -/
theorem known_rootOf (hall : ∀ c ∈ children, c.Known t) (lookaheadEnd : Nat) :
    (Engine.rootOf children lookaheadEnd).Known t := by
  unfold Engine.rootOf
  split
  · next leading main trailing hsplit =>
    obtain ⟨whole, -⟩ := Stack.of_splitMain hsplit
    rw [whole, List.forall_mem_append, List.forall_mem_cons] at hall
    obtain ⟨hleading, hmain, htrailing⟩ := hall
    exact hmain.withExtras hleading htrailing ..
  · exact known_error hall ..

end Subtree

/-! ## Stacks -/

/-- All subtrees on a stack are known, and so are the states that they led to. -/
def Stack.Known (t : ParseTable) (s : Stack) : Prop :=
  ∀ e ∈ s, e.state < t.stateCount ∧ e.subtree.Known t

namespace Stack

variable {s s' : Stack}

theorem Known.state (h : s.Known t) : s.state < t.stateCount := by
  cases s with
  | nil => exact t.consistent_data.states
  | cons e below => exact (h e List.mem_cons_self).1

theorem Known.push (h : s.Known t) {q : StateId} (hq : q < t.stateCount) {x : Subtree}
    (hx : x.Known t) : (s.push q x).Known t := List.forall_mem_cons.2 ⟨⟨hq, hx⟩, h⟩

theorem Known.subtrees (h : s.Known t) : ∀ x ∈ s.subtrees, x.Known t := by
  intro x hx
  obtain ⟨e, he, rfl⟩ := List.mem_map.1 (List.mem_reverse.1 hx)
  exact (h e he).2

theorem Known.of_append {top : Stack} (h : (top ++ s).Known t) : s.Known t :=
  fun e he => h e (List.mem_append_right _ he)

theorem Known.withExtras {q : StateId} (hq : q < t.stateCount) {extras : List Subtree}
    (hextras : ∀ x ∈ extras, x.Known t) (h : s.Known t) : (withExtras q s extras).Known t := by
  induction extras generalizing s with
  | nil => exact h
  | cons x rest ih =>
    obtain ⟨hx, hrest⟩ := List.forall_mem_cons.1 hextras
    exact ih hrest (h.push hq hx)

/-- A reduction follows a production of the table and leads to a state of it. -/
theorem Known.reduce (h : s.Known t) {id : ProductionId} {lookaheadEnd : Nat} {fragile : Bool}
    {next : StateId} (hr : Stack.reduce t s id lookaheadEnd fragile = some (s', next)) :
    s'.Known t := by
  obtain ⟨p, hp, extras, top, below, rfl, -, -, hgoto, rfl⟩ := exists_of_reduce hr
  have hbelow : below.Known t := h.of_append.of_append
  have hnext := ParseTable.lt_of_goto hgoto
  have made : (nodeOver p id lookaheadEnd fragile top below).Known t := by
    refine Subtree.known_node (ParseTable.isName_of_production hp) (fun _ h => ?_) (fun _ h => ?_)
      (fun c hc => ?_) ..
    · cases h
      exact ⟨p, hp⟩
    · cases h
      exact hbelow.state
    · obtain ⟨e, he, rfl⟩ := List.mem_map.1 (List.mem_reverse.1 hc)
      exact (h e (List.mem_append_right _ (List.mem_append_left _ he))).2
  refine Known.withExtras hnext (fun x hx => ?_) (hbelow.push hnext made)
  obtain ⟨e, he, rfl⟩ := List.mem_map.1 (List.mem_reverse.1 hx)
  exact (h e (List.mem_append_left _ he)).2

end Stack

/-! ## Whole parses -/

/-- All that a head has on its stack is known, and so are the tokens put aside. -/
def Head.Known (t : ParseTable) (pending : List Subtree) (h : Head) : Prop :=
  h.stack.Known t ∧ ∀ x ∈ pending, x.Known t

namespace Engine

variable {e : Engine}

/-- Every step of an engine keeps what its heads have known. -/
theorem known (hlexer : e.lexer.table = e.table) (bounds : e.table.data.LexerBounds)
    (hreuse : ∀ r, e.reuse = some r → r.root.Known e.table) :
    e.Invariant (fun _ token => e.table.IsName token.symbol) (fun _ => Head.Known e.table)
      (Subtree.Known e.table) where
  token {position} _ _ states _ := by
    rw [← hlexer] at bounds ⊢
    exact (Lexer.symbol_lex bounds position states).imp_right fun h =>
      Nat.lt_of_lt_of_le h ParseTable.terminalCount_le
  unpadded h := h
  keeps _ token := {
    path := fun _ _ h => h
    reduce := by
      rintro fragile id h next ⟨hknown, -⟩ - ⟨p, stack, state, -, hreduce, rfl⟩
      exact ⟨hknown.reduce hreduce, nofun⟩ }
  shift {_ token fragile head target} hname h ha := by
    have leads : target.getD head.state < e.table.stateCount := by
      cases target with
      | none => exact h.1.state
      | some next => exact ParseTable.lt_of_shift ha
    exact ⟨h.1.push leads (Subtree.known_leaf hname h.1.state leads ..), nofun⟩
  reuse hr h hchoice := by
    obtain ⟨hmem, -, hgoto⟩ := of_chooseReuse hchoice
    exact ⟨h.1.push (ParseTable.lt_of_goto hgoto) ((hreuse _ hr).of_candidate hmem), nofun⟩
  nonterminal {_ token head symbol next} _ h hgoto :=
    ⟨h.1.push (ParseTable.lt_of_goto hgoto)
      (Subtree.known_missing (ParseTable.isName_of_goto hgoto) token), nofun⟩
  terminal {_ token} fragile {head symbol next} _ h ha :=
    ⟨h.1.push (ParseTable.lt_of_shift ha) (Subtree.known_missing
      (ParseTable.isName_of_isTerminal (ParseTable.isTerminal_of_mem_actions ha)) _), nofun⟩
  resume lookaheadEnd _ h := ⟨h.1.push h.1.state (Subtree.known_error h.2 ..), nofun⟩
  -- The error node is over what was on the stack above and what was put aside.
  pop {_ pending given head below terminal} lookaheadEnd h hpop := by
    obtain ⟨top, hstack, rfl⟩ := Stack.exists_of_popUntil hpop
    have hbelow : below.Known e.table := Stack.Known.of_append (hstack ▸ h.1)
    refine ⟨hbelow.push hbelow.state (Subtree.known_error (fun c hc => ?_) ..), nofun⟩
    rw [List.append_nil] at hc
    rcases List.mem_append.1 hc with hc | hc
    · obtain ⟨x, hx, rfl⟩ := List.mem_map.1 (List.mem_reverse.1 hc)
      exact (h.1 x (hstack ▸ List.mem_append_left _ hx)).2
    · exact h.2 c hc
  skip {_ pending head token} hname h := by
    refine ⟨h.1, List.forall_mem_append.2 ⟨h.2, fun x hx => ?_⟩⟩
    rw [List.mem_singleton.1 hx]
    exact Subtree.known_leaf hname h.1.state h.1.state ..
  accept h _ := Subtree.known_rootOf h.1.subtrees _
  wrap lookaheadEnd h :=
    Subtree.known_error (List.forall_mem_append.2 ⟨h.1.subtrees, h.2⟩) ..

/-- Every root is known, if the old tree is. -/
theorem known_of_run (hlexer : e.lexer.table = e.table) (bounds : e.table.data.LexerBounds)
    (hreuse : ∀ r, e.reuse = some r → r.root.Known e.table) {fuel : Option Nat} {root : Subtree}
    {c : Configuration} (hr : Parsing.Returns e.run { fuel } root c) : root.Known e.table :=
  (known hlexer bounds hreuse).run ⟨nofun, nofun⟩ hr

end Engine

end IncrementalGlr
