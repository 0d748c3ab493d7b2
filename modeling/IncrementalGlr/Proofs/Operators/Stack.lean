import IncrementalGlr.Proofs.Operators.Acceptance
import IncrementalGlr.Proofs.Parse.Best

/-!
What a parser of operators has on its stack: trees of expressions, each with an operator behind it
that waits for its right operand. Each of these expressions fits to the left of its operator, and each
operator to the right of the one before it, so that the expression that a reduction makes groups its
operands (`Pending.Suits.reduce`). The table only reduces where the next operator does not take the
right operand, and so what is on the stack always is like this (`Taken.reduce`).
-/
namespace IncrementalGlr

namespace Subtree

/-- The subtree has this symbol and these children, and no error is in it. -/
structure Is (t : Subtree) (symbol : SymbolId) (children : List Subtree) : Prop where
  symbol_eq : t.symbol = symbol
  children_eq : t.children = children
  extra : t.extra = false
  missing : t.info.missing = none
  errorCount : t.errorCount = 0

theorem is_leaf (token : Token) (fragile : Bool) (q r : StateId) :
    (leaf token false fragile q r).Is token.symbol [] := ⟨rfl, rfl, rfl, rfl, rfl⟩

end Subtree

namespace Stack

variable {table : ParseTable} {s s' top below : Stack} {id : ProductionId} {lookaheadEnd : Nat}
  {fragile : Bool} {next : StateId} {p : Production}

theorem states_cons {e : Entry} (h : e.subtree.extra = false) :
    states (e :: s) = e.state :: states s := by
  simp [states, mains, h]

/-- Without extras what a reduction takes off is what is on top. -/
theorem Plain.eq_of_reduce (h : (top ++ below).Plain) (hp : table.production? id = some p)
    (htop : top.length = p.length)
    (hr : Stack.reduce table (top ++ below) id lookaheadEnd fragile = some (s', next)) :
    table.goto below.state p.lhs = some next ∧
      s' = push below next (nodeOver p id lookaheadEnd fragile top below) := by
  obtain ⟨p', hp', top', below', hs, hcount, hgoto, rfl⟩ := h.exists_of_reduce hr
  obtain rfl := Option.some.inj (hp.symm.trans hp')
  obtain ⟨rfl, rfl⟩ := List.append_inj hs (htop.trans hcount.symm)
  exact ⟨hgoto, rfl⟩

theorem is_nodeOver (hp : p.lhs ≠ errorSymbol)
    (hnone : Subtree.errorCounts (top.map Entry.subtree).reverse = 0) :
    (nodeOver p id lookaheadEnd fragile top below).Is p.lhs (top.map Entry.subtree).reverse := by
  refine ⟨rfl, rfl, rfl, rfl, ?_⟩
  show Subtree.errorCounts _ + (if p.lhs = errorSymbol then 1 else 0) = 0
  rw [hnone, if_neg hp]

end Stack

namespace OperatorGrammar

variable {x : OperatorGrammar} {a : Automaton} {t : Subtree} {y z : Expression}

/-- The subtree is the tree of the expression. -/
inductive Reads (x : OperatorGrammar) : Subtree → Expression → Prop where
  | operand {t leaf : Subtree} (ht : t.Is x.ruleSymbol [leaf])
      (hleaf : leaf.Is x.operandSymbol []) : Reads x t .operand
  | binary {t left operator right : Subtree} {y z : Expression} (i : Fin x.operators.length)
      (ht : t.Is x.ruleSymbol [left, operator, right]) (ho : operator.Is (i + 1 : Nat) [])
      (hl : Reads x left y) (hr : Reads x right z) : Reads x t (.binary (x.operators.get i) y z)

theorem Reads.plain (h : x.Reads t y) : t.extra = false := by
  cases h with
  | operand ht => exact ht.extra
  | binary i ht => exact ht.extra

theorem Reads.errorCount (h : x.Reads t y) : t.errorCount = 0 := by
  cases h with
  | operand ht => exact ht.errorCount
  | binary i ht => exact ht.errorCount

/-! ## Expressions that wait -/

/-- Expressions, each before an operator that waits for its right operand, the latest first. -/
abbrev Pending (x : OperatorGrammar) := List (Expression × Fin x.operators.length)

namespace Pending

variable {w : x.Pending} {i : Fin x.operators.length}

/-- All operators so far. -/
def operators : x.Pending → List Operator
  | [] => []
  | (y, i) :: rest => operators rest ++ (y.operators ++ [x.operators.get i])

/-- The operators that wait. -/
def waiting (w : x.Pending) : List (Fin x.operators.length) := w.map Prod.snd

/-- An expression with this topmost operator can be the right operand of the latest. -/
def Fits : x.Pending → Operator → Prop
  | [], _ => True
  | (_, i) :: _, o => o.FitsRight (x.operators.get i)

/-- Each operator fits to the right of the one before, and what is to its left fits there. -/
def Nested : x.Pending → Prop
  | [] => True
  | (y, i) :: rest => y.Grouped ∧ (∀ p ∈ y.top?, p.FitsLeft (x.operators.get i)) ∧
      Fits rest (x.operators.get i) ∧ Nested rest

/-- The expression groups its operands and can be the right operand of the latest operator. -/
structure Suits (w : x.Pending) (y : Expression) : Prop where
  nested : w.Nested
  grouped : y.Grouped
  top : ∀ p ∈ y.top?, w.Fits p

theorem Suits.operand (h : w.Nested) : w.Suits .operand := ⟨h, trivial, nofun⟩

theorem Suits.reduce (h : Suits ((y, i) :: w) z) : w.Suits (.binary (x.operators.get i) y z) := by
  obtain ⟨hgrouped, htop, hfits, hnested⟩ := h.nested
  refine ⟨hnested, ⟨hgrouped, h.grouped, htop, h.top⟩, fun p hp => ?_⟩
  obtain rfl := Option.some.inj hp
  exact hfits

theorem Suits.shift (h : w.Suits y) (hleft : ∀ p ∈ y.top?, p.FitsLeft (x.operators.get i))
    (hfits : w.Fits (x.operators.get i)) : Nested ((y, i) :: w) :=
  ⟨h.grouped, hleft, hfits, h.nested⟩

/-- A reduction loses no operator. -/
theorem operators_reduce : w.operators ++ (Expression.binary (x.operators.get i) y z).operators =
    operators ((y, i) :: w) ++ z.operators := by
  simp [operators, Expression.operators]

end Pending

/-! ## Stacks -/

/-- On the stack are the trees of the expressions that wait, with the tokens of their operators. -/
inductive Holds (a : Automaton) : Stack → x.Pending → Prop where
  | nil : Holds a [] []
  | cons {s : Stack} {w : x.Pending} {left operator : Entry} {y : Expression}
      {i : Fin x.operators.length} (h : Holds a s w) (hl : x.Reads left.subtree y)
      (ho : operator.subtree.Is (i + 1 : Nat) []) (hq : Stands a operator.state (.behind i)) :
      Holds a (operator :: left :: s) ((y, i) :: w)

variable {s : Stack} {w : x.Pending}

theorem Holds.plain (h : Holds a s w) : s.Plain := by
  induction h with
  | nil => exact nofun
  | cons _ hl ho _ ih =>
    exact List.forall_mem_cons.2 ⟨ho.extra, List.forall_mem_cons.2 ⟨hl.plain, ih⟩⟩

theorem Holds.awaits (h : Holds a s w) : Awaits a s.states w.waiting := by
  induction h with
  | nil => exact .start
  | cons _ hl ho hq ih =>
    rw [Stack.states_cons ho.extra, Stack.states_cons hl.plain]
    exact ih.behind hq

/-- An operand was taken, the text before it has these operators, and since then there were only
reductions, at a token with the symbol `t`. -/
inductive Taken (x : OperatorGrammar) (a : Automaton) (t : SymbolId) (before : List Operator) :
    Stack → Prop where
  | leaf {s : Stack} {w : x.Pending} {e : Entry} (h : Holds a s w) (nested : w.Nested)
      (he : e.subtree.Is x.operandSymbol []) (hq : Stands a e.state (.operand (x := x)))
      (hbefore : w.operators = before) : Taken x a t before (e :: s)
  | node {s : Stack} {w : x.Pending} {e : Entry} {y : Expression} (h : Holds a s w)
      (suits : w.Suits y) (he : x.Reads e.subtree y) (hq : Stands a e.state (.fed w.waiting))
      (closed : ∀ j : Fin x.operators.length, t = (j + 1 : Nat) →
        ∀ p ∈ y.top?, p.FitsLeft (x.operators.get j))
      (hbefore : w.operators ++ y.operators = before) : Taken x a t before (e :: s)

section Built

variable (b : a.Built x.flat) (hf : b.found.Searched)
include b

theorem Holds.stands (h : Holds a s w) : Stands a s.state (.hungry w.waiting) := by
  cases h with
  | nil => exact .start b
  | cons _ _ _ hq => exact hq

include hf

/-! ## Behind an expression -/

section Fed

variable {q : StateId} {t : Nat} (hq : Stands a q (.fed w.waiting))
include hq

/-- Only the latest operator is reduced, and only before one on whose left it fits. -/
theorem Stands.of_reduce {id : ProductionId} (hle : t ≤ x.operators.length)
    (ha : .reduce id ∈ (ActionTable.ofAutomaton x.flat a).actionsAt q t) :
    ∃ y i rest, w = (y, i) :: rest ∧ id = i ∧ ∀ j : Fin x.operators.length,
      t = (j + 1 : Nat) → (x.operators.get i).FitsLeft (x.operators.get j) := by
  cases w with
  | nil =>
    cases t with
    | zero =>
      rw [show (0 : Nat) = endSymbol from rfl, hq.actionsAt_whole_end b hf] at ha
      cases List.mem_singleton.1 ha
    | succ j =>
      obtain ⟨r, -, hactions⟩ := hq.actionsAt_whole b hf ⟨j, hle⟩
      rw [hactions] at ha
      cases List.mem_singleton.1 ha
  | cons first rest =>
    obtain ⟨y, i⟩ := first
    refine ⟨y, i, rest, rfl, ?_⟩
    cases t with
    | zero =>
      rw [show (0 : Nat) = endSymbol from rfl, hq.actionsAt_complete_end b hf] at ha
      exact ⟨Action.reduce.inj (List.mem_singleton.1 ha), nofun⟩
    | succ j =>
      obtain ⟨r, -, hactions⟩ := hq.actionsAt_complete b hf ⟨j, hle⟩
      rw [hactions] at ha
      split at ha
      · next fits =>
        refine ⟨Action.reduce.inj (List.mem_singleton.1 ha), fun j' hj => ?_⟩
        obtain rfl : (⟨j, hle⟩ : Fin _) = j' := Fin.ext (Nat.succ.inj hj)
        exact fits
      · cases List.mem_singleton.1 ha

/-- An operator is taken where it fits to the right of the latest. -/
theorem Stands.of_shift {r : StateId} {j : Fin x.operators.length}
    (ha : .shift r ∈ (ActionTable.ofAutomaton x.flat a).actionsAt q (j + 1)) :
    Stands a r (.behind j) ∧ w.Fits (x.operators.get j) := by
  cases w with
  | nil =>
    obtain ⟨r', hr, hactions⟩ := hq.actionsAt_whole b hf j
    rw [hactions] at ha
    obtain rfl := Action.shift.inj (List.mem_singleton.1 ha)
    exact ⟨hr, trivial⟩
  | cons first rest =>
    obtain ⟨y, i⟩ := first
    obtain ⟨r', hr, hactions⟩ := hq.actionsAt_complete b hf j
    rw [hactions] at ha
    split at ha
    · cases List.mem_singleton.1 ha
    · next not_fits =>
      obtain rfl := Action.shift.inj (List.mem_singleton.1 ha)
      exact ⟨hr, Operator.fitsRight_iff.2 not_fits⟩

/-- The text is accepted where no operator waits. -/
theorem Stands.of_accept (ha : .accept ∈ (ActionTable.ofAutomaton x.flat a).actionsAt q endSymbol) :
    w = [] := by
  cases w with
  | nil => rfl
  | cons first rest =>
    rw [hq.actionsAt_complete_end b hf] at ha
    cases List.mem_singleton.1 ha

end Fed

/-! ## Reducing -/

variable {table : ParseTable} (ht : table.data = .ofActions x.flat (.ofAutomaton x.flat a))
include ht

theorem Holds.stands_goto {next : StateId} (h : Holds a s w)
    (hgoto : table.goto s.state x.ruleSymbol = some next) : Stands a next (.fed w.waiting) := by
  have nonterminal : x.flat.IsNonterminal x.ruleSymbol := ⟨Nat.le_refl _, Nat.lt_succ_self _⟩
  obtain ⟨r, hr, hgoto'⟩ := (h.stands b).exists_goto b hf
  rw [ParseTable.goto_eq_gotoAt ht b x.inRange nonterminal, hgoto'] at hgoto
  exact Option.some.inj hgoto ▸ hr

/-- The operand becomes an expression, or the latest operator and its operands become one. -/
theorem Taken.reduce (few : x.ruleSymbol ≠ errorSymbol) {t : Nat} (hle : t ≤ x.operators.length)
    {before : List Operator} (h : Taken x a t before s) {id : ProductionId}
    (ha : .reduce id ∈ (ActionTable.ofAutomaton x.flat a).actionsAt s.state t) {lookaheadEnd : Nat}
    {fragile : Bool} {s' : Stack} {next : StateId}
    (hr : Stack.reduce table s id lookaheadEnd fragile = some (s', next)) :
    Taken x a t before s' := by
  have production {p : Production} {id : Nat} (hp : x.flat.productions[id]? = some p) :
      table.production? id = some p := by
    rw [ParseTable.production?, ht]
    exact hp
  cases h with
  | @leaf s w e h nested he hq hbefore =>
    have hactions := hq.actionsAt_operand b hf hle
    obtain rfl : id = x.operators.length := by
      rw [Stack.state, hactions] at ha
      exact Action.reduce.inj (List.mem_singleton.1 ha)
    have plain : Stack.Plain ([e] ++ s) := List.forall_mem_cons.2 ⟨he.extra, h.plain⟩
    obtain ⟨hgoto, rfl⟩ := plain.eq_of_reduce (production getElem?_operand) rfl hr
    have made := @Stack.is_nodeOver [e] s x.operators.length lookaheadEnd fragile
      x.operandProduction few (by simp [Subtree.errorCounts, he.errorCount])
    refine .node h (.operand nested) (.operand made he) (h.stands_goto b hf ht hgoto) ?_ ?_
    · exact fun _ _ p hp => absurd hp (Option.not_mem_none p)
    · exact (List.append_nil _).trans hbefore
  | @node s w e z h suits he hq closed hbefore =>
    obtain ⟨y, i, rest, rfl, rfl, fits⟩ := hq.of_reduce b hf hle ha
    cases h with
    | @cons s w left operator y i h hl ho hq' =>
    have plain : Stack.Plain ([e, operator, left] ++ s) :=
      List.forall_mem_cons.2 ⟨he.plain, (h.cons hl ho hq').plain⟩
    obtain ⟨hgoto, rfl⟩ := plain.eq_of_reduce (production (getElem?_operator i.2)) rfl hr
    have made := @Stack.is_nodeOver [e, operator, left] s i lookaheadEnd fragile
      (x.operatorProduction (x.operators.get i) (i + 1 : Nat)) few
      (by simp [Subtree.errorCounts, he.errorCount, hl.errorCount, ho.errorCount])
    refine .node h suits.reduce (.binary i made ho hl he) (h.stands_goto b hf ht hgoto) ?_ ?_
    · intro j hj p hp
      obtain rfl := Option.some.inj hp
      exact fits j hj
    · exact Pending.operators_reduce.trans hbefore

end Built

end OperatorGrammar

end IncrementalGlr
