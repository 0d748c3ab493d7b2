import IncrementalGlr.Proofs.Operators.Actions

/-!
The machine of a grammar of operators accepts every expression, however its operators bind: where an
expression is to come an operand can be taken, and behind an expression the machine reduces until it
takes the next operator or the text is at its end (`OperatorGrammar.accepts_fed`).
-/
namespace IncrementalGlr

namespace Machine

variable {g : FlatGrammar} {table : ActionTable} {q q' r p t : Nat} {states below input : List Nat}
  {d : Int}

theorem AcceptsFrom.shift (h : .shift r ∈ table.actionsAt q t)
    (rest : AcceptsFrom g table ⟨r :: q :: states, input⟩ d) :
    AcceptsFrom g table ⟨q :: states, t :: input⟩ d :=
  have ⟨q', states', runs, accept⟩ := rest
  ⟨q', states', .shift h runs, accept⟩

theorem AcceptsFrom.reduce {production : Production} (h : .reduce p ∈ table.actionsAt q t)
    (hp : g.productions[p]? = some production)
    (hdrop : (q :: states).drop production.rhs.length = q' :: below)
    (hgoto : table.gotoAt g q' production.lhs = some r)
    (rest : AcceptsFrom g table ⟨r :: q' :: below, t :: input⟩ d) :
    AcceptsFrom g table ⟨q :: states, t :: input⟩ (production.dynamicPrecedence + d) :=
  have ⟨q', states', runs, accept⟩ := rest
  ⟨q', states', .reduce h hp hdrop hgoto runs, accept⟩

end Machine

namespace OperatorGrammar

variable {x : OperatorGrammar} {a : Automaton} {q r : StateId} {states : List StateId}
  {waiting : List (Fin x.operators.length)} {t : Nat} {input : List Nat}

/-- What comes behind an operand: operators, each with an operand behind it, and the end. -/
def following (x : OperatorGrammar) : List (Fin x.operators.length) → List SymbolId
  | [] => [endSymbol]
  | i :: rest => (i + 1 : Nat) :: x.operandSymbol :: following x rest

/-- An operand is before an operator or before the end of the text. -/
theorem exists_following (rest : List (Fin x.operators.length)) :
    ∃ t input, x.following rest = t :: input ∧ t ≤ x.operators.length := by
  cases rest with
  | nil => exact ⟨_, _, rfl, Nat.zero_le _⟩
  | cons i rest => exact ⟨_, _, rfl, i.2⟩

/-- The shape of a state in which an expression is to come behind the latest of these operators. -/
def Shape.hungry : List (Fin x.operators.length) → x.Shape
  | [] => start
  | i :: _ => behind i

/-- The shape of a state with an expression behind the latest of these operators. -/
def Shape.fed : List (Fin x.operators.length) → x.Shape
  | [] => whole
  | i :: _ => complete i

theorem Shape.hungry_hungry : (hungry waiting).Hungry := by
  cases waiting <;> exact trivial

theorem Shape.follows_fed : (hungry waiting).Follows x.ruleSymbol (fed waiting) := by
  cases waiting with
  | nil => exact .whole
  | cons i => exact .complete i

/-- The states on a stack with an expression before each of these operators, the latest on top. -/
inductive Awaits (a : Automaton) : List StateId → List (Fin x.operators.length) → Prop where
  | start : Awaits a [0] []
  | behind {states : List StateId} {waiting : List (Fin x.operators.length)} {q r : StateId}
      {i : Fin x.operators.length} (h : Awaits a states waiting) (hr : Stands a r (.behind i)) :
      Awaits a (r :: q :: states) (i :: waiting)

section Built

variable (b : a.Built x.flat) (hf : b.found.Searched)
include b

theorem Awaits.exists_top (h : Awaits a states waiting) :
    ∃ q below, states = q :: below ∧ Stands a q (.hungry waiting) := by
  cases h with
  | start => exact ⟨0, [], rfl, .start b⟩
  | behind h hr => exact ⟨_, _, rfl, hr⟩

include hf

theorem Stands.exists_goto (h : Stands a q (.hungry waiting)) : ∃ r, Stands a r (.fed waiting) ∧
    (ActionTable.ofAutomaton x.flat a).gotoAt x.flat q x.ruleSymbol = some r := by
  have ⟨s, hs, _⟩ := h
  obtain ⟨r, hr⟩ := exists_stands b (.fed waiting) hf
  refine ⟨r, hr, ?_⟩
  have nonterminal : x.flat.IsNonterminal x.ruleSymbol := ⟨Nat.le_refl _, Nat.lt_succ_self _⟩
  rw [Automaton.Built.gotoAt_eq hs nonterminal]
  exact (h.lookup_eq_some_iff b hf hs).2 ⟨_, Shape.follows_fed, hr⟩

/-- Two expressions and the operator between them give way to one expression. -/
theorem accepts_of_reduce {i : Fin x.operators.length} (h : Awaits a states waiting)
    {q' : StateId} (ha : .reduce i ∈ (ActionTable.ofAutomaton x.flat a).actionsAt q t)
    (rest : ∀ r, Stands a r (.fed waiting) →
      ∃ d, Machine.AcceptsFrom x.flat (.ofAutomaton x.flat a) ⟨r :: states, t :: input⟩ d) :
    ∃ d, Machine.AcceptsFrom x.flat (.ofAutomaton x.flat a)
      ⟨q :: r :: q' :: states, t :: input⟩ d := by
  obtain ⟨top, below, rfl, htop⟩ := h.exists_top b
  obtain ⟨r', hr', hgoto⟩ := htop.exists_goto b hf
  obtain ⟨d, hd⟩ := rest r' hr'
  exact ⟨_, .reduce ha (getElem?_operator i.2) rfl hgoto hd⟩

/-- An operand that was taken becomes an expression. -/
theorem accepts_of_operand (h : Awaits a states waiting) (hq : Stands a q (.operand (x := x)))
    (ht : t ≤ x.operators.length) (rest : ∀ r, Stands a r (.fed waiting) →
      ∃ d, Machine.AcceptsFrom x.flat (.ofAutomaton x.flat a) ⟨r :: states, t :: input⟩ d) :
    ∃ d, Machine.AcceptsFrom x.flat (.ofAutomaton x.flat a) ⟨q :: states, t :: input⟩ d := by
  obtain ⟨top, below, rfl, htop⟩ := h.exists_top b
  obtain ⟨r, hr, hgoto⟩ := htop.exists_goto b hf
  obtain ⟨d, hd⟩ := rest r hr
  have ha := List.mem_singleton.2 (rfl : Action.reduce x.operators.length = _)
  rw [← hq.actionsAt_operand b hf ht] at ha
  exact ⟨_, .reduce ha getElem?_operand rfl hgoto hd⟩

/-- Where an expression is to come an operand is taken. -/
theorem accepts_of_hungry (h : Awaits a states waiting)
    (rest : ∀ r, Stands a r (.operand (x := x)) →
      ∃ d, Machine.AcceptsFrom x.flat (.ofAutomaton x.flat a) ⟨r :: states, input⟩ d) :
    ∃ d, Machine.AcceptsFrom x.flat (.ofAutomaton x.flat a)
      ⟨states, x.operandSymbol :: input⟩ d := by
  obtain ⟨top, below, rfl, htop⟩ := h.exists_top b
  obtain ⟨r, hr, hactions⟩ := htop.actionsAt_hungry b hf Shape.hungry_hungry
  obtain ⟨d, hd⟩ := rest r hr
  exact ⟨d, .shift (hactions ▸ List.mem_singleton_self _) hd⟩

/-- Behind an expression the machine goes on to the end. -/
theorem accepts_fed {rest : List (Fin x.operators.length)} (h : Awaits a states waiting)
    (hq : Stands a q (.fed waiting)) : ∃ d, Machine.AcceptsFrom x.flat (.ofAutomaton x.flat a)
      ⟨q :: states, x.following rest⟩ d := by
  -- By induction on the operators to come, and for each on those that wait for an expression.
  induction rest generalizing states waiting q with
  | nil =>
    induction h generalizing q with
    | start =>
      exact ⟨0, q, [0], .refl _, Stands.actionsAt_whole_end b hf hq ▸ List.mem_singleton_self _⟩
    | @behind states waiting q' r i h hr ih =>
      exact accepts_of_reduce b hf h (hq.actionsAt_complete_end b hf ▸ List.mem_singleton_self _)
        fun _ => ih
  | cons j rest ih =>
    -- Behind the operator an operand is taken, and becomes an expression.
    have taken {q r : StateId} {states : List StateId} {waiting : List (Fin x.operators.length)}
        (h : Awaits a states waiting) (hr : Stands a r (.behind j))
        (ha : .shift r ∈ (ActionTable.ofAutomaton x.flat a).actionsAt q (j + 1)) :
        ∃ d, Machine.AcceptsFrom x.flat (.ofAutomaton x.flat a)
          ⟨q :: states, x.following (j :: rest)⟩ d := by
      have awaits : Awaits a (r :: q :: states) (j :: waiting) := h.behind hr
      obtain ⟨t, input, hinput, ht⟩ := exists_following rest
      obtain ⟨d, hd⟩ := accepts_of_hungry b hf awaits fun r' hr' =>
        accepts_of_operand b hf awaits hr' ht fun q hq => hinput ▸ ih awaits hq
      exact ⟨d, .shift ha (hinput ▸ hd)⟩
    induction h generalizing q with
    | start =>
      obtain ⟨r, hr, hactions⟩ := Stands.actionsAt_whole b hf hq j
      exact taken .start hr (hactions ▸ List.mem_singleton_self _)
    | @behind states waiting q' r' i h hr' ihw =>
      obtain ⟨r, hr, hactions⟩ := hq.actionsAt_complete b hf j
      split at hactions
      · exact accepts_of_reduce b hf h (hactions ▸ List.mem_singleton_self _) fun _ => ihw
      · exact taken (h.behind hr') hr (hactions ▸ List.mem_singleton_self _)

/-- Where an expression is to come, the machine takes an operand and goes on to the end. -/
theorem accepts_hungry {rest : List (Fin x.operators.length)} (h : Awaits a states waiting) :
    ∃ d, Machine.AcceptsFrom x.flat (.ofAutomaton x.flat a)
      ⟨states, x.operandSymbol :: x.following rest⟩ d := by
  obtain ⟨t, input, hinput, ht⟩ := exists_following rest
  rw [hinput]
  exact accepts_of_hungry b hf h fun r hr =>
    accepts_of_operand b hf h hr ht fun q hq => hinput ▸ accepts_fed b hf h hq

end Built

end OperatorGrammar

end IncrementalGlr
