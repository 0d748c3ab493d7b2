import IncrementalGlr.Proofs.Flat.Flattening
import IncrementalGlr.Proofs.Lr.Search
import IncrementalGlr.Proofs.Operators.Grammar

/-!
The states of a parser of operators. What has been read of an expression is told by one item
(`Shape.item`): nothing, a whole expression, an operand, an expression and an operator behind it, or
two expressions around an operator. These are all states there are
(`OperatorGrammar.isKernel_iff`), so there
is an automaton unless the operators are too many (`OperatorGrammar.exists_automaton_iff`).
-/
namespace IncrementalGlr.OperatorGrammar

variable {x : OperatorGrammar}

/-! ## Items -/

theorem size_productions (x : OperatorGrammar) :
    x.flat.productions.size = x.operators.length + 1 := by
  simp [flat, productions]

theorem getElem?_operator {i : Nat} (h : i < x.operators.length) :
    x.flat.productions[i]? = some (x.operatorProduction x.operators[i] (i + 1)) := by
  simp [flat, productions, List.getElem?_append, h, Nat.add_comm]

theorem getElem?_operand :
    x.flat.productions[x.operators.length]? = some x.operandProduction := by
  simp [flat, productions]

theorem rhs_operator {i : Nat} (h : i < x.operators.length) :
    x.flat.rhs i = [x.ruleSymbol, i + 1, x.ruleSymbol] :=
  FlatGrammar.rhs_of_getElem? (getElem?_operator h)

theorem rhs_operand : x.flat.rhs x.operators.length = [x.operandSymbol] :=
  FlatGrammar.rhs_of_getElem? getElem?_operand

theorem rhs_augmented : x.flat.rhs (x.operators.length + 1) = [x.ruleSymbol] := by
  rw [← size_productions, FlatGrammar.rhs_augmented]
  rfl

theorem mem_productionsOf {p : Nat} {s : SymbolId} :
    p ∈ x.flat.productionsOf s ↔ s = x.ruleSymbol ∧ p ≤ x.operators.length := by
  have lhs : ∀ production ∈ x.flat.productions, production.lhs = x.ruleSymbol := by
    intro production h
    rcases List.mem_append.1 (Array.mem_toList_iff.2 h) with h | h
    · obtain ⟨_, -, rfl⟩ := List.mem_map.1 h
      rfl
    · obtain rfl := List.mem_singleton.1 h
      rfl
  rw [FlatGrammar.mem_productionsOf]
  constructor
  · rintro ⟨production, hp, rfl⟩
    have hlt := (Array.getElem?_eq_some_iff.1 hp).1
    rw [size_productions] at hlt
    exact ⟨lhs _ (Array.mem_of_getElem? hp), Nat.le_of_lt_succ hlt⟩
  · rintro ⟨rfl, hle⟩
    have hlt : p < x.flat.productions.size := size_productions x ▸ Nat.lt_succ_of_le hle
    exact ⟨_, Array.getElem?_eq_getElem hlt, lhs _ (Array.getElem_mem hlt)⟩

/-- The symbols after marks. -/
theorem next_eq_some_iff {p dot s : Nat} :
    (⟨p, dot⟩ : Item).next x.flat = some s ↔
      (p < x.operators.length ∧ (dot = 0 ∧ s = x.ruleSymbol ∨ dot = 1 ∧ s = p + 1 ∨
        dot = 2 ∧ s = x.ruleSymbol)) ∨
      (p = x.operators.length ∧ dot = 0 ∧ s = x.operandSymbol) ∨
      (p = x.operators.length + 1 ∧ dot = 0 ∧ s = x.ruleSymbol) := by
  rw [Item.next]
  rcases Nat.lt_trichotomy p x.operators.length with h | rfl | h
  · have parts : (x.flat.rhs p)[dot]? = some s ↔ dot = 0 ∧ s = x.ruleSymbol ∨ dot = 1 ∧ s = p + 1 ∨
        dot = 2 ∧ s = x.ruleSymbol := by
      rw [rhs_operator h]
      rcases dot with _ | _ | _ | dot <;> simp [eq_comm]
    rw [parts]
    omega
  · have parts : (x.flat.rhs x.operators.length)[dot]? = some s ↔ dot = 0 ∧ s = x.operandSymbol := by
      rw [rhs_operand]
      rcases dot with _ | dot <;> simp [eq_comm]
    rw [parts]
    omega
  · rcases Nat.lt_or_eq_of_le (Nat.succ_le_of_lt h) with h | rfl
    · have nothing : x.flat.rhs p = [] := FlatGrammar.rhs_eq_nil (size_productions x ▸ h)
      rw [nothing]
      simp
      omega
    · have parts : (x.flat.rhs (x.operators.length + 1))[dot]? = some s ↔
          dot = 0 ∧ s = x.ruleSymbol := by
        rw [rhs_augmented]
        rcases dot with _ | dot <;> simp [eq_comm]
      rw [parts]
      omega

/-! ## Shapes -/

/-- What a state stands for: how far an expression has been read. -/
inductive Shape (x : OperatorGrammar) where
  /-- Nothing has been read. -/
  | start
  /-- All that has been read is an expression. -/
  | whole
  /-- An operand is all that has been read of an expression. -/
  | operand
  /-- An expression and an operator behind it. -/
  | behind (i : Fin x.operators.length)
  /-- Two expressions around an operator. -/
  | complete (i : Fin x.operators.length)
  deriving DecidableEq

namespace Shape

/-- An expression is to come. -/
def Hungry : x.Shape → Prop
  | start | behind _ => True
  | whole | operand | complete _ => False

/-- An expression has been read, which an operator may follow. -/
def Fed : x.Shape → Prop
  | whole | complete _ => True
  | start | operand | behind _ => False

/-- The item that tells the state from all others. -/
def item : x.Shape → Item
  | start => ⟨(x.operators.length + 1 : Nat), 0⟩
  | whole => ⟨(x.operators.length + 1 : Nat), 1⟩
  | operand => ⟨x.operators.length, 1⟩
  | behind i => ⟨i, 2⟩
  | complete i => ⟨i, 3⟩

/-- The items of a state that have something before the mark, and the first. -/
def kernel (shape : x.Shape) : Set Item :=
  {i | i = shape.item ∨ shape.Fed ∧ i.dot = 1 ∧ i.production < x.operators.length}

/-- A symbol leads from one state to another. -/
inductive Follows : x.Shape → SymbolId → x.Shape → Prop where
  | whole : Follows start x.ruleSymbol whole
  | complete (i : Fin x.operators.length) : Follows (behind i) x.ruleSymbol (complete i)
  | operand {shape : x.Shape} (h : shape.Hungry) : Follows shape x.operandSymbol operand
  | behind {shape : x.Shape} (h : shape.Fed) (i : Fin x.operators.length) :
      Follows shape (i + 1) (behind i)

theorem Hungry.next_item {shape : x.Shape} (h : shape.Hungry) :
    shape.item.next x.flat = some x.ruleSymbol := by
  cases shape with
  | start => exact next_eq_some_iff.2 (.inr (.inr ⟨rfl, rfl, rfl⟩))
  | behind i => exact next_eq_some_iff.2 (.inl ⟨i.2, .inr (.inr ⟨rfl, rfl⟩)⟩)
  | _ => exact h.elim

theorem hungry_of_next {shape : x.Shape} {i : Item} (h : i ∈ shape.kernel)
    (hs : i.next x.flat = some x.ruleSymbol) : shape.Hungry := by
  obtain ⟨p, dot⟩ := i
  rw [next_eq_some_iff] at hs
  simp only [ruleSymbol, operandSymbol] at hs
  rcases h with h | ⟨-, h, hlt⟩
  · cases shape with
    | start | behind => trivial
    | _ =>
      obtain ⟨rfl, rfl⟩ := Item.mk.inj h
      omega
  · dsimp only at h hlt
    omega

/-- A state in which an expression is to come brings in all productions. -/
theorem brings_iff {shape : x.Shape} {i : Item} : Lr.Brings x.flat shape.kernel i ↔
    i ∈ shape.kernel ∨ shape.Hungry ∧ i.dot = 0 ∧ i.production ≤ x.operators.length := by
  constructor
  · intro h
    induction h with
    | kernel h => exact .inl h
    | @bring i s p _ hs hp ih =>
      obtain ⟨rfl, hle⟩ := mem_productionsOf.1 hp
      refine .inr ⟨?_, rfl, hle⟩
      exact ih.elim (fun h => hungry_of_next h hs) And.left
  · rintro (h | ⟨hungry, h0, hp⟩)
    · exact .kernel h
    · cases i
      obtain rfl : _ = 0 := h0
      exact .bring (.kernel (.inl rfl)) hungry.next_item (mem_productionsOf.2 ⟨rfl, hp⟩)

theorem mem_successor {shape : x.Shape} {p dot s : Nat} :
    ⟨p, dot + 1⟩ ∈ Lr.successor x.flat shape.kernel s ↔
      (⟨p, dot⟩ ∈ shape.kernel ∨ shape.Hungry ∧ dot = 0 ∧ p ≤ x.operators.length) ∧
        (⟨p, dot⟩ : Item).next x.flat = some s := by
  constructor
  · rintro ⟨⟨p', dot'⟩, hb, hs, heq⟩
    obtain ⟨rfl, hdot⟩ := Item.mk.inj heq
    obtain rfl := Nat.succ.inj hdot
    exact ⟨brings_iff.1 hb, hs⟩
  · rintro ⟨hb, hs⟩
    exact ⟨_, brings_iff.2 hb, hs, rfl⟩

theorem mk_eq_iff {p dot p' dot' : Nat} :
    (⟨p, dot⟩ : Item) = ⟨p', dot'⟩ ↔ p = p' ∧ dot = dot' := by
  rw [Item.mk.injEq]

theorem mem_kernel {shape : x.Shape} {p dot : Nat} : ⟨p, dot⟩ ∈ shape.kernel ↔
    ⟨p, dot⟩ = shape.item ∨ shape.Fed ∧ dot = 1 ∧ p < x.operators.length := Iff.rfl

theorem successor_of_follows {shape shape' : x.Shape} {s : SymbolId} (h : shape.Follows s shape') :
    Lr.successor x.flat shape.kernel s = shape'.kernel := by
  refine Set.ext fun ⟨p, dot⟩ => ?_
  cases dot with
  | zero => cases h <;> simp [Lr.successor, Item.advance, kernel, item, Fed]
  | succ dot =>
    rw [mem_successor, next_eq_some_iff]
    rw [mem_kernel, mem_kernel]
    cases h with
    | whole =>
      simp only [item, Fed, Hungry, mk_eq_iff, true_and, false_and, or_false, and_true, ruleSymbol,
        operandSymbol]
      omega
    | complete i =>
      have := i.2
      simp only [item, Fed, Hungry, mk_eq_iff, true_and, false_and, or_false, and_true, ruleSymbol,
        operandSymbol]
      omega
    | operand h =>
      cases shape <;> first
        | exact h.elim
        | simp only [item, Fed, Hungry, mk_eq_iff, true_and, false_and, or_false, and_true,
            ruleSymbol, operandSymbol]
          omega
    | behind h i =>
      have := i.2
      cases shape <;> first
        | exact h.elim
        | simp only [item, Fed, Hungry, mk_eq_iff, true_and, false_and, or_false, ruleSymbol,
            operandSymbol]
          omega

theorem exists_follows {shape : x.Shape} {s : Nat}
    (h : (Lr.successor x.flat shape.kernel s).Nonempty) : ∃ shape', shape.Follows s shape' := by
  obtain ⟨⟨p, dot⟩, h⟩ := h
  cases dot with
  | zero =>
    obtain ⟨j, -, -, hj⟩ := h
    exact absurd (congrArg Item.dot hj) (Nat.succ_ne_zero j.dot)
  | succ dot =>
    rw [mem_successor, next_eq_some_iff, mem_kernel] at h
    have fed (hfed : shape.Fed) {p : Nat} (hs : p < x.operators.length ∧ s = p + 1) :
        ∃ shape', shape.Follows s shape' :=
      hs.2 ▸ ⟨_, .behind hfed ⟨p, hs.1⟩⟩
    have hungry (hhungry : shape.Hungry) (hs : s = x.ruleSymbol ∨ s = x.operandSymbol) :
        ∃ shape', shape.Follows s shape' := by
      rcases hs with rfl | rfl
      · cases shape with
        | start => exact ⟨_, .whole⟩
        | behind i => exact ⟨_, .complete i⟩
        | _ => exact hhungry.elim
      · exact ⟨_, .operand hhungry⟩
    cases shape with
    | start | behind =>
      refine hungry trivial ?_
      simp only [item, Fed, Hungry, mk_eq_iff, true_and, false_and, or_false, ruleSymbol,
        operandSymbol] at h ⊢
      omega
    | whole | complete =>
      refine @fed trivial p ?_
      simp only [item, Fed, Hungry, mk_eq_iff, true_and, false_and, or_false, ruleSymbol,
        operandSymbol] at h ⊢
      omega
    | operand =>
      simp only [item, Fed, Hungry, mk_eq_iff, false_and, or_false] at h
      omega

theorem item_mem_kernel (shape : x.Shape) : shape.item ∈ shape.kernel := .inl rfl

theorem kernel_injective : Function.Injective (kernel (x := x)) := by
  intro shape shape' h
  have hmem : shape.item ∈ shape'.kernel := h ▸ shape.item_mem_kernel
  have hitem : shape.item = shape'.item := by
    refine hmem.resolve_right fun ⟨_, hdot, hlt⟩ => ?_
    cases shape with
    | whole => exact absurd hlt (Nat.not_lt.2 (Nat.le_succ _))
    | operand => exact absurd hlt (Nat.lt_irrefl _)
    | start | behind | complete => simp [item] at hdot
  cases shape <;> cases shape' <;> simp [item, Fin.ext_iff] at hitem ⊢
  all_goals assumption

/-- All shapes that there are. -/
def all (x : OperatorGrammar) : List x.Shape :=
  [start, whole, operand] ++ (List.finRange x.operators.length).map behind ++
    (List.finRange x.operators.length).map complete

theorem mem_all (shape : x.Shape) : shape ∈ all x := by
  cases shape <;> simp [all]

theorem nodup_all : (all x).Nodup := by
  have operators := List.nodup_finRange x.operators.length
  have behinds := operators.map (f := behind (x := x)) fun _ _ h => behind.inj h
  have completes := operators.map (f := complete (x := x)) fun _ _ h => complete.inj h
  refine List.nodup_append.2 ⟨List.nodup_append.2 ⟨by simp, behinds, ?_⟩, completes, ?_⟩ <;> simp

theorem length_all : (all x).length = 2 * x.operators.length + 3 := by
  simp [all]
  omega

end Shape

theorem isKernel_iff {kernel : Set Item} :
    Lr.IsKernel x.flat kernel ↔ ∃ shape : x.Shape, shape.kernel = kernel := by
  have start : (Shape.start (x := x)).kernel = {x.flat.startItem} := by
    rw [FlatGrammar.startItem, FlatGrammar.augmented, size_productions]
    ext i
    simp [Shape.kernel, Shape.item, Shape.Fed]
  constructor
  · intro h
    induction h with
    | start => exact ⟨.start, start⟩
    | successor _ hne ih =>
      obtain ⟨shape, rfl⟩ := ih
      obtain ⟨shape', follows⟩ := Shape.exists_follows hne
      exact ⟨shape', (Shape.successor_of_follows follows).symm⟩
  · rintro ⟨shape, rfl⟩
    have step {shape shape' : x.Shape} {s : SymbolId} (h : Lr.IsKernel x.flat shape.kernel)
        (follows : shape.Follows s shape') : Lr.IsKernel x.flat shape'.kernel := by
      have leads := Shape.successor_of_follows follows
      exact leads ▸ .successor h (leads ▸ ⟨_, shape'.item_mem_kernel⟩)
    have first : Lr.IsKernel x.flat (Shape.start (x := x)).kernel := start ▸ .start
    have whole := step first .whole
    have fed : (Shape.whole (x := x)).Fed := trivial
    cases shape with
    | start => exact first
    | whole => exact whole
    | operand => exact step first (.operand trivial)
    | behind i => exact step whole (.behind fed i)
    | complete i => exact step (step whole (.behind fed i)) (.complete i)

theorem inRange (x : OperatorGrammar) : x.flat.InRange := by
  obtain ⟨_, _, _, _, -, flattened, -⟩ := Grammar.exists_flattened x.flatten_eq
  exact flattened.inRange_of_pos Nat.one_pos

/-- There is a state for each shape, so the number of operators decides. -/
theorem exists_automaton_iff (x : OperatorGrammar) :
    (∃ a, Automaton.ofGrammar x.flat (.ofGrammar x.flat) = some a) ↔
      2 * x.operators.length + 3 ≤ maxStates := by
  have kernels (kernel : Set Item) : Lr.IsKernel x.flat kernel ↔
      kernel ∈ (Shape.all x).map Shape.kernel := by
    rw [isKernel_iff, List.mem_map]
    exact exists_congr fun shape => (and_iff_right shape.mem_all).symm
  rw [Automaton.exists_ofGrammar_iff x.inRange (Shape.nodup_all.map Shape.kernel_injective) kernels,
    List.length_map, Shape.length_all]

end IncrementalGlr.OperatorGrammar
