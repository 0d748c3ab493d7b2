import IncrementalGlr.Compile
import IncrementalGlr.Proofs.Lr.Determined
import IncrementalGlr.Proofs.Operators.States

/-!
The actions of a parser of operators. Only in a state behind two expressions around an operator, at
another operator, there is something to be decided; the precedences and the associativity of the two
always decide it, and as `Operator.FitsLeft` says. So each cell of the table is known
(`Stands.actionsAt_complete` and the lemmas beside it), no cell has two actions (`determined`), and
nothing is reported when the grammar is compiled (`compile_eq`).
-/
namespace IncrementalGlr

/-- What is chosen by precedence first and then by associativity is chosen by what fits to the left. -/
theorem Operator.choice_eq {o p : Operator} {α : Type} {reduce shift both : α} :
    (if p.precedence < o.precedence then reduce
      else if o.precedence < p.precedence then shift
      else if o.associativity = .left then reduce
      else if o.associativity = .right then shift
      else both) = if o.FitsLeft p then reduce else shift := by
  rcases Int.lt_trichotomy p.precedence o.precedence with h | h | h
  · have fits : o.FitsLeft p := .inl h
    rw [if_pos h, if_pos fits]
  · cases hleft : o.left with
    | true =>
      have fits : o.FitsLeft p := .inr ⟨h.symm, hleft⟩
      simp [fits, h, associativity, hleft]
    | false =>
      have not_fits : ¬ o.FitsLeft p := by simp [FitsLeft, h, hleft]
      simp [not_fits, h, associativity, hleft]
  · have not_fits : ¬ o.FitsLeft p := by
      unfold FitsLeft
      omega
    rw [if_neg (Int.not_lt.2 (Int.le_of_lt h)), if_pos h, if_neg not_fits]

namespace OperatorGrammar

variable {x : OperatorGrammar} {a : Automaton} {q r : StateId} {shape shape' : x.Shape}

/-- The state of the automaton has this shape. -/
def Stands (a : Automaton) (q : StateId) (shape : x.Shape) : Prop :=
  ∃ s, a.states[q]? = some s ∧ s.core = shape.kernel

/-! ## Cells without a choice among reductions -/

section Cell

variable {g : FlatGrammar} {c : Cell}

theorem actions_resolve_of_nil (h : c.reduces = []) : (c.resolve g).actions =
    (c.shift.map .shift).toList ++ if c.accept then [.accept] else [] := by
  have kept : c.keepStrongest g = c := Cell.keepStrongest_eq (n := 0) (by simp [h])
  have chosen : c.chooseShift g = c := Cell.chooseShift_eq (n := 0) (by simp [h]) fun _ hne =>
    absurd h hne
  rw [Cell.resolve, kept, chosen, Cell.actions, h]
  rfl

/-- A single reduction competes with the shift. -/
theorem actions_resolve_of_single {p : ProductionId} (h : c.reduces = [p])
    (haccept : c.accept = false) : (c.resolve g).actions =
      match c.shift with
      | none => [.reduce p]
      | some r =>
        if c.shiftPrecedence < g.precedenceOf p then [.reduce p]
        else if g.precedenceOf p < c.shiftPrecedence then [.shift r]
        else if g.associativityOf p = .left then [.reduce p]
        else if g.associativityOf p = .right then [.shift r]
        else [.reduce p, .shift r] := by
  have kept : c.keepStrongest g = c :=
    Cell.keepStrongest_eq (n := g.precedenceOf p) (by simp [h])
  rw [Cell.resolve, kept, Cell.chooseShift, h]
  cases hshift : c.shift with
  | none => simp [Cell.actions, h, hshift, haccept]
  | some r =>
    simp only [List.map_cons, List.map_nil, greatest, List.foldl_nil, List.all_cons, List.all_nil,
      Bool.and_true, beq_iff_eq]
    split_ifs <;> simp [Cell.actions, h, hshift, haccept]

end Cell

/-! ## Rows -/

/-- The symbols that lead to a state, if no more are read than have to be. -/
def Shape.row : x.Shape → List SymbolId
  | start => []
  | whole => [x.ruleSymbol]
  | operand => [x.operandSymbol]
  | behind i => [x.ruleSymbol, i + 1]
  | complete i => [x.ruleSymbol, i + 1, x.ruleSymbol]

theorem yields_operand (x : OperatorGrammar) : x.flat.Yields [x.ruleSymbol] [x.operandSymbol] :=
  FlatGrammar.Yields.of_rule (FlatGrammar.mem_productions_iff.2 ⟨_, getElem?_operand⟩)
    (.terminal (Nat.lt_succ_self _) .nil)

/-- Any production may come first, and what follows it is the end or an operator. -/
theorem arises_first {p t : Nat} (hp : p ≤ x.operators.length) (ht : t ≤ x.operators.length) :
    x.flat.Arises [] ⟨p, 0⟩ t := by
  have atEnd {p : Nat} (hp : p ≤ x.operators.length) : x.flat.Arises [] ⟨p, 0⟩ endSymbol :=
    .bring .start (next_eq_some_iff.2 (.inr (.inr ⟨size_productions x, rfl, rfl⟩)))
      (mem_productionsOf.2 ⟨rfl, hp⟩) (w := []) (by
        rw [Item.rest, FlatGrammar.startItem, FlatGrammar.augmented, size_productions, rhs_augmented]
        exact .nil) rfl
  cases t with
  | zero => exact atEnd hp
  | succ j =>
    have hj : j < x.operators.length := ht
    refine .bring (atEnd (Nat.le_of_lt hj)) (next_eq_some_iff.2 (.inl ⟨hj, .inl ⟨rfl, rfl⟩⟩))
      (mem_productionsOf.2 ⟨rfl, hp⟩) (w := [j + 1, x.operandSymbol]) ?_ rfl
    rw [Item.rest, rhs_operator hj]
    exact .terminal (Nat.lt_succ_of_lt (Nat.succ_lt_succ hj)) x.yields_operand

theorem arises_complete (i : Fin x.operators.length) {t : Nat} (ht : t ≤ x.operators.length) :
    x.flat.Arises (Shape.complete i).row ⟨i, 3⟩ t := by
  have := (arises_first (Nat.le_of_lt i.2) ht).take (n := 3) (by rw [rhs_operator i.2]; rfl)
  rwa [rhs_operator i.2] at this

theorem arises_operand {t : Nat} (ht : t ≤ x.operators.length) :
    x.flat.Arises (Shape.operand (x := x)).row ⟨x.operators.length, 1⟩ t := by
  have := (arises_first (x := x) (Nat.le_refl _) ht).take (n := 1) (by rw [rhs_operand]; rfl)
  rwa [rhs_operand] at this

theorem arises_whole :
    x.flat.Arises (Shape.whole (x := x)).row ⟨x.operators.length + 1, 1⟩ endSymbol := by
  have next : x.flat.startItem.next x.flat = some x.ruleSymbol :=
    next_eq_some_iff.2 (.inr (.inr ⟨size_productions x, rfl, rfl⟩))
  have advanced := FlatGrammar.Arises.advance .start next
  rwa [FlatGrammar.startItem, FlatGrammar.augmented, size_productions] at advanced

/-- The production that has been read to its end, if the state is not that of the whole text. -/
def Shape.finished : x.Shape → Option ProductionId
  | operand => some x.operators.length
  | complete i => some i
  | start | whole | behind _ => none

theorem Shape.not_hungry_of_next (h : shape.item.next x.flat = none) : ¬ shape.Hungry := by
  intro hungry
  rw [hungry.next_item] at h
  cases h

theorem precedenceOf_operator (i : Fin x.operators.length) :
    x.flat.precedenceOf i = (x.operators.get i).precedence := by
  rw [FlatGrammar.precedenceOf, getElem?_operator i.2]
  rfl

theorem associativityOf_operator (i : Fin x.operators.length) :
    x.flat.associativityOf i = (x.operators.get i).associativity := by
  rw [FlatGrammar.associativityOf, getElem?_operator i.2]
  rfl

/-! ## States -/

section Built

variable (b : a.Built x.flat)
include b

theorem exists_stands (shape : x.Shape) (hf : b.found.Searched) : ∃ q, Stands a q shape := by
  obtain ⟨q, s, hs, hcore⟩ := (b.isKernel_iff x.inRange hf).1 (isKernel_iff.2 ⟨shape, rfl⟩)
  exact ⟨q, s, hs, hcore⟩

theorem exists_shape (hf : b.found.Searched) {s : LrState} (hs : a.states[q]? = some s) :
    ∃ shape : x.Shape, Stands a q shape := by
  obtain ⟨shape, hshape⟩ := isKernel_iff.1 (b.isKernel_core x.inRange hf hs)
  exact ⟨shape, s, hs, hshape.symm⟩

namespace Stands

theorem unique (hf : b.found.Searched) (h : Stands a q shape) (h' : Stands a r shape) : q = r := by
  obtain ⟨s, hs, hcore⟩ := h
  obtain ⟨s', hs', hcore'⟩ := h'
  exact b.eq_of_core x.inRange hf hs hs' (hcore.trans hcore'.symm)

theorem start : Stands a 0 (.start (x := x)) := by
  obtain ⟨s, hs⟩ := b.exists_state b.explored.start
  refine ⟨s, hs, ?_⟩
  rw [b.core_eq x.inRange hs b.explored.start]
  ext i
  rw [Set.mem_ofPred_eq, List.mem_singleton, FlatGrammar.startItem, FlatGrammar.augmented,
    size_productions]
  simp [Shape.kernel, Shape.item, Shape.Fed]

theorem has_iff {s : LrState} (h : Stands a q shape) (hs : a.states[q]? = some s) {i : Item} :
    s.Has i ↔ i ∈ shape.kernel ∨ shape.Hungry ∧ i.dot = 0 ∧ i.production ≤ x.operators.length := by
  obtain ⟨s', hs', hcore⟩ := h
  obtain rfl := Option.some.inj (hs.symm.trans hs')
  rw [b.has_iff_brings x.inRange hs, hcore, Shape.brings_iff]

/-- Over the symbols that follow, and over no others, transitions lead on. -/
theorem lookup_eq_some_iff (hf : b.found.Searched) {s : LrState} (h : Stands a q shape)
    (hs : a.states[q]? = some s) {y : Nat} : s.transitions.lookup y = some r ↔
      ∃ shape', shape.Follows y shape' ∧ Stands a r shape' := by
  obtain ⟨s', hs', hcore⟩ := h
  obtain rfl := Option.some.inj (hs.symm.trans hs')
  have mem_of_lookup {r : StateId} (hr : s.transitions.lookup y = some r) :
      (y, r) ∈ s.transitions := by
    obtain ⟨l₁, l₂, hl, -⟩ := List.lookup_eq_some_iff.1 hr
    exact hl ▸ List.mem_append_right l₁ List.mem_cons_self
  constructor
  · intro hr
    obtain ⟨hne, target, htarget, heq⟩ :=
      (b.transition_iff x.inRange hf hs).1 (mem_of_lookup hr)
    rw [hcore] at hne heq
    obtain ⟨shape', follows⟩ := Shape.exists_follows hne
    exact ⟨shape', follows, target, htarget, heq.trans (Shape.successor_of_follows follows)⟩
  · rintro ⟨shape', follows, target, htarget, heq⟩
    have leads := Shape.successor_of_follows follows
    have hmem : (y, r) ∈ s.transitions := by
      refine (b.transition_iff x.inRange hf hs).2 ⟨?_, target, htarget, ?_⟩
      · exact hcore ▸ leads ▸ ⟨_, shape'.item_mem_kernel⟩
      · rw [heq, hcore, leads]
    cases hr : s.transitions.lookup y with
    | none => simpa using List.lookup_eq_none_iff.1 hr _ hmem
    | some r' => rw [b.eq_of_transitions x.inRange hf hs hmem (mem_of_lookup hr)]

/-- What arises along the shortest row to a state is expected there. -/
theorem expects (hf : b.found.Searched) {s : LrState} (h : Stands a q shape)
    (hs : a.states[q]? = some s) {i : Item} {t : SymbolId} (hi : x.flat.Arises shape.row i t) :
    s.Expects i t := by
  have step {q : StateId} {row : List SymbolId} {shape shape' : x.Shape} {y : SymbolId}
      (hrow : a.Leads row q) (hq : Stands a q shape) (follows : shape.Follows y shape') :
      ∃ r, a.Leads (row ++ [y]) r ∧ Stands a r shape' := by
    obtain ⟨s, hs, hcore⟩ := hq
    obtain ⟨r, hr⟩ := exists_stands b shape' hf
    obtain ⟨l₁, l₂, hl, -⟩ := List.lookup_eq_some_iff.1
      ((lookup_eq_some_iff b hf ⟨s, hs, hcore⟩ hs).2 ⟨shape', follows, hr⟩)
    exact ⟨r, hrow.step hs (hl ▸ List.mem_append_right l₁ List.mem_cons_self), hr⟩
  have leads : ∃ r, a.Leads shape.row r ∧ Stands a r shape := by
    have first := Stands.start b
    have fed : (Shape.whole (x := x)).Fed := trivial
    obtain ⟨_, hwhole, whole⟩ := step .start first .whole
    cases shape with
    | start => exact ⟨0, .start, first⟩
    | whole => exact ⟨_, hwhole, whole⟩
    | operand => exact step .start first (.operand trivial)
    | behind i => exact step hwhole whole (.behind fed i)
    | complete i =>
      obtain ⟨_, hbehind, behind⟩ := step hwhole whole (.behind fed i)
      exact step hbehind behind (.complete i)
  obtain ⟨r, hrow, hr⟩ := leads
  obtain rfl := hr.unique b hf h
  obtain ⟨s', hs', hexpects⟩ := b.expects_of_arises x.inRange hf hi hrow
  exact Option.some.inj (hs'.symm.trans hs) ▸ hexpects

/-! ## Cells -/

theorem item_of_next_eq_none {s : LrState} (h : Stands a q shape) (hs : a.states[q]? = some s)
    {i : Item} (hi : s.Has i) (hn : i.next x.flat = none) : i = shape.item := by
  obtain ⟨p, dot⟩ := i
  have some_of {y : Nat} (hy : (⟨p, dot⟩ : Item).next x.flat = some y) :
      (⟨p, dot⟩ : Item) = shape.item := by
    rw [hn] at hy
    cases hy
  rcases (h.has_iff b hs).1 hi with (h | ⟨-, hdot, hlt⟩) | ⟨-, hdot, hle⟩
  · exact h
  · exact some_of (next_eq_some_iff.2 (.inl ⟨hlt, .inr (.inl ⟨hdot, rfl⟩)⟩))
  · rcases Nat.lt_or_eq_of_le hle with hlt | heq
    · exact some_of (next_eq_some_iff.2 (.inl ⟨hlt, .inl ⟨hdot, rfl⟩⟩))
    · exact some_of (next_eq_some_iff.2 (.inr (.inl ⟨heq, hdot, rfl⟩)))

theorem finished_of_mem_reduces {s : LrState} (h : Stands a q shape) (hs : a.states[q]? = some s)
    {t : SymbolId} {p : ProductionId} (hp : p ∈ (Cell.ofState x.flat s t).reduces) :
    shape.finished = some p := by
  obtain ⟨hne, i, hi, hn, rfl⟩ := Cell.mem_reduces_ofState.1 hp
  obtain rfl := h.item_of_next_eq_none b hs hi.has hn
  have full := Shape.not_hungry_of_next hn
  cases shape with
  | operand | complete => rfl
  | start | behind => exact absurd trivial full
  | whole => exact absurd (size_productions x).symm hne

/-- What has been read to its end is reduced before an operator and at the end of the text. -/
theorem mem_reduces_of_finished (hf : b.found.Searched) {s : LrState} (h : Stands a q shape)
    (hs : a.states[q]? = some s) {t : Nat} (ht : t ≤ x.operators.length) {p : ProductionId}
    (hp : shape.finished = some p) : p ∈ (Cell.ofState x.flat s t).reduces := by
  have inside {p : Nat} (hle : p ≤ x.operators.length) : p ≠ x.flat.augmented := by
    rw [FlatGrammar.augmented, size_productions]
    exact Nat.ne_of_lt (Nat.lt_succ_of_le hle)
  refine Cell.mem_reduces_ofState.2 ?_
  cases shape with
  | operand =>
    obtain rfl := Option.some.inj hp
    refine ⟨inside (Nat.le_refl _), _, h.expects b hf hs (arises_operand ht), ?_, rfl⟩
    rw [Item.next, rhs_operand]
    rfl
  | complete i =>
    obtain rfl := Option.some.inj hp
    refine ⟨inside (Nat.le_of_lt i.2), _, h.expects b hf hs (arises_complete i ht), ?_, rfl⟩
    rw [Item.next, rhs_operator i.2]
    rfl
  | _ => cases hp

omit b in
theorem eq_singleton_of_nodup {α : Type} {l : List α} {y : α} (hnodup : l.Nodup)
    (hl : ∀ z ∈ l, z = y) (hy : y ∈ l) : l = [y] :=
  List.perm_singleton.1 ((List.perm_ext_iff_of_nodup hnodup (List.nodup_singleton y)).2 fun z =>
    ⟨fun hz => List.mem_singleton.2 (hl z hz), fun hz => List.mem_singleton.1 hz ▸ hy⟩)

/-- There is never more than one reduction. -/
theorem reduces_of_mem {s : LrState} (h : Stands a q shape) (hs : a.states[q]? = some s)
    {t : SymbolId} {p : ProductionId} (hp : p ∈ (Cell.ofState x.flat s t).reduces) :
    (Cell.ofState x.flat s t).reduces = [p] := by
  refine eq_singleton_of_nodup ?_ (fun p' hp' => ?_) hp
  · exact (List.mergeSort_perm _ _).nodup_iff.2 (Lr.nodup_eraseDups _)
  · exact Option.some.inj
      ((h.finished_of_mem_reduces b hs hp').symm.trans (h.finished_of_mem_reduces b hs hp))

theorem reduces_eq_nil {s : LrState} (h : Stands a q shape) (hs : a.states[q]? = some s)
    {t : SymbolId} (hshape : shape.finished = none) : (Cell.ofState x.flat s t).reduces = [] :=
  List.eq_nil_iff_forall_not_mem.2 fun p hp => by
    rw [h.finished_of_mem_reduces b hs hp] at hshape
    cases hshape

theorem accept_iff (hf : b.found.Searched) {s : LrState} (h : Stands a q shape)
    (hs : a.states[q]? = some s) {t : Nat} :
    (Cell.ofState x.flat s t).accept = true ↔ t = endSymbol ∧ shape = .whole := by
  rw [Cell.accept_ofState]
  constructor
  · rintro ⟨rfl, i, hi, hn, hp⟩
    refine ⟨rfl, ?_⟩
    obtain rfl := h.item_of_next_eq_none b hs hi.has hn
    rw [FlatGrammar.augmented, size_productions] at hp
    cases shape with
    | whole => rfl
    | start => exact absurd trivial (Shape.not_hungry_of_next hn)
    | operand => exact absurd hp (Nat.ne_of_lt (Nat.lt_succ_self _))
    | behind i | complete i => exact absurd hp (Nat.ne_of_lt (Nat.lt_succ_of_lt i.2))
  · rintro ⟨rfl, rfl⟩
    refine ⟨rfl, _, h.expects b hf hs arises_whole, ?_, (size_productions x).symm⟩
    rw [Item.next, rhs_augmented]
    rfl

theorem accept_eq_false (hf : b.found.Searched) {s : LrState} (h : Stands a q shape)
    (hs : a.states[q]? = some s) {t : Nat} (hshape : shape ≠ .whole) :
    (Cell.ofState x.flat s t).accept = false :=
  Bool.eq_false_iff.2 fun haccept => hshape ((h.accept_iff b hf hs).1 haccept).2

/-- Before an operator only the production with this operator goes on. -/
theorem shiftPrecedence_eq {s : LrState} (h : Stands a q shape) (hs : a.states[q]? = some s)
    (fed : shape.Fed) (j : Fin x.operators.length) :
    (Cell.ofState x.flat s (j + 1)).shiftPrecedence = (x.operators.get j).precedence := by
  have shifting : greatest ((s.items.filter fun e => e.1.next x.flat = some (j.1 + 1)).map
      fun e => x.flat.precedenceOf e.1.production) = some (x.operators.get j).precedence := by
    refine greatest_eq_some ?_ fun n hn => ?_
    · have hhas : s.Has ⟨j, 1⟩ := (h.has_iff b hs).2 (.inl (.inr ⟨fed, rfl, j.2⟩))
      obtain ⟨e, he, hitem⟩ := List.mem_map.1 hhas
      refine List.ne_nil_of_mem (List.mem_map_of_mem (List.mem_filter.2 ⟨he, decide_eq_true ?_⟩))
      rw [hitem]
      exact next_eq_some_iff.2 (.inl ⟨j.2, .inr (.inl ⟨rfl, rfl⟩)⟩)
    · obtain ⟨⟨⟨p, dot⟩, la⟩, he, rfl⟩ := List.mem_map.1 hn
      have hnext := next_eq_some_iff.1 (of_decide_eq_true (List.mem_filter.1 he).2)
      have hj := j.2
      have hp : @Eq Nat p j := by
        simp only [ruleSymbol, operandSymbol] at hnext
        omega
      exact hp ▸ precedenceOf_operator j
  show (greatest _).getD 0 = _
  rw [shifting, Option.getD_some]

/-- Between reducing one operator and shifting another precedence and associativity decide. -/
theorem actions_resolve_of_both (hf : b.found.Searched) {i j : Fin x.operators.length}
    {s : LrState} (h : Stands a q (.complete i)) (hs : a.states[q]? = some s)
    (hreduces : (Cell.ofState x.flat s (j + 1)).reduces = [↑i])
    (hshift : (Cell.ofState x.flat s (j + 1)).shift = some r) :
    ((Cell.ofState x.flat s (j + 1)).resolve x.flat).actions =
      if (x.operators.get i).FitsLeft (x.operators.get j) then [.reduce i] else [.shift r] := by
  rw [actions_resolve_of_single hreduces (h.accept_eq_false b hf hs nofun), hshift]
  simp only [h.shiftPrecedence_eq b hs trivial j, precedenceOf_operator, associativityOf_operator]
  exact Operator.choice_eq

theorem shift_eq_some_iff (hf : b.found.Searched) {s : LrState} (h : Stands a q shape)
    (hs : a.states[q]? = some s) {t : Nat} : (Cell.ofState x.flat s t).shift = some r ↔
      ∃ shape', shape.Follows t shape' ∧ Stands a r shape' :=
  h.lookup_eq_some_iff b hf hs

theorem actionsAt_complete (hf : b.found.Searched) {i : Fin x.operators.length}
    (h : Stands a q (.complete i)) (j : Fin x.operators.length) :
    ∃ r, Stands a r (.behind j) ∧ (ActionTable.ofAutomaton x.flat a).actionsAt q (j + 1) =
      if (x.operators.get i).FitsLeft (x.operators.get j) then [.reduce i] else [.shift r] := by
  have ⟨s, hs, _⟩ := h
  obtain ⟨r, hr⟩ := exists_stands b (.behind j) hf
  refine ⟨r, hr, ?_⟩
  rw [Automaton.Built.actionsAt_resolved hs (Nat.lt_succ_of_lt (Nat.succ_lt_succ j.2))]
  refine h.actions_resolve_of_both b hf hs ?_ ?_
  · exact h.reduces_of_mem b hs (h.mem_reduces_of_finished b hf hs j.2 rfl)
  · exact (h.shift_eq_some_iff b hf hs).2 ⟨_, @Shape.Follows.behind x (.complete i) trivial j, hr⟩

/-- What has been read to its end is replaced, where there is nothing to be shifted. -/
theorem actionsAt_eq_reduce (hf : b.found.Searched) (h : Stands a q shape) {t : Nat}
    (ht : t ≤ x.operators.length) {p : ProductionId} (hp : shape.finished = some p)
    (hshift : ∀ shape', ¬ shape.Follows t shape') :
    (ActionTable.ofAutomaton x.flat a).actionsAt q t = [.reduce p] := by
  have ⟨s, hs, _⟩ := h
  have hreduces := h.reduces_of_mem b hs (h.mem_reduces_of_finished b hf hs ht hp)
  have other : shape ≠ .whole := fun heq => by
    subst heq
    cases hp
  have none : (Cell.ofState x.flat s t).shift = none :=
    Option.eq_none_iff_forall_ne_some.2 fun r hr =>
      have ⟨shape', follows, _⟩ := (h.shift_eq_some_iff b hf hs).1 hr
      hshift shape' follows
  rw [Automaton.Built.actionsAt_resolved hs (Nat.lt_succ_of_lt (Nat.lt_succ_of_le ht)),
    actions_resolve_of_single hreduces (h.accept_eq_false b hf hs other), none]

/-- A symbol that may follow is taken, where there is nothing to be replaced. -/
theorem actionsAt_eq_shift (hf : b.found.Searched) (h : Stands a q shape) {t : Nat}
    (ht : t < x.operators.length + 2) (hshape : shape.finished = none) (hend : t ≠ endSymbol)
    (follows : shape.Follows t shape') : ∃ r, Stands a r shape' ∧
      (ActionTable.ofAutomaton x.flat a).actionsAt q t = [.shift r] := by
  have ⟨s, hs, _⟩ := h
  obtain ⟨r, hr⟩ := exists_stands b shape' hf
  have hshift := (h.shift_eq_some_iff b hf hs).2 ⟨shape', follows, hr⟩
  have no : (Cell.ofState x.flat s t).accept = false :=
    Bool.eq_false_iff.2 fun haccept => hend ((h.accept_iff b hf hs).1 haccept).1
  refine ⟨r, hr, ?_⟩
  rw [Automaton.Built.actionsAt_resolved hs ht,
    actions_resolve_of_nil (h.reduces_eq_nil b hs hshape), hshift, no]
  rfl

theorem actionsAt_complete_end (hf : b.found.Searched) {i : Fin x.operators.length}
    (h : Stands a q (.complete i)) :
    (ActionTable.ofAutomaton x.flat a).actionsAt q endSymbol = [.reduce i] :=
  h.actionsAt_eq_reduce b hf (Nat.zero_le _) rfl nofun

theorem actionsAt_operand (hf : b.found.Searched) (h : Stands a q (.operand (x := x))) {t : Nat}
    (ht : t ≤ x.operators.length) :
    (ActionTable.ofAutomaton x.flat a).actionsAt q t = [.reduce x.operators.length] :=
  h.actionsAt_eq_reduce b hf ht rfl fun _ follows => by
    cases follows with
    | operand hungry => exact hungry
    | behind fed => exact fed

theorem actionsAt_whole (hf : b.found.Searched) (h : Stands a q (.whole (x := x)))
    (j : Fin x.operators.length) : ∃ r, Stands a r (.behind j) ∧
      (ActionTable.ofAutomaton x.flat a).actionsAt q (j + 1) = [.shift r] :=
  h.actionsAt_eq_shift b hf (Nat.lt_succ_of_lt (Nat.succ_lt_succ j.2)) rfl (Nat.succ_ne_zero _)
    (@Shape.Follows.behind x .whole trivial j)

theorem actionsAt_whole_end (hf : b.found.Searched) (h : Stands a q (.whole (x := x))) :
    (ActionTable.ofAutomaton x.flat a).actionsAt q endSymbol = [.accept] := by
  have ⟨s, hs, _⟩ := h
  have none : (Cell.ofState x.flat s endSymbol).shift = none :=
    Option.eq_none_iff_forall_ne_some.2 fun r hr =>
      have ⟨shape', follows, _⟩ := (h.shift_eq_some_iff b hf hs).1 hr
      nomatch follows
  rw [Automaton.Built.actionsAt_resolved hs (Nat.succ_pos _),
    actions_resolve_of_nil (h.reduces_eq_nil b hs rfl), none, (h.accept_iff b hf hs).2 ⟨rfl, rfl⟩]
  rfl

theorem actionsAt_hungry (hf : b.found.Searched) (h : Stands a q shape) (hungry : shape.Hungry) :
    ∃ r, Stands a r (.operand (x := x)) ∧
      (ActionTable.ofAutomaton x.flat a).actionsAt q x.operandSymbol = [.shift r] := by
  refine h.actionsAt_eq_shift b hf (Nat.lt_succ_self _) ?_ (Nat.succ_ne_zero _) (.operand hungry)
  cases shape with
  | start | behind => rfl
  | _ => exact hungry.elim

end Stands

/-- In no cell there is anything left to be decided. -/
theorem determined (hf : b.found.Searched) : (ActionTable.ofAutomaton x.flat a).Determined := by
  intro q t
  cases hactions : (ActionTable.ofAutomaton x.flat a).actionsAt q t with
  | nil => exact Nat.zero_le 1
  | cons action rest =>
    obtain ⟨s, hs, ht⟩ := Automaton.Built.exists_state_of_mem_actionsAt
      (hactions ▸ List.mem_cons_self : action ∈ (ActionTable.ofAutomaton x.flat a).actionsAt q t)
    obtain ⟨shape, h⟩ := exists_shape b hf hs
    rw [← hactions, Automaton.Built.actionsAt_resolved hs ht]
    by_cases hreduces : (Cell.ofState x.flat s t).reduces = []
    · rw [actions_resolve_of_nil hreduces]
      cases haccept : (Cell.ofState x.flat s t).accept with
      | false => cases (Cell.ofState x.flat s t).shift <;> simp
      | true =>
        obtain ⟨rfl, rfl⟩ := (h.accept_iff b hf hs).1 haccept
        have only := h.actionsAt_whole_end b hf
        rw [Automaton.Built.actionsAt_resolved hs ht, actions_resolve_of_nil hreduces, haccept] at only
        rw [only]
        exact Nat.le_refl 1
    · obtain ⟨p, hp⟩ := List.exists_mem_of_ne_nil _ hreduces
      have finished := h.finished_of_mem_reduces b hs hp
      have single := h.reduces_of_mem b hs hp
      cases hshift : (Cell.ofState x.flat s t).shift with
      | none =>
        have other : shape ≠ .whole := fun heq => by
          subst heq
          cases finished
        rw [actions_resolve_of_single single (h.accept_eq_false b hf hs other), hshift]
        exact Nat.le_refl 1
      | some r =>
        obtain ⟨shape', follows, -⟩ := (h.shift_eq_some_iff b hf hs).1 hshift
        cases follows with
        | whole | complete => cases finished
        | operand hungry =>
          cases shape with
          | start | behind => cases finished
          | _ => exact hungry.elim
        | behind fed j =>
          cases shape with
          | complete i =>
            obtain rfl := Option.some.inj finished
            rw [h.actions_resolve_of_both b hf hs single hshift]
            split <;> exact Nat.le_refl 1
          | whole => cases finished
          | _ => exact fed.elim

end Built

/-! ## Compiling -/

theorem compileWithReports_eq (x : OperatorGrammar) :
    x.grammar.compileWithReports = Grammar.compileFlat x.flat := by
  rw [Grammar.compileWithReports, flatten_eq]
  rfl

/-- A grammar of operators compiles without conflicts and warnings, if its states fit in a table. -/
theorem compile_eq (x : OperatorGrammar) (few : 2 * x.operators.length + 3 ≤ maxStates) :
    ∃ compiled, x.grammar.compile = .ok (compiled, []) ∧ compiled.conflictCount = 0 := by
  obtain ⟨a, ha⟩ := x.exists_automaton_iff.2 few
  obtain ⟨b, hfound⟩ := Automaton.exists_found ha
  have determined := determined b (Lr.searched_of_states hfound)
  have reports := x.compileWithReports_eq
  rw [Grammar.compileFlat, ha] at reports
  refine ⟨⟨.ofActions x.flat (.ofAutomaton x.flat a), x.flat.productions.size, _⟩, ?_,
    determined.conflictCount_eq⟩
  rw [Grammar.compile, reports]
  simp only [determined.conflictReports_eq]
  rfl

/-- With too many operators nothing else is wrong with the grammar. -/
theorem compile_eq_error (x : OperatorGrammar) (many : maxStates < 2 * x.operators.length + 3) :
    x.grammar.compile = .error [{ finding := .tooManyStates maxStates }] := by
  have none : Automaton.ofGrammar x.flat (.ofGrammar x.flat) = none :=
    Option.eq_none_iff_forall_ne_some.2 fun a ha =>
      absurd (x.exists_automaton_iff.1 ⟨a, ha⟩) (Nat.not_le.2 many)
  rw [Grammar.compile, compileWithReports_eq, Grammar.compileFlat, none]

end OperatorGrammar

end IncrementalGlr
