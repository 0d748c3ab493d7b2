import Mathlib.Data.List.Permutation
import IncrementalGlr.Proofs.Lr.Machine

/-!
The machine takes just the texts of the grammar. On its stack lie states that transitions join, along
symbols that derive the terminals taken so far (`Steps.derives`). The other way, by induction on a
derivation tree, the machine can take the text that the rest of a production yields and end up with
the mark of its item behind it (`reaches_of_weighs`). Together: `accepts_iff_derives`.
-/
namespace IncrementalGlr

variable {g : FlatGrammar} {a : Automaton} (b : a.Built g) (hg : g.InRange)

namespace Automaton

/-- The states on a stack, joined by transitions along these symbols; the topmost comes first. -/
inductive Path (a : Automaton) : List StateId → List SymbolId → Prop where
  | start : Path a [0] []
  | push {q r x : Nat} {s : LrState} {stack symbols : List Nat} (h : Path a (q :: stack) symbols)
      (hs : a.states[q]? = some s) (hx : (x, r) ∈ s.transitions) :
      Path a (r :: q :: stack) (x :: symbols)

namespace Path

/-- States can be taken off the stack, with as many symbols. -/
theorem drop {stack symbols : List Nat} (h : a.Path stack symbols) {n : Nat} {q : Nat}
    {stack' : List Nat} (hn : stack.drop n = q :: stack') :
    a.Path (q :: stack') (symbols.drop n) := by
  induction h generalizing n with
  | start =>
    cases n with
    | zero => exact hn ▸ .start
    | succ n => simp at hn
  | push h hs hx ih =>
    cases n with
    | zero => exact hn ▸ .push h hs hx
    | succ n => exact ih hn

include b hg in
/-- What stands before the mark of an item of the topmost state lies on top of the stack. Below it,
if a whole text is to be made, lies nothing. -/
theorem symbols_of_has {stack symbols : List Nat} (h : a.Path stack symbols) {q : Nat}
    {stack' : List Nat} (hq : stack = q :: stack') {s : LrState} (hs : a.states[q]? = some s)
    {i : Item} (hi : s.Has i) :
    ∃ below, symbols = ((g.rhs i.production).take i.dot).reverse ++ below ∧
      i.dot ≤ (g.rhs i.production).length ∧ (i.production = g.augmented → below = []) := by
  induction h generalizing q stack' s i with
  | start =>
    obtain ⟨rfl, -⟩ := List.cons.inj hq
    have dot : i.dot = 0 := by
      rcases b.has_first hs hi with rfl | h
      · rfl
      · exact h.1
    exact ⟨[], by rw [dot]; rfl, by rw [dot]; exact Nat.zero_le _, fun _ => rfl⟩
  | @push p r x before stack symbols h hp hx ih =>
    obtain ⟨rfl, -⟩ := List.cons.inj hq
    rcases b.has_of_transition hg hp hx hs hi with ⟨j, hj, hn, rfl⟩ | ⟨dot, hlt⟩
    · obtain ⟨below, rfl, -, haug⟩ := ih rfl hp hj
      obtain ⟨hdot, rfl⟩ := List.getElem?_eq_some_iff.1 hn
      refine ⟨below, ?_, hdot, haug⟩
      show _ = ((g.rhs j.production).take (j.dot + 1)).reverse ++ below
      rw [← List.take_append_getElem hdot, List.reverse_append]
      rfl
    · exact ⟨x :: symbols, by rw [dot]; rfl, by rw [dot]; exact Nat.zero_le _,
        fun heq => absurd heq (Nat.ne_of_lt hlt)⟩

include b hg in
/-- Below what stands before the mark of an item lies a state in which the item began. -/
theorem has_first_of_has {stack symbols : List Nat} (h : a.Path stack symbols) {q : Nat}
    {below : List Nat} (hq : stack = q :: below) {s : LrState} (hs : a.states[q]? = some s)
    {i : Item} (hi : s.Has i) :
    ∃ q' below' s', stack.drop i.dot = q' :: below' ∧ a.states[q']? = some s' ∧
      s'.Has ⟨i.production, 0⟩ := by
  have begun {q : Nat} {below : List Nat} {s : LrState} {i : Item} (hs : a.states[q]? = some s)
      (hi : s.Has i) (hdot : i.dot = 0) :
      ∃ q' below' s', (q :: below).drop i.dot = q' :: below' ∧ a.states[q']? = some s' ∧
        s'.Has ⟨i.production, 0⟩ := by
    obtain ⟨p, dot⟩ := i
    obtain rfl : dot = 0 := hdot
    exact ⟨q, below, s, rfl, hs, hi⟩
  induction h generalizing q below s i with
  | start =>
    obtain ⟨rfl, rfl⟩ := List.cons.inj hq
    refine begun hs hi ?_
    rcases b.has_first hs hi with rfl | h
    · rfl
    · exact h.1
  | @push p r x stack symbols st h hp hx ih =>
    obtain ⟨rfl, rfl⟩ := List.cons.inj hq
    rcases b.has_of_transition hg hp hx hs hi with ⟨j, hj, hn, rfl⟩ | ⟨hdot, -⟩
    · exact ih rfl hp hj
    · exact begun hs hi hdot

end Path

end Automaton

namespace Machine

/-! ## Soundness -/

/-- The stack is one of the automaton's, and its symbols derive what was taken of the text. -/
def Follows (g : FlatGrammar) (a : Automaton) (text : List SymbolId) (m : Machine) : Prop :=
  ∃ symbols taken, a.Path m.stack symbols ∧ text = taken ++ m.input ∧
    g.Derives symbols.reverse taken

include b hg

/-- A complete item of the topmost state, and the symbols it is made of. -/
theorem symbols_of_reduce {q t p : Nat} {stack symbols : List Nat}
    (h : a.Path (q :: stack) symbols)
    (hp : .reduce p ∈ (ActionTable.ofAutomaton g a).actionsAt q t) :
    ∃ below, symbols = (g.rhs p).reverse ++ below := by
  obtain ⟨s, i, hs, -, hi, hn, rfl, -⟩ := Automaton.Built.complete_of_reduce hp
  obtain ⟨below, hsym, -⟩ := h.symbols_of_has b hg rfl hs hi
  rw [List.take_of_length_le (List.getElem?_eq_none_iff.1 hn)] at hsym
  exact ⟨below, hsym⟩

/-- Where symbols can be replaced by a nonterminal, the state below them leads on along it. -/
theorem exists_goto_of_reduce {q t p : Nat} {stack symbols : List Nat}
    (h : a.Path (q :: stack) symbols)
    (hp : .reduce p ∈ (ActionTable.ofAutomaton g a).actionsAt q t) :
    ∃ production q' stack' r, g.productions[p]? = some production ∧
      (q :: stack).drop production.rhs.length = q' :: stack' ∧
      (ActionTable.ofAutomaton g a).gotoAt g q' production.lhs = some r := by
  obtain ⟨s, i, hs, -, hi, hn, rfl, hne⟩ := Automaton.Built.complete_of_reduce hp
  have hlt := Nat.lt_of_le_of_ne (b.production_le hs hi) hne
  have hprod := getElem?_pos g.productions i.production hlt
  obtain ⟨-, -, hle, -⟩ := h.symbols_of_has b hg rfl hs hi
  have hdot : i.dot = (g.productions[i.production]).rhs.length := by
    rw [← FlatGrammar.rhs_of_getElem? hprod]
    exact Nat.le_antisymm hle (List.getElem?_eq_none_iff.1 hn)
  obtain ⟨q', stack', s', hdrop, hs', hi'⟩ := h.has_first_of_has b hg rfl hs hi
  obtain ⟨r, hr⟩ := b.exists_transition_of_first hg hs' hprod hi'
  refine ⟨_, q', stack', r, hprod, hdot ▸ hdrop, ?_⟩
  rw [Automaton.Built.gotoAt_eq hs' (hg.lhs _ (Array.getElem_mem hlt)), hr]

/-- Where a text is accepted, the start symbol is all that lies on the stack. -/
theorem symbols_of_accept {q t : Nat} {stack symbols : List Nat}
    (h : a.Path (q :: stack) symbols)
    (hp : .accept ∈ (ActionTable.ofAutomaton g a).actionsAt q t) : symbols = [g.start] := by
  obtain ⟨-, s, i, hs, hi, hn, haug⟩ := Automaton.Built.complete_of_accept hp
  obtain ⟨below, rfl, -, hbelow⟩ := h.symbols_of_has b hg rfl hs hi
  rw [hbelow haug, List.take_of_length_le (List.getElem?_eq_none_iff.1 hn), haug,
    FlatGrammar.augmented, FlatGrammar.rhs_augmented]
  rfl

/-- Symbols that are replaced by a nonterminal give way to it. -/
theorem path_of_reduce {q q' r t p : Nat} {production : Production}
    {stack stack' symbols : List Nat} (h : a.Path (q :: stack) symbols)
    (ha : .reduce p ∈ (ActionTable.ofAutomaton g a).actionsAt q t)
    (hp : g.productions[p]? = some production)
    (hstack : (q :: stack).drop production.rhs.length = q' :: stack')
    (hr : (ActionTable.ofAutomaton g a).gotoAt g q' production.lhs = some r) :
    ∃ below, symbols = production.rhs.reverse ++ below ∧
      a.Path (r :: q' :: stack') (production.lhs :: below) := by
  obtain ⟨below, rfl⟩ := symbols_of_reduce b hg h ha
  rw [FlatGrammar.rhs_of_getElem? hp] at h ⊢
  obtain ⟨s, hs⟩ := Automaton.Built.exists_state_of_gotoAt hr
  rw [Automaton.Built.gotoAt_eq hs (hg.lhs _ (Array.mem_of_getElem? hp))] at hr
  obtain ⟨-, -, -, -, hx, -⟩ := b.has_of_lookup hg hs hr
  have popped := h.drop hstack
  rw [List.drop_left' (List.length_reverse)] at popped
  exact ⟨below, rfl, popped.push hs hx⟩

variable (he : g.Even)
include he

theorem Follows.step {text : List SymbolId} {m m' : Machine} (hm : m.Follows g a text)
    (h : Step g (ActionTable.ofAutomaton g a) m m') : m'.Follows g a text := by
  obtain ⟨symbols, taken, path, htext, derives⟩ := hm
  cases h with
  | @shift q r t stack input h =>
    obtain ⟨s, hs, ht⟩ := Automaton.Built.exists_state_of_mem_actionsAt h
    rw [b.actionsAt_eq hg hs he ht, Cell.shift_mem_actions] at h
    obtain ⟨-, -, -, -, hx, -⟩ := b.has_of_lookup hg hs (x := t) h
    refine ⟨t :: symbols, taken ++ [t], path.push hs hx, ?_, ?_⟩
    · rw [htext, List.append_assoc]
      rfl
    · rw [List.reverse_cons]
      exact derives.append_right [t]
  | @reduce q q' r t p production stack stack' input h hp hstack hr =>
    obtain ⟨below, rfl, reduced⟩ := path_of_reduce b hg path h hp hstack hr
    have hmem : production ∈ g.productions := FlatGrammar.mem_productions_iff.2 ⟨p, hp⟩
    refine ⟨production.lhs :: below, taken, reduced, htext, ?_⟩
    have made : g.Derives (below.reverse ++ [production.lhs])
        (below.reverse ++ production.rhs) :=
      (FlatGrammar.Derives.rule hmem).append_left below.reverse
    rw [List.reverse_append, List.reverse_reverse] at derives
    rw [List.reverse_cons]
    exact made.trans derives

/-- What holds of the machine at the beginning holds after every step. -/
theorem Follows.steps {text : List SymbolId} {m m' : Machine} (hm : m.Follows g a text)
    (h : Steps g (ActionTable.ofAutomaton g a) m m') : m'.Follows g a text := by
  induction h with
  | refl => exact hm
  | tail _ step ih => exact ih.step b hg he step

theorem derives_of_accepts {w : List SymbolId}
    (h : Accepts g (ActionTable.ofAutomaton g a) w) : g.Derives [g.start] w := by
  obtain ⟨q, stack, steps, accept⟩ := h
  have initial : (⟨[0], w ++ [endSymbol]⟩ : Machine).Follows g a (w ++ [endSymbol]) :=
    ⟨[], [], .start, rfl, .refl⟩
  obtain ⟨symbols, taken, path, htext, derives⟩ := initial.steps b hg he steps
  obtain rfl : w = taken := List.append_cancel_right htext
  obtain rfl := symbols_of_accept b hg path accept
  exact derives

/-! ## Completeness -/

/-- The machine can come to where `n` states more are on the stack and the topmost expects the
item, with these dynamic precedences. -/
def Reaches (g : FlatGrammar) (a : Automaton) (m : Machine) (n : Nat) (i : Item)
    (input : List SymbolId) (d : Int) : Prop :=
  ∃ q stack s t rest, Runs g (ActionTable.ofAutomaton g a) m ⟨q :: stack, input⟩ d ∧
    (q :: stack).drop n = m.stack ∧ input = t :: rest ∧ a.states[q]? = some s ∧ s.Expects i t

omit b hg he in
/-- One step, which puts a state on the stack, before the others. -/
theorem Reaches.after {m m' : Machine} {n r : Nat} {i : Item} {input : List SymbolId} {d d' : Int}
    (h : m'.Reaches g a n i input d) (hm : Runs g (ActionTable.ofAutomaton g a) m m' d')
    (hr : m'.stack = r :: m.stack) : m.Reaches g a (n + 1) i input (d' + d) := by
  obtain ⟨q, stack, s, t, rest, runs, hdrop, hinput, hs, hi⟩ := h
  refine ⟨q, stack, s, t, rest, hm.trans runs, ?_, hinput, hs, hi⟩
  rw [← List.drop_drop, hdrop, hr]
  rfl

/-- The machine takes what the symbols behind a mark yield. -/
theorem reaches_of_weighs {symbols text : List SymbolId} {d : Int} (h : g.Weighs symbols text d)
    {q t : Nat} (stack rest : List Nat) {s : LrState} {i : Item} (hs : a.states[q]? = some s)
    (hi : s.Expects i t) (hsym : (g.rhs i.production).drop i.dot = symbols) :
    (⟨q :: stack, text ++ t :: rest⟩ : Machine).Reaches g a symbols.length
      ⟨i.production, i.dot + symbols.length⟩ (t :: rest) d := by
  -- Along the derivation, for every state that expects the item: a terminal is shifted; what a
  -- nonterminal derives is gone through and then reduced.
  induction h generalizing q t stack rest s i with
  | nil => exact ⟨q, stack, s, t, rest, .refl _, rfl, rfl, hs, hi⟩
  | @terminal x symbols text d hx _ ih =>
    obtain ⟨hn, hrest⟩ := Item.next_of_drop hsym
    obtain ⟨r, s', hlookup, hs', hi'⟩ := b.expects_advance hg hs hi hn
    have shift : Runs g (ActionTable.ofAutomaton g a) ⟨q :: stack, x :: (text ++ t :: rest)⟩
        ⟨r :: q :: stack, text ++ t :: rest⟩ 0 := by
      refine .shift ?_ (.refl _)
      rw [b.actionsAt_eq hg hs he hx]
      exact Cell.shift_mem_actions.2 hlookup
    have moved := ih (q :: stack) rest hs' hi' hrest
    rw [show i.advance.dot + symbols.length = i.dot + (x :: symbols).length by
      simp [Item.advance]; omega] at moved
    exact Int.zero_add d ▸ moved.after shift rfl
  | @rule p symbols u text d d' hp hu hw ihu ihw =>
    obtain ⟨hn, hrest⟩ := Item.next_of_drop hsym
    obtain ⟨number, hnumber⟩ := FlatGrammar.mem_productions_iff.1 hp
    obtain ⟨t', rest', ht'⟩ : ∃ t' rest', text ++ t :: rest = t' :: rest' :=
      List.exists_cons_of_ne_nil (by simp)
    -- The state expects the production from its beginning on, before the terminal that comes next.
    have brought : s.Expects ⟨number, 0⟩ t' :=
      b.expects_of_yields hg hs hi hn (decide_eq_false (Nat.not_lt.2 (hg.lhs p hp).1))
        (hrest ▸ hw.yields) ht' (FlatGrammar.mem_productionsOf.2 ⟨p, hnumber, rfl⟩)
    have hrhs := FlatGrammar.rhs_of_getElem? hnumber
    obtain ⟨top, stack', s', t'', rest'', runs, hdrop, hinput, hs', hi'⟩ :=
      ihu stack rest' hs brought hrhs
    obtain ⟨rfl, rfl⟩ := List.cons.inj hinput
    obtain ⟨r, s'', hlookup, hs'', hi''⟩ := b.expects_advance hg hs hi hn
    have reduce : Runs g (ActionTable.ofAutomaton g a) ⟨top :: stack', t' :: rest'⟩
        ⟨r :: q :: stack, t' :: rest'⟩ (p.dynamicPrecedence + 0) := by
      refine .reduce ?_ hnumber hdrop ((Automaton.Built.gotoAt_eq hs (hg.lhs p hp)).trans hlookup)
        (.refl _)
      rw [b.actionsAt_eq hg hs' he (b.lt_of_expects hg hs' hi')]
      refine Cell.reduce_mem_actions.2 (Cell.mem_reduces_ofState.2 ⟨?_, _, hi', ?_, rfl⟩)
      · exact Nat.ne_of_lt (Array.getElem?_eq_some_iff.1 hnumber).1
      · exact List.getElem?_eq_none (by simp [hrhs])
    have moved := ihw (q :: stack) rest hs'' hi'' hrest
    rw [show i.advance.dot + symbols.length = i.dot + (p.lhs :: symbols).length by
      simp [Item.advance]; omega] at moved
    have before : Runs g (ActionTable.ofAutomaton g a) ⟨q :: stack, u ++ text ++ t :: rest⟩
        ⟨r :: q :: stack, text ++ t :: rest⟩ (p.dynamicPrecedence + d) := by
      rw [List.append_assoc, ht', Int.add_comm]
      exact Int.add_zero p.dynamicPrecedence ▸ runs.trans reduce
    exact moved.after before rfl

/-- For every derivation tree of a text the machine has a way to accept the text with the dynamic
precedences of the tree. -/
theorem acceptsFrom_of_weighs {w : List SymbolId} {d : Int} (h : g.Weighs [g.start] w d) :
    AcceptsFrom g (ActionTable.ofAutomaton g a) ⟨[0], w ++ [endSymbol]⟩ d := by
  obtain ⟨s, hs, hi⟩ := b.expects_start hg
  have hrhs : g.rhs g.startItem.production = [g.start] := FlatGrammar.rhs_augmented
  obtain ⟨q, stack, s', t, rest, runs, -, hinput, hs', hi'⟩ :=
    reaches_of_weighs b hg he h [] [] hs hi hrhs
  obtain ⟨rfl, rfl⟩ := List.cons.inj hinput
  refine ⟨q, stack, runs, ?_⟩
  rw [b.actionsAt_eq (t := endSymbol) hg hs' he hg.endSymbol, Cell.accept_mem_actions, Cell.accept_ofState]
  refine ⟨rfl, _, hi', List.getElem?_eq_none ?_, rfl⟩
  rw [hrhs]
  exact Nat.le_refl _

theorem accepts_of_yields {w : List SymbolId} (h : g.Yields [g.start] w) :
    Accepts g (ActionTable.ofAutomaton g a) w := by
  obtain ⟨d, hd⟩ := h.exists_weighs
  obtain ⟨q, stack, runs, accept⟩ := acceptsFrom_of_weighs b hg he hd
  exact ⟨q, stack, runs.steps, accept⟩

end Machine

/-- One terminal any number of times: nonterminal 2 is nothing, or terminal 1 and nonterminal 2. -/
def repetition : FlatGrammar where
  name := "repetition"
  symbols := #[]
  terminalCount := 2
  nonterminalCount := 1
  externalCount := 0
  fields := []
  productions := #[{ lhs := 2, children := [] },
    { lhs := 2, children := [{ symbol := 1 }, { symbol := 2 }] }]
  start := 2
  terminals := #[]
  padding := none
  extras := []
  word := none
  recovery := []
  conflicts := []
  owners := #[]

end IncrementalGlr
