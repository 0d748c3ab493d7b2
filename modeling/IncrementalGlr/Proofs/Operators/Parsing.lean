import IncrementalGlr.Proofs.Operators.Stack
import IncrementalGlr.Proofs.Tree.Sentences

/-!
Parsing with a grammar of operators. A text of operands with operators between them is parsed without
an error, and its tree groups the operands as the operators bind (`OperatorGrammar.parse_groups`).
-/
namespace IncrementalGlr

namespace OperatorGrammar

variable {x : OperatorGrammar} {a : Automaton} {e : Engine} {token : Token} {tokens : List Token}
  {before : List Operator} {rest : List (Fin x.operators.length)} {input : List SymbolId}

theorem isExtra_eq_false {table : ParseTable} {actions : ActionTable}
    (ht : table.data = .ofActions x.flat actions) (s : SymbolId) : table.isExtra s = false := by
  rw [ParseTable.isExtra_ofActions ht]
  have plain : ∀ info ∈ x.flat.symbols, info.extra = false := by
    simp only [flat, List.mem_toArray, List.cons_append, List.forall_mem_cons, List.forall_mem_append,
      List.forall_mem_map]
    exact ⟨rfl, fun _ _ => rfl, rfl, fun _ h => absurd h List.not_mem_nil⟩
  cases hinfo : x.flat.symbols[s]? with
  | none => rfl
  | some info => exact plain info (Array.mem_of_getElem? hinfo)

/-- An expression is to come, and the text before it has these operators. -/
structure Hungry (x : OperatorGrammar) (e : Engine) (a : Automaton) (before : List Operator)
    (h : Head) : Prop where
  path : e.OnPath a h
  holds : ∃ w : x.Pending, Holds a h.stack w ∧ w.Nested ∧ w.operators = before

/-- An operand was taken, the text up to it has these operators, and since then there were only
reductions at a token with this symbol. -/
structure Fed (x : OperatorGrammar) (e : Engine) (a : Automaton) (before : List Operator)
    (t : SymbolId) (h : Head) : Prop where
  path : e.OnPath a h
  taken : Taken x a t before h.stack

theorem le_of_following (h : x.following rest = token.symbol :: input) :
    token.symbol ≤ x.operators.length := by
  obtain ⟨t, input', h', hle⟩ := exists_following rest
  obtain ⟨rfl, -⟩ := List.cons.inj (h.symm.trans h')
  exact hle

section Heads

variable (b : a.Built x.flat) (hf : b.found.Searched) (uses : e.Uses x.flat a)
include b hf uses

theorem promising_hungry (rest : List (Fin x.operators.length))
    (hsymbol : token.symbol = x.operandSymbol) :
    e.Promising x.flat a token (x.following rest) (Hungry x e a before) where
  path _ hh := hh.path
  keeps := {
    path := fun _ _ hh => ⟨hh.path, hh.holds⟩
    reduce := by
      intro _ id h _ hh ha _
      obtain ⟨w, hholds, -, -⟩ := hh.holds
      obtain ⟨r, -, hactions⟩ := (hholds.stands b).actionsAt_hungry b hf Shape.hungry_hungry
      have := ParseTable.actionsAt_of_mem uses.table ha nofun
      rw [hsymbol, Head.state, hactions] at this
      cases List.mem_singleton.1 this }
  accepts h hh := by
    obtain ⟨w, hholds, -, -⟩ := hh.holds
    rw [hsymbol]
    exact accepts_hungry b hf hholds.awaits

theorem promising_fed (few : x.ruleSymbol ≠ errorSymbol)
    (hinput : x.following rest = token.symbol :: input) :
    e.Promising x.flat a token input (Fed x e a before token.symbol) where
  path _ hh := hh.path
  keeps := {
    path := fun _ _ hh => ⟨hh.path, hh.taken⟩
    reduce := by
      rintro fragile id h next hh ha ⟨p, stack, state, -, hreduce, rfl⟩
      refine ⟨hh.path.reduce uses.guides ha hreduce, ?_⟩
      exact hh.taken.reduce b hf uses.table few (le_of_following hinput)
        (ParseTable.actionsAt_of_mem uses.table ha nofun) hreduce }
  accepts h hh := by
    obtain ⟨hpath, htaken⟩ := hh
    obtain ⟨stack⟩ := h
    cases htaken with
    | leaf h nested he hq _ =>
      rw [Stack.states_cons he.extra]
      exact accepts_of_operand b hf h.awaits hq (le_of_following hinput) fun q hq =>
        hinput ▸ accepts_fed b hf h.awaits hq
    | node h suits he hq _ _ =>
      rw [Stack.states_cons he.plain, ← hinput]
      exact accepts_fed b hf h.awaits hq

end Heads

/-! ## Taking tokens -/

theorem ruleSymbol_ne (det : e.Determined x.flat a) : x.ruleSymbol ≠ errorSymbol := fun h =>
  det.error (h ▸ ⟨Nat.le_refl _, Nat.lt_succ_self _⟩)

section Run

variable (b : a.Built x.flat) (hf : b.found.Searched) (det : e.Determined x.flat a)
  {c' : Configuration} {root : Subtree} (hbrief : TraceEvent.Brief c'.trace.toList)
include b hf det hbrief

/-- Where an expression is to come, the operand is taken. -/
theorem comes_fed (hsymbol : token.symbol = x.operandSymbol)
    (h : e.Comes root c' (token :: tokens) (Hungry x e a before)) :
    e.Comes root c' tokens fun h => ∀ t, Fed x e a before t h := by
  have hP : e.Promising x.flat a token _ (Hungry x e a before) :=
    promising_hungry b hf det.toUses [] hsymbol
  refine h.step det.toUses det.closing det.fresh hbrief hP
    (isExtra_eq_false det.table _) (hsymbol ▸ Nat.succ_ne_zero _) ?_
  rintro k r fragile path ⟨hpath, w, hholds, nested, hbefore⟩ ha hshifted t
  obtain ⟨r', hr, hactions⟩ := (hholds.stands b).actionsAt_hungry b hf Shape.hungry_hungry
  have shift := ParseTable.actionsAt_of_mem det.table ha nofun
  rw [hsymbol, Head.state, hactions] at shift
  obtain rfl := Action.shift.inj (List.mem_singleton.1 shift)
  exact ⟨hshifted, .leaf hholds nested (hsymbol ▸ Subtree.is_leaf ..) hr hbefore⟩

/-- Behind an operand the operator is taken, when all that binds more strongly has been reduced. -/
theorem comes_hungry {j : Fin x.operators.length} (hsymbol : token.symbol = (j + 1 : Nat))
    (h : e.Comes root c' (token :: tokens) fun h => ∀ t, Fed x e a before t h) :
    e.Comes root c' tokens (Hungry x e a (before ++ [x.operators.get j])) := by
  have hinput : x.following [j] = token.symbol :: [x.operandSymbol, endSymbol] := by
    rw [hsymbol]
    rfl
  have hP : e.Promising x.flat a token _ (Fed x e a before token.symbol) :=
    promising_fed b hf det.toUses (ruleSymbol_ne det) hinput
  refine (h.imp fun _ hh => hh token.symbol).step det.toUses det.closing det.fresh hbrief hP
    (isExtra_eq_false det.table _) (hsymbol ▸ Nat.succ_ne_zero _) ?_
  rintro ⟨stack⟩ r fragile path ⟨hpath, htaken⟩ ha hshifted
  have shift := ParseTable.actionsAt_of_mem det.table ha nofun
  rw [hsymbol] at shift
  cases htaken with
  | leaf h nested he hq _ =>
    rw [Head.state, Stack.state, hq.actionsAt_operand b hf j.2] at shift
    cases List.mem_singleton.1 shift
  | @node s w entry y h suits he hq closed hbefore =>
    obtain ⟨hr, fits⟩ := hq.of_shift b hf shift
    refine ⟨hshifted, _, h.cons he (hsymbol ▸ Subtree.is_leaf ..) hr,
      suits.shift (closed j hsymbol) fits, ?_⟩
    rw [Pending.operators, ← hbefore, List.append_assoc]

/-- At the end the tree of the whole expression is left. -/
theorem reads_of_end (hsymbol : token.symbol = endSymbol)
    (h : e.Comes root c' [token] fun h => ∀ t, Fed x e a before t h) :
    ∃ y, x.Reads root y ∧ y.operators = before ∧ y.Grouped := by
  have hinput : x.following [] = token.symbol :: [] := by
    rw [hsymbol]
    rfl
  have hP : e.Promising x.flat a token _ (Fed x e a before token.symbol) :=
    promising_fed b hf det.toUses (ruleSymbol_ne det) hinput
  have comes := h.imp fun _ hh => hh token.symbol
  obtain ⟨⟨stack⟩, lookaheadEnd, ⟨-, htaken⟩, ha, rfl⟩ :=
    comes.exists_best det.toUses det.closing det.fresh hbrief hP hsymbol rfl
  have accept := ParseTable.actionsAt_of_mem det.table ha nofun
  cases htaken with
  | leaf h nested he hq _ =>
    rw [Head.state, Stack.state, hq.actionsAt_operand (t := endSymbol) b hf (Nat.zero_le _)] at accept
    cases List.mem_singleton.1 accept
  | @node s w entry y h suits he hq _ hbefore =>
    obtain rfl := hq.of_accept b hf accept
    cases h
    refine ⟨y, ?_, hbefore, suits.grouped⟩
    rw [show Stack.subtrees [entry] = [entry.subtree] from rfl, Stack.rootOf_singleton he.plain]
    exact he

/-- What follows an operand brings in the operators that are still to come. -/
theorem reads_of_comes (hrest : tokens.map Token.symbol = x.following rest)
    (h : e.Comes root c' tokens fun h => ∀ t, Fed x e a before t h) :
    ∃ y, x.Reads root y ∧ y.operators = before ++ rest.map x.operators.get ∧ y.Grouped := by
  induction rest generalizing tokens before with
  | nil =>
    obtain ⟨token, rfl, hsymbol⟩ := List.map_eq_singleton_iff.1 hrest
    rw [List.map_nil, List.append_nil]
    exact reads_of_end b hf det hbrief hsymbol h
  | cons j rest ih =>
    obtain ⟨operator, tokens, rfl, hoperator, hrest⟩ := List.map_eq_cons_iff.1 hrest
    obtain ⟨operand, tokens, rfl, hoperand, hrest⟩ := List.map_eq_cons_iff.1 hrest
    have hungry := comes_hungry b hf det hbrief hoperator h
    have fed := comes_fed b hf det hbrief hoperand hungry
    obtain ⟨y, hy, hoperators, hgrouped⟩ := ih hrest fed
    exact ⟨y, hy, by rw [hoperators, List.append_assoc]; rfl, hgrouped⟩

theorem reads_of_run {fuel : Option Nat} (hr : Parsing.Returns e.run { fuel } root c')
    (hpulled : c'.pulled.map Token.symbol = x.operandSymbol :: x.following rest) :
    ∃ y, x.Reads root y ∧ y.operators = rest.map x.operators.get ∧ y.Grouped := by
  obtain ⟨operand, tokens, hsplit, hoperand, hrest⟩ := List.map_eq_cons_iff.1 hpulled
  have start : Hungry x e a [] {} :=
    ⟨⟨trivial, det.guides.start, nofun⟩, [], .nil, trivial, rfl⟩
  have comes : e.Comes root c' (operand :: tokens) (Hungry x e a []) :=
    ⟨_, _, hr, hsplit, rfl, List.cons_ne_nil _ _, fun h hh => List.mem_singleton.1 hh ▸ start⟩
  exact reads_of_comes b hf det hbrief hrest (comes_fed b hf det hbrief hoperand comes)

end Run

/-! ## Whole texts -/

/-- The tree has no errors, and it is that of the only expression with these operators in which they
bind as they should. -/
def Groups (x : OperatorGrammar) (is : List (Fin x.operators.length)) (tree : Tree) : Prop :=
  tree.hasError = false ∧ ∃ y, x.Reads tree.green y ∧ y.operators = is.map x.operators.get ∧
    y.Grouped ∧ ∀ z : Expression, z.operators = y.operators → z.Grouped → z = y

variable {p : Parser} {text : String} {compiled : Compiled} {is : List (Fin x.operators.length)}

theorem determined_engine (hg : x.grammar.compile = .ok (compiled, []))
    (hconflicts : compiled.conflictCount = 0) (few : 2 * x.operators.length + 3 ≤ maxStates)
    (ha : Automaton.ofGrammar x.flat (.ofGrammar x.flat) = some a)
    (ht : e.table.data = compiled.table) (hlexer : e.lexer.table = e.table)
    (hfresh : e.reuse = none) : e.Determined x.flat a := by
  have hflat : x.grammar.flatten.1 = some x.flat := congrArg Prod.fst x.flatten_eq
  obtain ⟨a', builds⟩ := Grammar.exists_builds hg hflat
  have size : x.flat.symbols.size = x.operators.length + 3 := by
    simp [flat, texts]
  refine Grammar.determined_of_compile hg hflat ha x.inRange ?_ hconflicts ht hlexer hfresh
    fun _ _ s _ => isExtra_eq_false (ht.trans builds.table) s
  rw [size]
  unfold maxStates at few
  unfold errorSymbol
  omega

theorem groups_of_parse (hg : x.grammar.compile = .ok (compiled, []))
    (hconflicts : compiled.conflictCount = 0) (few : 2 * x.operators.length + 3 ≤ maxStates)
    (hp : p.language.table.data = compiled.table) {tree : Tree} (htree : p.parse text = .ok tree)
    (htokens : (p.parseUnless (fun _ => false) text).tokens.map Token.symbol =
      x.operandSymbol :: x.following is)
    (hbrief : TraceEvent.Brief (p.parseUnless (fun _ => false) text).trace) : x.Groups is tree := by
  obtain ⟨a, ha⟩ := x.exists_automaton_iff.2 few
  obtain ⟨b, hfound⟩ := Automaton.exists_found ha
  have det : (p.engine text none fun _ => false).Determined x.flat a :=
    determined_engine hg hconflicts few ha hp rfl rfl
  obtain ⟨c, hreturns, -, htrace⟩ := Parser.exists_returns htree
  have pulled : (p.parseUnless (fun _ => false) text).tokens = c.pulled :=
    congrArg (List.filterMap _) htrace
  obtain ⟨y, hreads, hoperators, hgrouped⟩ := reads_of_run b (Lr.searched_of_states hfound) det
    (htrace ▸ hbrief) hreturns (pulled ▸ htokens)
  refine ⟨?_, y, hreads, hoperators, hgrouped, fun z hz hgrouped' => ?_⟩
  · rw [Tree.hasError, hreads.errorCount]
    rfl
  · refine (hgrouped.eq_of_operators x.agree hgrouped' (fun o ho => ?_) hz.symm).symm
    obtain ⟨i, -, rfl⟩ := List.mem_map.1 (hoperators ▸ ho)
    exact List.getElem_mem i.2

end OperatorGrammar

/-! ## Sums of powers -/

/-- The grammar of sums of powers. -/
def powers : OperatorGrammar where
  name := "powers"
  ruleName := "e"
  operators := [⟨"+", 1, true⟩, ⟨"^", 2, false⟩]
  operand := "n"
  nodup := by decide
  nonempty := by decide
  agree := by decide

namespace Powers

/-- A state with its kernel, and with the items of all productions if an expression is to come. -/
def stateOf (kernel : List (Item × TerminalSet)) (hungry : Bool)
    (transitions : List (SymbolId × StateId)) : LrState where
  kernel := kernel
  items := kernel ++ if hungry then [(⟨0, 0⟩, ⟨7⟩), (⟨1, 0⟩, ⟨7⟩), (⟨2, 0⟩, ⟨7⟩)] else []
  transitions := transitions

/-- The start, an operand, the whole text, behind each operator, and behind its right operand. -/
def automaton : Automaton where
  states := #[stateOf [(⟨3, 0⟩, ⟨1⟩)] true [(3, 1), (4, 2)],
    stateOf [(⟨2, 1⟩, ⟨7⟩)] false [],
    stateOf [(⟨0, 1⟩, ⟨7⟩), (⟨1, 1⟩, ⟨7⟩), (⟨3, 1⟩, ⟨1⟩)] false [(1, 3), (2, 4)],
    stateOf [(⟨0, 2⟩, ⟨7⟩)] true [(3, 1), (4, 5)],
    stateOf [(⟨1, 2⟩, ⟨7⟩)] true [(3, 1), (4, 6)],
    stateOf [(⟨0, 1⟩, ⟨7⟩), (⟨0, 3⟩, ⟨7⟩), (⟨1, 1⟩, ⟨7⟩)] false [(1, 3), (2, 4)],
    stateOf [(⟨0, 1⟩, ⟨7⟩), (⟨1, 1⟩, ⟨7⟩), (⟨1, 3⟩, ⟨7⟩)] false [(1, 3), (2, 4)]]

theorem ofGrammar_flat :
    Automaton.ofGrammar powers.flat (.ofGrammar powers.flat) = some automaton := by
  have found : Lr.Found.explore powers.flat 8 ⟨#[[powers.flat.startItem]], #[]⟩ =
      some ⟨automaton.states.map fun s => s.kernel.map Prod.fst,
        automaton.states.map (·.transitions)⟩ := by
    cbv
  have states : Lr.states powers.flat = some _ := Lr.Found.explore_of_le found (by decide)
  rw [Automaton.ofGrammar, states]
  decide +kernel

def table : ParseTable where
  data := .ofActions powers.flat (.ofAutomaton powers.flat automaton)
  patterns := #[none, none, none, none]
  padding := none
  valid := #[[3], [0, 1, 2], [0, 1, 2], [3], [3], [0, 1, 2], [0, 1, 2]]
  consistent := by cbv
  patterns_eq := by cbv
  padding_eq := by cbv
  valid_eq := by cbv

def parser : Parser where
  language := ⟨table, none⟩
  complete := .inl rfl

theorem compile_eq : powers.grammar.compile = .ok (⟨table.data, 3, 0⟩, []) := by
  have compiled : Grammar.compileFlat powers.flat = (some ⟨table.data, 3, 0⟩, []) := by
    rw [Grammar.compileFlat, ofGrammar_flat]
    cbv
  rw [Grammar.compile, powers.compileWithReports_eq]
  simp [compiled]

theorem trace_eq : (parser.parseUnless (fun _ => false) "n^n+n").trace =
    [.lex ⟨3, 0, 0, 1, 1⟩, .shift 3 1 false, .lex ⟨2, 1, 1, 2, 2⟩, .reduce 2 4 2, .shift 2 4 false,
      .lex ⟨3, 2, 2, 3, 3⟩, .shift 3 1 false, .lex ⟨1, 3, 3, 4, 4⟩, .reduce 2 4 6, .reduce 1 4 2,
      .shift 1 3 false, .lex ⟨3, 4, 4, 5, 5⟩, .shift 3 1 false, .lex ⟨0, 5, 5, 5, 5⟩,
      .reduce 2 4 5, .reduce 0 4 2, .accept 4] := by
  cbv

/-- The sum of a power and an operand. -/
def sum : Expression :=
  .binary ⟨"+", 1, true⟩ (.binary ⟨"^", 2, false⟩ .operand .operand) .operand

end Powers

end IncrementalGlr
