import IncrementalGlr.Flat.OfGrammar
import IncrementalGlr.Proofs.Flat.Reference
import IncrementalGlr.Proofs.Operators.Expression

/-!
Grammars of binary operators. An expression is two expressions with an operator between them, or an
operand. Nothing is wrong with such a grammar, and its flat form has a production for every operator
and one for operands (`OperatorGrammar.flatten_eq`).
-/
namespace IncrementalGlr

namespace Operator

def associativity (o : Operator) : Associativity := if o.left then .left else .right

/-- Two expressions with the operator between them, and how that binds. -/
def rule (o : Operator) (name : String) : Rule :=
  let body : Rule := .seq [.symbol name, .string o.text, .symbol name]
  if o.left then .precLeft (.integer o.precedence) body else .precRight (.integer o.precedence) body

end Operator

/-- A grammar of expressions: the name of its rule, its operators, and the text of operands. No two
texts are the same, and operators of the same precedence associate to the same side. -/
structure OperatorGrammar where
  name : String
  ruleName : String
  operators : List Operator
  operand : String
  nodup : (operators.map Operator.text ++ [operand]).Nodup
  nonempty : ∀ text ∈ operators.map Operator.text ++ [operand], text ≠ ""
  agree : Operator.Agree operators

namespace OperatorGrammar

variable (x : OperatorGrammar)

def grammar : Grammar where
  name := x.name
  rules := .ofList [(x.ruleName,
    .choice (x.operators.map (·.rule x.ruleName) ++ [.string x.operand]))]

/-! ## The flat grammar -/

/-- The texts of all tokens: those of the operators, then that of operands. -/
def texts : List String := x.operators.map Operator.text ++ [x.operand]

/-- The token of operands. It comes after those of the operators, which begin with 1. -/
def operandSymbol : Nat := x.operators.length + 1

/-- The symbol of expressions. -/
def ruleSymbol : Nat := x.operators.length + 2

def endInfo : SymbolInfo :=
  { name := endName, kind := .endOfText, named := false, visible := false }

def textInfo (text : String) : SymbolInfo :=
  { name := text, kind := .literal, named := false, visible := true }

def ruleInfo : SymbolInfo :=
  { name := x.ruleName
    kind := .nonterminal
    named := true
    visible := !x.grammar.isHidden x.ruleName }

/-- Two expressions with an operator of this number between them. -/
def operatorProduction (o : Operator) (symbol : SymbolId) : Production where
  lhs := x.ruleSymbol
  children := [{ symbol := x.ruleSymbol }, { symbol }, { symbol := x.ruleSymbol }]
  precedence := o.precedence
  associativity := o.associativity

def operandProduction : Production where
  lhs := x.ruleSymbol
  children := [{ symbol := x.operandSymbol }]

def productions : List Production :=
  (x.operators.zipIdx 1).map (fun p => x.operatorProduction p.1 p.2) ++ [x.operandProduction]

def flat : FlatGrammar where
  name := x.name
  symbols := (endInfo :: x.texts.map textInfo ++ [x.ruleInfo]).toArray
  terminalCount := x.operators.length + 2
  nonterminalCount := 1
  externalCount := 0
  fields := []
  productions := x.productions.toArray
  start := x.ruleSymbol
  terminals := ({ form := .endOfText } :: x.texts.map fun text => { form := .literal text }).toArray
  padding := none
  extras := []
  word := none
  recovery := []
  conflicts := []
  owners := Array.range (x.operators.length + 2) ++ #[x.ruleSymbol]

/-! ## Expanding -/

open Flat Draft

/-- A draft with the rule and the tokens of these texts. -/
def drafted (alternatives : List Alternative) (done : List String) : Draft where
  terminals := (({ info := endInfo, terminal := { form := .endOfText } } : TerminalDraft) ::
    done.map fun text => { info := textInfo text, terminal := { form := .literal text } }).toArray
  anonymous := (done.zipIdx 1).reverse.map fun p => ({ form := .literal p.1 }, p.2)
  nonterminals := #[{
    name := x.ruleName
    kind := .nonterminal
    visible := !x.grammar.isHidden x.ruleName
    owner := 0
    alternatives }]
  names := [(x.ruleName, .nonterminal 0)]

/-- Two expressions with the operator of this number between them. -/
def alternative (o : Operator) (symbol : Nat) : Alternative where
  parts := [{ sym := .nonterminal 0 }, { sym := .terminal symbol }, { sym := .nonterminal 0 }]
  precedence := some o.precedence
  associativity := some o.associativity

variable {x} {done : List String} {levels : Levels}

theorem lookup_anonymous {text : String} (h : text ∉ done) :
    (x.drafted [] done).anonymous.lookup { form := .literal text } = none := by
  refine List.lookup_eq_none_iff.2 fun p hp => ?_
  obtain ⟨⟨text', i⟩, hmem, rfl⟩ := List.mem_map.1 hp
  have hmem : text' ∈ done := List.fst_mem_of_mem_zipIdx (List.mem_reverse.1 hmem)
  have hne : text ≠ text' := fun heq => h (heq ▸ hmem)
  simpa using hne

theorem not_mem_of_nodup {text : String} {rest : List String} (h : (done ++ text :: rest).Nodup) :
    text ∉ done := fun hmem =>
  (List.nodup_append.1 h).2.2 _ hmem _ List.mem_cons_self rfl

theorem run_expandToken {text : String} (hnew : text ∉ done) (hne : text ≠ "") :
    (expandToken (.string text) false 0).run (x.drafted [] done) =
      pure ([.single (.terminal (done.length + 1))], x.drafted [] (done ++ [text])) := by
  have hlookup := lookup_anonymous (x := x) hnew
  simp only [expandToken, inlineToken, tokenForm, Rule.literalText, intern, addTerminal]
  simp [hne, hlookup]
  simp [drafted, textInfo, List.zipIdx_append, Nat.add_comm]

theorem run_expand_string {text : String} (hnew : text ∉ done) (hne : text ≠ "") :
    (expand levels 0 (.string text)).run (x.drafted [] done) =
      pure ([.single (.terminal (done.length + 1))], x.drafted [] (done ++ [text])) := by
  rw [expand]
  exact run_expandToken hnew hne

theorem run_expand_symbol : (expand levels 0 (.symbol x.ruleName)).run (x.drafted [] done) =
    pure ([.single (.nonterminal 0)], x.drafted [] done) := by
  simp [expand, drafted]

/-- A member of a sequence with one alternative is put behind the others. -/
theorem run_expandSequence_cons {d d' : Draft} {before : List Alternative} {a : Alternative}
    {member : Rule} {rest : List Rule} (h : (expand levels 0 member).run d = pure ([a], d')) :
    (expandSequence levels 0 before (member :: rest)).run d =
      (expandSequence levels 0 (Alternative.product before [a]) rest).run d' := by
  simp [expandSequence, h, extendSequence]

theorem run_expand_rule {o : Operator} (hnew : o.text ∉ done) (hne : o.text ≠ "") :
    (expand levels 0 (o.rule x.ruleName)).run (x.drafted [] done) =
      pure ([alternative o (done.length + 1)], x.drafted [] (done ++ [o.text])) := by
  have body : (expandSequence levels 0 [.empty]
      [.symbol x.ruleName, .string o.text, .symbol x.ruleName]).run (x.drafted [] done) =
        pure ([{ parts := (alternative o (done.length + 1)).parts }],
          x.drafted [] (done ++ [o.text])) := by
    rw [run_expandSequence_cons run_expand_symbol,
      run_expandSequence_cons (run_expand_string hnew hne),
      run_expandSequence_cons run_expand_symbol]
    rfl
  unfold Operator.rule alternative Operator.associativity
  cases o.left <;> simp [expand, precedenceValue, body, alternative, Alternative.binding]

/-- The members of the choice have an alternative each, and bring in a token each. -/
theorem run_expandChoice (ops : List Operator)
    (hnodup : (done ++ (ops.map Operator.text ++ [x.operand])).Nodup)
    (hne : ∀ text ∈ ops.map Operator.text ++ [x.operand], text ≠ "") :
    (expandChoice levels 0 (ops.map (·.rule x.ruleName) ++ [.string x.operand])).run
        (x.drafted [] done) =
      pure ((ops.zipIdx (done.length + 1)).map (fun p => alternative p.1 p.2) ++
          [.single (.terminal (done.length + ops.length + 1))],
        x.drafted [] (done ++ (ops.map Operator.text ++ [x.operand]))) := by
  induction ops generalizing done with
  | nil =>
    have token := @run_expand_string x done levels _ (not_mem_of_nodup hnodup)
      (hne _ List.mem_cons_self)
    simp [expandChoice, token]
  | cons o ops ih =>
    have member := @run_expand_rule x done levels _ (not_mem_of_nodup hnodup)
      (hne _ List.mem_cons_self)
    have rest := @ih (done ++ [o.text]) (by simpa using hnodup)
      fun text h => hne text (List.mem_cons_of_mem _ h)
    simp [expandChoice, member, rest, Nat.add_left_comm, Nat.add_comm]

/-! ## Flattening -/

theorem run_declareSymbols : (declareSymbols x.grammar ⟨[], false⟩ x.ruleName).run {} =
    pure ((), x.drafted [] []) := by
  have reached : x.ruleName ∈ x.grammar.reachable :=
    Grammar.start_mem_reachable rfl List.not_mem_nil
  have entries : x.grammar.rules.entries = [(x.ruleName,
    .choice (x.operators.map (·.rule x.ruleName) ++ [.string x.operand]))] := rfl
  have names : x.grammar.rules.names = [x.ruleName] := rfl
  have externals : x.grammar.externals = [] := rfl
  have supertypes : x.grammar.supertypes = [] := rfl
  simp [declareSymbols, entries, names, externals, addTerminal, reached, declareRule, addNonterminal,
    bindName, supertypes, drafted, Levels.ofRule, Levels.ofEntry, endInfo]

/-- The alternatives of the rule: one for each operator, and an operand. -/
def alternatives (x : OperatorGrammar) : List Alternative :=
  (x.operators.zipIdx 1).map (fun p => alternative p.1 p.2) ++ [.single (.terminal x.operandSymbol)]

theorem run_expandRules : (expandRules x.grammar levels).run (x.drafted [] []) =
    pure ((), x.drafted x.alternatives x.texts) := by
  have body : x.grammar.rules.find? x.ruleName =
      some (.choice (x.operators.map (·.rule x.ruleName) ++ [.string x.operand])) := by
    simp [Rules.find?, grammar, Rules.ofList, Rules.put, Rules.putEntry, Rules.empty]
  have choice := @run_expandChoice x [] levels x.operators x.nodup x.nonempty
  have nonterminals : (x.drafted [] []).nonterminals.size = 1 := rfl
  have name : (x.drafted [] []).nonterminalName 0 = x.ruleName := rfl
  simp [expandRules, nonterminals, name, body, expand, choice]
  simp [setAlternatives, drafted, alternatives, texts, operandSymbol]

/-- What is distinct is kept. -/
theorem distinct_eq {seen : List (List Child)} {ps : List Production}
    (hnodup : (ps.map Production.children).Nodup) (hnew : ∀ p ∈ ps, p.children ∉ seen) :
    Draft.distinct seen ps = ps := by
  induction ps generalizing seen with
  | nil => rfl
  | cons p rest ih =>
    obtain ⟨hp, hrest⟩ := List.forall_mem_cons.1 hnew
    obtain ⟨hfresh, hnodup⟩ := List.nodup_cons.1 hnodup
    rw [Draft.distinct, if_neg (by simpa using hp)]
    refine congrArg _ (ih hnodup fun q hq hmem => ?_)
    rcases List.mem_cons.1 hmem with heq | hmem
    · exact hfresh (heq ▸ List.mem_map_of_mem hq)
    · exact hrest q hq hmem

/-- Each production has a token of its own. -/
theorem nodup_children (x : OperatorGrammar) : (x.productions.map Production.children).Nodup := by
  have operators : (x.operators.zipIdx 1).map
      (Production.children ∘ fun p => x.operatorProduction p.1 p.2) =
        (List.range' 1 x.operators.length).map fun symbol =>
          [{ symbol := x.ruleSymbol }, { symbol }, { symbol := x.ruleSymbol }] := by
    rw [← List.zipIdx_map_snd, List.map_map]
    rfl
  rw [productions, List.map_append, List.map_map]
  refine List.nodup_append.2 ⟨?_, List.nodup_singleton _, fun a ha b hb => ?_⟩
  · refine operators ▸ List.Nodup.map (fun i j h => ?_) List.nodup_range'
    simpa using h
  · obtain ⟨p, -, rfl⟩ := List.mem_map.1 ha
    rw [List.mem_singleton.1 hb]
    simp [operatorProduction, operandProduction]

theorem nonterminals_drafted {alternatives : List Alternative} :
    (x.drafted alternatives done).nonterminals.toList = [{
      name := x.ruleName
      kind := .nonterminal
      visible := !x.grammar.isHidden x.ruleName
      owner := 0
      alternatives }] := rfl

/-- No part has a field or another name. -/
theorem plain_of_mem_allParts {p : Part} (h : p ∈ (x.drafted x.alternatives x.texts).allParts) :
    p.field = none ∧ p.renamed = none := by
  rw [allParts, nonterminals_drafted, List.flatMap_singleton] at h
  obtain ⟨a, ha, hp⟩ := List.mem_flatMap.1 h
  rcases List.mem_append.1 ha with ha | ha
  · obtain ⟨q, -, rfl⟩ := List.mem_map.1 ha
    simp only [alternative, List.mem_cons, List.not_mem_nil, or_false] at hp
    rcases hp with rfl | rfl | rfl <;> exact ⟨rfl, rfl⟩
  · obtain rfl := List.mem_singleton.1 ha
    obtain rfl := List.mem_singleton.1 hp
    exact ⟨rfl, rfl⟩

theorem fieldNames_drafted : (x.drafted x.alternatives x.texts).fieldNames = [] := by
  have none : (x.drafted x.alternatives x.texts).allParts.filterMap (·.field) = [] :=
    List.filterMap_eq_nil_iff.2 fun p hp => (plain_of_mem_allParts hp).1
  simp [fieldNames, none]

theorem symbolsAndAliases_drafted : (x.drafted x.alternatives x.texts).symbolsAndAliases =
    (x.flat.symbols, []) := by
  have none : (x.drafted x.alternatives x.texts).allParts.filterMap (·.renamed) = [] :=
    List.filterMap_eq_nil_iff.2 fun p hp => (plain_of_mem_allParts hp).2
  rw [symbolsAndAliases, none]
  simp [symbolInfos, drafted, flat, ruleInfo]

theorem size_terminals_drafted {alternatives : List Alternative} :
    (x.drafted alternatives x.texts).terminals.size = x.ruleSymbol := by
  simp [drafted, texts, ruleSymbol]

theorem productionsOf_drafted :
    (x.drafted x.alternatives x.texts).nonterminals.toList.zipIdx.flatMap (fun (n, i) =>
      (x.drafted x.alternatives x.texts).productionsOf [] [] i n) = x.productions := by
  have all : x.alternatives.map (fun a => {
      lhs := (x.drafted x.alternatives x.texts).terminals.size + 0
      children := a.parts.map fun p => {
        symbol := (x.drafted x.alternatives x.texts).idOf p.sym
        field := p.field.bind fun f => (([] : List String).idxOf? f).map (· + 1)
        renamed := p.renamed.bind fun key =>
          ([] : List ((String × Bool) × SymbolId)).lookup key }
      precedence := (a.precedence.or none).getD 0
      associativity := a.associativity.getD .none
      dynamicPrecedence := a.dynamic.getD 0 : Production }) = x.productions := by
    simp only [alternatives, productions, List.map_append, List.map_map]
    congr 1
    · refine List.map_congr_left fun p _ => ?_
      simp [alternative, operatorProduction, idOf, size_terminals_drafted]
    · simp [Alternative.single, operandProduction, idOf, size_terminals_drafted]
  rw [nonterminals_drafted]
  simp only [List.zipIdx_cons, List.zipIdx_nil, List.flatMap_singleton, productionsOf]
  exact (congrArg _ all).trans (distinct_eq x.nodup_children fun _ _ => List.not_mem_nil)

theorem run_expandExtras (d : Draft) : (expandExtras x.grammar).run d = pure ((none, []), d) := rfl

theorem run_finish : (finish x.grammar none []).run (x.drafted x.alternatives x.texts) =
    pure (x.flat, x.drafted x.alternatives x.texts) := by
  have word : (wordToken x.grammar).run (x.drafted x.alternatives x.texts) =
    pure (none, x.drafted x.alternatives x.texts) := rfl
  have recovery : x.grammar.recovery = [] := rfl
  have conflicts : x.grammar.conflicts = [] := rfl
  have symbols : x.flat.symbols.size = x.ruleSymbol + 1 := by simp [flat, texts, ruleSymbol]
  have nonterminals : (x.drafted x.alternatives x.texts).nonterminals.size = 1 := rfl
  have owners : (x.drafted x.alternatives x.texts).nonterminals.map
      (fun n => x.ruleSymbol + n.owner) = #[x.ruleSymbol] := by
    simp [drafted]
  simp [finish, word, recovery, conflicts, symbolsAndAliases_drafted, fieldNames_drafted,
    size_terminals_drafted, productionsOf_drafted, symbols, nonterminals, owners]
  simp [flat, drafted, grammar, ruleSymbol, Function.comp_def, show Array.range 0 = #[] from rfl]

theorem run_flatten : (Draft.flatten x.grammar ⟨[], false⟩ x.ruleName).run {} =
    pure (x.flat, x.drafted x.alternatives x.texts) := by
  simp [Draft.flatten, run_declareSymbols, run_expandRules, run_expandExtras, run_finish]

/-! ## Findings -/

theorem references_rule {o : Operator} {name : String} :
    (o.rule name).references = [name, name] := by
  unfold Operator.rule
  cases o.left <;> rfl

theorem eq_of_mem_referencesOf {name other : String} {ops : List Operator} {rest : List Rule}
    (h : name ∈ Rule.referencesOf (ops.map (·.rule other) ++ rest)) :
    name = other ∨ name ∈ Rule.referencesOf rest := by
  induction ops with
  | nil => exact .inr h
  | cons o ops ih =>
    rw [List.map_cons, List.cons_append, Rule.referencesOf, references_rule] at h
    rcases List.mem_append.1 h with h | h
    · exact .inl (by simpa using h)
    · exact ih h

/-- The rule refers to itself only. -/
theorem undefinedReferences_eq (x : OperatorGrammar) : x.grammar.undefinedReferences = [] := by
  have references : x.grammar.allReferences = (Rule.referencesOf (x.operators.map
      (·.rule x.ruleName) ++ [.string x.operand])).map fun name => (name, some x.ruleName) := by
    simp [Grammar.allReferences, grammar, Rules.ofList, Rules.put, Rules.putEntry, Rules.empty,
      Rule.references]
  have none : x.grammar.allReferences.filter (fun e => !x.grammar.defines e.1) = [] := by
    refine List.filter_eq_nil_iff.2 fun e he => ?_
    obtain ⟨name, hname, rfl⟩ := List.mem_map.1 (references ▸ he)
    obtain rfl : name = x.ruleName := (eq_of_mem_referencesOf hname).resolve_right List.not_mem_nil
    have known : x.grammar.rules.contains x.ruleName = true :=
      Grammar.mem_names_iff_contains.1 List.mem_cons_self
    simp [Grammar.defines, known]
  rw [Grammar.undefinedReferences, none]
  rfl

theorem unreachableRules_eq (x : OperatorGrammar) : x.grammar.unreachableRules = [] := by
  have names : x.grammar.rules.names = [x.ruleName] := rfl
  have reached : x.ruleName ∈ x.grammar.reachable :=
    Grammar.start_mem_reachable rfl List.not_mem_nil
  simp [Grammar.unreachableRules, names, reached]

/-- Marking adds no entries. -/
theorem size_productiveStep (marked : Array Bool) :
    (x.flat.productiveStep marked).size = marked.size := by
  refine Array.foldl_induction (fun _ (found : Array Bool) => found.size = marked.size) rfl ?_
  intro i found hfound
  unfold FlatGrammar.mark
  split
  · rw [Array.size_setIfInBounds, hfound]
  · exact hfound

/-- After any round the rule is known to derive some text, as an operand is one. -/
theorem isProductive_productiveStep {marked : Array Bool} (hsize : x.ruleSymbol < marked.size) :
    x.flat.isProductive (x.flat.productiveStep marked) x.ruleSymbol = true := by
  have productions : x.flat.productions =
    ((x.operators.zipIdx 1).map (fun p => x.operatorProduction p.1 p.2)).toArray.push
      x.operandProduction := by
    simp [flat, OperatorGrammar.productions]
  have terminal : x.flat.isTerminal x.operandSymbol = true :=
    decide_eq_true (Nat.lt_succ_self _)
  have kept := x.size_productiveStep marked
  rw [FlatGrammar.productiveStep, productions, Array.foldl_push] at kept ⊢
  have hall : ∀ found, x.operandProduction.rhs.all (x.flat.isProductive found) = true := fun _ => by
    simp [operandProduction, Production.rhs, FlatGrammar.isProductive, terminal]
  rw [FlatGrammar.mark, if_pos (hall _)] at kept ⊢
  rw [Array.size_setIfInBounds] at kept
  have found := Array.getElem?_setIfInBounds_self_of_lt (a := true) (kept ▸ hsize)
  rw [FlatGrammar.isProductive, show x.operandProduction.lhs = x.ruleSymbol from rfl, found]
  exact Bool.or_true _

theorem unproductiveRules_eq (x : OperatorGrammar) : x.flat.unproductiveRules = [] := by
  let unmarked := Array.replicate (x.flat.terminalCount + x.flat.nonterminalCount) false
  have hsize : x.ruleSymbol < unmarked.size := by simp [unmarked, flat, ruleSymbol]
  have grown : x.flat.productiveStep unmarked ≠ unmarked := fun h => by
    have known := isProductive_productiveStep hsize
    rw [h] at known
    simp [FlatGrammar.isProductive, unmarked, FlatGrammar.isTerminal, flat, ruleSymbol] at known
  have known : x.ruleSymbol < x.flat.productive.size ∧
      x.flat.isProductive x.flat.productive x.ruleSymbol = true := by
    have step : ∀ marked : Array Bool, x.ruleSymbol < marked.size →
        x.ruleSymbol < (x.flat.productiveStep marked).size ∧
          x.flat.isProductive (x.flat.productiveStep marked) x.ruleSymbol = true := fun marked h =>
      ⟨x.size_productiveStep marked ▸ h, isProductive_productiveStep h⟩
    rw [FlatGrammar.productive, settle, if_neg grown]
    exact settle_induction (p := fun marked => x.ruleSymbol < marked.size ∧
      x.flat.isProductive marked x.ruleSymbol = true) (fun marked h => step marked h.1) _
      (step _ hsize)
  have nonterminals : (List.range x.flat.nonterminalCount).map (x.flat.terminalCount + ·) =
    [x.ruleSymbol] := rfl
  simp [FlatGrammar.unproductiveRules, nonterminals, known.2]

theorem flatten_eq (x : OperatorGrammar) : x.grammar.flatten = (some x.flat, []) := by
  have start : x.grammar.startRule? = some (x.ruleName,
    .choice (x.operators.map (·.rule x.ruleName) ++ [.string x.operand])) := rfl
  have levels : Levels.ofOrderings x.grammar.precedences = ⟨[], false⟩ := rfl
  have flat : (Draft.flatten x.grammar ⟨[], false⟩ x.ruleName).run {} =
    (x.flat, x.drafted x.alternatives x.texts) := run_flatten
  have diagnostics : (x.drafted x.alternatives x.texts).diagnostics = #[] := rfl
  rw [Grammar.flatten, start]
  simp [levels, Levels.reports, flat, diagnostics, undefinedReferences_eq, unreachableRules_eq,
    unproductiveRules_eq]

end OperatorGrammar

end IncrementalGlr
