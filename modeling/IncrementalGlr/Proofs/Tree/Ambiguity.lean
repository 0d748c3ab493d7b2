import IncrementalGlr.Proofs.Parse.Best
import IncrementalGlr.Proofs.Tree.Coverage

/-!
The best of several readings. Where a grammar leaves open how a text is to be read, rules with
dynamic precedence decide: without extras and without precedences that are known beforehand, the tree
of a text is worth as much as any derivation tree of its tokens (`Parser.best_of_parse`), as long as
no reading was given up for the limits on heads and on reductions and 32 bits hold what the heads are
worth. Heads are merged after every token, so that the best reading is only ever dropped for one that is
as good.
-/
namespace IncrementalGlr

namespace Grammar

variable {g : Grammar} {compiled : Compiled} {reports : List Diagnostic} {flat : FlatGrammar}

/-- Without precedences in a grammar its productions are all preferred alike. -/
theorem even_of_flatten (h : g.flatten.1 = some flat) (heven : g.isEven = true)
    (hlevels : g.precedences = []) : flat.Even := by
  obtain ⟨_, _, _, _, -, flattened, -⟩ := exists_flattened (Prod.ext h rfl)
  have even := flattened.even heven fun name => by rw [hlevels]; rfl
  exact ⟨fun p hp p' hp' => (even p hp).1.trans (even p' hp').1.symm, fun p hp => (even p hp).2⟩

/-- Where the start symbol has a derivation tree, all numbers of symbols are those of symbols. -/
theorem inRange_of_weighs (h : g.flatten.1 = some flat) {w : List SymbolId} {d : Int}
    (hd : flat.Weighs [flat.start] w d) : flat.InRange := by
  obtain ⟨_, _, _, _, -, flattened, -⟩ := exists_flattened (Prod.ext h rfl)
  refine flattened.inRange_of_pos (Nat.pos_of_ne_zero fun hnone => ?_)
  generalize hs : [flat.start] = row at hd
  cases hd with
  | nil => cases hs
  | terminal ht =>
    obtain ⟨rfl, -⟩ := List.cons.inj hs
    exact absurd (flattened.endApart.start ▸ ht) (Nat.lt_irrefl _)
  | rule hp => simp [flattened.productions_eq_nil hnone] at hp

/-- An engine with the table of a grammar follows its automaton. -/
theorem exists_uses (hg : g.compile = .ok (compiled, reports)) (hflat : g.flatten.1 = some flat)
    (hrange : flat.InRange) {e : Engine} (ht : e.table.data = compiled.table) :
    ∃ a, e.Uses flat a := by
  obtain ⟨a, builds⟩ := exists_builds hg hflat
  exact ⟨a, Automaton.exists_built builds.automaton, hrange, ht.trans builds.table⟩

end Grammar

namespace Parser

variable {p : Parser} {cancelled : Nat → Bool} {text : String} {tree : Tree} {g : Grammar}
  {compiled : Compiled} {reports : List Diagnostic} {flat : FlatGrammar}

end Parser

/-- What is computed of the result of a parse is computed of its tree. -/
theorem ParseOutcome.exists_tree {α : Type} {outcome : ParseOutcome} {f : Tree → α} {a : α}
    (h : outcome.result.toOption.map f = some a) : ∃ tree, outcome.result = .ok tree ∧ f tree = a := by
  cases hresult : outcome.result with
  | error e =>
    rw [hresult] at h
    cases h
  | ok tree =>
    rw [hresult] at h
    exact ⟨tree, rfl, Option.some.inj h⟩

/-! ## A letter with two readings -/

/-- The grammar of a letter that can be read in two ways, of which one is preferred. -/
def twofold : Grammar where
  name := "twofold"
  rules := .ofList [("s", .choice [.symbol "x", .symbol "y"]), ("x", .seq [.string "a"]),
    ("y", .precDynamic 1 (.seq [.string "a"]))]
  conflicts := [["x", "y"]]

namespace Twofold

def flat : FlatGrammar where
  name := "twofold"
  symbols := #[{ name := "end", kind := .endOfText, named := false, visible := false },
    { name := "a", kind := .literal, named := false, visible := true },
    { name := "s", kind := .nonterminal, named := true, visible := true },
    { name := "x", kind := .nonterminal, named := true, visible := true },
    { name := "y", kind := .nonterminal, named := true, visible := true }]
  terminalCount := 2
  nonterminalCount := 3
  externalCount := 0
  fields := []
  productions := #[{ lhs := 2, children := [{ symbol := 3 }] },
    { lhs := 2, children := [{ symbol := 4 }] }, { lhs := 3, children := [{ symbol := 1 }] },
    { lhs := 4, children := [{ symbol := 1 }], dynamicPrecedence := 1 }]
  start := 2
  terminals := #[{ form := .endOfText }, { form := .literal "a" }]
  padding := none
  extras := []
  word := none
  recovery := []
  conflicts := [[3, 4]]
  owners := #[0, 1, 2, 3, 4]

/-- The start, the letter, either reading, and the whole text. -/
def automaton : Automaton where
  states := #[
    { kernel := [(⟨4, 0⟩, ⟨1⟩)]
      items := [(⟨4, 0⟩, ⟨1⟩), (⟨0, 0⟩, ⟨1⟩), (⟨1, 0⟩, ⟨1⟩), (⟨2, 0⟩, ⟨1⟩), (⟨3, 0⟩, ⟨1⟩)]
      transitions := [(1, 1), (2, 2), (3, 3), (4, 4)] },
    { kernel := [(⟨2, 1⟩, ⟨1⟩), (⟨3, 1⟩, ⟨1⟩)], items := [(⟨2, 1⟩, ⟨1⟩), (⟨3, 1⟩, ⟨1⟩)]
      transitions := [] },
    { kernel := [(⟨4, 1⟩, ⟨1⟩)], items := [(⟨4, 1⟩, ⟨1⟩)], transitions := [] },
    { kernel := [(⟨0, 1⟩, ⟨1⟩)], items := [(⟨0, 1⟩, ⟨1⟩)], transitions := [] },
    { kernel := [(⟨1, 1⟩, ⟨1⟩)], items := [(⟨1, 1⟩, ⟨1⟩)], transitions := [] }]

theorem ofGrammar_flat : Automaton.ofGrammar flat (.ofGrammar flat) = some automaton := by
  have found : Lr.Found.explore flat 6 ⟨#[[flat.startItem]], #[]⟩ =
      some ⟨#[[⟨4, 0⟩], [⟨2, 1⟩, ⟨3, 1⟩], [⟨4, 1⟩], [⟨0, 1⟩], [⟨1, 1⟩]],
        #[[(1, 1), (2, 2), (3, 3), (4, 4)], [], [], [], []]⟩ := by
    cbv
  have states : Lr.states flat = some _ := Lr.Found.explore_of_le found (by decide)
  rw [Automaton.ofGrammar, states]
  decide +kernel

def table : ParseTable where
  data := .ofActions flat (.ofAutomaton flat automaton)
  patterns := #[none, none]
  padding := none
  valid := #[[1], [0], [0], [0], [0]]
  consistent := by cbv
  patterns_eq := by cbv
  padding_eq := by cbv
  valid_eq := by cbv

theorem flatten_eq : twofold.flatten = (some flat, []) := by cbv

theorem compile_eq : twofold.compile = .ok (⟨table.data, 4, 1⟩, []) := by
  have compiled : Grammar.compileFlat flat = (some ⟨table.data, 4, 1⟩, []) := by
    rw [Grammar.compileFlat, ofGrammar_flat]
    cbv
  rw [Grammar.compile, Grammar.compileWithReports, flatten_eq]
  simp [compiled]

def parser : Parser where
  language := ⟨table, none⟩
  complete := .inl rfl

/-- Both readings are followed, and the letter is accepted. -/
theorem run_eq : ((parser.parseUnless (fun _ => false) "a").result.isOk,
      (parser.parseUnless (fun _ => false) "a").trace) =
    (true, [.lex ⟨1, 0, 0, 1, 1⟩, .shift 1 1 false, .lex ⟨0, 1, 1, 1, 1⟩, .fork 1 0 2, .reduce 2 3 3,
      .reduce 3 4 4, .reduce 0 2 2, .reduce 1 2 2, .accept 2]) := by
  cbv

def engine : Engine := parser.engine "a" none fun _ => false

/-- The letter was looked at. -/
def looked : Configuration := { polls := 1, trace := #[.lex ⟨1, 0, 0, 1, 1⟩] }

/-- The letter was taken. -/
def taken : Configuration where
  heads := [{ stack := .push [] 1 (.leaf ⟨1, 0, 0, 1, 1⟩ false false 0 1) }]
  position := 1
  polls := 1
  trace := #[.lex ⟨1, 0, 0, 1, 1⟩, .shift 1 1 false]

/-- The end was looked at. -/
def ended : Configuration :=
  { taken with polls := 2, trace := taken.trace.push (.lex ⟨0, 1, 1, 1, 1⟩) }

/-- The parse comes to no other configurations: it takes the letter, and accepts at the end. -/
theorem eq_of_between {c : Configuration} (h : engine.Between none c) : c = {} ∨ c = taken := by
  induction h with
  | start => exact .inl rfl
  | next _ hr ih =>
    rcases ih with rfl | rfl
    · have first : Parsing.Returns (do engine.poll; engine.consume maxAttempts (← engine.nextToken)) {}
          none taken := by
        unfold Parsing.Returns
        cbv
      exact .inr (Prod.mk.inj (hr.symm.trans first)).2
    · have last : ((do engine.poll; engine.consume maxAttempts (← engine.nextToken) :
          Parsing _).run.run taken).1.map Option.isSome = .ok true := by cbv
      rw [hr] at last
      cases last

/-- Whether the parse is over. -/
def isOver : Engine.Progress → Bool
  | .finished _ => true
  | _ => false

/-- No attempt fails. -/
theorem eq_of_tries {repairs : Nat} {token : Token} {c : Configuration}
    (h : engine.Tries none repairs token c) :
    repairs = maxAttempts ∧
      (token = ⟨1, 0, 0, 1, 1⟩ ∧ c = looked ∨ token = ⟨0, 1, 1, 1, 1⟩ ∧ c = ended) := by
  induction h with
  | pulled hc hr =>
    refine ⟨rfl, ?_⟩
    rcases eq_of_between hc with rfl | rfl
    · have first : (do engine.poll; engine.nextToken : Parsing _).Returns {} ⟨1, 0, 0, 1, 1⟩ looked := by
        unfold Parsing.Returns
        cbv
      obtain ⟨htoken, hconfiguration⟩ := Prod.mk.inj (hr.symm.trans first)
      exact .inl ⟨Except.ok.inj htoken, hconfiguration⟩
    · have last : (do engine.poll; engine.nextToken : Parsing _).Returns taken ⟨0, 1, 1, 1, 1⟩ ended := by
        unfold Parsing.Returns
        cbv
      obtain ⟨htoken, hconfiguration⟩ := Prod.mk.inj (hr.symm.trans last)
      exact .inr ⟨Except.ok.inj htoken, hconfiguration⟩
  | @repaired _ _ _ _ _ _ head _ hattempt _ ih =>
    obtain ⟨h, ih⟩ := ih
    rw [h, decide_eq_false (Nat.lt_irrefl _)] at hattempt
    rcases ih with ⟨rfl, rfl⟩ | ⟨rfl, rfl⟩
    · have shifts : (engine.attempt ⟨1, 0, 0, 1, 1⟩ false).Returns looked .taken taken := by
        unfold Parsing.Returns
        cbv
      cases Except.ok.inj (Prod.mk.inj (hattempt.symm.trans shifts)).1
    · have accepts : ((engine.attempt ⟨0, 1, 1, 1, 1⟩ false).run.run ended).1.map isOver = .ok true := by
        cbv
      rw [hattempt] at accepts
      cases Except.ok.inj accepts

theorem eq_of_faces {token : Token} {c : Configuration} (h : engine.Faces none token c) :
    token = ⟨1, 0, 0, 1, 1⟩ ∧ c = looked ∨ token = ⟨0, 1, 1, 1, 1⟩ ∧ c = ended := by
  cases h with
  | tried hc _ => exact (eq_of_tries hc).2
  | resumed hc hsome _ =>
    rcases (eq_of_tries hc).2 with ⟨-, rfl⟩ | ⟨-, rfl⟩ <;> exact absurd rfl hsome

/-- A head is worth nothing, or what the better reading of the letter is. -/
theorem isInt32_of_live {h : Head} (hh : engine.Live none h) :
    IsInt32 (h.stack.sumOf engine.table.worthOf) := by
  have within {heads : List Head} {sums : List Int} (hmem : h ∈ heads)
      (hsums : heads.map (fun k => k.stack.sumOf engine.table.worthOf) = sums) (hall : sums ⊆ [0, 1]) :
      IsInt32 (h.stack.sumOf engine.table.worthOf) := by
    have := hall (hsums ▸ List.mem_map_of_mem hmem)
    unfold IsInt32
    grind
  cases hh with
  | waiting hc hh => rcases eq_of_between hc with rfl | rfl <;> exact within hh rfl (by decide)
  | trying hc hh =>
    rcases (eq_of_tries hc).2 with ⟨-, rfl⟩ | ⟨-, rfl⟩ <;> exact within hh rfl (by decide)
  | facing hc hh => rcases eq_of_faces hc with ⟨-, rfl⟩ | ⟨-, rfl⟩ <;> exact within hh rfl (by decide)
  | @reduced _ recovering _ _ _ _ hc hphase hh =>
    let sums (phase : Engine.Phase) : List Int :=
      (phase.shifts.map Prod.fst ++ phase.accepts ++ phase.dead).map fun k =>
        k.stack.sumOf engine.table.worthOf
    rcases eq_of_faces hc with ⟨rfl, rfl⟩ | ⟨rfl, rfl⟩
    · have reduced : ((engine.reducePhase ⟨1, 0, 0, 1, 1⟩ recovering).run.run looked).1.map sums =
          .ok [0] := by cases recovering <;> cbv
      rw [hphase] at reduced
      exact within hh (Except.ok.inj reduced) (by decide)
    · have reduced : ((engine.reducePhase ⟨0, 1, 1, 1, 1⟩ recovering).run.run ended).1.map sums =
          .ok [0, 1] := by cases recovering <;> cbv
      rw [hphase] at reduced
      exact within hh (Except.ok.inj reduced) (by decide)

end Twofold

end IncrementalGlr
