import IncrementalGlr.Proofs.Parse.Known
import IncrementalGlr.Proofs.Table.Binary
import IncrementalGlr.Proofs.Tree.Derivation

/-!
Tables that are safe to parse with. Whoever lexes and parses with such a table never reads outside of
its arrays, whatever the text, the scanner, the states and the edits are (`ParseTable.Safe`). Making a
table ready for use makes it safe if the word and the keywords are terminals and the external tokens are
numbered as the table counts them (`ParseTable.safe_of_ofData`). That is not checked, and without it the
table is ready all the same but not safe, as that of `Worded.astray` is not.
-/
namespace IncrementalGlr

/-- Nothing that is done with a table reads outside of its arrays. -/
structure ParseTable.Safe (t : ParseTable) : Prop where
  /-- A token is found in every text, by every scanner, at every place and for all states. -/
  lex : ∀ l : Lexer, l.table = t → ∀ position states,
    l.lex? position states = some (l.lex position states)
  actions : ∀ q s, t.actions? q s = some (t.actions q s)
  goto : ∀ q s, t.goto? q s = some (t.goto q s)
  states : ∀ q s r, .shift r ∈ t.actions q s ∨ t.goto q s = some r → r < t.stateCount
  /-- The production that a reduction asks for is there, and so are the symbols in it. -/
  production : ∀ q s id, .reduce id ∈ t.actions q s → ∃ p, t.production? id = some p ∧
    p.lhs < t.symbolCount ∧
      ∀ c ∈ p.children, c.symbol < t.symbolCount ∧ ∀ x ∈ c.renamed, x < t.symbolCount
  /-- The symbols, productions and states of trees are there, after any number of edits. -/
  trees : ∀ l : Language, l.table = t → ∀ tree, l.Makes tree → tree.green.Known t

/-- Trees take nothing from a table that is not there, if the lexer reads inside. -/
theorem Language.Makes.known {l : Language} (bounds : l.table.data.LexerBounds) {tree : Tree}
    (h : l.Makes tree) : tree.green.Known l.table := by
  refine h.of_runs fun p text reuse cancelled root c hp hreuse hreturns => ?_
  subst hp
  exact Engine.known_of_run (e := p.engine text reuse cancelled) rfl bounds hreuse hreturns

namespace ParseTable

/-- A table that is ready for use is safe, if its word and its keywords are terminals and its external
tokens have numbers below their count. -/
theorem safe_of_ofData {d : TableData} {t : ParseTable} (h : ofData d = .ok t)
    (bounds : d.LexerBounds) : t.Safe := by
  rw [← data_of_ofData h] at bounds
  exact {
    lex := by
      rintro l rfl position states
      exact Lexer.lex?_eq bounds position states
    actions := t.actions?_eq
    goto := t.goto?_eq
    states := fun q s r leads => leads.elim lt_of_shift lt_of_goto
    production := by
      intro q s id hreduce
      obtain ⟨p, hp⟩ := exists_production hreduce
      exact ⟨p, hp, lt_of_production hp⟩
    trees := by
      rintro l rfl tree htree
      exact htree.known bounds }

end ParseTable

/-! ## A word -/

namespace Worded

/-- Texts of one word, with a keyword and an external token besides. -/
def lexTable : LexTable where
  tokens := #[⟨.endOfText, false⟩, ⟨.literal "word", false⟩, ⟨.literal "if", false⟩,
    ⟨.external 0, false⟩]
  padding := none
  word := some 1
  keywords := [2]

def data (lex : LexTable) : TableData where
  name := "worded"
  symbols := #[{ name := "end", kind := .endOfText, named := false, visible := false },
    { name := "word", kind := .literal, named := false, visible := true },
    { name := "if", kind := .literal, named := false, visible := true },
    { name := "indent", kind := .external, named := true, visible := true },
    { name := "s", kind := .nonterminal, named := true, visible := true }]
  terminalCount := 4
  nonterminalCount := 1
  externalCount := 1
  fields := #[]
  productions := #[{ lhs := 4, children := [{ symbol := 1 }] }]
  stateCount := 3
  actionLists := #[[], [.shift 1], [.reduce 0], [.accept]]
  actionIndex := #[0, 1, 0, 0, 2, 0, 0, 0, 3, 0, 0, 0]
  gotoIndex := #[2, noGoto, noGoto]
  startSymbol := 4
  lex
  recovery := []
  conflicts := []

/-- The table is safe. -/
theorem safe_data : ∃ t, ParseTable.ofData (data lexTable) = .ok t ∧ t.Safe := by
  have bounds : (data lexTable).LexerBounds := by
    refine ⟨by decide, by decide, fun e he i hi => ?_⟩
    simp only [data, lexTable, List.mem_toArray, List.mem_cons, List.not_mem_nil, or_false] at he
    rcases he with rfl | rfl | rfl | rfl
    · cases hi
    · cases hi
    · cases hi
    · cases hi
      decide
  have ready : (ParseTable.ofData (data lexTable)).isOk = true := by cbv
  cases h : ParseTable.ofData (data lexTable) with
  | error e =>
    rw [h] at ready
    cases ready
  | ok t => exact ⟨t, rfl, ParseTable.safe_of_ofData h bounds⟩

/-- The same with a word that is no terminal. -/
def astray : ParseTable where
  data := data { lexTable with word := some 99 }
  patterns := #[none, none, none, none]
  padding := none
  valid := #[[1], [0], [0]]
  consistent := by cbv
  patterns_eq := by cbv
  padding_eq := by cbv
  valid_eq := by cbv

example : (Lexer.ofText astray none "word").lex? 0 [0] = none :=
  Lexer.lex?_eq_none_of_word rfl (by decide) rfl (by decide +kernel) [0]

end Worded

end IncrementalGlr
