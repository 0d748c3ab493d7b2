import IncrementalGlr.Proofs.Compile
import IncrementalGlr.Proofs.Table.Consistency
import IncrementalGlr.Proofs.Tree.Coverage

/-!
What lexers and parsers rely on in a table beyond what is checked when it is made ready for use
(`TableData.Reliable`): every number that the lexer looks up is that of a terminal or of an external
token, every field has a name, and at the end of the text nothing is taken. The table of every grammar
that compiles is reliable (`Grammar.reliable_of_compile`). The numbers come from flattening
(`Flattened.tabled`, `Flattened.lt_of_external`), the actions from the automaton, and storing changes
neither (`ParseTable.listAt_ofActions`).
-/
namespace IncrementalGlr

/-- A table fits together, and what is looked up without a check is there. -/
structure TableData.Reliable (d : TableData) : Prop where
  problem : d.problem = none
  word : ∀ s ∈ d.lex.word, s < d.terminalCount
  keywords : ∀ s ∈ d.lex.keywords, s < d.terminalCount
  recovery : ∀ s ∈ d.recovery, s < d.terminalCount
  externals : ∀ e ∈ d.lex.tokens, ∀ i, e.matcher = .external i → i < d.externalCount
  fields : ∀ p ∈ d.productions, ∀ c ∈ p.children, ∀ f ∈ c.field, 0 < f ∧ f ≤ d.fields.size
  emptyList : ∀ k : Nat, d.actionLists[k]? = some [] ↔ k = 0
  /-- A text is accepted at its end alone, and nothing is taken there. -/
  cells : ∀ q < d.stateCount, ∀ s < d.terminalCount, ∃ actions, d.listAt q s = some actions ∧
    (.accept ∈ actions → s = endSymbol) ∧
    (s = endSymbol → .shiftExtra ∉ actions ∧ ∀ r, .shift r ∉ actions)

variable {g : FlatGrammar} {a : Automaton}

/-- Keywords are terminals. -/
theorem FlatGrammar.lt_of_mem_keywords {s : SymbolId} (h : s ∈ g.keywords) :
    s < g.terminals.size := by
  unfold FlatGrammar.keywords at h
  split at h
  · cases h
  · exact List.mem_range.1 (List.mem_filter.1 h).1

/-- A terminal is matched by the external scanner only if it is an external token. -/
theorem FlatGrammar.form_of_tokenEntry {t : Terminal} {i : Nat}
    (h : (tokenEntry t).matcher = .external i) : t.form = .external i := by
  unfold tokenEntry at h
  cases hform : t.form with
  | external j =>
    rw [hform] at h
    rw [Matcher.external.inj h]
  | endOfText => rw [hform] at h; cases h
  | literal text => rw [hform] at h; cases h
  | regex source => rw [hform] at h; cases h

namespace TableData

/-- What is stored for a state and a terminal: a text is accepted at its end alone, and nothing is taken
there. -/
theorem exists_cell (hflat : Flat.Draft.EndApart g) (b : a.Built g) {q : StateId} {s : SymbolId}
    (hq : q < (ActionTable.ofAutomaton g a).actions.size) (hs : s < g.terminalCount) :
    ∃ actions, (ofActions g (.ofAutomaton g a)).listAt q s = some actions ∧
      (.accept ∈ actions → s = endSymbol) ∧
      (s = endSymbol → .shiftExtra ∉ actions ∧ ∀ r, .shift r ∉ actions) := by
  refine ⟨_, ParseTable.listAt_ofActions (fun _ => ParseTable.size_of_mem_actions) hq hs, ?_, ?_⟩
  · intro haccept
    rw [FlatGrammar.storedActions] at haccept
    split at haccept
    · cases List.mem_singleton.1 haccept
    · exact (Automaton.Built.complete_of_accept haccept).1
  · rintro rfl
    -- the end of the text is no extra, so what was decided is stored as it is
    have decided : g.storedActions endSymbol ((ActionTable.ofAutomaton g a).actionsAt q endSymbol) =
        (ActionTable.ofAutomaton g a).actionsAt q endSymbol := by
      rw [FlatGrammar.storedActions, if_neg]
      cases hinfo : g.symbols[endSymbol]? with
      | none => simp
      | some info => simp [hflat.extra info hinfo]
    rw [decided]
    refine ⟨fun hextra => ?_, fun r => b.not_shift_endSymbol hflat⟩
    obtain ⟨st, hst, hin⟩ := Automaton.Built.exists_state_of_mem_actionsAt hextra
    rw [Automaton.Built.actionsAt_resolved hst hin] at hextra
    exact Cell.shiftExtra_not_mem_actions hextra

end TableData

namespace Grammar

variable {g : Grammar} {compiled : Compiled} {reports : List Diagnostic}

/-- The table of every grammar that compiles is reliable. -/
theorem reliable_of_compile (h : g.compile = .ok (compiled, reports)) :
    compiled.table.Reliable := by
  obtain ⟨flat, a, hflat, builds⟩ := exists_of_compile h
  obtain ⟨b⟩ := Automaton.exists_built builds.automaton
  obtain ⟨_, _, _, _, -, flattened, -⟩ := exists_flattened (Prod.ext hflat rfl)
  rw [builds.table]
  exact {
    problem := (TableData.consistent_of_tabled b flattened.tabled).problem
    word := fun s hs => flattened.lt_terminalCount
      (List.mem_append_left _ (List.mem_append_right _ (Option.mem_toList.2 hs)))
    keywords := fun s hs =>
      Nat.lt_of_lt_of_eq (FlatGrammar.lt_of_mem_keywords hs) flattened.endApart.size
    recovery := fun s hs => flattened.lt_terminalCount (List.mem_append_right _ hs)
    externals := by
      intro e he i hi
      obtain ⟨t, ht, rfl⟩ := Array.mem_map.1 he
      have known := flattened.lt_of_external ht (FlatGrammar.form_of_tokenEntry hi)
      exact Nat.lt_of_lt_of_eq known (externalCount_flatten hflat).symm
    fields := by
      intro p hp c hc f hf
      have named := (flattened.numbers.children p hp c hc).1 f hf
      rwa [← List.size_toArray] at named
    emptyList := fun k =>
      ⟨(ActionPool.sound_foldl _).alone k, fun hk => hk ▸ (ActionPool.sound_foldl _).first⟩
    cells := fun q hq s hs => TableData.exists_cell flattened.endApart b hq hs }

end Grammar

/-- The table of the grammar of a letter is reliable. -/
theorem Letter.reliable_letter : Letter.table.data.Reliable :=
  Grammar.reliable_of_compile Letter.compile_eq

end IncrementalGlr
