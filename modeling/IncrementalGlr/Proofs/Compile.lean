import IncrementalGlr.Compile
import IncrementalGlr.Proofs.Parse.Coverage
import IncrementalGlr.Proofs.Parse.Progress
import IncrementalGlr.Proofs.Table.OfAutomaton

/-!
What a parser can rely on in the table of a grammar that was compiled: the end of the text is told by
nothing but itself, and a text is accepted there alone and never right behind a token
(`Grammar.closing_of_compile`); the end is never put on a stack (`Grammar.tableEnds_of_compile`); and
the table guides the parser along derivation steps (`Grammar.exists_guides_of_compile`).
-/
namespace IncrementalGlr

/-! ## Compiling -/

namespace Grammar

variable {g : Grammar} {compiled : Compiled} {reports : List Diagnostic} {flat : FlatGrammar}

theorem endApart_of_flatten (h : g.flatten.1 = some flat) : Flat.Draft.EndApart flat := by
  obtain ⟨_, _, _, _, -, flattened, -⟩ := exists_flattened (Prod.ext h rfl)
  exact flattened.endApart

/-- The grammar's flat form and its automaton make the table. -/
structure Builds (flat : FlatGrammar) (a : Automaton) (compiled : Compiled) : Prop where
  automaton : Automaton.ofGrammar flat (.ofGrammar flat) = some a
  table : compiled.table = .ofActions flat (.ofAutomaton flat a)
  conflictCount : compiled.conflictCount = (ActionTable.ofAutomaton flat a).conflictCount

theorem exists_of_compileFlat (h : (compileFlat flat).1 = some compiled) :
    ∃ a, Builds flat a compiled := by
  unfold compileFlat at h
  split at h
  · cases h
  · next a ha =>
    dsimp only at h
    split at h
    · cases h
    · obtain rfl := Option.some.inj h
      exact ⟨a, ha, rfl, rfl⟩

/-- A grammar compiles only if no error is found while it is flattened. -/
theorem compileFlat_of_compile (h : g.compile = .ok (compiled, reports)) :
    ∃ flat, g.flatten.1 = some flat ∧ (compileFlat flat).1 = some compiled ∧
      ∀ r ∈ g.flatten.2, r.isError = false := by
  have hresult : g.compileWithReports.1 = some compiled := by
    unfold compile at h
    split at h
    · next c _ hc =>
      rw [hc]
      cases h
      rfl
    · cases h
  unfold compileWithReports at hresult
  generalize hflat : g.flatten = flattened at hresult ⊢
  obtain ⟨_ | flat, diagnostics⟩ := flattened
  · cases hresult
  · dsimp only at hresult
    split at hresult
    · cases hresult
    · next hnone =>
      refine ⟨flat, rfl, hresult, fun r hr => Bool.eq_false_iff.2 fun herror => ?_⟩
      exact hnone (List.any_eq_true.2 ⟨r, hr, herror⟩)

/-- A grammar that compiles has a flat form with an automaton, whose actions fill the table. -/
theorem exists_of_compile (h : g.compile = .ok (compiled, reports)) :
    ∃ (flat : FlatGrammar) (a : Automaton), g.flatten.1 = some flat ∧ Builds flat a compiled := by
  obtain ⟨flat, hflat, hresult, -⟩ := compileFlat_of_compile h
  obtain ⟨a, builds⟩ := exists_of_compileFlat hresult
  exact ⟨flat, a, hflat, builds⟩

/-- What compiling has made of a grammar. -/
theorem exists_builds (h : g.compile = .ok (compiled, reports)) (hflat : g.flatten.1 = some flat) :
    ∃ a, Builds flat a compiled := by
  obtain ⟨flat', a, hflat', builds⟩ := exists_of_compile h
  obtain rfl := Option.some.inj (hflat.symm.trans hflat')
  exact ⟨a, builds⟩

/-- Each nonterminal of a grammar that compiles yields some text. -/
theorem productive_of_compile (h : g.compile = .ok (compiled, reports))
    (hflat : g.flatten.1 = some flat) : flat.Productive := by
  obtain ⟨_, -, -, noError⟩ := compileFlat_of_compile h
  obtain ⟨-, -, -, -, -, -, reported⟩ := exists_flattened (Prod.ext hflat rfl)
  refine FlatGrammar.productive_of_unproductiveRules (List.eq_nil_iff_forall_not_mem.2 fun r hr => ?_)
  have found := noError r (reported r (List.mem_append_right _ hr))
  -- A rule that no text matches is reported as an error.
  obtain ⟨s, -, rfl⟩ := List.mem_map.1 hr
  cases found

end Grammar

/-! ## The table -/

section Table

variable {flat : FlatGrammar} {a : Automaton} {t : ParseTable}

/-- The end of the text is told by nothing but itself. -/
theorem ParseTable.endApart_ofActions (hflat : Flat.Draft.EndApart flat) {actions : ActionTable}
    (ht : t.data = .ofActions flat actions) : t.EndApart where
  external index h := by
    rw [externalSymbol, ht] at h
    obtain ⟨hin, hmatch, -⟩ := Array.findIdx?_eq_some_iff_getElem.1 h
    obtain ⟨terminal, hterminal, hform⟩ := Option.map_eq_some_iff.1 hflat.endOfText
    obtain ⟨hfirst, rfl⟩ := Array.getElem?_eq_some_iff.1 hterminal
    have entry : (TableData.ofActions flat actions).lex.tokens[endSymbol] =
        FlatGrammar.tokenEntry flat.terminals[0] :=
      Array.getElem_map FlatGrammar.tokenEntry hin
    rw [entry, FlatGrammar.tokenEntry, hform] at hmatch
    cases hmatch
  keyword h := by
    rw [ht] at h
    change endSymbol ∈ flat.keywords at h
    unfold FlatGrammar.keywords at h
    split at h
    · cases h
    · have literal := (List.mem_filter.1 h).2
      rw [endSymbol, hflat.endOfText] at literal
      cases literal

theorem ParseTable.closing_ofAutomaton (hflat : Flat.Draft.EndApart flat) (b : a.Built flat)
    (ht : t.data = .ofActions flat (.ofAutomaton flat a)) : t.Closing where
  toEndApart := endApart_ofActions hflat ht
  accept h :=
    (Automaton.Built.complete_of_accept
      (actionsAt_of_mem ht h nofun)).1
  shift h haccept :=
    Automaton.Built.not_accept_of_shift b (Nat.le_of_eq hflat.start.symm)
      (actionsAt_of_mem ht h nofun) (actionsAt_of_mem ht haccept nofun)

/-- The end of the text stands in no production, so nothing decides to shift it. -/
theorem Automaton.Built.not_shift_endSymbol (b : a.Built flat) (hflat : Flat.Draft.EndApart flat)
    {q r : StateId} : .shift r ∉ (ActionTable.ofAutomaton flat a).actionsAt q endSymbol := by
  intro h
  obtain ⟨s, hs, -, hlookup⟩ := Automaton.Built.lookup_of_shift h
  rcases b.mem_rhs_of_lookup hs hlookup with hstart | ⟨p, hp, hmem⟩
  · have := hflat.terminalCount_pos
    rw [hflat.start] at hstart
    exact absurd hstart (Nat.ne_of_lt this)
  · exact hflat.rhs p hp _ hmem rfl

/-- The end of the text is no part of any production, and no extra. -/
theorem ParseTable.ends_ofAutomaton (hflat : Flat.Draft.EndApart flat) (b : a.Built flat)
    (ht : t.data = .ofActions flat (.ofAutomaton flat a)) : t.Ends where
  toEndApart := endApart_ofActions hflat ht
  shift target h := by
    cases target with
    | none =>
      have extra := isExtra_of_taken ht h
      rw [isExtra_ofActions ht] at extra
      cases hinfo : flat.symbols[endSymbol]? with
      | none => simp [hinfo] at extra
      | some info => simp [hinfo, hflat.extra info hinfo] at extra
    | some r => exact b.not_shift_endSymbol hflat (actionsAt_of_mem ht h nofun)

end Table

/-- A parser can rely on the table of every grammar that compiles. -/
theorem Grammar.closing_of_compile {g : Grammar} {compiled : Compiled} {reports : List Diagnostic}
    (h : g.compile = .ok (compiled, reports)) {t : ParseTable} (ht : t.data = compiled.table) :
    t.Closing := by
  obtain ⟨flat, a, hflat, builds⟩ := exists_of_compile h
  obtain ⟨b⟩ := Automaton.exists_built builds.automaton
  exact ParseTable.closing_ofAutomaton (endApart_of_flatten hflat) b (ht.trans builds.table)

/-- The table of every grammar that compiles puts no end on a stack. -/
theorem Grammar.tableEnds_of_compile {g : Grammar} {compiled : Compiled} {reports : List Diagnostic}
    (h : g.compile = .ok (compiled, reports)) {t : ParseTable} (ht : t.data = compiled.table) :
    t.Ends := by
  obtain ⟨flat, a, hflat, builds⟩ := exists_of_compile h
  obtain ⟨b⟩ := Automaton.exists_built builds.automaton
  exact ParseTable.ends_ofAutomaton (endApart_of_flatten hflat) b (ht.trans builds.table)

/-- The table of every grammar that compiles guides a parser. -/
theorem Grammar.exists_guides_of_compile {g : Grammar} {compiled : Compiled}
    {reports : List Diagnostic} (h : g.compile = .ok (compiled, reports)) {t : ParseTable}
    (ht : t.data = compiled.table) : ∃ On, t.Guides On := by
  obtain ⟨flat, a, hflat, builds⟩ := exists_of_compile h
  obtain ⟨b⟩ := Automaton.exists_built builds.automaton
  obtain ⟨_, _, _, _, -, flattened, -⟩ := exists_flattened (Prod.ext hflat rfl)
  rcases Nat.eq_zero_or_pos flat.nonterminalCount with hnone | hpos
  · exact ⟨_, ParseTable.guides_of_no_nonterminals b (ht.trans builds.table) hnone
      (flattened.productions_eq_nil hnone) flattened.endApart.start⟩
  · exact ⟨_, ParseTable.guides_of_inRange b (ht.trans builds.table) (flattened.inRange_of_pos hpos)⟩

end IncrementalGlr
