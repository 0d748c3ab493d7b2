import IncrementalGlr.Proofs.Table.Consistency
import IncrementalGlr.Proofs.Tree.Coverage

/-!
Compiling comes to a result for every grammar: a table whose parts fit together, or reports of which
one is an error. Where the name of the first rule is not that of an external token, all numbers on the
way are in range and the table starts at the nonterminal of the first rule
(`Grammar.fits_of_compile`). An external token of that name takes the place of the rule, and then the
start symbol is the nonterminal of whatever rule comes next.
-/
namespace IncrementalGlr

namespace Grammar

variable {g : Grammar} {compiled : Compiled} {reports : List Diagnostic}

theorem exists_isError_of_compileFlat {flat : FlatGrammar} (h : (compileFlat flat).1 = none) :
    ∃ r ∈ (compileFlat flat).2, r.isError = true := by
  unfold compileFlat at h ⊢
  split at h
  · exact ⟨_, List.mem_singleton_self _, rfl⟩
  · dsimp only at h ⊢
    split at h
    · exact ⟨_, List.mem_append_right _ (List.mem_singleton_self _), rfl⟩
    · cases h

/-- A grammar that does not compile has an error. -/
theorem exists_isError_of_compile (h : g.compile = .error reports) :
    ∃ r ∈ reports, r.isError = true := by
  have hnone : g.compileWithReports = (none, reports) := by
    unfold compile at h
    split at h
    · cases h
    · next hresult =>
      rw [hresult]
      cases h
      rfl
  unfold compileWithReports at hnone
  generalize hflat : g.flatten = flattened at hnone
  obtain ⟨_ | flat, diagnostics⟩ := flattened
  · obtain ⟨-, rfl⟩ := Prod.mk.inj hnone
    unfold flatten at hflat
    split at hflat
    · obtain ⟨-, rfl⟩ := Prod.mk.inj hflat
      exact ⟨_, List.mem_singleton_self _, rfl⟩
    · cases hflat
  · dsimp only at hnone
    split at hnone
    · next herror =>
      obtain ⟨-, rfl⟩ := Prod.mk.inj hnone
      exact List.any_eq_true.1 herror
    · obtain ⟨hcompiled, rfl⟩ := Prod.mk.inj hnone
      obtain ⟨r, hr, herror⟩ := exists_isError_of_compileFlat hcompiled
      exact ⟨r, List.mem_append_right _ hr, herror⟩

/-- Where no external token has the name of the first rule, every number that compiling looks up is in
range, the table fits together and starts at the nonterminal of the first rule, and without a table
there is an error. -/
theorem fits_of_compile (hstart : ∀ e ∈ g.startRule?, e.1 ∉ g.externalNames) :
    (∀ flat ∈ g.flatten.1, flat.Fits) ∧
    (∀ compiled reports, g.compile = .ok (compiled, reports) → compiled.table.Consistent ∧
      ∃ e ∈ g.startRule?, ∃ info,
        compiled.table.symbols[compiled.table.startSymbol]? = some info ∧
        info.name = e.1 ∧ info.kind = .nonterminal) ∧
    ∀ reports, g.compile = .error reports → ∃ r ∈ reports, r.isError = true := by
  have flattened {flat : FlatGrammar} (hflat : g.flatten.1 = some flat) : flat.Fits ∧
      ∃ e ∈ g.startRule?, ∃ info, flat.symbols[flat.start]? = some info ∧ info.name = e.1 ∧
        info.kind = .nonterminal := by
    obtain ⟨start, body, base, d, hrule, flattened, -⟩ := exists_flattened (Prod.ext hflat rfl)
    have hname : g.startRule?.map Prod.fst = some start := by rw [hrule]; rfl
    have hexternal : start ∉ g.externalNames := hstart _ hrule
    refine ⟨flattened.fits (flattened.inRange hname hexternal), _, hrule, ?_⟩
    exact flattened.symbol_start (start_mem_reachable hname hexternal)
      (List.mem_map_of_mem (List.mem_of_head? hrule))
  refine ⟨fun flat hflat => (flattened hflat).1, fun compiled reports h => ?_,
    fun reports h => exists_isError_of_compile h⟩
  obtain ⟨flat, a, hflat, builds⟩ := exists_of_compile h
  obtain ⟨b⟩ := Automaton.exists_built builds.automaton
  obtain ⟨fits, first⟩ := flattened hflat
  rw [builds.table]
  exact ⟨TableData.consistent_ofAutomaton b fits, first⟩

end Grammar

namespace Letter

/-- The table of the grammar of a letter fits together and starts at its one rule. -/
theorem fits_letter : flat.Fits ∧ table.data.Consistent ∧
    ∃ e ∈ letter.startRule?, ∃ info, table.data.symbols[table.data.startSymbol]? = some info ∧
      info.name = e.1 ∧ info.kind = .nonterminal := by
  have first : ∀ e ∈ letter.startRule?, e.1 ∉ letter.externalNames := by
    rintro e -
    exact List.not_mem_nil
  obtain ⟨flats, tables, -⟩ := Grammar.fits_of_compile first
  exact ⟨flats flat (congrArg Prod.fst flatten_eq), tables _ _ compile_eq⟩

end Letter

end IncrementalGlr
