import IncrementalGlr.Proofs.Flat.Flattening

/-!
Every number in a flat grammar is in range: each by which a later stage looks something up is that of
a symbol, a field or a token of the grammar (`Flattened.fits`). The start symbol is the nonterminal of
the first rule (`Flattened.symbol_start`).
-/
namespace IncrementalGlr

/-- All that is looked up by number is there. -/
structure FlatGrammar.Fits (g : FlatGrammar) : Prop extends g.InRange where
  symbols : g.terminalCount + g.nonterminalCount ≤ g.symbols.size
  first : (g.symbols[0]?).map (·.kind) = some .endOfText
  terminals : g.terminals.size = g.terminalCount
  fields : ∀ p ∈ g.productions, ∀ c ∈ p.children, ∀ f ∈ c.field, 0 < f ∧ f ≤ g.fields.length
  renamed : ∀ p ∈ g.productions, ∀ c ∈ p.children, ∀ s ∈ c.renamed, s < g.symbols.size
  tokens : ∀ s ∈ g.extras ++ g.word.toList ++ g.recovery, s < g.terminalCount
  conflicts : ∀ set ∈ g.conflicts, ∀ s ∈ set, g.IsNonterminal s
  owners : g.owners.size = g.symbols.size
  owned : ∀ s, g.IsNonterminal s → g.IsNonterminal (g.ownerOf s)

/-- Symbols and productions are numbered as a table needs them. The start symbol is left out, since a
grammar without nonterminals has none. -/
structure FlatGrammar.Tabled (g : FlatGrammar) : Prop where
  endSymbol : 0 < g.terminalCount
  symbols : g.terminalCount + g.nonterminalCount ≤ g.symbols.size
  first : (g.symbols[0]?).map (·.kind) = some .endOfText
  terminals : g.terminals.size = g.terminalCount
  lhs : ∀ p ∈ g.productions, g.IsNonterminal p.lhs
  rhs : ∀ p ∈ g.productions, ∀ s ∈ p.rhs, g.IsSymbol s
  renamed : ∀ p ∈ g.productions, ∀ c ∈ p.children, ∀ s ∈ c.renamed, s < g.symbols.size

theorem FlatGrammar.Fits.tabled {g : FlatGrammar} (h : g.Fits) : g.Tabled where
  endSymbol := h.endSymbol
  symbols := h.symbols
  first := h.first
  terminals := h.terminals
  lhs := h.lhs
  rhs := h.rhs
  renamed := h.renamed

namespace Flat.Draft.Flattened

variable {g : Grammar} {levels : Levels} {start : String} {flat : FlatGrammar} {base d : Draft}
  (h : Flattened g levels start flat base d)
include h

theorem size_symbolInfos : d.symbolInfos.size = flat.terminalCount + flat.nonterminalCount := by
  rw [symbolInfos, Array.size_append, Array.size_map, Array.size_map, h.numbers.terminalCount,
    h.numbers.nonterminalCount]

theorem size_symbols : flat.terminalCount + flat.nonterminalCount ≤ flat.symbols.size := by
  rw [← h.size_symbolInfos]
  simpa using h.numbers.symbols.length_le

/-- Only terminals may stand anywhere. -/
theorem lt_of_extra {s : SymbolId} {info : SymbolInfo} (hinfo : flat.symbols[s]? = some info)
    (hextra : info.extra = true) : s < flat.terminalCount :=
  h.numbers.terminalCount ▸ h.numbers.extra s info hinfo hextra

/-- Nonterminals come behind the terminals. -/
theorem getElem?_symbols_nonterminal {i : Nat} {n : NonterminalDraft}
    (hn : d.nonterminals[i]? = some n) : flat.symbols[flat.terminalCount + i]? = some {
      name := n.name, kind := n.kind, named := true, visible := n.visible
      supertype := n.supertype } := by
  obtain ⟨hi, rfl⟩ := Array.getElem?_eq_some_iff.1 hn
  have lt : flat.terminalCount + i < d.symbolInfos.toList.length := by
    rw [Array.length_toList, h.size_symbolInfos, h.numbers.nonterminalCount]
    omega
  rw [← Array.getElem?_toList, List.prefix_iff_getElem?.1 h.numbers.symbols _ lt]
  simp [symbolInfos, h.numbers.terminalCount]

/-- The owner of a nonterminal is the one that it was made for. -/
theorem ownerOf_nonterminal {i : Nat} {n : NonterminalDraft} (hn : d.nonterminals[i]? = some n) :
    flat.ownerOf (flat.terminalCount + i) = flat.terminalCount + n.owner := by
  obtain ⟨hi, rfl⟩ := Array.getElem?_eq_some_iff.1 hn
  rw [FlatGrammar.ownerOf, h.numbers.owners, h.numbers.terminalCount,
    Array.getElem?_append_left (by simp [hi]), Array.getElem?_append_right (by simp)]
  simp [hi]

theorem owned : ∀ s, flat.IsNonterminal s → flat.IsNonterminal (flat.ownerOf s) := by
  rintro s ⟨hle, hlt⟩
  rw [FlatGrammar.IsSymbol, h.numbers.nonterminalCount] at hlt
  obtain ⟨i, rfl⟩ := Nat.exists_eq_add_of_le hle
  have hi : i < d.nonterminals.size := Nat.lt_of_add_lt_add_left hlt
  have hn := getElem?_pos d.nonterminals i hi
  rw [h.ownerOf_nonterminal hn]
  refine ⟨Nat.le_add_right _ _, Nat.add_lt_add_left ?_ _⟩
  rw [h.numbers.nonterminalCount]
  exact (h.expanded.owned _ (Array.getElem_mem hi)).lt

theorem symbol_endOfText : (flat.symbols[0]?).map (·.kind) = some .endOfText := by
  obtain ⟨t, ht, hend⟩ := Option.map_eq_some_iff.1 h.endFirst
  rw [h.getElem?_symbols ht]
  exact congrArg (fun h : String × Bool × SymbolKind × Terminal => some h.2.2.1) hend

/-- The word token and the tokens to resume at are terminals. -/
theorem lt_terminalCount {s : SymbolId} (hs : s ∈ flat.extras ++ flat.word.toList ++ flat.recovery) :
    s < flat.terminalCount :=
  h.numbers.terminalCount ▸ h.numbers.tokens s hs

/-- A flat grammar with nonterminals has every number in range. -/
theorem fits (hrange : flat.InRange) : flat.Fits where
  toInRange := hrange
  symbols := h.size_symbols
  first := h.symbol_endOfText
  terminals := h.endApart.size
  fields p hp c hc f hf := (h.numbers.children p hp c hc).1 f hf
  renamed p hp c hc s hs := (h.numbers.children p hp c hc).2 s hs
  tokens _ hs := h.lt_terminalCount hs
  conflicts set hset s hs := by
    obtain ⟨i, hi, rfl⟩ := h.numbers.conflicts set hset s hs
    exact ⟨h.numbers.terminalCount ▸ Nat.le_add_right _ _, h.isSymbol_idOf (s := .nonterminal i) hi⟩
  owners := by
    have := h.size_symbols
    rw [h.numbers.terminalCount, h.numbers.nonterminalCount] at this
    rw [h.numbers.owners]
    simp only [Array.size_append, Array.size_range, Array.size_map]
    omega
  owned := h.owned

/-- Whatever the grammar, its symbols and productions are numbered as a table needs them. -/
theorem tabled : flat.Tabled where
  endSymbol := h.endApart.terminalCount_pos
  symbols := h.size_symbols
  first := h.symbol_endOfText
  terminals := h.endApart.size
  lhs _ hp := h.isNonterminal_lhs hp
  rhs _ hp _ hs := h.isSymbol_of_mem_rhs hp hs
  renamed p hp c hc s hs := (h.numbers.children p hp c hc).2 s hs

/-- The external scanner knows terminals by numbers of external tokens. -/
theorem lt_of_external {t : Terminal} (ht : t ∈ flat.terminals) {i : Nat}
    (hform : t.form = .external i) : i < g.externals.length := by
  rw [h.numbers.terminals] at ht
  obtain ⟨entered, hmem, rfl⟩ := Array.mem_map.1 ht
  exact h.expanded.grows.numbered _ h.declared.numbered entered hmem i hform

/-- The start symbol is the nonterminal of the start rule, if that can be reached. -/
theorem symbol_start (hstart : start ∈ g.reachable) (hrule : start ∈ g.rules.names) :
    ∃ info, flat.symbols[flat.start]? = some info ∧ info.name = start ∧ info.kind = .nonterminal := by
  have hpos := h.declared.pos_of_binds (Grammar.not_external_of_reachable hstart)
    (h.reachable start hrule hstart)
  have hfirst := getElem?_pos base.nonterminals 0 hpos
  obtain ⟨n, hn, heading⟩ := h.expanded.grows.heading hfirst
  simp only [NonterminalDraft.heading, Prod.mk.injEq] at heading
  refine ⟨_, by rw [h.endApart.start]; exact h.getElem?_symbols_nonterminal hn, ?_, ?_⟩
  · exact heading.1.trans (h.declared.first hstart _ hfirst)
  · exact heading.2.1.trans (h.declared.nonterminal _ (Array.getElem_mem hpos)).1

end Flat.Draft.Flattened

/-- A grammar and its flat form have the same external tokens. -/
theorem Grammar.externalCount_flatten {g : Grammar} {flat : FlatGrammar}
    (h : g.flatten.1 = some flat) : flat.externalCount = g.externals.length := by
  unfold Grammar.flatten at h
  split at h
  · cases h
  · obtain rfl := Option.some.inj h
    rfl

end IncrementalGlr
