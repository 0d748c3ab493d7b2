import IncrementalGlr.Proofs.Flat.Derivation
import IncrementalGlr.Proofs.Flat.Flattening

/-!
Flattening keeps the language of every rule. What the nonterminal of a rule derives by the
productions of the flat grammar is what the rule matches (`Grammar.flatten_language`), for grammars
without errors in which nothing optional is repeated one or more times; such a repetition loses the
empty text (`Rule.isProper`). The productions are seen as alternatives of the draft that was
numbered, and these as a solution of the equations that the rules are: it is the least one, since
derivations are finite.
-/
namespace IncrementalGlr

open scoped Computability

theorem latest_append {α β : Type} {key : α → Option β} (xs ys : List α) :
    latest key (xs ++ ys) =
      (latest key ys).map (Prod.map id (xs.length + ·)) ++ latest key xs := by
  induction ys using List.reverseRecOn with
  | nil => simp [latest]
  | append_singleton ys y ih =>
    rw [← List.append_assoc, latest_concat, latest_concat, ih, List.length_append]
    cases key y <;> simp

namespace Flat.Draft

open FlatGrammar

variable {g : Grammar} {levels : Levels} {start : String} {flat : FlatGrammar} {base d : Draft}

/-! ## What symbols were made for -/

theorem toList_symbolInfos (d : Draft) : d.symbolInfos.toList =
    d.terminals.toList.map (·.info) ++ d.nonterminals.toList.map fun n =>
      { name := n.name, kind := n.kind, named := true, visible := n.visible,
        supertype := n.supertype } := by
  rw [symbolInfos, Array.toList_append, Array.toList_map, Array.toList_map]

theorem Numbers.terminalsByToken_eq (h : Numbers flat d) (hd : d.Indexed) :
    flat.terminalsByToken = d.anonymous := by
  obtain ⟨rest, hrest⟩ := h.symbols
  have symbols : flat.symbols.toList.zip flat.terminals.toList =
      d.terminals.toList.map fun t => (t.info, t.terminal) := by
    rw [← hrest, h.terminals, toList_symbolInfos, Array.toList_map, List.append_assoc,
      ← List.append_nil (d.terminals.toList.map (·.terminal)), List.zip_append (by simp),
      List.zip_nil_right, List.append_nil, List.zip_map']
  rw [terminalsByToken, symbols, latest_map, hd.anonymous]
  rfl

theorem Numbers.symbolsByName_eq (h : Numbers flat d) (hd : d.Indexed) :
    flat.symbolsByName = d.names.map (Prod.map id d.idOf) := by
  have count : flat.terminalCount + flat.nonterminalCount = d.symbolInfos.toList.length := by
    simp [toList_symbolInfos, h.terminalCount, h.nonterminalCount]
  have named : (referredName ∘ fun n : NonterminalDraft =>
      { name := n.name, kind := n.kind, named := true, visible := n.visible,
        supertype := n.supertype : SymbolInfo }) = ruleName := by
    funext n
    simp [referredName, ruleName, ite_not]
  rw [symbolsByName, count, ← List.prefix_iff_eq_take.1 h.symbols, toList_symbolInfos, latest_append,
    latest_map, latest_map, named, hd.names, List.map_append, List.map_map, List.map_map]
  congr 1
  · simp [Function.comp_def, idOf]
  · exact (List.map_id _).symm

/-- Names and nonterminals are taken to match the same. -/
def Agrees (base d : Draft) (rules : Nat → Language SymbolId) (names : String → Language SymbolId) :
    Prop :=
  ∀ name s, d.names.lookup name = some s →
    names name = d.rowLanguage base.nonterminals.size rules [s]

/-- What a name derives. -/
def derived (d : Draft) (name : String) : Language SymbolId :=
  ((d.names.lookup name).map fun s => d.rowLanguage 0 (fun _ => 0) [s]).getD 0

theorem Matches.of_derived {count : Nat} {row : List Sym} {w : List SymbolId}
    (h : d.Matches count (fun i => d.rowLanguage 0 (fun _ => 0) [.nonterminal i]) row w) :
    d.Matches 0 (fun _ => 0) row w := by
  induction h with
  | nil => exact .nil
  | terminal _ ih => exact .terminal ih
  | rule _ hu _ ih => exact Matches.append hu ih
  | helper _ ha _ _ ihu ihw => exact .helper (Nat.zero_le _) ha ihu ihw

namespace Flattened

variable (h : Flattened g levels start flat base d)
include h

theorem tokenLanguage_eq : flat.tokenLanguage = d.tokenLanguage := by
  funext t
  rw [FlatGrammar.tokenLanguage, Draft.tokenLanguage, h.numbers.terminalsByToken_eq h.indexed]

theorem lookup_symbolsByName {name : String} :
    flat.symbolsByName.lookup name = (d.names.lookup name).map d.idOf := by
  rw [h.numbers.symbolsByName_eq h.indexed]
  induction d.names with
  | nil => rfl
  | cons e rest ih =>
    obtain ⟨key, s⟩ := e
    rw [List.map_cons, Prod.map_apply, id_eq, List.lookup_cons, List.lookup_cons, ih]
    cases name == key <;> rfl

/-! ## Rules as equations -/

/-- What the alternatives of a rule match is what the rule matches. -/
theorem exists_language_eq (hg : g.Defined) (hproper : g.isProper = true)
    {rules : Nat → Language SymbolId} {names : String → Language SymbolId}
    (hagrees : Agrees base d rules names) {i : Nat} (hi : i < base.nonterminals.size) :
    ∃ body, g.rules.find? (d.nonterminalName i) = some body ∧
      d.language base.nonterminals.size rules (d.alternativesOf i) =
        body.language flat.tokenLanguage names := by
  obtain ⟨body, before, after, expanded⟩ := h.expanded.rules i hi
  have hreachable : d.nonterminalName i ∈ g.reachable := by
    rw [h.expanded.grows.nonterminalName hi, Draft.nonterminalName, Array.getElem?_eq_getElem hi]
    exact (h.declared.nonterminal _ (Array.getElem_mem hi)).2.2.2.1
  refine ⟨body, expanded.rule, ?_⟩
  rw [h.tokenLanguage_eq]
  refine expanded.expanded.meaning ?_ d _ rules names (expanded.grows.mono fun j _ hj => ?_)
    expanded.size fun name hname => ?_
  · exact List.all_eq_true.1 hproper _ (Grammar.find?_eq_some_iff.1 expanded.rule)
  · exact expanded.size.trans hj
  · obtain ⟨s, hs⟩ := h.lookup_isSome hg (Grammar.closed hreachable expanded.rule hname)
    exact ⟨s, expanded.names ▸ hs, hagrees name s hs⟩

theorem nameLanguage_terminal (names : String → Language SymbolId) {name : String} {n : Nat}
    (hn : d.names.lookup name = some (.terminal n)) : g.nameLanguage flat names name = {[n]} := by
  have hlt : n < flat.terminalCount :=
    h.numbers.terminalCount ▸ (h.indexed.has_of_lookup hn).lt_terminals
  rw [Grammar.nameLanguage, h.lookup_symbolsByName, hn]
  exact if_pos (decide_eq_true hlt)

theorem nameLanguage_nonterminal (names : String → Language SymbolId) {name : String} {i : Nat}
    {body : Rule} (hi : d.names.lookup name = some (.nonterminal i))
    (hbody : g.rules.find? name = some body) :
    g.nameLanguage flat names name = body.language flat.tokenLanguage names := by
  have hge : ¬ d.terminals.size + i < flat.terminalCount := by
    rw [h.numbers.terminalCount]
    omega
  rw [Grammar.nameLanguage, h.lookup_symbolsByName, hi]
  refine (if_neg fun hlt => hge (of_decide_eq_true hlt)).trans ?_
  rw [hbody]

/-! ## The least solution -/

/-- What is derived is a solution of the equations, so it is at least the least one. -/
theorem languages_le_derived (hg : g.Defined) (hproper : g.isProper = true) :
    g.languages flat ≤ derived d := by
  refine Grammar.languages_le fun name => ?_
  cases hs : d.names.lookup name with
  | none =>
    rw [Grammar.nameLanguage, h.lookup_symbolsByName, hs]
    exact bot_le
  | some s =>
    have hderived : derived d name = d.rowLanguage 0 (fun _ => 0) [s] := by
      rw [derived, hs]
      rfl
    rw [hderived]
    cases s with
    | terminal n => rw [h.nameLanguage_terminal _ hs, rowLanguage_terminal]
    | nonterminal i =>
      obtain ⟨hi, rfl⟩ := h.of_lookup_nonterminal hs
      -- What is derived has to solve the equations at all names at once, not at this one alone.
      have hagrees : Agrees base d (fun i => d.rowLanguage 0 (fun _ => 0) [.nonterminal i])
          (derived d) := by
        intro name s hs
        rw [derived, hs, Option.map_some, Option.getD_some]
        cases s with
        | terminal n => rw [rowLanguage_terminal, rowLanguage_terminal]
        | nonterminal i => rw [rowLanguage_rule (h.of_lookup_nonterminal hs).1]
      obtain ⟨body, hbody, heq⟩ := h.exists_language_eq hg hproper hagrees hi
      rw [h.nameLanguage_nonterminal _ hs hbody, ← heq, rowLanguage_helper (Nat.zero_le i)]
      rintro w ⟨a, ha, hw⟩
      exact ⟨a, ha, Matches.of_derived hw⟩

/-- The language of the rule that a nonterminal was made for. -/
theorem languages_nonterminalName {i : Nat} (hi : i < base.nonterminals.size) {body : Rule}
    (hbody : g.rules.find? (d.nonterminalName i) = some body) :
    g.languages flat (d.nonterminalName i) =
      body.language flat.tokenLanguage (g.languages flat) := by
  have own : d.names.lookup (d.nonterminalName i) = some (.nonterminal i) := by
    rw [h.names_eq, h.expanded.grows.nonterminalName hi, Draft.nonterminalName,
      Array.getElem?_eq_getElem hi]
    exact h.declared.own i _ (Array.getElem?_eq_getElem hi)
  rw [← h.nameLanguage_nonterminal _ own hbody, Grammar.nameLanguage_languages]

/-- Whatever is derived, in finitely many steps, the least solution has as well. -/
theorem matches_languages (hg : g.Defined) (hproper : g.isProper = true) {row : List Sym}
    {w : List SymbolId} (hw : d.Matches 0 (fun _ => 0) row w) :
    d.Matches base.nonterminals.size (fun i => g.languages flat (d.nonterminalName i)) row w := by
  have hagrees : Agrees base d (fun i => g.languages flat (d.nonterminalName i))
      (g.languages flat) := by
    intro name s hs
    cases s with
    | terminal n =>
      rw [rowLanguage_terminal, ← Grammar.nameLanguage_languages, h.nameLanguage_terminal _ hs]
    | nonterminal i =>
      obtain ⟨hi, rfl⟩ := h.of_lookup_nonterminal hs
      rw [rowLanguage_rule hi]
  induction hw with
  | nil => exact .nil
  | terminal _ ih => exact .terminal ih
  | rule hi => exact absurd hi (Nat.not_lt_zero _)
  | @helper i a rest u w _ ha _ _ ihu ihw =>
    by_cases hi : i < base.nonterminals.size
    · obtain ⟨body, hbody, heq⟩ := h.exists_language_eq hg hproper hagrees hi
      refine .rule hi ?_ ihw
      rw [h.languages_nonterminalName hi hbody, ← heq]
      exact ⟨a, ha, ihu⟩
    · exact .helper (Nat.not_lt.1 hi) ha ihu ihw

/-! ## Productions as alternatives -/

theorem yields_of_matches {row : List Sym} {w : List SymbolId}
    (hw : d.Matches 0 (fun _ => 0) row w) (hrow : ∀ s ∈ row, d.Has s) :
    flat.Yields (row.map d.idOf) w := by
  induction hw with
  | nil => exact .nil
  | @terminal n rest w _ ih =>
    exact .terminal (h.numbers.terminalCount ▸ (hrow (.terminal n) List.mem_cons_self).lt_terminals)
      (ih fun s hs => hrow s (List.mem_cons_of_mem _ hs))
  | rule hi => exact absurd hi (Nat.not_lt_zero _)
  | @helper i a rest u w _ ha _ _ ihu ihw =>
    obtain ⟨p, hp, hlhs, hrhs⟩ := h.numbers.complete i a ha
    rw [List.map_cons, ← hlhs]
    exact .rule hp (hrhs ▸ ihu (h.has ha)) (ihw fun s hs => hrow s (List.mem_cons_of_mem _ hs))

theorem matches_of_yields {symbols w : List SymbolId} (hw : flat.Yields symbols w)
    {row : List Sym} (hrow : ∀ s ∈ row, d.Has s) (hsymbols : row.map d.idOf = symbols) :
    d.Matches 0 (fun _ => 0) row w := by
  have htc := h.numbers.terminalCount
  -- Along the yield. The number of a symbol says whether it was made from a terminal or a nonterminal.
  induction hw generalizing row with
  | nil =>
    obtain rfl := List.map_eq_nil_iff.1 hsymbols
    exact .nil
  | @terminal t rest w ht _ ih =>
    obtain ⟨s, row, rfl, rfl, rfl⟩ := List.map_eq_cons_iff.1 hsymbols
    have hrest := ih (fun s hs => hrow s (List.mem_cons_of_mem _ hs)) rfl
    cases s with
    | terminal n => exact .terminal hrest
    | nonterminal i => exact absurd ht (by simp [idOf, htc])
  | @rule p rest u w hp _ _ ihu ihw =>
    obtain ⟨s, row, rfl, hs, rfl⟩ := List.map_eq_cons_iff.1 hsymbols
    have hrest := ihw (fun s hs => hrow s (List.mem_cons_of_mem _ hs)) rfl
    obtain ⟨i, -, a, ha, hlhs, hrhs, -⟩ := h.numbers.sound p hp
    rw [hlhs] at hs
    have hmade := hrow s List.mem_cons_self
    cases s with
    | terminal n =>
      have hlt : n < d.terminals.size := hmade.lt_terminals
      have heq : n = d.terminals.size + i := hs
      omega
    | nonterminal j =>
      obtain rfl : j = i := Nat.add_left_cancel hs
      exact .helper (Nat.zero_le _) ha (ihu (h.has ha) hrhs.symm) hrest

end Flattened

end Flat.Draft

namespace Grammar

open Flat Flat.Draft

variable {g : Grammar} {flat : FlatGrammar} {reports : List Diagnostic}

/-- What the productions derive from the nonterminal of a rule is what the rule matches: the empty
text for `blank`, its terminal for a token, what the name stands for, its members one after another
or any of them, and repetitions. -/
theorem flatten_language (h : g.flatten = (some flat, reports))
    (herror : ∀ r ∈ reports, r.isError = false) (hproper : g.isProper = true) {name : String}
    {body : Rule} (hname : name ∈ g.reachable) (hbody : g.rules.find? name = some body)
    (hrule : g.startRule?.map Prod.fst = some name ∨ body.tokenBody = none) :
    ∃ s, flat.symbolsByName.lookup name = some s ∧ flat.IsNonterminal s ∧
      {w | flat.Derives [s] w ∧ ∀ t ∈ w, t < flat.terminalCount} =
        body.language flat.tokenLanguage (g.languages flat) := by
  obtain ⟨start, startBody, base, d, hstart, flattened, hreports⟩ := exists_flattened h
  have hg : g.Defined := defined_of_undefinedReferences fun r hr =>
    herror r (hreports r (List.mem_append_left _ hr))
  obtain ⟨s, hs⟩ := flattened.lookup_isSome hg (.inl hname)
  cases s with
  | terminal n =>
    rcases flattened.of_lookup_terminal hs with hexternal | ⟨hne, body', hbody', htoken⟩
    · exact absurd hexternal (not_external_of_reachable hname)
    · obtain rfl := Option.some.inj (hbody.symm.trans hbody')
      rcases hrule with hrule | hrule
      · rw [hstart] at hrule
        exact absurd (Option.some.inj hrule).symm hne
      · simp [hrule] at htoken
  | nonterminal i =>
    obtain ⟨hi, rfl⟩ := flattened.of_lookup_nonterminal hs
    have hhas : d.Has (.nonterminal i) := flattened.indexed.has_of_lookup hs
    refine ⟨d.idOf (.nonterminal i), by rw [flattened.lookup_symbolsByName, hs]; rfl,
      ⟨flattened.numbers.terminalCount ▸ Nat.le_add_right _ _, flattened.isSymbol_idOf hhas⟩, ?_⟩
    rw [← flattened.languages_nonterminalName hi hbody]
    have derives : {w | flat.Derives [d.idOf (.nonterminal i)] w ∧
        ∀ t ∈ w, t < flat.terminalCount} = d.rowLanguage 0 (fun _ => 0) [.nonterminal i] := by
      ext w
      constructor
      · rintro ⟨hw, ht⟩
        exact flattened.matches_of_yields ((FlatGrammar.derives_iff_yields ht).1 hw)
          (fun s (hs : s ∈ [Sym.nonterminal i]) => List.mem_singleton.1 hs ▸ hhas) rfl
      · intro hw
        have hy := flattened.yields_of_matches hw fun s hs => List.mem_singleton.1 hs ▸ hhas
        exact ⟨hy.derives, hy.lt_terminalCount⟩
    rw [derives]
    -- What is derived matches, and the languages of the rules are the least solution.
    refine le_antisymm (fun w hw => ?_) ((flattened.languages_le_derived hg hproper _).trans ?_)
    · have := flattened.matches_languages hg hproper hw
      rwa [← @rowLanguage_rule _ _ (fun i => g.languages flat (d.nonterminalName i)) _ hi]
    · rw [derived, hs]
      exact le_rfl

/-- Lists of letters in parentheses, with lists among the letters. -/
def nestedLists : Grammar where
  name := "lists"
  rules := .ofList [
    ("list", .seq [.string "(", .oneOrMore (.choice [.string "a", .symbol "inner"]), .string ")"]),
    ("inner", .field "list" (.symbol "list"))]

theorem nestedLists_language : ∃ flat reports, nestedLists.flatten = (some flat, reports) ∧
    ∃ s, flat.symbolsByName.lookup "inner" = some s ∧ flat.IsNonterminal s ∧
      {w | flat.Derives [s] w ∧ ∀ t ∈ w, t < flat.terminalCount} =
        (Rule.field "list" (.symbol "list")).language flat.tokenLanguage
          (nestedLists.languages flat) := by
  have hsome : nestedLists.flatten.1.isSome = true := by decide +kernel
  have herror : nestedLists.flatten.2.all (fun r => !r.isError) = true := by decide +kernel
  obtain ⟨flat, hflat⟩ := Option.isSome_iff_exists.1 hsome
  refine ⟨flat, nestedLists.flatten.2, Prod.ext hflat rfl, ?_⟩
  exact flatten_language (Prod.ext hflat rfl) (fun r hr => by
    simpa using List.all_eq_true.1 herror r hr) (by decide) (by decide +kernel) rfl (.inr rfl)

end Grammar

end IncrementalGlr
