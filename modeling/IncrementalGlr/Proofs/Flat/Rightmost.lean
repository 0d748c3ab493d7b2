import IncrementalGlr.Flat.OfGrammar
import IncrementalGlr.Proofs.Fixpoint
import IncrementalGlr.Proofs.Flat.Derivation

/-!
Derivations from the right. `RewritesLast` replaces the last nonterminal of a row of symbols, so that
only terminals stand behind it; this is the order in which a parser that reads from the left reduces,
taken backwards. Every text that a row yields is derived this way (`Yields.derivesLast`). A grammar
is productive when each of its nonterminals yields some text, and then every row of symbols does
(`Productive.exists_yields`). The search for productive symbols finds just those that yield some text
(`isProductive_iff`), so a grammar of whose rules none is reported as unproductive is productive
(`productive_of_unproductiveRules`).
-/
namespace IncrementalGlr.FlatGrammar

/-- The last nonterminal is replaced by what one of its productions makes of it. -/
def RewritesLast (g : FlatGrammar) (u v : List SymbolId) : Prop :=
  ∃ p ∈ g.productions, ∃ before after, (∀ t ∈ after, t < g.terminalCount) ∧
    u = before ++ p.lhs :: after ∧ v = before ++ (p.rhs ++ after)

/-- Any number of replacements of the last nonterminal, one after another. -/
def DerivesLast (g : FlatGrammar) : List SymbolId → List SymbolId → Prop :=
  Relation.ReflTransGen g.RewritesLast

/-- Each nonterminal yields some text of terminals. -/
def Productive (g : FlatGrammar) : Prop := ∀ s, g.IsNonterminal s → ∃ w, g.Yields [s] w

variable {g : FlatGrammar}

namespace DerivesLast

theorem append_left {u v : List SymbolId} (h : g.DerivesLast u v) (a : List SymbolId) :
    g.DerivesLast (a ++ u) (a ++ v) := by
  induction h with
  | refl => exact .refl
  | tail _ step ih =>
    obtain ⟨p, hp, before, after, hafter, rfl, rfl⟩ := step
    exact ih.tail ⟨p, hp, a ++ before, after, hafter, by simp, by simp⟩

theorem append_terminals {u v w : List SymbolId} (h : g.DerivesLast u v)
    (hw : ∀ t ∈ w, t < g.terminalCount) : g.DerivesLast (u ++ w) (v ++ w) := by
  induction h with
  | refl => exact .refl
  | tail _ step ih =>
    obtain ⟨p, hp, before, after, hafter, rfl, rfl⟩ := step
    refine ih.tail ⟨p, hp, before, after ++ w, fun t ht => ?_, by simp, by simp⟩
    exact (List.mem_append.1 ht).elim (hafter t) (hw t)

end DerivesLast

/-- A row of symbols derives its text from the right: first the text of its last symbols. -/
theorem Yields.derivesLast {s w : List SymbolId} (h : g.Yields s w) : g.DerivesLast s w := by
  induction h with
  | nil => exact .refl
  | @terminal t _ _ _ _ ih => exact ih.append_left [t]
  | @rule p rest u w hp hu hw ihu ihw =>
    have later : g.DerivesLast (p.lhs :: rest) (p.lhs :: w) := ihw.append_left [p.lhs]
    have here : g.RewritesLast (p.lhs :: w) (p.rhs ++ w) :=
      ⟨p, hp, [], w, hw.lt_terminalCount, rfl, rfl⟩
    exact (later.tail here).trans (ihu.append_terminals hw.lt_terminalCount)

/-- Terminals yield nothing but themselves. -/
theorem Yields.eq_of_terminals (hg : g.InRange) {w u : List SymbolId} (h : g.Yields w u)
    (hw : ∀ t ∈ w, t < g.terminalCount) : u = w := by
  induction h with
  | nil => rfl
  | terminal _ _ ih => rw [ih fun t ht => hw t (List.mem_cons_of_mem _ ht)]
  | @rule p _ _ _ hp _ _ _ _ =>
    have terminal : p.lhs < g.terminalCount := hw _ List.mem_cons_self
    exact absurd terminal (Nat.not_lt.2 (hg.lhs p hp).1)

/-- In a productive grammar every row of symbols yields some text. -/
theorem Productive.exists_yields (h : g.Productive) {row : List SymbolId}
    (hrow : ∀ s ∈ row, g.IsSymbol s) : ∃ w, g.Yields row w := by
  induction row with
  | nil => exact ⟨[], .nil⟩
  | cons s rest ih =>
    obtain ⟨w, hw⟩ := ih fun s hs => hrow s (List.mem_cons_of_mem _ hs)
    rcases Nat.lt_or_ge s g.terminalCount with ht | hn
    · exact ⟨s :: w, .terminal ht hw⟩
    · obtain ⟨u, hu⟩ := h s ⟨hn, hrow s List.mem_cons_self⟩
      exact ⟨u ++ w, hu.append hw⟩

/-! ## Finding what is productive -/

/-- Symbols that each yield some text yield some text together. -/
theorem exists_yields_of_all {row : List SymbolId} (hrow : ∀ s ∈ row, ∃ w, g.Yields [s] w) :
    ∃ w, g.Yields row w := by
  induction row with
  | nil => exact ⟨[], .nil⟩
  | cons s rest ih =>
    obtain ⟨⟨u, hu⟩, hrest⟩ := List.forall_mem_cons.1 hrow
    obtain ⟨w, hw⟩ := ih hrest
    exact ⟨u ++ w, hu.append hw⟩

/-- Only symbols that yield some text count as productive. -/
def Sound (g : FlatGrammar) (marked : Array Bool) : Prop :=
  ∀ s, g.isProductive marked s = true → ∃ w, g.Yields [s] w

/-- A terminal yields itself. -/
theorem sound_unmarked (g : FlatGrammar) (n : Nat) : g.Sound (.replicate n false) := by
  intro s hs
  have terminal : g.isTerminal s = true := by
    rw [isProductive, Array.getElem?_replicate] at hs
    split at hs <;> simpa using hs
  exact ⟨[s], .terminal (of_decide_eq_true terminal) .nil⟩

/-- A production of symbols that yield some text marks a nonterminal that does. -/
theorem Sound.mark {marked : Array Bool} (h : g.Sound marked) {p : Production}
    (hp : p ∈ g.productions) : g.Sound (g.mark marked p) := by
  unfold FlatGrammar.mark
  split
  · next hall =>
    obtain ⟨w, hw⟩ := exists_yields_of_all fun s hs => h s (List.all_eq_true.1 hall s hs)
    intro s hs
    by_cases hsp : p.lhs = s
    · exact hsp ▸ ⟨w, .of_rule hp hw⟩
    · rw [isProductive, Array.getElem?_setIfInBounds_ne hsp] at hs
      exact h s hs
  · exact h

/-- What a round over the productions marks is productive. -/
theorem Sound.productiveStep {marked : Array Bool} (h : g.Sound marked) :
    g.Sound (g.productiveStep marked) := by
  unfold FlatGrammar.productiveStep
  rw [← Array.foldl_toList]
  have round : ∀ ps : List Production, (∀ p ∈ ps, p ∈ g.productions) → ∀ marked : Array Bool,
      g.Sound marked → g.Sound (ps.foldl g.mark marked) := by
    intro ps
    induction ps with
    | nil => exact fun _ _ h => h
    | cons p ps ih =>
      intro hps marked h
      obtain ⟨hp, hps⟩ := List.forall_mem_cons.1 hps
      exact ih hps _ (h.mark hp)
  exact round _ (fun p hp => Array.mem_toList_iff.1 hp) marked h

/-- Only nonterminals that yield some text are marked. -/
theorem sound_productive (g : FlatGrammar) : g.Sound g.productive :=
  settle_induction (p := g.Sound) (fun _ known => known.productiveStep) _ (g.sound_unmarked _)

theorem mem_nonterminals {s : SymbolId} :
    s ∈ (List.range g.nonterminalCount).map (g.terminalCount + ·) ↔ g.IsNonterminal s := by
  simp only [List.mem_map, List.mem_range]
  constructor
  · rintro ⟨i, hi, rfl⟩
    exact ⟨Nat.le_add_right _ _, Nat.add_lt_add_left hi _⟩
  · rintro ⟨hle, hlt⟩
    exact ⟨s - g.terminalCount, by unfold IsSymbol at hlt; omega, Nat.add_sub_cancel' hle⟩

/-- The nonterminals that are marked. -/
def markedFacts (g : FlatGrammar) : Facts (Array Bool) SymbolId where
  valid marked := marked.size = g.terminalCount + g.nonterminalCount
  known marked := ((List.range g.nonterminalCount).map (g.terminalCount + ·)).toFinset.filter
    fun s => marked[s]? = some true
  all := ((List.range g.nonterminalCount).map (g.terminalCount + ·)).toFinset
  known_subset _ _ := Finset.filter_subset _ _

theorem mem_known_marked {marked : Array Bool} {s : SymbolId} :
    s ∈ g.markedFacts.known marked ↔ g.IsNonterminal s ∧ marked[s]? = some true := by
  rw [← mem_nonterminals, ← List.mem_toFinset]
  exact Finset.mem_filter

theorem gains_mark {p : Production} (hlhs : g.IsNonterminal p.lhs) :
    g.markedFacts.Gains fun marked => g.mark marked p where
  valid marked h := by
    unfold FlatGrammar.mark
    split
    · exact Array.size_setIfInBounds.trans h
    · exact h
  mono marked h s hs := by
    obtain ⟨hs, hmarked⟩ := mem_known_marked.1 hs
    refine mem_known_marked.2 ⟨hs, ?_⟩
    unfold FlatGrammar.mark
    split
    · have bound := (Array.getElem?_eq_some_iff.1 hmarked).1
      rw [Array.getElem?_setIfInBounds]
      split
      · next heq => rw [if_pos (heq ▸ bound)]
      · exact hmarked
    · exact hmarked
  fixed marked h same := by
    unfold FlatGrammar.mark at same ⊢
    split at same
    · next hall =>
      rw [if_pos hall]
      have bound : p.lhs < marked.size := h ▸ hlhs.2
      have known : p.lhs ∈ g.markedFacts.known (marked.setIfInBounds p.lhs true) :=
        mem_known_marked.2 ⟨hlhs, by rw [Array.getElem?_setIfInBounds_self, if_pos bound]⟩
      rw [same] at known
      refine Array.ext_getElem? fun s => ?_
      rw [Array.getElem?_setIfInBounds]
      split
      · next heq => rw [← heq, (mem_known_marked.1 known).2]
      · rfl
    · next hall => rw [if_neg hall]

section Productions

variable (hlhs : ∀ p ∈ g.productions, g.IsNonterminal p.lhs)
include hlhs

theorem gains_marks : ∀ p ∈ g.productions.toList, g.markedFacts.Gains fun marked => g.mark marked p :=
  fun p hp => gains_mark (hlhs p (Array.mem_toList_iff.1 hp))

theorem gains_productiveStep : g.markedFacts.Gains g.productiveStep := by
  have round := Facts.Gains.foldl (gains_marks hlhs)
  simp only [Array.foldl_toList] at round
  exact round

theorem size_productive : g.productive.size = g.terminalCount + g.nonterminalCount :=
  settle_induction (p := g.markedFacts.valid) (gains_productiveStep hlhs).valid _
    Array.size_replicate

/-- Once nothing more gets marked, each production of terminals and marked nonterminals has had its
nonterminal marked. -/
theorem mark_productive : ∀ p ∈ g.productions, g.mark g.productive p = g.productive := by
  have fuel : g.markedFacts.all.card ≤ g.nonterminalCount :=
    (List.toFinset_card_le _).trans (by rw [List.length_map, List.length_range])
  have fixed : g.productiveStep g.productive = g.productive :=
    Facts.settle_fixed (gains_productiveStep hlhs) _ Array.size_replicate (by omega)
  rw [FlatGrammar.productiveStep, ← Array.foldl_toList] at fixed
  exact fun p hp => Facts.Gains.foldl_fixed (gains_marks hlhs) (size_productive hlhs) fixed p
    (Array.mem_toList_iff.2 hp)

/-- All symbols of a row that yields some text count as productive. -/
theorem Yields.isProductive {row w : List SymbolId} (h : g.Yields row w) :
    ∀ s ∈ row, g.isProductive g.productive s = true := by
  induction h with
  | nil => exact fun s hs => absurd hs List.not_mem_nil
  | terminal ht _ ih =>
    exact List.forall_mem_cons.2 ⟨Bool.or_eq_true_iff.2 (.inl (decide_eq_true ht)), ih⟩
  | @rule p _ _ _ hp _ _ ihu ihw =>
    refine List.forall_mem_cons.2 ⟨?_, ihw⟩
    have marked := mark_productive hlhs p hp
    rw [FlatGrammar.mark, if_pos (List.all_eq_true.2 ihu)] at marked
    have bound : p.lhs < g.productive.size := size_productive hlhs ▸ (hlhs p hp).2
    have known : g.productive[p.lhs]? = some true := by
      rw [← marked, Array.getElem?_setIfInBounds_self, if_pos bound]
    rw [FlatGrammar.isProductive, known]
    exact Bool.or_true _

/-- Just the symbols that yield some text count as productive. -/
theorem isProductive_iff {s : SymbolId} :
    g.isProductive g.productive s = true ↔ ∃ w, g.Yields [s] w :=
  ⟨g.sound_productive s, fun ⟨_, hw⟩ => hw.isProductive hlhs s List.mem_cons_self⟩

end Productions

/-- The owners of nonterminals that do not count as productive are reported. -/
theorem mem_unproductiveRules {d : Diagnostic} : d ∈ g.unproductiveRules ↔
    ∃ s, g.IsNonterminal s ∧ g.isProductive g.productive s = false ∧
      d = { finding := .unproductiveRule (g.nameOf (g.ownerOf s))
            rule := some (g.nameOf (g.ownerOf s)) } := by
  simp only [unproductiveRules, List.mem_map, List.mem_eraseDups, List.mem_filter,
    Bool.not_eq_true']
  constructor
  · rintro ⟨_, ⟨s, ⟨hs, hmissed⟩, rfl⟩, rfl⟩
    exact ⟨s, mem_nonterminals.1 (List.mem_map.2 hs), hmissed, rfl⟩
  · rintro ⟨s, hs, hmissed, rfl⟩
    exact ⟨_, ⟨s, ⟨List.mem_map.1 (mem_nonterminals.2 hs), hmissed⟩, rfl⟩, rfl⟩

/-- Where no rule is reported as unproductive, the grammar is productive. -/
theorem productive_of_unproductiveRules (h : g.unproductiveRules = []) : g.Productive := by
  intro s hs
  refine g.sound_productive s ?_
  by_contra hmissed
  have reported := mem_unproductiveRules.2 ⟨s, hs, Bool.eq_false_iff.2 hmissed, rfl⟩
  rw [h] at reported
  cases reported

end IncrementalGlr.FlatGrammar
