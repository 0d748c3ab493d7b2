import Mathlib.Algebra.BigOperators.Group.Finset.Sigma
import Mathlib.Data.Finset.Option
import IncrementalGlr.Lr.First
import IncrementalGlr.Proofs.Fixpoint
import IncrementalGlr.Proofs.Flat.Rightmost

/-!
FIRST sets are exact. Going over the productions comes to rest, so that what is known of a nonterminal
includes all that its productions say of it (`ofGrammar_rule`). Hence what is known of a row of symbols
allows everything that the row derives: the terminal with which it begins is among the terminals, and the
row is nullable if it derives the empty one (`allows_of_derives`). They are also sound: the row derives
something of every kind that is allowed (`exists_derives_of_allows`), so both are what they say
(`exact_ofGrammar`). In a productive grammar what is derived goes on to a text of terminals
(`exists_yields_of_allows`).
-/
namespace IncrementalGlr

/-- Whether a text of terminals can be one of those of which this is known. -/
def First.Allows (f : First) : List SymbolId → Prop
  | [] => f.nullable = true
  | t :: _ => f.terminals.contains t = true

namespace FirstSets

/-! ## Coming to rest -/

/-- What is known of a nonterminal: that its texts can be empty, or begin with a terminal. -/
def entryFacts (terminalCount : Nat) : EntryFacts First (Option SymbolId) where
  valid _ e := e.terminals.Below terminalCount
  tells
    | e, none => e.nullable
    | e, some t => e.terminals.contains t
  all _ := (Finset.range terminalCount).insertNone
  ext _ a b ha hb h := by
    have sets : a.terminals = b.terminals := TerminalSet.ext_contains fun t => by
      rcases Nat.lt_or_ge t terminalCount with ht | ht
      · exact h (some t) (Finset.some_mem_insertNone.2 (Finset.mem_range.2 ht))
      · rw [ha.contains_of_le ht, hb.contains_of_le ht]
    have empty : a.nullable = b.nullable := h none Finset.none_mem_insertNone
    cases a
    cases b
    simp_all

/-- The facts that going over the productions can find. -/
def facts (g : FlatGrammar) : Facts FirstSets (Σ _ : Nat, Option SymbolId) where
  valid sets := sets.terminalCount = g.terminalCount ∧
    ((entryFacts g.terminalCount).facts g.nonterminalCount).valid sets.entries
  known sets := ((entryFacts g.terminalCount).facts g.nonterminalCount).known sets.entries
  all := ((entryFacts g.terminalCount).facts g.nonterminalCount).all
  known_subset sets h := Facts.known_subset _ sets.entries h.2

variable {g : FlatGrammar}

theorem card_facts_all :
    (facts g).all.card = g.nonterminalCount * (g.terminalCount + 1) := by
  simp [facts, EntryFacts.facts, entryFacts, Finset.card_sigma]

theorem below_ofSymbol {sets : FirstSets} (h : (facts g).valid sets) (s : SymbolId) :
    (sets.ofSymbol s).terminals.Below g.terminalCount := by
  obtain ⟨hc, _, he⟩ := h
  unfold ofSymbol
  split
  · next hs => exact TerminalSet.below_singleton (hc ▸ hs)
  · cases hx : sets.entries[s - sets.terminalCount]? with
    | none => exact TerminalSet.below_empty _
    | some e => exact he _ e hx

theorem below_ofSymbols {sets : FirstSets} (h : (facts g).valid sets) (ss : List SymbolId) :
    (sets.ofSymbols ss).terminals.Below g.terminalCount := by
  induction ss with
  | nil => exact TerminalSet.below_empty _
  | cons s rest ih =>
    simp only [ofSymbols]
    split
    · exact (below_ofSymbol h s).union ih
    · exact below_ofSymbol h s

/-- Adding to an entry loses nothing. -/
theorem gains_add (i : Nat) {f : First} (h : f.terminals.Below g.terminalCount) :
    ((entryFacts g.terminalCount).facts g.nonterminalCount).Gains fun entries =>
      entries.modify i fun e => ⟨e.terminals ∪ f.terminals, e.nullable || f.nullable⟩ := by
  refine EntryFacts.gains_modify (fun _ => i) _ (fun _ _ e he => ?_) (fun _ _ e _ x hx => ?_)
  · have he : e.terminals.Below g.terminalCount := he
    exact he.union h
  · cases x with
    | none => exact Bool.or_eq_true_iff.2 (.inl hx)
    | some t => exact (TerminalSet.contains_union _ _ _).trans (Bool.or_eq_true_iff.2 (.inl hx))

/-- Learning from a production loses nothing. -/
theorem gains_learn (p : Production) : (facts g).Gains fun sets => sets.learn p where
  valid _ h := ⟨h.1, (gains_add _ (below_ofSymbols h p.rhs)).valid _ h.2⟩
  mono _ h := (gains_add _ (below_ofSymbols h p.rhs)).mono _ h.2
  fixed sets h same := congrArg (FirstSets.mk sets.terminalCount)
    ((gains_add _ (below_ofSymbols h p.rhs)).fixed _ h.2 same)

theorem round_eq (sets : FirstSets) : round g sets = g.productions.toList.foldl learn sets := by
  rw [round, Array.foldl_toList]

theorem gains_round : (facts g).Gains (round g) := by
  have := Facts.Gains.foldl (L := facts g) (f := learn) (l := g.productions.toList)
    fun p _ => gains_learn p
  simpa only [← round_eq] using this

theorem valid_initial : (facts g).valid (initial g) := by
  refine ⟨rfl, Array.size_replicate, fun i e he => ?_⟩
  rw [initial, Array.getElem?_replicate] at he
  split at he
  · rw [← Option.some.inj he]
    exact TerminalSet.below_empty _
  · simp at he

theorem valid_ofGrammar : (facts g).valid (ofGrammar g) :=
  settle_induction (p := (facts g).valid) gains_round.valid _ valid_initial

theorem terminalCount_ofGrammar : (ofGrammar g).terminalCount = g.terminalCount :=
  valid_ofGrammar.1

theorem round_ofGrammar : round g (ofGrammar g) = ofGrammar g :=
  Facts.settle_fixed gains_round _ valid_initial (by rw [card_facts_all]; omega)

theorem learn_ofGrammar {p : Production} (hp : p ∈ g.productions) :
    (ofGrammar g).learn p = ofGrammar g :=
  Facts.Gains.foldl_fixed (L := facts g) (fun p _ => gains_learn p) valid_ofGrammar
    ((round_eq _).symm.trans round_ofGrammar) p (Array.mem_toList_iff.2 hp)

/-! ## Completeness -/

/-- What is known of a nonterminal includes what its productions say. -/
theorem ofGrammar_rule (hg : g.InRange) {p : Production} (hp : p ∈ g.productions)
    {w : List SymbolId} (h : ((ofGrammar g).ofSymbols p.rhs).Allows w) :
    ((ofGrammar g).ofSymbol p.lhs).Allows w := by
  obtain ⟨hc, hsize, -⟩ := valid_ofGrammar (g := g)
  obtain ⟨hle, hlt⟩ : g.IsNonterminal p.lhs := hg.lhs p hp
  unfold FlatGrammar.IsSymbol at hlt
  have hi : p.lhs - (ofGrammar g).terminalCount < (ofGrammar g).entries.size := by
    rw [hc, hsize]
    exact Nat.sub_lt_left_of_lt_add hle hlt
  have here := congrArg (fun sets : FirstSets => sets.entries[p.lhs - (ofGrammar g).terminalCount]?)
    (learn_ofGrammar hp)
  simp only [learn, Array.getElem?_modify, if_true, Array.getElem?_eq_getElem hi, Option.map_some,
    Option.some.injEq] at here
  have entry : (ofGrammar g).ofSymbol p.lhs =
      (ofGrammar g).entries[p.lhs - (ofGrammar g).terminalCount] := by
    rw [ofSymbol, if_neg (Nat.not_lt.2 (hc ▸ hle)), Array.getElem?_eq_getElem hi, Option.getD_some]
  rw [entry, ← here]
  cases w with
  | nil => exact Bool.or_eq_true_iff.2 (.inr h)
  | cons t w => exact (TerminalSet.contains_union _ _ _).trans (Bool.or_eq_true_iff.2 (.inr h))

/-- What two say together, one of them says. -/
theorem allows_or {e f : First} {v : List SymbolId} :
    First.Allows ⟨e.terminals ∪ f.terminals, e.nullable || f.nullable⟩ v ↔
      e.Allows v ∨ f.Allows v := by
  cases v with
  | nil => exact Bool.or_eq_true_iff
  | cons t v =>
    show (e.terminals ∪ f.terminals).contains t = true ↔ _
    rw [TerminalSet.contains_union, Bool.or_eq_true]
    rfl

theorem not_allows_default {v : List SymbolId} : ¬ First.Allows {} v := by
  cases v with
  | nil => exact Bool.false_ne_true
  | cons t v =>
    show ¬ TerminalSet.empty.contains t = true
    rw [TerminalSet.contains_empty]
    exact Bool.false_ne_true

section Rows

variable {sets : FirstSets} {s : SymbolId} {rest a b v : List SymbolId}

theorem allows_nil : (sets.ofSymbols []).Allows v ↔ v = [] := by
  cases v with
  | nil => exact ⟨fun _ => rfl, fun _ => rfl⟩
  | cons t v =>
    show TerminalSet.empty.contains t = true ↔ _
    rw [TerminalSet.contains_empty]
    exact ⟨nofun, nofun⟩

/-- The first symbol of a row says all, or it yields the empty text and the others say it. -/
theorem allows_cons : (sets.ofSymbols (s :: rest)).Allows v ↔
    (v ≠ [] ∧ (sets.ofSymbol s).Allows v) ∨
      (sets.ofSymbol s).Allows [] ∧ (sets.ofSymbols rest).Allows v := by
  show _ ↔ _ ∨ (sets.ofSymbol s).nullable = true ∧ _
  simp only [ofSymbols]
  cases hnull : (sets.ofSymbol s).nullable with
  | true =>
    have both : (⟨(sets.ofSymbol s).terminals ∪ (sets.ofSymbols rest).terminals,
        (sets.ofSymbols rest).nullable⟩ : First).Allows v ↔
          v ≠ [] ∧ (sets.ofSymbol s).Allows v ∨ (sets.ofSymbols rest).Allows v := by
      cases v with
      | nil => simp [First.Allows]
      | cons t v => simp [First.Allows]
    simpa using both
  | false =>
    cases v with
    | nil => simp [First.Allows, hnull]
    | cons t v => simp [First.Allows]

/-- What a row of two parts says is said by the first, or by the second if the first can be empty. -/
theorem allows_append : (sets.ofSymbols (a ++ b)).Allows v ↔
    (v ≠ [] ∧ (sets.ofSymbols a).Allows v) ∨
      (sets.ofSymbols a).Allows [] ∧ (sets.ofSymbols b).Allows v := by
  induction a with
  | nil =>
    rw [List.nil_append, allows_nil, allows_nil]
    tauto
  | cons s a ih =>
    rw [List.cons_append, allows_cons, ih, allows_cons, allows_cons]
    tauto

theorem allows_singleton : (sets.ofSymbols [s]).Allows v ↔ (sets.ofSymbol s).Allows v := by
  rw [allows_cons, allows_nil]
  by_cases hv : v = []
  · subst hv
    tauto
  · tauto

end Rows

/-- A row of which a production made another allows all that the other does. -/
theorem allows_of_rewrites (hg : g.InRange) {a b : List SymbolId} (h : g.Rewrites a b)
    {v : List SymbolId} (hb : ((ofGrammar g).ofSymbols b).Allows v) :
    ((ofGrammar g).ofSymbols a).Allows v := by
  obtain ⟨p, hp, before, after, rfl, rfl⟩ := h
  have rule {v : List SymbolId} (hv : ((ofGrammar g).ofSymbols p.rhs).Allows v) :
      ((ofGrammar g).ofSymbols [p.lhs]).Allows v := allows_singleton.2 (ofGrammar_rule hg hp hv)
  rw [List.append_cons, List.append_assoc]
  rw [allows_append, allows_append] at hb ⊢
  exact hb.imp_right fun ⟨hbefore, hb⟩ => ⟨hbefore, hb.imp (fun h => ⟨h.1, rule h.2⟩) fun h =>
    ⟨rule h.1, h.2⟩⟩

theorem allows_terminal {t : SymbolId} (ht : t < g.terminalCount) (rest : List SymbolId) :
    ((ofGrammar g).ofSymbols (t :: rest)).Allows (t :: rest) := by
  refine allows_cons.2 (.inl ⟨List.cons_ne_nil t rest, ?_⟩)
  rw [ofSymbol, if_pos (terminalCount_ofGrammar (g := g) ▸ ht)]
  simp [First.Allows]

/-- All that a row of symbols derives is allowed, if it is empty or begins with a terminal. -/
theorem allows_of_derives (hg : g.InRange) {row v : List SymbolId} (h : g.Derives row v)
    (hv : ∀ t ∈ v.head?, t < g.terminalCount) : ((ofGrammar g).ofSymbols row).Allows v := by
  induction h using Relation.ReflTransGen.head_induction_on with
  | refl =>
    cases v with
    | nil => exact allows_nil.2 rfl
    | cons t v => exact allows_terminal (hv t rfl) v
  | head step _ ih => exact allows_of_rewrites hg step ih

/-- All that a row of symbols yields is allowed. -/
theorem allows_of_yields (hg : g.InRange) {row w : List SymbolId} (h : g.Yields row w) :
    ((ofGrammar g).ofSymbols row).Allows w :=
  allows_of_derives hg h.derives fun t ht => h.lt_terminalCount t (List.mem_of_head? ht)

/-! ## Soundness -/

/-- What is known of a symbol is derived from it. -/
structure Truthful (g : FlatGrammar) (sets : FirstSets) : Prop where
  terminalCount : sets.terminalCount = g.terminalCount
  symbol : ∀ s v, (sets.ofSymbol s).Allows v → ∃ w, g.Derives [s] w ∧ w.head? = v.head?

/-- A row whose symbols are known truthfully derives something of each allowed kind. -/
theorem Truthful.exists_derives {sets : FirstSets} (h : Truthful g sets) {row v : List SymbolId}
    (hv : (sets.ofSymbols row).Allows v) : ∃ w, g.Derives row w ∧ w.head? = v.head? := by
  induction row with
  | nil => exact ⟨[], .refl, by rw [allows_nil.1 hv]⟩
  | cons s rest ih =>
    -- Either the first symbol begins with the terminal, or it can be empty and the rest does.
    rcases allows_cons.1 hv with ⟨hne, hs⟩ | ⟨hs, hv⟩
    · obtain ⟨u, hu, hhead⟩ := h.symbol s v hs
      refine ⟨u ++ rest, hu.append_right rest, ?_⟩
      cases u with
      | nil => exact absurd (List.head?_eq_none_iff.1 hhead.symm) hne
      | cons t u => exact hhead
    · obtain ⟨u, hu, hhead⟩ := h.symbol s [] hs
      obtain rfl := List.head?_eq_none_iff.1 hhead
      obtain ⟨w, hw, hhead⟩ := ih hv
      exact ⟨w, (hu.append_right rest).trans hw, hhead⟩

theorem Truthful.learn (hg : g.InRange) {sets : FirstSets} (h : Truthful g sets) {p : Production}
    (hmem : p ∈ g.productions) : Truthful g (sets.learn p) where
  terminalCount := h.terminalCount
  symbol s v hv := by
    rw [ofSymbol] at hv
    split at hv
    · next hlt =>
      have hlt : s < sets.terminalCount := hlt
      exact h.symbol s v (by rwa [ofSymbol, if_pos hlt])
    · next hle =>
      have hle : ¬s < sets.terminalCount := hle
      have old (hv : ((sets.entries[s - sets.terminalCount]?).getD {}).Allows v) :
          ∃ w, g.Derives [s] w ∧ w.head? = v.head? :=
        h.symbol s v (by rwa [ofSymbol, if_neg hle])
      simp only [FirstSets.learn, Array.getElem?_modify] at hv
      split at hv
      · next hsame =>
        cases he : sets.entries[s - sets.terminalCount]? with
        | none =>
          rw [he] at hv
          exact absurd hv not_allows_default
        | some e =>
          rw [he] at hv
          -- What the entry allows it allowed before, or the production does.
          rcases allows_or.1 hv with hv | hv
          · exact old (by rwa [he])
          · obtain ⟨w, hw, hhead⟩ := h.exists_derives hv
            have hlhs : p.lhs = s := by
              have hp' : sets.terminalCount ≤ p.lhs := h.terminalCount ▸ (hg.lhs p hmem).1
              have hs' : sets.terminalCount ≤ s := Nat.not_lt.1 hle
              rw [← Nat.sub_add_cancel hp', ← Nat.sub_add_cancel hs']
              exact congrArg (· + sets.terminalCount) hsame
            exact ⟨w, hlhs ▸ (FlatGrammar.Derives.rule hmem).trans hw, hhead⟩
      · exact old hv

theorem truthful_initial : Truthful g (initial g) where
  terminalCount := rfl
  symbol s v hv := by
    rw [ofSymbol] at hv
    split at hv
    · cases v with
      | nil => cases hv
      | cons t v =>
        have hv : (TerminalSet.singleton s).contains t = true := hv
        rw [TerminalSet.contains_singleton, decide_eq_true_eq] at hv
        exact ⟨[s], .refl, by rw [hv]; rfl⟩
    · have hnone : (((initial g).entries[s - (initial g).terminalCount]?).getD {}) = {} := by
        rw [initial, Array.getElem?_replicate]
        split <;> rfl
      exact absurd (hnone ▸ hv) not_allows_default

theorem truthful_ofGrammar (hg : g.InRange) : Truthful g (ofGrammar g) := by
  refine settle_induction (fun sets h => ?_) _ truthful_initial
  rw [round_eq]
  have step : ∀ (ps : List Production), (∀ p ∈ ps, p ∈ g.productions) →
      ∀ sets, Truthful g sets → Truthful g (ps.foldl FirstSets.learn sets) := by
    intro ps
    induction ps with
    | nil => exact fun _ _ h => h
    | cons p ps ih =>
      intro hps sets h
      exact ih (fun q hq => hps q (List.mem_cons_of_mem p hq)) _
        (h.learn hg (hps p List.mem_cons_self))
  exact step _ (fun p hmem => Array.mem_toList_iff.1 hmem) sets h

/-- A row derives something of each kind that is known of it. -/
theorem exists_derives_of_allows (hg : g.InRange) {row v : List SymbolId}
    (h : ((ofGrammar g).ofSymbols row).Allows v) : ∃ w, g.Derives row w ∧ w.head? = v.head? :=
  (truthful_ofGrammar hg).exists_derives h

theorem lt_terminalCount_of_allows {row v : List SymbolId}
    (h : ((ofGrammar g).ofSymbols row).Allows v) : ∀ t ∈ v.head?, t < g.terminalCount := by
  intro t ht
  cases v with
  | nil => cases ht
  | cons u v => exact Option.some.inj ht ▸ below_ofSymbols valid_ofGrammar row u h

/-- A row yields some text of each kind that is known of it, as the grammar is productive. -/
theorem exists_yields_of_allows (hg : g.InRange) (hp : g.Productive) {row v : List SymbolId}
    (hrow : ∀ s ∈ row, g.IsSymbol s) (h : ((ofGrammar g).ofSymbols row).Allows v) :
    ∃ w, g.Yields row w ∧ w.head? = v.head? := by
  obtain ⟨u, hu, hhead⟩ := exists_derives_of_allows hg h
  have symbols := hu.isSymbol hg hrow
  cases u with
  | nil => exact ⟨[], (FlatGrammar.derives_iff_yields fun _ h => absurd h List.not_mem_nil).1 hu, hhead⟩
  | cons t u =>
    have ht : t < g.terminalCount := lt_terminalCount_of_allows h t hhead.symm
    -- What stands behind the terminal goes on to some text.
    obtain ⟨w, hw⟩ := hp.exists_yields fun s hs => symbols s (List.mem_cons_of_mem t hs)
    exact ⟨t :: w, hu.yields (.terminal ht hw), hhead⟩

/-- Going over the productions comes to rest, and what is known then is exact: of each symbol and each row
of symbols whether it derives the empty row, and with which terminals the rows that it derives begin. -/
theorem exact_ofGrammar (hg : g.InRange) :
    (∃ n, ofGrammar g = (round g)^[n] (initial g) ∧ round g (ofGrammar g) = ofGrammar g ∧
      ∀ m < n, round g ((round g)^[m] (initial g)) ≠ (round g)^[m] (initial g)) ∧
    (∀ s, (ofGrammar g).isNullable s = true ↔ g.Derives [s] []) ∧
    ∀ row, (((ofGrammar g).ofSymbols row).nullable = true ↔ g.Derives row []) ∧
      ∀ t, ((ofGrammar g).ofSymbols row).terminals.contains t = true ↔
        t < g.terminalCount ∧ ∃ rest, g.Derives row (t :: rest) := by
  have empty (row : List SymbolId) : ((ofGrammar g).ofSymbols row).Allows [] ↔ g.Derives row [] := by
    refine ⟨fun h => ?_, fun h => allows_of_derives hg h nofun⟩
    obtain ⟨w, hw, hhead⟩ := exists_derives_of_allows hg h
    rwa [List.head?_eq_none_iff.1 hhead] at hw
  refine ⟨?_, fun s => allows_singleton.symm.trans (empty [s]), fun row => ⟨empty row, fun t => ?_⟩⟩
  · obtain ⟨n, -, hn, before⟩ := exists_iterate_of_settle (round g) _ (initial g)
    exact ⟨n, hn, round_ofGrammar, before⟩
  · constructor
    · intro h
      have h : ((ofGrammar g).ofSymbols row).Allows [t] := h
      obtain ⟨w, hw, hhead⟩ := exists_derives_of_allows hg h
      obtain ⟨rest, rfl⟩ := List.head?_eq_some_iff.1 hhead
      exact ⟨lt_terminalCount_of_allows h t rfl, rest, hw⟩
    · rintro ⟨ht, rest, h⟩
      exact allows_of_derives hg h fun u hu => Option.some.inj hu ▸ ht

end FirstSets

/-- Terminal 1 or nothing, and then terminal 2. -/
def optional : FlatGrammar where
  name := "optional"
  symbols := #[]
  terminalCount := 3
  nonterminalCount := 2
  externalCount := 0
  fields := []
  productions := #[{ lhs := 3, children := [{ symbol := 4 }, { symbol := 2 }] },
    { lhs := 4, children := [{ symbol := 1 }] }, { lhs := 4, children := [] }]
  start := 3
  terminals := #[]
  padding := none
  extras := []
  word := none
  recovery := []
  conflicts := []
  owners := #[]

/-- The first terminal can be left out, so both can come first. -/
theorem optional_exact : optional.InRange ∧ optional.Derives [4] [] ∧ ¬ optional.Derives [3] [] ∧
    (∃ rest, optional.Derives [3] (1 :: rest)) ∧ ∃ rest, optional.Derives [3] (2 :: rest) := by
  have inRange : optional.InRange :=
    ⟨by decide, by unfold FlatGrammar.IsSymbol; decide,
      by unfold FlatGrammar.IsNonterminal FlatGrammar.IsSymbol; decide,
      by unfold FlatGrammar.IsSymbol; decide⟩
  obtain ⟨-, nullable, rows⟩ := FirstSets.exact_ofGrammar inRange
  have known : FirstSets.ofGrammar optional = ⟨3, #[⟨⟨6⟩, false⟩, ⟨⟨2⟩, true⟩]⟩ := by cbv
  rw [known] at nullable rows
  exact ⟨inRange, (nullable 4).1 rfl, fun h => absurd ((nullable 3).2 h) (by decide),
    (((rows [3]).2 1).1 (by decide)).2, (((rows [3]).2 2).1 (by decide)).2⟩

end IncrementalGlr
