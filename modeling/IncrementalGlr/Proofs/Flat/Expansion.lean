import IncrementalGlr.Proofs.Flat.Matching

/-!
What comes of expanding a rule. Its alternatives match what the rule does, given what its names match
(`Expanded.meaning`); only optional rules have empty ones; and whatever is true of single symbols and
of all that is put together from what it is true of holds for each of them and for those of the
helpers that were made (`Expanded.closed`). There is one lemma for each way to put alternatives
together, and `expanded_expand` follows the rule.
-/
namespace IncrementalGlr.Flat

open scoped Computability

/-- What counts of a rule, or of several, when it is expanded. -/
@[ext]
structure Shape where
  references : List String
  /-- See `Rule.isProper`. -/
  proper : Bool
  /-- See `Rule.isEven`. -/
  even : Bool
  /-- One of the alternatives is empty. -/
  optional : Bool
  /-- There is an alternative. -/
  inhabited : Bool := true
  /-- What is matched, given what tokens and names match. -/
  language : (Terminal → Language SymbolId) → (String → Language SymbolId) → Language SymbolId

namespace Shape

def ofRule (rule : Rule) : Shape where
  references := rule.references
  proper := rule.isProper
  even := rule.isEven
  optional := rule.isOptional
  language tokens names := rule.language tokens names

/-- One after another. -/
def ofSequence (rules : List Rule) : Shape where
  references := Rule.referencesOf rules
  proper := Rule.areProper rules
  even := Rule.areEven rules
  optional := Rule.allOptional rules
  language tokens names := Rule.sequenceLanguage tokens names rules

/-- All alternatives of all rules. -/
def ofChoice (rules : List Rule) : Shape where
  references := Rule.referencesOf rules
  proper := Rule.areProper rules
  even := Rule.areEven rules
  optional := Rule.someOptional rules
  inhabited := !rules.isEmpty
  language tokens names := Rule.choiceLanguage tokens names rules

def mul (s t : Shape) : Shape where
  references := s.references ++ t.references
  proper := s.proper && t.proper
  even := s.even && t.even
  optional := s.optional && t.optional
  inhabited := s.inhabited && t.inhabited
  language tokens names := s.language tokens names * t.language tokens names

def add (s t : Shape) : Shape where
  references := s.references ++ t.references
  proper := s.proper && t.proper
  even := s.even && t.even
  optional := s.optional || t.optional
  inhabited := s.inhabited || t.inhabited
  language tokens names := s.language tokens names + t.language tokens names

/-- One token. -/
def ofToken (body : Rule) (immediate : Bool) : Shape where
  references := []
  proper := true
  even := true
  optional := body.tokenForm == .literal ""
  language tokens _ := Rule.tokenLanguage tokens body immediate

theorem mul_ofSequence_nil (s : Shape) : s.mul (ofSequence []) = s := by
  ext <;> simp [mul, ofSequence, Rule.referencesOf, Rule.areProper, Rule.areEven, Rule.allOptional,
    Rule.sequenceLanguage]

theorem mul_ofSequence_cons (s : Shape) (rule : Rule) (rest : List Rule) :
    s.mul (ofSequence (rule :: rest)) = (s.mul (ofRule rule)).mul (ofSequence rest) := by
  ext <;> simp [mul, ofSequence, ofRule, Rule.referencesOf, Rule.areProper, Rule.areEven,
    Rule.allOptional, Rule.sequenceLanguage, Bool.and_assoc, mul_assoc]

theorem ofSequence_nil_mul (s : Shape) : (ofSequence []).mul s = s := by
  ext <;> simp [mul, ofSequence, Rule.referencesOf, Rule.areProper, Rule.areEven, Rule.allOptional,
    Rule.sequenceLanguage]

theorem ofRule_string (text : String) : ofRule (.string text) = ofToken (.string text) false := by
  ext
  case optional => 
    simp [ofRule, ofToken, Rule.isOptional, Rule.tokenForm, Rule.literalText]
  all_goals rfl

end Shape

namespace Draft

open Drafting

/-- A property that alternatives over the symbols of a draft have if what they are put together from
has it. How they bind is changed by rules that are not even alone. -/
structure Closed (D : Draft) (even : Bool) (P : Alternative → Prop) : Prop where
  indexed : D.Indexed
  empty : P .empty
  single : ∀ s, D.Has s → P (.single s)
  append : ∀ a b, P a → P b → P (a.append b)
  inField : ∀ name a, P a → P (a.inField name)
  aliased : ∀ name named a, P a → P (a.aliased name named)
  preferred : ∀ value a, P a → P (a.preferred value)
  binding : even = false → ∀ value associativity a, P a → P (a.binding value associativity)

theorem Closed.mono {D : Draft} {even even' : Bool} {P : Alternative → Prop} (h : Closed D even P)
    (heven : even' = false → even = false) : Closed D even' P :=
  { h with binding := fun he => h.binding (heven he) }

/-- All that is said in the head of this module about the alternatives of a rule of this shape, which
was expanded from one draft to another. -/
structure Expanded (d : Draft) (shape : Shape) (alternatives : List Alternative) (d' : Draft) :
    Prop where
  grows : d.Grows (fun _ => True) d'
  inhabited : shape.inhabited = true → alternatives ≠ []
  nonempty : shape.optional = false → (∀ name ∈ shape.references, (d.names.lookup name).isSome) →
    ∀ a ∈ alternatives, a.parts ≠ []
  /-- Helpers have no precedence, and what is closed is true of all alternatives. -/
  closed : ∀ D P, d'.Grows (fun _ => False) D → Closed D shape.even P →
    (∀ a ∈ alternatives, P a) ∧
    ∀ i, d.nonterminals.size ≤ i → i < d'.nonterminals.size →
      d'.precedenceOf i = none ∧ ∀ a ∈ d'.alternativesOf i, P a
  /-- Only the helpers made meanwhile must still have their alternatives. -/
  meaning : shape.proper = true → ∀ D count rules names,
    d'.Grows (d.nonterminals.size ≤ ·) D → count ≤ d.nonterminals.size →
    (∀ name ∈ shape.references, ∃ s, d.names.lookup name = some s ∧
      names name = D.rowLanguage count rules [s]) →
    D.language count rules alternatives = shape.language D.tokenLanguage names

variable {d d' d'' : Draft} {s t : Shape} {as bs : List Alternative}

/-! ## Ways to put alternatives together -/

theorem Indexed.has (h : d.Indexed) (grows : d'.Grows (fun _ => False) d) {name : String} {s : Sym}
    (hs : d'.names.lookup name = some s) : d.Has s :=
  h.has_of_lookup (grows.names ▸ hs)

/-- No helper is made where only tokens are entered. -/
theorem GainsTokens.no_helper (h : d.GainsTokens d') {i : Nat} (hi : d.nonterminals.size ≤ i)
    (hi' : i < d'.nonterminals.size) {p : Prop} : p := by
  rw [h.nonterminals] at hi'
  exact absurd hi' (Nat.not_lt.2 hi)

theorem expanded_blank : d.Expanded (.ofRule .blank) [.empty] d where
  grows := .refl d
  inhabited _ := List.cons_ne_nil _ _
  nonempty h := Bool.noConfusion h
  closed _ _ _ hP :=
    ⟨fun a ha => List.mem_singleton.1 ha ▸ hP.empty, fun _ hi hi' => (GainsTokens.refl d).no_helper hi hi'⟩
  meaning _ D count rules names _ _ _ := by
    rw [language_cons, language_nil, Alternative.syms_empty, rowLanguage_nil, add_zero]
    rfl

theorem expanded_symbol (name : String) {s : Sym} (hs : d.names.lookup name = some s) :
    d.Expanded (.ofRule (.symbol name)) [.single s] d where
  grows := .refl d
  inhabited _ := List.cons_ne_nil _ _
  nonempty _ _ a ha := List.mem_singleton.1 ha ▸ List.cons_ne_nil _ _
  closed _ _ hD hP :=
    ⟨fun a ha => List.mem_singleton.1 ha ▸ hP.single s (hP.indexed.has hD hs),
      fun _ hi hi' => (GainsTokens.refl d).no_helper hi hi'⟩
  meaning _ D count rules names _ _ hnames := by
    obtain ⟨s', hs', hname⟩ := hnames name List.mem_cons_self
    obtain rfl := Option.some.inj (hs.symm.trans hs')
    rw [language_cons, language_nil, Alternative.syms_single, add_zero, ← hname]
    rfl

/-- A name that stands for nothing is an error. -/
theorem expanded_unbound (name : String) (hs : d.names.lookup name = none) :
    d.Expanded (.ofRule (.symbol name)) [.empty] d where
  grows := .refl d
  inhabited _ := List.cons_ne_nil _ _
  nonempty _ hnames := by simpa [hs] using hnames name List.mem_cons_self
  closed _ _ _ hP :=
    ⟨fun a ha => List.mem_singleton.1 ha ▸ hP.empty, fun _ hi hi' => (GainsTokens.refl d).no_helper hi hi'⟩
  meaning _ D count rules names _ _ hnames := by
    obtain ⟨s', hs', -⟩ := hnames name List.mem_cons_self
    cases hs.symm.trans hs'

theorem expanded_noToken {body : Rule} (immediate : Bool) (h : d.GainsTokens d')
    (hempty : body.tokenForm = .literal "") :
    d.Expanded (.ofToken body immediate) [.empty] d' where
  grows := h.grows
  inhabited _ := List.cons_ne_nil _ _
  nonempty hopt := by simp [Shape.ofToken, hempty] at hopt
  closed _ _ _ hP :=
    ⟨fun a ha => List.mem_singleton.1 ha ▸ hP.empty, fun _ hi hi' => h.no_helper hi hi'⟩
  meaning _ D count rules names _ _ _ := by
    rw [language_cons, language_nil, Alternative.syms_empty, rowLanguage_nil, add_zero]
    exact (if_pos hempty).symm

theorem expanded_token {body : Rule} {immediate : Bool} {n : Nat} (h : d.GainsTokens d')
    (hform : body.tokenForm ≠ .literal "")
    (hn : d'.anonymous.lookup { form := body.tokenForm, immediate } = some n) :
    d.Expanded (.ofToken body immediate) [.single (.terminal n)] d' where
  grows := h.grows
  inhabited _ := List.cons_ne_nil _ _
  nonempty _ _ a ha := List.mem_singleton.1 ha ▸ List.cons_ne_nil _ _
  closed _ _ hD hP :=
    ⟨fun a ha => List.mem_singleton.1 ha ▸
        hP.single (.terminal n) (hP.indexed.has_of_anonymous (hD.anonymous _ _ hn)),
      fun _ hi hi' => h.no_helper hi hi'⟩
  meaning _ D count rules names hD _ _ := by
    rw [language_cons, language_nil, Alternative.syms_single, add_zero, rowLanguage_terminal]
    show _ = Rule.tokenLanguage _ body immediate
    rw [Rule.tokenLanguage, if_neg hform]
    ext w
    constructor
    · rintro rfl
      exact ⟨n, hD.anonymous _ _ hn, rfl⟩
    · rintro ⟨n', hn', rfl⟩
      rw [hD.anonymous _ _ hn] at hn'
      obtain rfl := Option.some.inj hn'
      rfl

/-- Something may be said about the draft before the rule is expanded. -/
theorem GainsTokens.expanded (h : d.GainsTokens d') (he : d'.Expanded s as d'') :
    d.Expanded s as d'' where
  grows := h.grows.trans he.grows
  inhabited := he.inhabited
  nonempty hopt hnames := he.nonempty hopt (by rwa [h.grows.names])
  closed := h.nonterminals ▸ he.closed
  meaning := h.nonterminals ▸ h.grows.names ▸ he.meaning

/-- The alternatives are changed one by one, in what is not a symbol. -/
theorem Expanded.map (h : d.Expanded s as d') {f : Alternative → Alternative} (even : Bool)
    (heven : even = true → s.even = true) (hf : ∀ a, (f a).syms = a.syms)
    (hclosed : ∀ D P a, Closed D even P → P a → P (f a)) :
    d.Expanded { s with even } (as.map f) d' where
  grows := h.grows
  inhabited hi := by simpa using h.inhabited hi
  nonempty hopt hnames a ha := by
    obtain ⟨b, hb, rfl⟩ := List.mem_map.1 ha
    rw [Alternative.parts_ne_nil_iff, hf, ← Alternative.parts_ne_nil_iff]
    exact h.nonempty hopt hnames b hb
  closed D P hD hP := by
    have hP' : Closed D s.even P := hP.mono fun he => by
      cases even
      · rfl
      · exact (heven rfl).symm.trans he
    obtain ⟨hall, hhelpers⟩ := h.closed D P hD hP'
    refine ⟨fun a ha => ?_, hhelpers⟩
    obtain ⟨b, hb, rfl⟩ := List.mem_map.1 ha
    exact hclosed D P b hP (hall b hb)
  meaning hproper D count rules names hD hcount hnames := by
    rw [language_map hf]
    exact h.meaning hproper D count rules names hD hcount hnames

/-- What is said of there being alternatives, and of their having symbols, can be seen from them. -/
theorem Expanded.reshape (h : d.Expanded s as d') (optional inhabited : Bool)
    (hi : inhabited = true → as ≠ [])
    (ho : optional = false → (∀ name ∈ s.references, (d.names.lookup name).isSome) →
      ∀ a ∈ as, a.parts ≠ []) :
    d.Expanded { s with optional, inhabited } as d' where
  grows := h.grows
  inhabited := hi
  nonempty := ho
  closed := h.closed
  meaning := h.meaning

/-- What two pieces of work, one after the other, say about the helpers that either has made. -/
theorem helpers_trans {first : Nat} {P : Option Int → List Alternative → Prop}
    (h : ∀ i, first ≤ i → i < d'.nonterminals.size → P (d'.precedenceOf i) (d'.alternativesOf i))
    (grows : d'.Grows (fun _ => True) d'')
    (h' : ∀ i, d'.nonterminals.size ≤ i → i < d''.nonterminals.size →
      P (d''.precedenceOf i) (d''.alternativesOf i)) :
    ∀ i, first ≤ i → i < d''.nonterminals.size →
      P (d''.precedenceOf i) (d''.alternativesOf i) := by
  intro i hi hi''
  by_cases hlt : i < d'.nonterminals.size
  · rw [grows.precedenceOf hlt, grows.alternatives i hlt trivial]
    exact h i hi hlt
  · exact h' i (Nat.not_lt.1 hlt) hi''

section Both

variable (h : d.Expanded s as d') (h' : d'.Expanded t bs d'')
include h h'

theorem Expanded.closed_both (D : Draft) (P : Alternative → Prop)
    (hD : d''.Grows (fun _ => False) D) (hP : Closed D (s.even && t.even) P) :
    (∀ a ∈ as, P a) ∧ (∀ b ∈ bs, P b) ∧
    ∀ i, d.nonterminals.size ≤ i → i < d''.nonterminals.size →
      d''.precedenceOf i = none ∧ ∀ a ∈ d''.alternativesOf i, P a := by
  obtain ⟨hall, hhelpers⟩ := h.closed D P ((h'.grows.mono fun _ _ h => h.elim).trans hD)
    (hP.mono fun he => by simp [he])
  obtain ⟨hall', hhelpers'⟩ := h'.closed D P hD (hP.mono fun he => by simp [he])
  exact ⟨hall, hall', helpers_trans (P := fun p alternatives => p = none ∧ ∀ a ∈ alternatives, P a)
    hhelpers h'.grows hhelpers'⟩

theorem Expanded.meaning_both (hproper : (s.proper && t.proper) = true) (D : Draft) (count : Nat)
    (rules : Nat → Language SymbolId) (names : String → Language SymbolId)
    (hD : d''.Grows (d.nonterminals.size ≤ ·) D) (hcount : count ≤ d.nonterminals.size)
    (hnames : ∀ name ∈ s.references ++ t.references, ∃ s, d.names.lookup name = some s ∧
      names name = D.rowLanguage count rules [s]) :
    D.language count rules as = s.language D.tokenLanguage names ∧
    D.language count rules bs = t.language D.tokenLanguage names := by
  obtain ⟨hs, ht⟩ := Bool.and_eq_true_iff.1 hproper
  refine ⟨h.meaning hs D count rules names ((h'.grows.mono fun _ _ _ => trivial).trans hD) hcount
      fun name hn => hnames name (List.mem_append_left _ hn),
    h'.meaning ht D count rules names (hD.mono fun _ _ hi => h.grows.size_nonterminals.trans hi)
      (hcount.trans h.grows.size_nonterminals) fun name hn => ?_⟩
  rw [h.grows.names]
  exact hnames name (List.mem_append_right _ hn)

theorem Expanded.append : d.Expanded (s.add t) (as ++ bs) d'' where
  grows := h.grows.trans h'.grows
  inhabited hi := by
    rcases Bool.or_eq_true_iff.1 hi with hi | hi
    · exact List.append_ne_nil_of_left_ne_nil (h.inhabited hi) _
    · exact List.append_ne_nil_of_right_ne_nil _ (h'.inhabited hi)
  nonempty hopt hnames a ha := by
    obtain ⟨hs, ht⟩ := Bool.or_eq_false_iff.1 hopt
    rcases List.mem_append.1 ha with ha | ha
    · exact h.nonempty hs (fun name hn => hnames name (List.mem_append_left _ hn)) a ha
    · refine h'.nonempty ht (fun name hn => ?_) a ha
      rw [h.grows.names]
      exact hnames name (List.mem_append_right _ hn)
  closed D P hD hP := by
    obtain ⟨hall, hall', hhelpers⟩ := h.closed_both h' D P hD hP
    exact ⟨fun a ha => (List.mem_append.1 ha).elim (hall a) (hall' a), hhelpers⟩
  meaning hproper D count rules names hD hcount hnames := by
    obtain ⟨hs, ht⟩ := h.meaning_both h' hproper D count rules names hD hcount hnames
    rw [language_append, hs, ht]
    rfl

theorem Expanded.product : d.Expanded (s.mul t) (Alternative.product as bs) d'' where
  grows := h.grows.trans h'.grows
  inhabited hi := by
    obtain ⟨hs, ht⟩ := Bool.and_eq_true_iff.1 hi
    obtain ⟨a, ha⟩ := List.exists_mem_of_ne_nil _ (h.inhabited hs)
    obtain ⟨b, hb⟩ := List.exists_mem_of_ne_nil _ (h'.inhabited ht)
    exact List.ne_nil_of_mem (List.mem_flatMap.2 ⟨a, ha, List.mem_map_of_mem hb⟩)
  nonempty hopt hnames c hc := by
    obtain ⟨a, ha, hc⟩ := List.mem_flatMap.1 hc
    obtain ⟨b, hb, rfl⟩ := List.mem_map.1 hc
    -- One of the two is never empty, and then neither is what they make together.
    rcases Bool.and_eq_false_iff.1 hopt with hs | ht
    · exact List.append_ne_nil_of_left_ne_nil
        (h.nonempty hs (fun name hn => hnames name (List.mem_append_left _ hn)) a ha) _
    · refine List.append_ne_nil_of_right_ne_nil _ (h'.nonempty ht (fun name hn => ?_) b hb)
      rw [h.grows.names]
      exact hnames name (List.mem_append_right _ hn)
  closed D P hD hP := by
    obtain ⟨hall, hall', hhelpers⟩ := h.closed_both h' D P hD hP
    refine ⟨fun c hc => ?_, hhelpers⟩
    obtain ⟨a, ha, hc⟩ := List.mem_flatMap.1 hc
    obtain ⟨b, hb, rfl⟩ := List.mem_map.1 hc
    exact hP.append a b (hall a ha) (hall' b hb)
  meaning hproper D count rules names hD hcount hnames := by
    obtain ⟨hs, ht⟩ := h.meaning_both h' hproper D count rules names hD hcount hnames
    rw [language_product, hs, ht]
    rfl

end Both

/-- The alternatives become those of a helper. -/
theorem Expanded.helper (h : d.Expanded s as d') (owner : Nat) (suffix : String) (optional : Bool) :
    Ensures d' (addHelper owner suffix as) fun i d'' =>
      d.Expanded { s with optional, inhabited := true } [.single (.nonterminal i)] d'' := by
  refine (@ensures_addHelper d' (fun _ => True) owner suffix as).imp
    fun i d'' ⟨hi, grows, hsize, halternatives, hprecedence⟩ => ?_
  subst hi
  have hlt : d'.nonterminals.size < d''.nonterminals.size := hsize ▸ Nat.lt_succ_self _
  exact {
    grows := h.grows.trans grows
    inhabited := fun _ => List.cons_ne_nil _ _
    nonempty := fun _ _ a ha => List.mem_singleton.1 ha ▸ List.cons_ne_nil _ _
    closed := fun D P hD hP => by
      obtain ⟨hall, hhelpers⟩ := h.closed D P ((grows.mono fun _ _ h => h.elim).trans hD) hP
      refine ⟨fun a ha => List.mem_singleton.1 ha ▸
        hP.single (.nonterminal _) (hD.has (show d''.Has (.nonterminal _) from hlt)), ?_⟩
      -- The helper just made is the only one that was not there after the content.
      refine helpers_trans (P := fun p alternatives => p = none ∧ ∀ a ∈ alternatives, P a)
        hhelpers grows fun i hi hi' => ?_
      obtain rfl : i = d'.nonterminals.size := by omega
      rw [halternatives]
      exact ⟨hprecedence, hall⟩
    meaning := fun hproper D count rules names hD hcount hnames => by
      have hk := h.grows.size_nonterminals
      rw [language_cons, language_nil, Alternative.syms_single, add_zero,
        rowLanguage_helper (hcount.trans hk), hD.alternatives _ hlt hk, halternatives]
      exact h.meaning hproper D count rules names ((grows.mono fun _ _ _ => trivial).trans hD) hcount
        hnames }

theorem expanded_none : d.Expanded (.ofChoice []) [] d where
  grows := .refl d
  inhabited h := Bool.noConfusion h
  nonempty _ _ _ ha := absurd ha List.not_mem_nil
  closed _ _ _ _ :=
    ⟨fun _ ha => absurd ha List.not_mem_nil, fun _ hi hi' => (GainsTokens.refl d).no_helper hi hi'⟩
  meaning _ _ _ _ _ _ _ _ := language_nil

/-- A choice without members, which is an error, is taken for nothing. -/
theorem Expanded.choice {members : List Rule} (h : d.Expanded (.ofChoice members) as d') :
    d.Expanded (.ofRule (.choice members)) (if as.isEmpty then [.empty] else as) d' := by
  split
  · next hempty =>
    cases members with
    | cons => exact absurd (List.isEmpty_iff.1 hempty) (h.inhabited rfl)
    | nil =>
      exact {
        grows := h.grows
        inhabited := fun _ => List.cons_ne_nil _ _
        nonempty := fun hopt => Bool.noConfusion hopt
        closed := fun D P hD hP =>
          ⟨fun a ha => List.mem_singleton.1 ha ▸ hP.empty, (h.closed D P hD hP).2⟩
        meaning := fun hproper => Bool.noConfusion hproper }
  · next hne =>
    exact {
      grows := h.grows
      inhabited := fun _ => by simpa using hne
      nonempty := fun hopt => h.nonempty (Bool.or_eq_false_iff.1 hopt).2
      closed := h.closed
      meaning := fun hproper => h.meaning (Bool.and_eq_true_iff.1 hproper).2 }

/-! ## Repetitions -/

theorem mem_repetition {k : Nat} {a : Alternative} (h : a ∈ repetition k as) :
    a ∈ as ∨ (∃ b ∈ as, a = (Alternative.single (.nonterminal k)).append b) ∨ a = .empty := by
  unfold repetition at h
  dsimp only at h
  split at h
  · exact .inr (.inr (List.mem_singleton.1 h))
  · rcases List.mem_append.1 h with h | h
    · obtain ⟨b, hb, rfl⟩ := List.mem_map.1 h
      exact .inr (.inl ⟨b, (List.mem_filter.1 hb).1, rfl⟩)
    · exact .inl (List.mem_filter.1 h).1

/-- From one draft to another a helper was made that repeats alternatives of this shape. -/
structure Repeats (d : Draft) (shape : Shape) (k : Nat) (d' : Draft) : Prop where
  grows : d.Grows (fun _ => True) d'
  closed : ∀ D P, d'.Grows (fun _ => False) D → Closed D shape.even P →
    P (.single (.nonterminal k)) ∧
    ∀ i, d.nonterminals.size ≤ i → i < d'.nonterminals.size →
      d'.precedenceOf i = none ∧ ∀ a ∈ d'.alternativesOf i, P a
  meaning : shape.proper = true → ∀ D count rules names,
    d'.Grows (d.nonterminals.size ≤ ·) D → count ≤ d.nonterminals.size →
    (∀ name ∈ shape.references, ∃ s, d.names.lookup name = some s ∧
      names name = D.rowLanguage count rules [s]) →
    D.rowLanguage count rules [.nonterminal k] + 1 = (shape.language D.tokenLanguage names)∗ ∧
    (shape.optional = false → D.rowLanguage count rules [.nonterminal k] =
      shape.language D.tokenLanguage names * (shape.language D.tokenLanguage names)∗)

/-- The helper is made first, so that its alternatives can begin with it. -/
theorem ensures_repeats (owner : Nat) (hs : s.inhabited = true) :
    Ensures d (addHelper owner "repeat" []) fun k d₁ => ∀ as d₂, d₁.Expanded s as d₂ →
      Ensures d₂ (setAlternatives k (repetition k as)) fun _ d₃ => d.Repeats s k d₃ := by
  refine (@ensures_addHelper d (fun _ => True) owner "repeat" []).imp
    fun k d₁ ⟨hk, grows₁, hsize, _, hprecedence⟩ as d₂ h => ?_
  subst hk
  refine (ensures_setAlternatives d.nonterminals.size (repetition d.nonterminals.size as)).imp
    fun _ d₃ ⟨grows₃, hsize₃, halternatives, hprecedences⟩ => ?_
  -- The helper is entered before its content is expanded and gets its alternatives after that.
  have hlt₂ : d.nonterminals.size < d₂.nonterminals.size :=
    Nat.lt_of_lt_of_le (hsize ▸ Nat.lt_succ_self _) h.grows.size_nonterminals
  have hlt₃ : d.nonterminals.size < d₃.nonterminals.size := hsize₃ ▸ hlt₂
  have made := halternatives hlt₂
  refine ⟨?_, fun D P hD hP => ?_, fun hproper D count rules names hD hcount hnames => ?_⟩
  · have grows₂ : d.Grows (· ≠ d.nonterminals.size) d₂ :=
      (grows₁.trans h.grows).mono fun _ _ _ => trivial
    exact (grows₂.trans grows₃).mono fun i hi _ => Nat.ne_of_lt hi
  · obtain ⟨hall, hhelpers⟩ := h.closed D P ((grows₃.mono fun _ _ h => h.elim).trans hD) hP
    have hself : P (.single (.nonterminal d.nonterminals.size)) :=
      hP.single _ (hD.has (show d₃.Has (.nonterminal _) from hlt₃))
    refine ⟨hself, fun i hi hi₃ => ?_⟩
    rw [hprecedences]
    by_cases hk : i = d.nonterminals.size
    · subst hk
      refine ⟨by rw [h.grows.precedenceOf (hsize ▸ Nat.lt_succ_self _), hprecedence], fun a ha => ?_⟩
      rw [made] at ha
      rcases mem_repetition ha with ha | ⟨b, hb, rfl⟩ | rfl
      · exact hall a ha
      · exact hP.append _ _ hself (hall b hb)
      · exact hP.empty
    · rw [grows₃.alternatives i (hsize₃ ▸ hi₃) hk]
      exact hhelpers i (by omega) (hsize₃ ▸ hi₃)
  -- The meaning of the content is that in `d₂`; the drafts from there on leave its helpers as they are.
  · have hD₂ : d₂.Grows (d₁.nonterminals.size ≤ ·) D :=
      (grows₃.mono fun i _ hi => by omega).trans (hD.mono fun i _ hi => by omega)
    have hnames₁ : ∀ name ∈ s.references, ∃ s, d₁.names.lookup name = some s ∧
        names name = D.rowLanguage count rules [s] := by
      rw [grows₁.names]
      exact hnames
    have content := h.meaning hproper D count rules names hD₂ (by omega) hnames₁
    have alternatives : D.alternativesOf d.nonterminals.size =
        repetition d.nonterminals.size as := by
      rw [hD.alternatives _ hlt₃ (Nat.le_refl _), made]
    refine ⟨?_, fun hopt => ?_⟩
    · rw [rowLanguage_repetition_add_one hcount alternatives, content]
    · rw [rowLanguage_repetition hcount alternatives (h.inhabited hs), content]
      exact h.nonempty hopt fun name hn => by
        obtain ⟨x, hx, -⟩ := hnames₁ name hn
        rw [hx]
        rfl

theorem Repeats.zeroOrMore {k : Nat} (h : d.Repeats s k d') :
    d.Expanded { s with
      optional := true, inhabited := true
      language := fun tokens names => (s.language tokens names)∗ }
      [.single (.nonterminal k), .empty] d' where
  grows := h.grows
  inhabited _ := List.cons_ne_nil _ _
  nonempty hopt := Bool.noConfusion hopt
  closed D P hD hP := by
    obtain ⟨hself, hhelpers⟩ := h.closed D P hD hP
    exact ⟨by simp [hself, hP.empty], hhelpers⟩
  meaning hproper D count rules names hD hcount hnames := by
    rw [language_cons, language_cons, language_nil, Alternative.syms_single, Alternative.syms_empty,
      rowLanguage_nil, add_zero]
    exact (h.meaning hproper D count rules names hD hcount hnames).1

theorem Repeats.oneOrMore {k : Nat} (h : d.Repeats s k d') :
    d.Expanded { s with
      proper := !s.optional && s.proper, optional := false, inhabited := true
      language := fun tokens names => s.language tokens names * (s.language tokens names)∗ }
      [.single (.nonterminal k)] d' where
  grows := h.grows
  inhabited _ := List.cons_ne_nil _ _
  nonempty _ _ a ha := List.mem_singleton.1 ha ▸ List.cons_ne_nil _ _
  closed D P hD hP := by
    obtain ⟨hself, hhelpers⟩ := h.closed D P hD hP
    exact ⟨fun a ha => List.mem_singleton.1 ha ▸ hself, hhelpers⟩
  meaning hproper D count rules names hD hcount hnames := by
    obtain ⟨hopt, hproper⟩ := Bool.and_eq_true_iff.1 hproper
    rw [language_cons, language_nil, Alternative.syms_single, add_zero]
    exact (h.meaning hproper D count rules names hD hcount hnames).2 (by simpa using hopt)

/-! ## Rules -/

variable {levels : Levels} {owner : Nat}

theorem ensures_precedenceValue (p : Precedence) :
    Ensures d (precedenceValue levels p owner) fun _ d' => d.GainsTokens d' := by
  unfold precedenceValue
  split
  · exact ensures_pure (.refl d)
  · split
    · exact ensures_pure (.refl d)
    · exact ensures_get_bind ((ensures_report _ _).bind fun _ _ reports => ensures_pure reports.gains)

theorem expanded_expandToken (body : Rule) (immediate : Bool) :
    Ensures d (expandToken body immediate owner) fun as d' =>
      d.Expanded (.ofToken body immediate) as d' := by
  refine (ensures_inlineToken body immediate owner).bind fun r d' ⟨gains, hr⟩ => ?_
  split at hr
  · next hempty =>
    subst hr
    exact expanded_noToken immediate gains hempty
  · next hform =>
    obtain ⟨n, rfl, hn⟩ := hr
    exact expanded_token gains hform hn

theorem expanded_extendSequence (h : d.Expanded s as d') (h' : d'.Expanded t bs d'') :
    Ensures d'' (extendSequence owner as bs) fun cs after => d.Expanded (s.mul t) cs after := by
  unfold extendSequence
  split
  · next hmany =>
    refine (h'.helper owner "seq" t.optional).bind fun i after h'' => ensures_pure (h.product ?_)
    exact h''.reshape t.optional t.inhabited (fun _ => List.cons_ne_nil _ _) h''.nonempty
  · exact ensures_pure (h.product h')

theorem expanded_nameAlternatives (name : String) (named : Bool) (hs : s.inhabited = true)
    (h : d.Expanded s as d') :
    Ensures d' (nameAlternatives owner name named as) fun bs d'' =>
      d.Expanded { s with optional := false, inhabited := true } bs d'' := by
  unfold nameAlternatives
  split
  · refine (h.helper owner "alias" false).bind fun i d'' h' => ?_
    exact h'.map _ id (Alternative.syms_aliased name named) fun D P a hP => hP.aliased name named a
  · next hsingle =>
    have renamed := h.map s.even id (Alternative.syms_aliased name named)
      fun D P a hP => hP.aliased name named a
    refine ensures_pure (renamed.reshape false true (fun _ => renamed.inhabited hs) fun _ _ a ha => ?_)
    obtain ⟨b, hb, rfl⟩ := List.mem_map.1 ha
    rw [Alternative.parts_ne_nil_iff, Alternative.syms_aliased, ← Alternative.parts_ne_nil_iff]
    intro hnil
    exact hsingle (List.any_eq_true.2 ⟨b, hb, by rw [hnil]; rfl⟩)

mutual

theorem expanded_expand (d : Draft) : (rule : Rule) →
    Ensures d (expand levels owner rule) fun as d' => d.Expanded (.ofRule rule) as d'
  | .blank => expanded_blank
  | .string text => by
    rw [expand, Shape.ofRule_string]
    exact expanded_expandToken _ _
  | .pattern _ _ | .token _ | .immediateToken _ => by
    simp only [expand]
    exact expanded_expandToken _ _
  | .symbol name => by
    rw [expand]
    refine ensures_get_bind ?_
    split
    · next s hs => exact ensures_pure (expanded_symbol name hs)
    · next hs => exact ensures_pure (expanded_unbound name hs)
  | .seq members => by
    rw [expand]
    have h : Ensures d (expandSequence levels owner [.empty] members) fun as d' =>
        d.Expanded ((Shape.ofSequence []).mul (.ofSequence members)) as d' :=
      expanded_expandSequence expanded_blank members
    rwa [Shape.ofSequence_nil_mul] at h
  | .choice members => by
    rw [expand]
    exact (expanded_expandChoice d members).bind fun as d' h => ensures_pure h.choice
  | .zeroOrMore content => by
    rw [expand]
    refine (ensures_repeats (s := .ofRule content) owner rfl).bind fun k d₁ hrepeats => ?_
    refine (expanded_expand d₁ content).bind fun as d₂ h => ?_
    exact (hrepeats as d₂ h).bind fun _ d₃ h => ensures_pure h.zeroOrMore
  | .oneOrMore content => by
    rw [expand]
    refine (ensures_repeats (s := .ofRule content) owner rfl).bind fun k d₁ hrepeats => ?_
    refine (expanded_expand d₁ content).bind fun as d₂ h => ?_
    exact (hrepeats as d₂ h).bind fun _ d₃ h => ensures_pure h.oneOrMore
  | .field name content => by
    rw [expand]
    refine (expanded_expand d content).bind fun as d' h => ensures_pure ?_
    exact h.map _ id (Alternative.syms_inField name) fun D P a hP => hP.inField name a
  | .renamed content name named => by
    rw [expand]
    exact (expanded_expand d content).bind fun as d' h => expanded_nameAlternatives name named rfl h
  | .prec value content => by
    rw [expand]
    refine (ensures_precedenceValue value).bind fun value d₁ gains => ?_
    refine (expanded_expand d₁ content).bind fun as d₂ h => ensures_pure (gains.expanded ?_)
    exact h.map false Bool.noConfusion (Alternative.syms_binding value none)
      fun D P a hP => hP.binding rfl value none a
  | .precLeft value content => by
    rw [expand]
    refine (ensures_precedenceValue value).bind fun value d₁ gains => ?_
    refine (expanded_expand d₁ content).bind fun as d₂ h => ensures_pure (gains.expanded ?_)
    exact h.map false Bool.noConfusion (Alternative.syms_binding value (some .left))
      fun D P a hP => hP.binding rfl value (some .left) a
  | .precRight value content => by
    rw [expand]
    refine (ensures_precedenceValue value).bind fun value d₁ gains => ?_
    refine (expanded_expand d₁ content).bind fun as d₂ h => ensures_pure (gains.expanded ?_)
    exact h.map false Bool.noConfusion (Alternative.syms_binding value (some .right))
      fun D P a hP => hP.binding rfl value (some .right) a
  | .precDynamic value content => by
    rw [expand]
    refine (expanded_expand d content).bind fun as d' h => ensures_pure ?_
    exact h.map _ id (Alternative.syms_preferred value) fun D P a hP => hP.preferred value a
  | .reserved _ content => by
    rw [expand]
    exact expanded_expand d content

theorem expanded_expandSequence {d d' : Draft} {s : Shape} {as : List Alternative}
    (h : d.Expanded s as d') : (members : List Rule) →
    Ensures d' (expandSequence levels owner as members) fun bs d'' =>
      d.Expanded (s.mul (.ofSequence members)) bs d''
  | [] => by
    rw [Shape.mul_ofSequence_nil]
    exact h
  | rule :: rest => by
    rw [expandSequence, Shape.mul_ofSequence_cons]
    exact (expanded_expand d' rule).bind fun bs d₁ h₁ =>
      (expanded_extendSequence h h₁).bind fun cs d₂ h₂ => expanded_expandSequence h₂ rest

theorem expanded_expandChoice (d : Draft) : (members : List Rule) →
    Ensures d (expandChoice levels owner members) fun as d' => d.Expanded (.ofChoice members) as d'
  | [] => expanded_none
  | rule :: rest => by
    rw [expandChoice]
    refine (expanded_expand d rule).bind fun as d' h => ?_
    refine (expanded_expandChoice d' rest).bind fun bs d'' h' => ensures_pure ?_
    exact h.append h'

end

end Draft

end IncrementalGlr.Flat
