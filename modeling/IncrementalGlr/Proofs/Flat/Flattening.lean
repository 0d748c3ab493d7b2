import IncrementalGlr.Proofs.Flat.Derivation
import IncrementalGlr.Proofs.Flat.Ownership
import IncrementalGlr.Proofs.Flat.Reference

/-!
What flattening does to a draft. Symbols that have names are declared first (`Declared`); then every
rule is expanded, each with helpers of its own (`RuleExpanded`); extras may add tokens; and in the
end symbols get their numbers and alternatives become productions (`Numbers`). `Flattened` puts this
together for all grammars. From it follow what later stages rely on: every symbol of a production is
a terminal or a nonterminal of the grammar (`Flattened.inRange`), and the end of the text is the first
terminal (`Flattened.endApart`).
-/
namespace IncrementalGlr.Flat.Draft

open Drafting FlatGrammar

variable {g : Grammar} {levels : Levels} {start : String} {d d' : Draft}

/-! ## Declaring symbols -/

/-- The first terminal is the end of the text, to which rules cannot refer. -/
def EndFirst (d : Draft) : Prop := (d.terminals[0]?).map TerminalDraft.heading =
  some (endName, false, .endOfText, { form := .endOfText })

/-- Something has been entered under the name. -/
def Binds (d : Draft) (name : String) : Prop := (d.names.lookup name).isSome = true

/-- What is known of a draft while symbols are declared: terminals that have names are external or
are rules that are tokens, external tokens have the numbers of the grammar's external tokens, and
nonterminals are rules that have not been expanded, the start rule first. -/
structure Declared (g : Grammar) (levels : Levels) (start : String) (d : Draft) : Prop where
  indexed : d.Indexed
  marked : d.Marked
  endFirst : d.EndFirst
  terminal : ∀ t ∈ d.terminals, t.info.named = true → t.info.name ∈ g.externalNames ∨
    t.info.name ≠ start ∧ ∃ body, g.rules.find? t.info.name = some body ∧ body.tokenBody.isSome
  numbered : d.Numbered g.externals.length
  nonterminal : ∀ n ∈ d.nonterminals, n.kind = .nonterminal ∧ n.alternatives = [] ∧
    n.name ∈ g.rules.names ∧ n.name ∈ g.reachable ∧
    n.precedence = (levels.ofRule n.name).map Int.ofNat
  own : ∀ i n, d.nonterminals[i]? = some n → d.names.lookup n.name = some (.nonterminal i)
  first : start ∈ g.reachable → ∀ n, d.nonterminals[0]? = some n → n.name = start
  owned : d.Owned

theorem EndFirst.push (h : d.EndFirst) (t : TerminalDraft) :
    ((d.terminals.push t)[0]?).map TerminalDraft.heading =
      some (endName, false, .endOfText, { form := .endOfText }) := by
  obtain ⟨first, hfirst, heading⟩ := Option.map_eq_some_iff.1 h
  obtain ⟨hin, -⟩ := Array.getElem?_eq_some_iff.1 hfirst
  rw [Array.getElem?_push_lt hin, ← getElem?_pos d.terminals 0 hin, hfirst, Option.map_some, heading]

theorem Binds.cons {name name' : String} {s : Sym} (h : d.Binds name)
    (hd : d'.names = (name', s) :: d.names) : d'.Binds name := by
  rw [Binds, hd, List.lookup_cons]
  split
  · rfl
  · exact h

theorem binds_cons {name : String} {s : Sym} (hd : d'.names = (name, s) :: d.names) :
    d'.Binds name := by
  rw [Binds, hd, List.lookup_cons_self]
  rfl

/-- A terminal is entered under its name. -/
theorem Declared.bindTerminal (h : d.Declared g levels start) (hnone : d.nonterminals = #[])
    {t : TerminalDraft} (hnamed : t.info.named = true) (hextra : t.info.extra = false)
    (hkind : t.info.kind ≠ .auxiliary) (ht : t.info.name ∈ g.externalNames ∨
      t.info.name ≠ start ∧ ∃ body, g.rules.find? t.info.name = some body ∧ body.tokenBody.isSome)
    (hform : ∀ i, t.terminal.form = .external i → i < g.externals.length) :
    Declared g levels start { d with
      terminals := d.terminals.push t
      names := (t.info.name, .terminal d.terminals.size) :: d.names } where
  indexed := by
    constructor
    · have referred : referredName t.info = some t.info.name := by
        simp [referredName, hnamed, hkind]
      have names := h.indexed.names
      rw [hnone] at names ⊢
      rw [Array.toList_push, latest_concat, referred, names]
      rfl
    · have written : tokenOf t = none := by simp [tokenOf, writtenToken, hnamed]
      rw [Array.toList_push, latest_concat, written]
      exact h.indexed.anonymous
  marked := h.marked.push hextra
  endFirst := h.endFirst.push t
  terminal x hx hxn := by
    rcases Array.mem_push.1 hx with hx | rfl
    · exact h.terminal x hx hxn
    · exact ht
  numbered := h.numbered.push hform
  nonterminal := h.nonterminal
  own i n hn := by simp [hnone] at hn
  first _ n hn := by simp [hnone] at hn
  owned := h.owned

/-- A terminal is entered under the text that it is written as. -/
theorem Declared.bindToken (h : d.Declared g levels start) {t : TerminalDraft} {key : Terminal}
    (hnamed : t.info.named = false) (hextra : t.info.extra = false) (hkey : tokenOf t = some key)
    (hform : ∀ i, t.terminal.form = .external i → i < g.externals.length) :
    Declared g levels start { d with
      terminals := d.terminals.push t
      anonymous := (key, d.terminals.size) :: d.anonymous } where
  indexed := by
    constructor
    · have referred : referredName t.info = none := by simp [referredName, hnamed]
      rw [Array.toList_push, latest_concat, referred]
      exact h.indexed.names
    · rw [Array.toList_push, latest_concat, hkey, ← h.indexed.anonymous]
      rfl
  marked := h.marked.push hextra
  endFirst := h.endFirst.push t
  terminal x hx hxn := by
    rcases Array.mem_push.1 hx with hx | rfl
    · exact h.terminal x hx hxn
    · exact absurd hnamed (by simp [hxn])
  numbered := h.numbered.push hform
  nonterminal := h.nonterminal
  own := h.own
  first := h.first
  owned := h.owned

/-- A rule is entered under its name. -/
theorem Declared.bindRule (h : d.Declared g levels start) {n : NonterminalDraft}
    (hkind : n.kind = .nonterminal) (halternatives : n.alternatives = [])
    (hname : n.name ∈ g.rules.names) (hreachable : n.name ∈ g.reachable)
    (hprecedence : n.precedence = (levels.ofRule n.name).map Int.ofNat)
    (hnew : d.names.lookup n.name = none)
    (hfirst : start ∈ g.reachable → n.name = start ∨ 0 < d.nonterminals.size)
    (howner : n.owner = d.nonterminals.size) :
    Declared g levels start { d with
      nonterminals := d.nonterminals.push n
      names := (n.name, .nonterminal d.nonterminals.size) :: d.names } where
  indexed := by
    refine ⟨?_, h.indexed.anonymous⟩
    have named : ruleName n = some n.name := by simp [ruleName, hkind]
    rw [Array.toList_push, latest_concat, named, h.indexed.names]
    rfl
  marked := h.marked
  endFirst := h.endFirst
  terminal := h.terminal
  numbered := h.numbered
  nonterminal x hx := by
    rcases Array.mem_push.1 hx with hx | rfl
    · exact h.nonterminal x hx
    · exact ⟨hkind, halternatives, hname, hreachable, hprecedence⟩
  own i x hx := by
    rw [Array.getElem?_push] at hx
    split at hx
    · next hi =>
      obtain rfl := Option.some.inj hx
      rw [hi]
      exact List.lookup_cons_self
    · have bound := h.own i x hx
      have hne : x.name ≠ n.name := fun heq => by simp [heq, hnew] at bound
      rwa [List.lookup_cons, beq_false_of_ne hne]
  first hr x hx := by
    rw [Array.getElem?_push] at hx
    split at hx
    · next hi =>
      obtain rfl := Option.some.inj hx
      exact (hfirst hr).resolve_right (Nat.not_lt.2 (Nat.le_of_eq hi.symm))
    · exact h.first hr x hx
  owned := h.owned.push ⟨n, by rw [howner, Array.getElem?_push_size], hkind⟩

/-- A name that a terminal was entered under is that of an external token or of a rule that is a
token. -/
theorem Declared.of_lookup_terminal (h : d.Declared g levels start) {name : String} {n : Nat}
    (hn : d.names.lookup name = some (.terminal n)) : name ∈ g.externalNames ∨
      name ≠ start ∧ ∃ body, g.rules.find? name = some body ∧ body.tokenBody.isSome := by
  obtain ⟨l₁, l₂, hl, -⟩ := List.lookup_eq_some_iff.1 hn
  have hmem : (name, Sym.terminal n) ∈ d.names := hl ▸ List.mem_append_right l₁ List.mem_cons_self
  rw [h.indexed.names] at hmem
  simp only [List.mem_append, List.mem_map, Prod.exists, Prod.map_apply, id_eq, Prod.mk.injEq,
    reduceCtorEq, and_false, exists_false, false_or, Sym.terminal.injEq] at hmem
  obtain ⟨_, _, hmem, rfl, rfl⟩ := hmem
  obtain ⟨t, ht, hname⟩ := mem_latest.1 hmem
  simp only [referredName, Option.ite_none_right_eq_some, Option.some.injEq] at hname
  obtain ⟨hnamed, rfl⟩ := hname
  exact h.terminal t (List.mem_of_getElem? ht |> Array.mem_toList_iff.1)
    (Bool.and_eq_true_iff.1 hnamed).1

/-- A start rule that is no external token is a nonterminal once it is entered. -/
theorem Declared.pos_of_binds (h : d.Declared g levels start) (hexternal : start ∉ g.externalNames)
    (hbound : d.Binds start) : 0 < d.nonterminals.size := by
  obtain ⟨s, hs⟩ := Option.isSome_iff_exists.1 hbound
  cases s with
  | terminal n =>
    rcases h.of_lookup_terminal hs with hext | ⟨hne, -⟩
    · exact absurd hext hexternal
    · exact absurd rfl hne
  | nonterminal i => exact Nat.lt_of_le_of_lt (Nat.zero_le i) (h.indexed.has_of_lookup hs)

theorem Declared.reports (h : d.Declared g levels start) (hd : d.Reports d') :
    d'.Declared g levels start := by
  have indexed := hd.gains.grows.indexed h.indexed
  obtain ⟨_, rfl⟩ := hd
  exact ⟨indexed, h.marked, h.endFirst, h.terminal, h.numbered, h.nonterminal, h.own, h.first,
    h.owned⟩

/-- Nonterminals come after all terminals that have names. -/
def TerminalsDeclared (g : Grammar) (levels : Levels) (start : String) (d : Draft) : Prop :=
  d.Declared g levels start ∧ d.nonterminals = #[]

theorem ensures_declareExternal (h : d.TerminalsDeclared g levels start) {rule : Rule}
    (hrule : rule ∈ g.externals) {index : Nat} (hindex : index < g.externals.length) :
    Ensures d (declareExternal g index rule) fun _ d' => d'.TerminalsDeclared g levels start ∧
      (∀ name, rule = .symbol name → d'.Binds name) ∧ ∀ name, d.Binds name → d'.Binds name := by
  obtain ⟨declared, hnone⟩ := h
  have numbered (i : Nat) (h : TokenForm.external index = .external i) : i < g.externals.length :=
    TokenForm.external.inj h ▸ hindex
  unfold declareExternal
  dsimp only
  split
  · next name =>
    have external : name ∈ g.externalNames := List.mem_filterMap.2 ⟨_, hrule, rfl⟩
    refine ⟨⟨declared.bindTerminal hnone rfl rfl (by simp) (.inl external) numbered, hnone⟩, ?_, ?_⟩
    · rintro _ ⟨⟩
      exact binds_cons rfl
    · exact fun name' hb => hb.cons rfl
  · next text =>
    exact ⟨⟨declared.bindToken rfl rfl rfl numbered, hnone⟩, fun _ h => Rule.noConfusion h,
      fun _ hb => hb⟩
  · next hsymbol _ =>
    exact ⟨⟨declared.reports ⟨_, rfl⟩, hnone⟩, fun name h => absurd h (hsymbol name), fun _ hb => hb⟩

theorem ensures_declareToken (h : d.TerminalsDeclared g levels start) {name : String}
    {rule body : Rule} {immediate : Bool} (hname : name ≠ start)
    (hrule : g.rules.find? name = some rule) (hbody : rule.tokenBody = some (body, immediate)) :
    Ensures d (declareToken g name body immediate) fun _ d' =>
      d'.TerminalsDeclared g levels start ∧ ∀ name, d.Binds name → d'.Binds name := by
  obtain ⟨declared, hnone⟩ := h
  refine (ensures_tokenForm body name).bind fun form d₁ ⟨hform, reports⟩ => ?_
  have declared₁ := declared.reports reports
  obtain ⟨_, rfl⟩ := reports
  refine ⟨⟨declared₁.bindTerminal hnone rfl rfl ?_ (.inr ⟨hname, rule, hrule, by rw [hbody]; rfl⟩)
    fun i hi => ?_, hnone⟩, fun name' hb => hb.cons rfl⟩
  · dsimp only
    split <;> simp
  · rcases form_eq_literal_or_regex body with ⟨text, htext⟩ | ⟨regex, hregex⟩
    · exact absurd (htext.symm.trans (hform.symm.trans hi)) nofun
    · exact absurd (hregex.symm.trans (hform.symm.trans hi)) nofun

theorem ensures_declareRule (h : d.Declared g levels start) {name : String}
    (hname : name ∈ g.rules.names) (hreachable : name ∈ g.reachable)
    (hnew : d.names.lookup name = none)
    (hfirst : start ∈ g.reachable → name = start ∨ 0 < d.nonterminals.size) :
    Ensures d (declareRule g levels name) fun _ d' => d'.Declared g levels start ∧
      d'.Binds name ∧ ∀ name', d.Binds name' → d'.Binds name' :=
  ⟨h.bindRule rfl rfl hname hreachable rfl hnew hfirst rfl, binds_cons rfl, fun _ hb => hb.cons rfl⟩

theorem declared_endOfText : Declared g levels start { terminals := #[{
    info := { name := endName, kind := .endOfText, named := false, visible := false }
    terminal := { form := .endOfText } }] } where
  indexed := ⟨rfl, rfl⟩
  marked t ht hextra := by
    obtain rfl := List.mem_singleton.1 (Array.mem_toList_iff.2 ht)
    cases hextra
  endFirst := rfl
  terminal t ht hnamed := by
    obtain rfl := List.mem_singleton.1 (Array.mem_toList_iff.2 ht)
    exact absurd hnamed (by simp)
  numbered t ht i hi := by
    obtain rfl := List.mem_singleton.1 (Array.mem_toList_iff.2 ht)
    cases hi
  nonterminal n hn := by simp at hn
  own i n hn := by simp at hn
  first _ n hn := by simp at hn
  owned n hn := by simp at hn

theorem ensures_declareExternals (h : d.TerminalsDeclared g levels start) :
    Ensures d (g.externals.zipIdx.forM fun (rule, index) => declareExternal g index rule) fun _ d' =>
      d'.TerminalsDeclared g levels start ∧ ∀ name ∈ g.externalNames, d'.Binds name := by
  refine (ensures_forM (I := fun d => d.TerminalsDeclared g levels start)
    (R := fun e d => ∀ name, e.1 = .symbol name → d.Binds name) (fun ⟨rule, index⟩ he d h =>
      (ensures_declareExternal h (List.fst_mem_of_mem_zipIdx he)
        (List.getElem?_eq_some_iff.1 (List.mem_zipIdx_iff_getElem?.1 he)).1).imp
        fun _ d' ⟨h', bound, kept⟩ => ⟨h', bound, fun e he name hname => kept name (he name hname)⟩)
    h).imp fun _ d₁ ⟨h₁, bound, _⟩ => ⟨h₁, fun name hname => ?_⟩
  obtain ⟨rule, hrule, hsymbol⟩ := List.mem_filterMap.1 hname
  obtain ⟨i, hi, rfl⟩ := List.getElem_of_mem hrule
  refine bound (g.externals[i], i) (List.mem_zipIdx_iff_getElem?.2 (List.getElem?_eq_getElem hi))
    name ?_
  split at hsymbol
  · next h => rw [h, Option.some.inj hsymbol]
  · cases hsymbol

theorem ensures_declareTokens (h : d.TerminalsDeclared g levels start)
    (external : ∀ name ∈ g.externalNames, d.Binds name) :
    Ensures d (g.rules.entries.forM fun (name, rule) => do
      if name ≠ start && g.reachable.contains name && ((← get).names.lookup name).isNone then
        match rule.tokenBody with
        | some (body, immediate) => declareToken g name body immediate
        | none => return) fun _ d' =>
      d'.TerminalsDeclared g levels start ∧ ∀ name ∈ g.externalNames, d'.Binds name := by
  refine (ensures_forM (I := fun d => d.TerminalsDeclared g levels start ∧
    ∀ name ∈ g.externalNames, d.Binds name) (R := fun _ _ => True) (fun ⟨name, rule⟩ he d h => ?_)
    ⟨h, external⟩).imp fun _ _ h => h.1
  refine ensures_get_bind ?_
  split
  · next hif =>
    split
    · next hbody =>
      simp only [Bool.and_eq_true, decide_eq_true_eq] at hif
      exact (ensures_declareToken h.1 hif.1.1 (Grammar.find?_eq_some_iff.2 he) hbody).imp
        fun _ d' ⟨h', kept⟩ =>
          ⟨⟨h', fun name hn => kept name (h.2 name hn)⟩, trivial, fun _ _ => trivial⟩
    · exact ensures_pure ⟨h, trivial, fun _ _ => trivial⟩
  · exact ensures_pure ⟨h, trivial, fun _ _ => trivial⟩

/-- A rule is entered if it can be reached, the start rule before all others. -/
theorem ensures_declareReachable (h : d.Declared g levels start)
    (external : ∀ name ∈ g.externalNames, d.Binds name) {name : String}
    (hname : name ∈ g.rules.names) (hfirst : name = start ∨ (start ∈ g.reachable → d.Binds start)) :
    Ensures d (do
      if g.reachable.contains name && ((← get).names.lookup name).isNone then
        declareRule g levels name) fun _ d' => (d'.Declared g levels start ∧
      ∀ name ∈ g.externalNames, d'.Binds name) ∧ (name ∈ g.reachable → d'.Binds name) ∧
      ∀ name', d.Binds name' → d'.Binds name' := by
  refine ensures_get_bind ?_
  split
  · next hif =>
    simp only [Bool.and_eq_true, List.contains_eq_mem, decide_eq_true_eq,
      Option.isNone_iff_eq_none] at hif
    have first : start ∈ g.reachable → name = start ∨ 0 < d.nonterminals.size := fun hr =>
      hfirst.imp_right fun bound =>
        h.pos_of_binds (Grammar.not_external_of_reachable hr) (bound hr)
    exact (ensures_declareRule h hname hif.1 hif.2 first).imp fun _ d' ⟨h', bound, kept⟩ =>
      ⟨⟨h', fun name hn => kept name (external name hn)⟩, fun _ => bound, kept⟩
  · next hif =>
    refine ensures_pure ⟨⟨h, external⟩, fun hr => ?_, fun _ hb => hb⟩
    simpa [hr, Binds, Option.isSome_iff_ne_none] using hif

theorem ensures_declareRules (h : d.Declared g levels start)
    (external : ∀ name ∈ g.externalNames, d.Binds name) (hstart : start ∈ g.rules.names)
    {names : List String} (hnames : ∀ name ∈ names, name ∈ g.rules.names) :
    Ensures d ((start :: names).forM fun name => do
      if g.reachable.contains name && ((← get).names.lookup name).isNone then
        declareRule g levels name) fun _ d' => d'.Declared g levels start ∧
      (∀ name ∈ g.externalNames, d'.Binds name) ∧
      ∀ name ∈ start :: names, name ∈ g.reachable → d'.Binds name := by
  refine (ensures_declareReachable h external hstart (.inl rfl)).bind
    fun _ d₁ ⟨⟨h₁, external₁⟩, bound₁, _⟩ => ?_
  refine (ensures_forM (I := fun d => (d.Declared g levels start ∧
    ∀ name ∈ g.externalNames, d.Binds name) ∧ (start ∈ g.reachable → d.Binds start))
    (R := fun name d => name ∈ g.reachable → d.Binds name)
    (fun name hname d ⟨⟨h, external⟩, bound⟩ => ?_) ⟨⟨h₁, external₁⟩, bound₁⟩).imp
    fun _ d₂ ⟨⟨⟨h₂, external₂⟩, bound₂⟩, all, _⟩ =>
      ⟨h₂, external₂, List.forall_mem_cons.2 ⟨bound₂, all⟩⟩
  exact (ensures_declareReachable h external (hnames name hname) (.inr bound)).imp
    fun _ d' ⟨h', bound', kept⟩ => ⟨⟨h', fun hr => kept start (bound hr)⟩, bound',
      fun name hb hr => kept name (hb hr)⟩

/-- All external tokens and all rules that can be reached are entered. -/
theorem ensures_declareSymbols (hstart : start ∈ g.rules.names) :
    Ensures {} (declareSymbols g levels start) fun _ d => d.Declared g levels start ∧
      (∀ name ∈ g.externalNames, d.Binds name) ∧
      ∀ name ∈ g.rules.names, name ∈ g.reachable → d.Binds name := by
  refine Ensures.bind (Q := fun _ d => d.TerminalsDeclared g levels start)
    ⟨declared_endOfText, rfl⟩ fun _ d₀ h₀ => ?_
  refine (ensures_declareExternals h₀).bind fun _ d₁ ⟨h₁, external₁⟩ => ?_
  refine (ensures_declareTokens h₁ external₁).bind fun _ d₂ ⟨h₂, external₂⟩ => ?_
  have rules : ∀ name ∈ g.rules.names.filter (· ≠ start), name ∈ g.rules.names :=
    fun name hname => (List.mem_filter.1 hname).1
  refine (ensures_declareRules h₂.1 external₂ hstart rules).imp fun _ d₃ ⟨h₃, external₃, bound⟩ =>
    ⟨h₃, external₃, fun name hname => bound name ?_⟩
  by_cases heq : name = start
  · exact List.mem_cons.2 (.inl heq)
  · exact List.mem_cons_of_mem _ (List.mem_filter.2 ⟨hname, by simpa using heq⟩)

/-! ## Expanding rules -/

/-- The rule of this number has been expanded, and its helpers are as they were then. The nonterminals
below `count` are those of rules. -/
structure RuleExpanded (g : Grammar) (count i : Nat) (D : Draft) (body : Rule) (before after : Draft) :
    Prop where
  lt : i < count
  rule : g.rules.find? (D.nonterminalName i) = some body
  names : D.names = before.names
  size : count ≤ before.nonterminals.size
  expanded : before.Expanded (.ofRule body) (D.alternativesOf i) after
  grows : after.Grows (count ≤ ·) D

/-- Helpers have no precedence, and what is closed is true of their alternatives. -/
def HelpersClosed (even : Bool) (count : Nat) (d : Draft) : Prop :=
  ∀ D P, d.Grows (fun _ => False) D → Closed D even P →
    ∀ i, count ≤ i → i < d.nonterminals.size →
      d.precedenceOf i = none ∧ ∀ a ∈ d.alternativesOf i, P a

theorem Grows.nonterminalName {keep : Nat → Prop} (h : d.Grows keep d') {i : Nat}
    (hi : i < d.nonterminals.size) : d'.nonterminalName i = d.nonterminalName i := by
  obtain ⟨n', hn', heading⟩ := h.heading (Array.getElem?_eq_getElem hi)
  rw [Draft.nonterminalName, Draft.nonterminalName, hn', Array.getElem?_eq_getElem hi]
  exact congrArg (fun h : String × SymbolKind × Option Int => h.1) heading

theorem Grows.isRule {keep : Nat → Prop} (h : d.Grows keep d') {i : Nat} (hi : d.IsRule i) :
    d'.IsRule i := by
  obtain ⟨n, hn, hkind⟩ := hi
  obtain ⟨n', hn', heading⟩ := h.heading hn
  exact ⟨n', hn', (congrArg (fun h : String × SymbolKind × Option Int => h.2.1) heading).trans hkind⟩

section RuleExpanded

variable {count i : Nat} {D D' before after : Draft} {body : Rule}

theorem RuleExpanded.lt_size (h : RuleExpanded g count i D body before after) :
    i < D.nonterminals.size :=
  Nat.lt_of_lt_of_le h.lt <| h.size.trans <|
    h.expanded.grows.size_nonterminals.trans h.grows.size_nonterminals

theorem RuleExpanded.grows_trans (h : RuleExpanded g count i D body before after)
    (grows : D.Grows (fun j => j = i ∨ count ≤ j) D') :
    RuleExpanded g count i D' body before after where
  lt := h.lt
  rule := (grows.nonterminalName h.lt_size).symm ▸ h.rule
  names := grows.names.trans h.names
  size := h.size
  expanded := (grows.alternatives i h.lt_size (.inl rfl)).symm ▸ h.expanded
  grows := h.grows.trans (grows.mono fun _ _ hj => .inr hj)

theorem HelpersClosed.grows (h : HelpersClosed g.isEven count d)
    (hrule : g.rules.find? (d.nonterminalName i) = some body) {as : List Alternative}
    (he : d.Expanded (.ofRule body) as d') : HelpersClosed g.isEven count d' := by
  intro D P hD hP
  have heven : body.isEven = false → g.isEven = false := fun hbody =>
    List.all_eq_false.2 ⟨_, Grammar.find?_eq_some_iff.1 hrule, by simp [hbody]⟩
  exact helpers_trans (P := fun p alternatives => p = none ∧ ∀ a ∈ alternatives, P a)
    (h D P ((he.grows.mono fun _ _ h => h.elim).trans hD) hP) he.grows
    (he.closed D P hD (hP.mono heven)).2

theorem HelpersClosed.setAlternatives (h : HelpersClosed g.isEven count d) (hi : i < count)
    (grows : d.Grows (· ≠ i) d') (hsize : d'.nonterminals.size = d.nonterminals.size) :
    HelpersClosed g.isEven count d' := by
  intro D P hD hP j hj hj'
  rw [hsize] at hj'
  rw [grows.precedenceOf hj', grows.alternatives j hj' (Nat.ne_of_gt (Nat.lt_of_lt_of_le hi hj))]
  exact h D P ((grows.mono fun _ _ h => h.elim).trans hD) hP j hj hj'

/-- One rule is expanded. -/
theorem ensures_expandRule (hi : i < count) (hcount : count ≤ d.nonterminals.size)
    (hrule : g.rules.find? (d.nonterminalName i) = some body) (h : HelpersClosed g.isEven count d)
    (howned : d.Owned) (hown : d.IsRule i) :
    Ensures d (do setAlternatives i (← expand levels i body)) fun _ d' =>
      d.Grows (· ≠ i) d' ∧ HelpersClosed g.isEven count d' ∧ d'.Owned ∧
      ∃ after, RuleExpanded g count i d' body d after := by
  have owned : Ensures d (expand levels i body) _ :=
    (keeps_owned i).expand ⟨howned, hown⟩ body
  refine ((expanded_expand d body).and owned).bind fun as d₁ ⟨he, owned₁⟩ => ?_
  refine ((ensures_setAlternatives i as).and ((keeps_owned i).alternatives i as owned₁)).imp
    fun _ d₂ ⟨⟨grows, hsize, halternatives, _⟩, owned₂, _⟩ => ?_
  have hi₁ : i < d₁.nonterminals.size :=
    Nat.lt_of_lt_of_le hi (hcount.trans he.grows.size_nonterminals)
  have grows₂ : d.Grows (· ≠ i) d₂ := (he.grows.mono fun _ _ _ => trivial).trans grows
  refine ⟨grows₂, (h.grows hrule he).setAlternatives hi grows hsize, owned₂, d₁, {
    lt := hi
    rule := (grows₂.nonterminalName (Nat.lt_of_lt_of_le hi hcount)).symm ▸ hrule
    names := grows₂.names
    size := hcount
    expanded := (halternatives hi₁).symm ▸ he
    grows := grows.mono fun j _ hj => Nat.ne_of_gt (Nat.lt_of_lt_of_le hi hj) }⟩

end RuleExpanded

/-- All rules have been expanded. -/
structure RulesExpanded (g : Grammar) (declared d : Draft) : Prop where
  grows : declared.Grows (fun _ => False) d
  helpers : HelpersClosed g.isEven declared.nonterminals.size d
  owned : d.Owned
  rules : ∀ i < declared.nonterminals.size, ∃ body before after,
    RuleExpanded g declared.nonterminals.size i d body before after

theorem ensures_expandRules (h : d.Declared g levels start) :
    Ensures d (expandRules g levels) fun _ d' => RulesExpanded g d d' := by
  refine ensures_get_bind ((ensures_forM
    (I := fun d' => d.Grows (fun _ => False) d' ∧ HelpersClosed g.isEven d.nonterminals.size d' ∧
      d'.Owned)
    (R := fun i d' => ∃ body before after,
      RuleExpanded g d.nonterminals.size i d' body before after)
    (fun i hi d₁ ⟨grows, helpers, owned⟩ => ?_)
    ⟨.refl d, fun _ _ _ _ i hi hi' => by omega, h.owned⟩).imp
    fun _ d' ⟨⟨grows, helpers, owned⟩, rules, _⟩ =>
      ⟨grows, helpers, owned, fun i hi => rules i (List.mem_range.2 hi)⟩)
  have hi := List.mem_range.1 hi
  have declared := h.nonterminal _ (Array.getElem_mem hi)
  have hname : d₁.nonterminalName i ∈ g.rules.names := by
    rw [grows.nonterminalName hi, Draft.nonterminalName, Array.getElem?_eq_getElem hi]
    exact declared.2.2.1
  have rule : d₁.IsRule i := grows.isRule ⟨_, Array.getElem?_eq_getElem hi, declared.1⟩
  refine ensures_get_bind ?_
  split
  · next body hbody =>
    refine (ensures_expandRule hi grows.size_nonterminals hbody helpers owned rule).imp
      fun _ d₂ ⟨grows₂, helpers₂, owned₂, after, expanded⟩ =>
        ⟨⟨grows.trans (grows₂.mono fun _ _ h => h.elim), helpers₂, owned₂⟩,
          ⟨body, d₁, after, expanded⟩, ?_⟩
    rintro j ⟨body', before', after', h'⟩
    -- A rule that was expanded before keeps its alternatives: this step writes to another place.
    by_cases hj : j = i
    · exact hj ▸ ⟨body, d₁, after, expanded⟩
    · exact ⟨body', before', after', h'.grows_trans (grows₂.mono fun k _ hk => by omega)⟩
  · next hnone =>
    obtain ⟨⟨name, body⟩, hmem, heq⟩ := List.mem_map.1 hname
    rw [← heq, Grammar.find?_eq_some_iff.2 hmem] at hnone
    cases hnone

theorem RulesExpanded.gains {declared : Draft} (h : RulesExpanded g declared d)
    (gains : d.GainsTokens d') : RulesExpanded g declared d' where
  grows := h.grows.trans (gains.grows.mono fun _ _ h => h.elim)
  helpers D P hD hP i hi hi' := by
    have hlt : i < d.nonterminals.size := gains.nonterminals ▸ hi'
    rw [gains.grows.precedenceOf hlt, gains.grows.alternatives i hlt trivial]
    exact h.helpers D P ((gains.grows.mono fun _ _ h => h.elim).trans hD) hP i hi hlt
  owned := by
    simp only [Owned, IsRule, gains.nonterminals]
    exact h.owned
  rules i hi := by
    obtain ⟨body, before, after, expanded⟩ := h.rules i hi
    exact ⟨body, before, after, expanded.grows_trans (gains.grows.mono fun _ _ _ => trivial)⟩

/-! ## Extras -/

/-- An extra that is no token asks for nothing. -/
theorem ensures_pure_extra {d' : Draft} {extra : Extra} (gains : d.GainsTokens d')
    (hextra : ∀ n, extra ≠ .token n) : Ensures d' (pure extra) fun extra d' =>
      d.GainsTokens d' ∧ ∀ n, extra = .token n → d'.Has (.terminal n) :=
  ensures_pure ⟨gains, fun n hn => absurd hn (hextra n)⟩

theorem ensures_report_extra (finding : Finding) (path : Option String) :
    Ensures d (do
      report finding path
      return Extra.nothing) fun extra d' =>
        d.GainsTokens d' ∧ ∀ n, extra = .token n → d'.Has (.terminal n) :=
  (ensures_report _ _).bind fun _ _ reports => ensures_pure_extra reports.gains fun _ => by simp

/-- An extra that is neither a pattern nor a name becomes a token, as long as no rule has been made a
nonterminal. -/
theorem ensures_extraToken (h : d.Indexed) (rule : Rule) :
    Ensures d (do
      match rule.tokenBody, (← get).nonterminals.isEmpty with
      | some (body, immediate), false =>
        match ← inlineToken body immediate 0 with
        | some n => return Extra.token n
        | none => return .nothing
      | _, _ =>
        report .unsupportedExtra none
        return .nothing) fun extra d' => d.GainsTokens d' ∧
          ∀ n, extra = .token n → d'.Has (.terminal n) := by
  refine ensures_get_bind ?_
  split
  · refine (ensures_inlineToken _ _ _).bind fun r d' made => ?_
    obtain ⟨gains, known⟩ := made
    split at known
    · subst known
      exact ensures_pure_extra gains fun _ => by simp
    · obtain ⟨n, rfl, hn⟩ := known
      refine ensures_pure ⟨gains, ?_⟩
      rintro _ ⟨⟩
      exact (gains.grows.indexed h).has_of_anonymous hn
  · exact ensures_report_extra _ _

/-- An extra that is a token can be referred to. -/
theorem ensures_expandExtra (h : d.Indexed) (rule : Rule) :
    Ensures d (expandExtra rule) fun extra d' => d.GainsTokens d' ∧
      ∀ n, extra = .token n → d'.Has (.terminal n) := by
  unfold expandExtra
  split
  · dsimp only
    split
    · exact ensures_pure_extra (.refl d) fun _ => by simp
    · exact ensures_report_extra _ _
  · refine ensures_get_bind ?_
    split
    · next n hn =>
      refine ensures_pure ⟨.refl d, ?_⟩
      rintro _ ⟨⟩
      exact h.has_of_lookup hn
    · exact ensures_report_extra _ _
    · exact ensures_pure_extra (.refl d) fun _ => by simp
  · dsimp only
    split
    · split
      · exact ensures_pure_extra (.refl d) fun _ => by simp
      · exact ensures_extraToken h _
    · exact ensures_extraToken h _

/-- Makes a terminal an extra. -/
def mark (t : TerminalDraft) : TerminalDraft := { t with info := { t.info with extra := true } }

/-- Terminals that rules can refer to may become extras; what they were entered for stays as it is. -/
theorem gains_mark {tokens : List Nat} (ht : ∀ n ∈ tokens, d.Has (.terminal n)) :
    d.GainsTokens { d with
      terminals := tokens.foldl (fun ts n => ts.modify n mark) d.terminals } := by
  induction tokens generalizing d with
  | nil => exact .refl d
  | cons n tokens ih =>
    obtain ⟨hn, hrest⟩ := List.forall_mem_cons.1 ht
    have grows : d.Grows (fun _ => True) { d with terminals := d.terminals.modify n mark } := by
      refine .of_headings rfl rfl (map_toList_modify _ _ _ _ fun _ => rfl) rfl
        (fun h t hmem hextra => ?_) fun _ _ _ => rfl
      obtain ⟨i, hi, rfl⟩ := Array.mem_iff_getElem.1 hmem
      rw [Array.getElem_modify] at hextra ⊢
      obtain ⟨t, hin, referred⟩ := hn
      split at hextra
      · next heq =>
        subst heq
        obtain ⟨_, rfl⟩ := Array.getElem?_eq_some_iff.1 hin
        rwa [if_pos rfl]
      · next hne =>
        rw [if_neg hne]
        exact h _ (Array.getElem_mem _) hextra
    exact GainsTokens.trans ⟨grows, rfl⟩ (ih fun m hm => grows.has (hrest m hm))

/-- Extras add tokens only, and those that are extra tokens can be referred to. -/
theorem has_of_mem_tokens {extras : List Extra}
    (known : ∀ extra ∈ extras, ∀ n, extra = .token n → d.Has (.terminal n)) :
    ∀ n ∈ extras.filterMap fun
      | .token n => some n
      | _ => none, d.Has (.terminal n) := by
  intro n hn
  obtain ⟨extra, hmem, hextra⟩ := List.mem_filterMap.1 hn
  split at hextra
  · exact known _ hmem n (by rw [Option.some.inj hextra])
  · cases hextra

theorem ensures_expandExtras (h : d.Indexed) :
    Ensures d (expandExtras g) fun extras d' => d.GainsTokens d' ∧
      ∀ n ∈ extras.2, d'.Has (.terminal n) := by
  have each (rule : Rule) {d₁ : Draft} (gains : d.GainsTokens d₁) :
      Ensures d₁ (expandExtra rule) fun extra d₂ => d.GainsTokens d₂ ∧
        (∀ n, extra = .token n → d₂.Has (.terminal n)) ∧
        ∀ other : Extra, (∀ n, other = .token n → d₁.Has (.terminal n)) →
          ∀ n, other = .token n → d₂.Has (.terminal n) :=
    (ensures_expandExtra (gains.grows.indexed h) rule).imp fun _ _ ⟨gains', known⟩ =>
      ⟨gains.trans gains', known, fun _ kept n hn => gains'.grows.has (kept n hn)⟩
  refine (ensures_mapM_forall (I := fun d' => d.GainsTokens d')
    (R := fun extra d' => ∀ n, extra = .token n → d'.Has (.terminal n))
    (fun rule _ _ gains => each rule gains) (.refl d)).bind fun extras d₁ ⟨gains, known, _⟩ => ?_
  have tokens := has_of_mem_tokens known
  have gains' := gains_mark tokens
  exact ⟨gains.trans gains', fun n hn => gains'.grows.has (tokens n hn)⟩

/-! ## Final numbers -/

/-- The flat grammar gives the symbols of the draft their numbers, and its productions are the
alternatives of the draft, each once. -/
structure Numbers (g : FlatGrammar) (d : Draft) : Prop where
  terminalCount : g.terminalCount = d.terminals.size
  nonterminalCount : g.nonterminalCount = d.nonterminals.size
  start : g.start = d.terminals.size
  terminals : g.terminals = d.terminals.map (·.terminal)
  symbols : d.symbolInfos.toList <+: g.symbols.toList
  sound : ∀ p ∈ g.productions, ∃ i < d.nonterminals.size, ∃ a ∈ d.alternativesOf i,
    p.lhs = d.idOf (.nonterminal i) ∧ p.rhs = a.syms.map d.idOf ∧
    p.precedence = (a.precedence.or (d.precedenceOf i)).getD 0 ∧
    p.associativity = a.associativity.getD .none
  complete : ∀ i, ∀ a ∈ d.alternativesOf i, ∃ p ∈ g.productions,
    p.lhs = d.idOf (.nonterminal i) ∧ p.rhs = a.syms.map d.idOf
  children : ∀ p ∈ g.productions, ∀ c ∈ p.children,
    (∀ f, c.field = some f → 0 < f ∧ f ≤ g.fields.length) ∧
    ∀ s, c.renamed = some s → s < g.symbols.size
  tokens : ∀ n ∈ g.extras ++ g.word.toList ++ g.recovery, n < d.terminals.size
  extra : ∀ (n : Nat) (info : SymbolInfo), g.symbols[n]? = some info → info.extra = true →
    n < d.terminals.size
  conflicts : ∀ set ∈ g.conflicts, ∀ s ∈ set,
    ∃ i < d.nonterminals.size, s = d.idOf (.nonterminal i)
  owners : g.owners = Array.range d.terminals.size ++
    d.nonterminals.map (fun n => d.terminals.size + n.owner) ++
    (Array.range (g.symbols.size - (d.terminals.size + d.nonterminals.size))).map
      (· + (d.terminals.size + d.nonterminals.size))

theorem mem_of_mem_distinct {seen : List (List Child)} {p : Production} {ps : List Production}
    (h : p ∈ distinct seen ps) : p ∈ ps := by
  induction ps generalizing seen with
  | nil => exact h
  | cons q ps ih =>
    rw [distinct] at h
    split at h
    · exact List.mem_cons_of_mem q (ih h)
    · rcases List.mem_cons.1 h with rfl | h
      · exact List.mem_cons_self
      · exact List.mem_cons_of_mem q (ih h)

/-- Of productions with the same children one is kept. -/
theorem exists_mem_distinct {seen : List (List Child)} {p : Production} {ps : List Production}
    (h : p ∈ ps) : p.children ∈ seen ∨ ∃ q ∈ distinct seen ps, q.children = p.children := by
  induction ps generalizing seen with
  | nil => cases h
  | cons q ps ih =>
    rw [distinct]
    rcases List.mem_cons.1 h with rfl | h
    · split
      · next hseen => exact .inl (by simpa using hseen)
      · exact .inr ⟨p, List.mem_cons_self, rfl⟩
    · split
      · exact ih h
      · rcases @ih (q.children :: seen) h with hmem | ⟨q', hq', heq⟩
        · rcases List.mem_cons.1 hmem with heq | hmem
          · exact .inr ⟨q, List.mem_cons_self, heq.symm⟩
          · exact .inl hmem
        · exact .inr ⟨q', List.mem_cons_of_mem q hq', heq⟩

theorem prefix_foldl_addAlias (keys : List (String × Bool))
    (acc : Array SymbolInfo × List ((String × Bool) × SymbolId)) :
    acc.1.toList <+: (keys.foldl addAlias acc).1.toList := by
  induction keys generalizing acc with
  | nil => exact List.prefix_rfl
  | cons key keys ih =>
    refine List.IsPrefix.trans ?_ (ih (addAlias acc key))
    unfold addAlias
    dsimp only
    split
    · exact List.prefix_rfl
    · rw [Array.toList_push]
      exact List.prefix_append _ _

theorem Reports.numbers {flat : FlatGrammar} (h : d.Reports d') (hn : Numbers flat d') :
    Numbers flat d := by
  obtain ⟨_, rfl⟩ := h
  exact ⟨hn.terminalCount, hn.nonterminalCount, hn.start, hn.terminals, hn.symbols, hn.sound,
    hn.complete, hn.children, hn.tokens, hn.extra, hn.conflicts, hn.owners⟩

theorem Reports.trans (h : d.Reports d') {d'' : Draft} (h' : d'.Reports d'') : d.Reports d'' := by
  obtain ⟨_, rfl⟩ := h
  obtain ⟨_, rfl⟩ := h'
  exact ⟨_, rfl⟩

theorem ensures_wordToken (h : d.Indexed) :
    Ensures d (wordToken g) fun word d' => d.Reports d' ∧ ∀ n ∈ word, n < d.terminals.size := by
  unfold wordToken
  split
  · exact ensures_pure ⟨.refl d, nofun⟩
  · refine ensures_get_bind ?_
    split
    · next n hn =>
      refine ensures_pure ⟨.refl d, ?_⟩
      rintro _ ⟨⟩
      exact (h.has_of_lookup hn).lt_terminals
    · exact (ensures_report _ _).bind fun _ _ reports => ensures_pure ⟨reports, nofun⟩

theorem ensures_recoveryToken (h : d.Indexed) (name : String) :
    Ensures d (recoveryToken name) fun token d' =>
      d.Reports d' ∧ ∀ n ∈ token, n < d.terminals.size := by
  refine ensures_get_bind ?_
  split
  · next n hn =>
    refine ensures_pure ⟨.refl d, ?_⟩
    rintro _ ⟨⟩
    exact (h.has_of_lookup hn).lt_terminals
  · split
    · next n hn =>
      refine ensures_pure ⟨.refl d, ?_⟩
      rintro _ ⟨⟩
      exact (Array.findIdx?_eq_some_iff_getElem.1 hn).1
    · exact (ensures_report _ _).bind fun _ _ reports => ensures_pure ⟨reports, nofun⟩

theorem ensures_conflictSymbol (h : d.Indexed) (name : String) :
    Ensures d (conflictSymbol name) fun symbol d' =>
      d.Reports d' ∧ ∀ s ∈ symbol, ∃ i < d.nonterminals.size, s = d.idOf (.nonterminal i) := by
  refine ensures_get_bind ?_
  split
  · next i hi =>
    refine ensures_pure ⟨.refl d, ?_⟩
    rintro _ ⟨⟩
    exact ⟨i, h.has_of_lookup hi, rfl⟩
  · exact (ensures_report _ _).bind fun _ _ reports => ensures_pure ⟨reports, nofun⟩

section Productions

variable {fields : List String} {aliases : List ((String × Bool) × SymbolId)}

theorem getElem?_of_mem_alternativesOf {i : Nat} {a : Alternative} (h : a ∈ d.alternativesOf i) :
    ∃ n, d.nonterminals[i]? = some n ∧ a ∈ n.alternatives := by
  unfold alternativesOf at h
  cases hn : d.nonterminals[i]? with
  | none => simp [hn] at h
  | some n => exact ⟨n, rfl, by simpa [hn] using h⟩

theorem sound_productions {p : Production}
    (h : p ∈ (d.nonterminals.toList.zipIdx.flatMap fun (n, i) =>
      d.productionsOf fields aliases i n).toArray) :
    ∃ i < d.nonterminals.size, ∃ a ∈ d.alternativesOf i,
      p.lhs = d.idOf (.nonterminal i) ∧ p.rhs = a.syms.map d.idOf ∧
      p.precedence = (a.precedence.or (d.precedenceOf i)).getD 0 ∧
      p.associativity = a.associativity.getD .none := by
  obtain ⟨⟨n, i⟩, hmem, hp⟩ := List.mem_flatMap.1 (List.mem_toArray.1 h)
  have hn : d.nonterminals[i]? = some n := by simpa using List.mem_zipIdx_iff_getElem?.1 hmem
  obtain ⟨a, ha, rfl⟩ := List.mem_map.1 (mem_of_mem_distinct hp)
  refine ⟨i, (Array.getElem?_eq_some_iff.1 hn).1, a, ?_, rfl, ?_, ?_, rfl⟩
  · rwa [alternativesOf, hn]
  · simp [Production.rhs, Alternative.syms, Function.comp_def]
  · rw [precedenceOf, hn, Option.bind_some]

theorem complete_productions {i : Nat} {a : Alternative} (h : a ∈ d.alternativesOf i) :
    ∃ p ∈ (d.nonterminals.toList.zipIdx.flatMap fun (n, i) =>
      d.productionsOf fields aliases i n).toArray,
      p.lhs = d.idOf (.nonterminal i) ∧ p.rhs = a.syms.map d.idOf := by
  obtain ⟨n, hn, ha⟩ := getElem?_of_mem_alternativesOf h
  obtain hnil | ⟨q, hq, heq⟩ := @exists_mem_distinct [] _ _ (List.mem_map_of_mem ha)
  · cases hnil
  · refine ⟨q, List.mem_toArray.2 (List.mem_flatMap.2 ⟨(n, i), ?_, hq⟩), ?_, ?_⟩
    · exact List.mem_zipIdx_iff_getElem?.2 (by simpa using hn)
    · obtain ⟨b, -, rfl⟩ := List.mem_map.1 (mem_of_mem_distinct hq)
      rfl
    · rw [Production.rhs, heq]
      simp [Alternative.syms, Function.comp_def]

end Productions

/-- The numbers of names for nodes are those of symbols. -/
theorem lt_of_mem_addAlias {keys : List (String × Bool)}
    {acc : Array SymbolInfo × List ((String × Bool) × SymbolId)}
    (h : ∀ e ∈ acc.2, e.2 < acc.1.size) :
    ∀ e ∈ (keys.foldl addAlias acc).2, e.2 < (keys.foldl addAlias acc).1.size := by
  induction keys generalizing acc with
  | nil => exact h
  | cons key keys ih =>
    refine ih fun e he => ?_
    unfold addAlias at he ⊢
    dsimp only at he ⊢
    split at he
    · next n hn =>
      rcases List.mem_append.1 he with he | he
      · exact h e he
      · rw [List.mem_singleton.1 he]
        exact (Array.findIdx?_eq_some_iff_getElem.1 hn).1
    · rw [Array.size_push]
      rcases List.mem_append.1 he with he | he
      · exact Nat.lt_succ_of_lt (h e he)
      · rw [List.mem_singleton.1 he]
        exact Nat.lt_succ_self _

/-- Only terminals may stand anywhere, not what is a name for nodes. -/
theorem lt_of_extra_addAlias {keys : List (String × Bool)}
    {acc : Array SymbolInfo × List ((String × Bool) × SymbolId)} {count : Nat}
    (h : ∀ (n : Nat) (info : SymbolInfo), acc.1[n]? = some info → info.extra = true → n < count) :
    ∀ (n : Nat) (info : SymbolInfo), (keys.foldl addAlias acc).1[n]? = some info →
      info.extra = true → n < count := by
  induction keys generalizing acc with
  | nil => exact h
  | cons key keys ih =>
    refine ih fun n info hinfo hextra => ?_
    unfold addAlias at hinfo
    dsimp only at hinfo
    split at hinfo
    · exact h n info hinfo hextra
    · rw [Array.getElem?_push] at hinfo
      split at hinfo
      · obtain rfl := Option.some.inj hinfo
        cases hextra
      · exact h n info hinfo hextra

theorem lt_of_extra_symbolInfos (d : Draft) {n : Nat} {info : SymbolInfo}
    (hinfo : d.symbolInfos[n]? = some info) (hextra : info.extra = true) :
    n < d.terminals.size := by
  by_contra hn
  rw [symbolInfos, Array.getElem?_append_right (by simpa using hn), Array.getElem?_map] at hinfo
  obtain ⟨t, -, rfl⟩ := Option.map_eq_some_iff.1 hinfo
  cases hextra

theorem children_productions {fields : List String} {symbols : Array SymbolInfo}
    {aliases : List ((String × Bool) × SymbolId)} (h : ∀ e ∈ aliases, e.2 < symbols.size)
    {p : Production} (hp : p ∈ (d.nonterminals.toList.zipIdx.flatMap fun (n, i) =>
      d.productionsOf fields aliases i n).toArray) {c : Child} (hc : c ∈ p.children) :
    (∀ f, c.field = some f → 0 < f ∧ f ≤ fields.length) ∧
      ∀ s, c.renamed = some s → s < symbols.size := by
  obtain ⟨⟨n, i⟩, -, hp⟩ := List.mem_flatMap.1 (List.mem_toArray.1 hp)
  obtain ⟨a, -, rfl⟩ := List.mem_map.1 (mem_of_mem_distinct hp)
  obtain ⟨part, -, rfl⟩ := List.mem_map.1 hc
  refine ⟨fun f hf => ?_, fun s hs => ?_⟩
  · obtain ⟨name, -, hf⟩ := Option.bind_eq_some_iff.1 hf
    obtain ⟨k, hk, rfl⟩ := Option.map_eq_some_iff.1 hf
    exact ⟨Nat.succ_pos k, List.idxOf?_eq_some_iff.1 hk |>.1⟩
  · obtain ⟨key, -, hs⟩ := Option.bind_eq_some_iff.1 hs
    obtain ⟨l₁, l₂, hl, -⟩ := List.lookup_eq_some_iff.1 hs
    exact h (key, s) (hl ▸ List.mem_append_right l₁ List.mem_cons_self)

theorem ensures_finish (h : d.Indexed) (padding : Option String) {extras : List Nat}
    (hextras : ∀ n ∈ extras, d.Has (.terminal n)) :
    Ensures d (finish g padding extras) fun flat d' => d.Reports d' ∧ Numbers flat d' := by
  -- Nothing but findings is new, so what is in range stays so.
  have recovery {d' : Draft} (reports : d.Reports d') (name : String) :
      Ensures d' (recoveryToken name) fun token d'' =>
        d.Reports d'' ∧ ∀ n ∈ token, n < d.terminals.size := by
    have indexed := reports.gains.grows.indexed h
    obtain ⟨_, rfl⟩ := reports
    exact (ensures_recoveryToken indexed name).imp fun _ _ ⟨reports', hn⟩ =>
      ⟨Reports.trans ⟨_, rfl⟩ reports', hn⟩
  have conflict {d' : Draft} (reports : d.Reports d') (name : String) :
      Ensures d' (conflictSymbol name) fun symbol d'' => d.Reports d'' ∧
        ∀ s ∈ symbol, ∃ i < d.nonterminals.size, s = d.idOf (.nonterminal i) := by
    have indexed := reports.gains.grows.indexed h
    obtain ⟨_, rfl⟩ := reports
    exact (ensures_conflictSymbol indexed name).imp fun _ _ ⟨reports', hs⟩ =>
      ⟨Reports.trans ⟨_, rfl⟩ reports', hs⟩
  have conflicts {d' : Draft} (reports : d.Reports d') (names : List String) :
      Ensures d' (do return ((← names.mapM conflictSymbol).filterMap id).mergeSort)
        fun set d'' => d.Reports d'' ∧
          ∀ s ∈ set, ∃ i < d.nonterminals.size, s = d.idOf (.nonterminal i) := by
    refine (ensures_mapM_each (I := fun d' => d.Reports d')
      (fun name _ _ reports => conflict reports name) reports).bind
      fun symbols _ ⟨reports', hsymbols⟩ => ensures_pure ⟨reports', fun s hs => ?_⟩
    obtain ⟨symbol, hsymbol, hs⟩ := List.mem_filterMap.1 (List.mem_mergeSort.1 hs)
    exact hsymbols symbol hsymbol s hs
  refine (ensures_wordToken h).bind fun word d₁ ⟨reports₁, hword⟩ => ?_
  refine (ensures_mapM_each (I := fun d' => d.Reports d')
    (fun name _ _ reports => recovery reports name) reports₁).bind
    fun tokens d₂ ⟨reports₂, hrecovery⟩ => ?_
  refine (ensures_mapM_each (I := fun d' => d.Reports d')
    (fun names _ _ reports => conflicts reports names) reports₂).bind
    fun sets d₃ ⟨reports₃, hconflicts⟩ => ensures_get_bind (ensures_pure ⟨reports₃, ?_⟩)
  obtain ⟨_, rfl⟩ := reports₃
  refine ⟨rfl, rfl, rfl, rfl, prefix_foldl_addAlias _ (d.symbolInfos, []),
    fun p hp => sound_productions hp, fun i a ha => complete_productions ha,
    fun p hp c hc => children_productions
      (lt_of_mem_addAlias fun _ h => absurd h List.not_mem_nil) hp hc,
    fun n hn => ?_, lt_of_extra_addAlias fun _ _ => lt_of_extra_symbolInfos _, hconflicts, rfl⟩
  rcases List.mem_append.1 hn with hn | hn
  · rcases List.mem_append.1 hn with hn | hn
    · exact (hextras n hn).lt_terminals
    · exact hword n (Option.mem_toList.1 hn)
  · obtain ⟨token, htoken, hn⟩ := List.mem_filterMap.1 hn
    exact hrecovery token htoken n hn

/-! ## The whole of flattening -/

/-- The first terminal of a flat grammar is the end of the text, which is no extra and which no
production is made of, and the start symbol comes right behind the terminals. -/
structure EndApart (g : FlatGrammar) : Prop where
  endOfText : (g.terminals[0]?).map (·.form) = some .endOfText
  size : g.terminals.size = g.terminalCount
  start : g.start = g.terminalCount
  rhs : ∀ p ∈ g.productions, ∀ s ∈ p.rhs, s ≠ endSymbol
  extra : ∀ info, g.symbols[endSymbol]? = some info → info.extra = false

theorem EndApart.terminalCount_pos {g : FlatGrammar} (h : EndApart g) : 0 < g.terminalCount := by
  obtain ⟨_, hterminal, -⟩ := Option.map_eq_some_iff.1 h.endOfText
  exact h.size ▸ (Array.getElem?_eq_some_iff.1 hterminal).1

/-- All that flattening has done: the symbols were declared, the rules expanded, and the symbols of
the draft numbered. -/
structure Flattened (g : Grammar) (levels : Levels) (start : String) (flat : FlatGrammar)
    (base d : Draft) : Prop where
  declared : base.Declared g levels start
  external : ∀ name ∈ g.externalNames, base.Binds name
  reachable : ∀ name ∈ g.rules.names, name ∈ g.reachable → base.Binds name
  expanded : RulesExpanded g base d
  numbers : Numbers flat d

theorem ensures_flatten (hstart : start ∈ g.rules.names) :
    Ensures {} (flatten g levels start) fun flat d =>
      ∃ base, Flattened g levels start flat base d := by
  refine (ensures_declareSymbols hstart).bind fun _ d₀ ⟨declared, external, reachable⟩ => ?_
  refine (ensures_expandRules declared).bind fun _ d₁ expanded => ?_
  refine (ensures_expandExtras (expanded.grows.indexed declared.indexed)).bind
    fun extras d₂ ⟨gains, tokens⟩ => ?_
  refine (ensures_finish (gains.grows.indexed (expanded.grows.indexed declared.indexed)) _
    tokens).imp fun flat d₃ ⟨reports, numbers⟩ => ⟨d₀, declared, external,
    reachable, (expanded.gains gains).gains reports.gains, numbers⟩

namespace Flattened

variable {flat : FlatGrammar} {base : Draft} (h : Flattened g levels start flat base d)
include h

theorem indexed : d.Indexed := h.expanded.grows.indexed h.declared.indexed

theorem names_eq : d.names = base.names := h.expanded.grows.names

/-- What is closed is true of all alternatives. -/
theorem closed {P : Alternative → Prop} (hP : Closed d g.isEven P) {i : Nat} {a : Alternative}
    (ha : a ∈ d.alternativesOf i) : P a := by
  obtain ⟨n, hn, -⟩ := getElem?_of_mem_alternativesOf ha
  have hi := (Array.getElem?_eq_some_iff.1 hn).1
  by_cases hlt : i < base.nonterminals.size
  · obtain ⟨body, before, after, expanded⟩ := h.expanded.rules i hlt
    have heven : body.isEven = false → g.isEven = false := fun hbody =>
      List.all_eq_false.2 ⟨_, Grammar.find?_eq_some_iff.1 expanded.rule, by simp [hbody]⟩
    exact (expanded.expanded.closed d P (expanded.grows.mono fun _ _ h => h.elim)
      (hP.mono heven)).1 a ha
  · exact (h.expanded.helpers d P (.refl d) hP i (Nat.not_lt.1 hlt) hi).2 a ha

/-- Alternatives are made of symbols that have been entered. -/
theorem has {i : Nat} {a : Alternative} (ha : a ∈ d.alternativesOf i) : ∀ s ∈ a.syms, d.Has s := by
  refine h.closed (P := fun a => ∀ s ∈ a.syms, d.Has s) ?_ ha
  exact {
    indexed := h.indexed
    empty := fun s hs => absurd hs List.not_mem_nil
    single := fun s hs s' hs' => List.mem_singleton.1 hs' ▸ hs
    append := fun a b ha hb s hs => by
      rw [Alternative.syms_append] at hs
      exact (List.mem_append.1 hs).elim (ha s) (hb s)
    inField := fun name a ha => by rwa [Alternative.syms_inField]
    aliased := fun name named a ha => by rwa [Alternative.syms_aliased]
    preferred := fun value a ha => ha
    binding := fun _ value associativity a ha => ha }

/-- A name that a terminal was entered under is that of an external token or of a rule that is a
token. -/
theorem of_lookup_terminal {name : String} {n : Nat}
    (hn : d.names.lookup name = some (.terminal n)) : name ∈ g.externalNames ∨
      name ≠ start ∧ ∃ body, g.rules.find? name = some body ∧ body.tokenBody.isSome :=
  h.declared.of_lookup_terminal (h.names_eq ▸ hn)

/-- A name that a nonterminal was entered under is that of its rule. -/
theorem of_lookup_nonterminal {name : String} {i : Nat}
    (hi : d.names.lookup name = some (.nonterminal i)) :
    i < base.nonterminals.size ∧ d.nonterminalName i = name := by
  obtain ⟨l₁, l₂, hl, -⟩ := List.lookup_eq_some_iff.1 hi
  have hmem : (name, Sym.nonterminal i) ∈ base.names :=
    h.names_eq ▸ hl ▸ List.mem_append_right l₁ List.mem_cons_self
  rw [h.declared.indexed.names] at hmem
  simp only [List.mem_append, List.mem_map, Prod.exists, Prod.map_apply, id_eq, Prod.mk.injEq,
    reduceCtorEq, and_false, exists_false, or_false, Sym.nonterminal.injEq] at hmem
  obtain ⟨_, _, hmem, rfl, rfl⟩ := hmem
  obtain ⟨n, hn, hname⟩ := mem_latest.1 hmem
  rw [Array.getElem?_toList] at hn
  obtain ⟨hlt, rfl⟩ := Array.getElem?_eq_some_iff.1 hn
  refine ⟨hlt, ?_⟩
  rw [h.expanded.grows.nonterminalName hlt, Draft.nonterminalName, hn]
  unfold ruleName at hname
  split at hname
  · cases hname
  · exact Option.some.inj hname

/-- Every rule that can be reached has been entered. -/
theorem lookup_isSome (hg : g.Defined) {name : String}
    (hname : name ∈ g.reachable ∨ name ∈ g.externalNames) :
    ∃ s, d.names.lookup name = some s := by
  rw [← Option.isSome_iff_exists, h.names_eq]
  rcases hname with hname | hname
  · exact h.reachable name (hg.mem_names_of_reachable hname) hname
  · exact h.external name hname

/-- The start rule is a nonterminal, unless its name is that of an external token. -/
theorem exists_nonterminal (hstart : g.startRule?.map Prod.fst = some start)
    (hexternal : start ∉ g.externalNames) : 0 < base.nonterminals.size := by
  obtain ⟨e, he, rfl⟩ := Option.map_eq_some_iff.1 hstart
  have hrule : e.1 ∈ g.rules.names := List.mem_map_of_mem (List.mem_of_head? he)
  exact h.declared.pos_of_binds hexternal
    (h.reachable e.1 hrule (Grammar.start_mem_reachable hstart hexternal))

theorem isSymbol_idOf {s : Sym} (hs : d.Has s) : flat.IsSymbol (d.idOf s) := by
  rw [FlatGrammar.IsSymbol, h.numbers.terminalCount, h.numbers.nonterminalCount]
  cases s with
  | terminal n => exact Nat.lt_of_lt_of_le hs.lt_terminals (Nat.le_add_right _ _)
  | nonterminal i => exact Nat.add_lt_add_left hs _

theorem endFirst : d.EndFirst := by
  obtain ⟨t, ht, hend⟩ := Option.map_eq_some_iff.1 h.declared.endFirst
  obtain ⟨t', ht', heading⟩ := h.expanded.grows.heading_terminal ht
  rw [EndFirst, ht', Option.map_some, heading, hend]

/-- No rule refers to the end of the text. -/
theorem idOf_ne_end {s : Sym} (hs : d.Has s) : d.idOf s ≠ endSymbol := by
  obtain ⟨first, hfirst, hend⟩ := Option.map_eq_some_iff.1 h.endFirst
  cases s with
  | terminal n =>
    rintro rfl
    obtain ⟨t, ht, hreferred⟩ := hs
    obtain rfl : first = t := Option.some.inj (hfirst.symm.trans ht)
    simp only [TerminalDraft.heading, Prod.mk.injEq] at hend
    obtain ⟨-, hnamed, -, hterminal⟩ := hend
    simp [referredName, tokenOf, writtenToken, hnamed, hterminal] at hreferred
  | nonterminal i =>
    have := (Array.getElem?_eq_some_iff.1 hfirst).1
    show d.terminals.size + i ≠ 0
    omega

theorem marked : d.Marked := h.expanded.grows.marked h.declared.marked

/-- Terminals are the first symbols. -/
theorem getElem?_symbols {n : Nat} {t : TerminalDraft} (ht : d.terminals[n]? = some t) :
    flat.symbols[n]? = some t.info := by
  obtain ⟨hn, rfl⟩ := Array.getElem?_eq_some_iff.1 ht
  have lt : n < d.symbolInfos.toList.length := by
    simp only [symbolInfos, Array.length_toList, Array.size_append, Array.size_map]
    omega
  rw [← Array.getElem?_toList, List.prefix_iff_getElem?.1 h.numbers.symbols n lt]
  simp [symbolInfos, hn]

theorem endApart : EndApart flat where
  endOfText := by
    obtain ⟨t, ht, hend⟩ := Option.map_eq_some_iff.1 h.endFirst
    rw [h.numbers.terminals, Array.getElem?_map, ht]
    exact congrArg (fun h : String × Bool × SymbolKind × Terminal => some h.2.2.2.form) hend
  size := by rw [h.numbers.terminals, Array.size_map, h.numbers.terminalCount]
  start := h.numbers.start.trans h.numbers.terminalCount.symm
  rhs p hp s hs := by
    obtain ⟨i, -, a, ha, -, hrhs, -⟩ := h.numbers.sound p hp
    rw [hrhs] at hs
    obtain ⟨x, hx, rfl⟩ := List.mem_map.1 hs
    exact h.idOf_ne_end (h.has ha x hx)
  extra info hinfo := by
    obtain ⟨t, ht, -⟩ := Option.map_eq_some_iff.1 h.endFirst
    obtain rfl := Option.some.inj ((h.getElem?_symbols ht).symm.trans hinfo)
    refine Bool.eq_false_iff.2 fun hextra => ?_
    exact h.idOf_ne_end (s := .terminal 0)
      ⟨t, ht, h.marked t (Array.mem_of_getElem? ht) hextra⟩ rfl

theorem isNonterminal_lhs {p : Production} (hp : p ∈ flat.productions) :
    flat.IsNonterminal p.lhs := by
  obtain ⟨i, hi, a, -, hlhs, -⟩ := h.numbers.sound p hp
  rw [hlhs]
  exact ⟨h.numbers.terminalCount ▸ Nat.le_add_right _ _, h.isSymbol_idOf (s := .nonterminal i) hi⟩

theorem isSymbol_of_mem_rhs {p : Production} (hp : p ∈ flat.productions) {s : SymbolId}
    (hs : s ∈ p.rhs) : flat.IsSymbol s := by
  obtain ⟨i, -, a, ha, -, hrhs, -⟩ := h.numbers.sound p hp
  rw [hrhs] at hs
  obtain ⟨x, hx, rfl⟩ := List.mem_map.1 hs
  exact h.isSymbol_idOf (h.has ha x hx)

/-- Where there are nonterminals, all numbers of symbols are those of symbols. -/
theorem inRange_of_pos (hpos : 0 < flat.nonterminalCount) : flat.InRange where
  endSymbol := by
    obtain ⟨t, ht, -⟩ := Option.map_eq_some_iff.1 h.endFirst
    rw [h.numbers.terminalCount]
    exact (Array.getElem?_eq_some_iff.1 ht).1
  start := by
    rw [h.numbers.start, FlatGrammar.IsSymbol, h.numbers.terminalCount]
    omega
  lhs _ hp := h.isNonterminal_lhs hp
  rhs _ hp _ hs := h.isSymbol_of_mem_rhs hp hs

theorem inRange (hstart : g.startRule?.map Prod.fst = some start)
    (hexternal : start ∉ g.externalNames) : flat.InRange :=
  h.inRange_of_pos <| h.numbers.nonterminalCount ▸
    Nat.lt_of_lt_of_le (h.exists_nonterminal hstart hexternal) h.expanded.grows.size_nonterminals

/-- Without nonterminals there are no productions. -/
theorem productions_eq_nil (hnone : flat.nonterminalCount = 0) : flat.productions = #[] := by
  refine Array.eq_empty_iff_forall_not_mem.2 fun p hp => ?_
  obtain ⟨i, hi, -⟩ := h.numbers.sound p hp
  rw [h.numbers.nonterminalCount] at hnone
  omega

/-- What no rule of an even grammar says, no production says. -/
theorem even (heven : g.isEven = true) (hlevels : ∀ name, levels.ofRule name = none) :
    ∀ p ∈ flat.productions, p.precedence = 0 ∧ p.associativity = .none := by
  intro p hp
  obtain ⟨i, hi, a, ha, -, -, hprecedence, hassociativity⟩ := h.numbers.sound p hp
  have alternatives : a.precedence = none ∧ a.associativity = none := by
    refine h.closed (P := fun a => a.precedence = none ∧ a.associativity = none) ?_ ha
    exact {
      indexed := h.indexed
      empty := ⟨rfl, rfl⟩
      single := fun _ _ => ⟨rfl, rfl⟩
      append := fun a b ha hb => by simp [Alternative.append, ha, hb]
      inField := fun name a ha => ha
      aliased := fun name named a ha => by
        unfold Alternative.aliased
        split
        · exact ha
        · exact ha
      preferred := fun value a ha => ha
      -- Only a rule with a precedence binds, and the grammar has none.
      binding := fun hodd => by rw [heven] at hodd; cases hodd }
  have own : d.precedenceOf i = none := by
    by_cases hlt : i < base.nonterminals.size
    · rw [h.expanded.grows.precedenceOf hlt, precedenceOf, getElem?_pos base.nonterminals i hlt]
      obtain ⟨-, -, -, -, hlevel⟩ := h.declared.nonterminal _ (Array.getElem_mem hlt)
      rw [Option.bind_some, hlevel, hlevels, Option.map_none]
    · exact (h.expanded.helpers d (fun _ => True) (.refl d)
        ⟨h.indexed, trivial, fun _ _ => trivial, fun _ _ _ _ => trivial, fun _ _ _ => trivial,
          fun _ _ _ _ => trivial, fun _ _ _ => trivial, fun _ _ _ _ _ => trivial⟩
        i (Nat.not_lt.1 hlt) hi).1
  rw [hprecedence, hassociativity, alternatives.1, alternatives.2, own]
  exact ⟨rfl, rfl⟩

end Flattened

end IncrementalGlr.Flat.Draft

namespace IncrementalGlr

open Flat.Draft

/-- Every grammar with rules is flattened, and what is wrong with it is reported. -/
theorem Grammar.exists_flattened {g : Grammar} {flat : FlatGrammar} {reports : List Diagnostic}
    (h : g.flatten = (some flat, reports)) :
    ∃ start body base d, g.startRule? = some (start, body) ∧
      Flattened g (.ofOrderings g.precedences) start flat base d ∧
      ∀ r ∈ g.undefinedReferences ++ flat.unproductiveRules, r ∈ reports := by
  cases hstart : g.startRule? with
  | none =>
    rw [Grammar.flatten, hstart] at h
    cases h
  | some e =>
    obtain ⟨start, body⟩ := e
    rw [Grammar.flatten, hstart] at h
    obtain ⟨hflat, rfl⟩ := Prod.mk.inj h
    obtain ⟨base, flattened⟩ := @ensures_flatten g (.ofOrderings g.precedences) start
      (List.mem_map_of_mem (List.mem_of_head? hstart))
    obtain rfl := Option.some.inj hflat
    refine ⟨start, body, base, _, rfl, flattened, fun r hr => ?_⟩
    rcases List.mem_append.1 hr with hr | hr
    · exact List.mem_append_left _ (List.mem_append_left _ (List.mem_append_left _
        (List.mem_append_right _ hr)))
    · exact List.mem_append_right _ hr

end IncrementalGlr
