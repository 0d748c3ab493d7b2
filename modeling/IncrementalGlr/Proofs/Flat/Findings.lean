import IncrementalGlr.Proofs.Flat.Fits
import IncrementalGlr.Proofs.Flat.Rightmost
import IncrementalGlr.Proofs.Lr.Kernels

/-!
Findings about the rules of a grammar as a whole. While a grammar is drafted, what is reported is about
single places of it (`Draft.local_flatten`). So a rule is reported as unreachable just if it cannot be
reached, and as unproductive just if one of the nonterminals that were made for it derives no text,
and each rule at most once (`Grammar.judged_flatten`).
-/
namespace IncrementalGlr

namespace Finding

/-- The rule that is said to be unreachable. -/
def unreachable? : Finding → Option String
  | .unreachableRule name => some name
  | _ => none

/-- The rule that is said to be unproductive. -/
def unproductive? : Finding → Option String
  | .unproductiveRule name => some name
  | _ => none

/-- The finding is not one about a rule among all others. -/
def IsLocal (f : Finding) : Prop := f.unreachable? = none ∧ f.unproductive? = none

end Finding

namespace Flat

open Drafting

/-- Whatever has been reported is about single places. -/
def Draft.Local (d : Draft) : Prop := ∀ x ∈ d.diagnostics, x.finding.IsLocal

/-! ## Work that reports on single places -/

namespace Drafting

variable {α β : Type}

/-- Work that reports nothing but what is about single places. -/
def Local (m : Drafting α) : Prop := ∀ d : Draft, d.Local → Ensures d m fun _ d' => d'.Local

namespace Local

theorem pure (a : α) : Local (Pure.pure a) := fun _ h => h

theorem get : Local (MonadState.get : Drafting Draft) := fun _ h => h

theorem bind {m : Drafting α} {f : α → Drafting β} (hm : Local m) (hf : ∀ a, Local (f a)) :
    Local (m >>= f) :=
  fun d h => (hm d h).bind fun a d' h' => hf a d' h'

/-- Work that begins with a look at the draft. -/
theorem look {f : Draft → Drafting β} (hf : ∀ d, Local (f d)) : Local (MonadState.get >>= f) :=
  get.bind hf

theorem change {f : Draft → Draft} (hf : ∀ d, (f d).diagnostics = d.diagnostics) :
    Local (MonadStateOf.modifyGet fun d => (PUnit.unit, f d) : Drafting PUnit) :=
  fun d h => show ∀ x ∈ (f d).diagnostics, _ from (hf d).symm ▸ h

/-- Work that begins with a change. -/
theorem after {f : Draft → Draft} {k : PUnit → Drafting β}
    (hf : ∀ d, (f d).diagnostics = d.diagnostics) (hk : ∀ u, Local (k u)) :
    Local ((MonadStateOf.modifyGet fun d => (PUnit.unit, f d) : Drafting PUnit) >>= k) :=
  (change hf).bind hk

theorem report {finding : Finding} (rule : Option String) (h : finding.IsLocal) :
    Local (Draft.report finding rule) := by
  intro d hd x hx
  rcases Array.mem_push.1 hx with hx | rfl
  · exact hd x hx
  · exact h

theorem forM {l : List α} {f : α → Drafting PUnit} (hf : ∀ a, Local (f a)) : Local (l.forM f) := by
  induction l with
  | nil => exact pure _
  | cons a l ih => exact (hf a).bind fun _ => ih

theorem mapM {l : List α} {f : α → Drafting β} (hf : ∀ a, Local (f a)) : Local (l.mapM f) := by
  induction l with
  | nil => exact pure _
  | cons a l ih =>
    rw [List.mapM_cons]
    exact (hf a).bind fun _ => ih.bind fun _ => pure _

end Local

end Drafting

namespace Draft

variable {g : Grammar} {levels : Levels}

theorem local_addTerminal (t : TerminalDraft) : Drafting.Local (addTerminal t) :=
  .look fun _ => .after (fun _ => rfl) fun _ => .pure _

theorem local_addNonterminal (n : NonterminalDraft) : Drafting.Local (addNonterminal n) :=
  .look fun _ => .after (fun _ => rfl) fun _ => .pure _

theorem local_bindName (name : String) (s : Sym) : Drafting.Local (bindName name s) :=
  .change fun _ => rfl

theorem local_setAlternatives (i : Nat) (as : List Alternative) :
    Drafting.Local (setAlternatives i as) :=
  .change fun _ => rfl

theorem local_addHelper (owner : Nat) (suffix : String) (as : List Alternative) :
    Drafting.Local (addHelper owner suffix as) :=
  .look fun _ => .look fun _ => .after (fun _ => rfl) fun _ => local_addNonterminal _

/-! ## Tokens -/

theorem local_tokenForm (body : Rule) (owner : String) : Drafting.Local (tokenForm body owner) := by
  unfold tokenForm
  split
  · exact .pure _
  · split
    · exact (Local.report _ ⟨rfl, rfl⟩).bind fun _ => .pure _
    · split
      · exact (Local.report _ ⟨rfl, rfl⟩).bind fun _ => .pure _
      · dsimp only
        split
        · exact (Local.report _ ⟨rfl, rfl⟩).bind fun _ => .pure _
        · exact .pure _

theorem local_intern (t : Terminal) (owner : Nat) : Drafting.Local (intern t owner) := by
  have enter (info : SymbolInfo) : Drafting.Local (do
      let n ← addTerminal { info, terminal := t }
      modify fun d => { d with anonymous := (t, n) :: d.anonymous }
      return n) :=
    (local_addTerminal _).bind fun _ => .after (fun _ => rfl) fun _ => .pure _
  refine fun d h => ensures_get_bind ?_
  split
  · exact ensures_pure h
  · split
    · exact enter _ d h
    · exact enter _ { d with regexes := d.regexes + 1 } h

theorem local_inlineToken (body : Rule) (immediate : Bool) (owner : Nat) :
    Drafting.Local (inlineToken body immediate owner) := by
  refine .look fun d => (local_tokenForm body _).bind fun form => ?_
  split
  · exact (Local.report _ ⟨rfl, rfl⟩).bind fun _ => .pure _
  · exact (local_intern _ owner).bind fun _ => .pure _

/-! ## Declaring symbols -/

theorem local_declareExternal (index : Nat) (rule : Rule) :
    Drafting.Local (declareExternal g index rule) := by
  unfold declareExternal
  dsimp only
  split
  · exact (local_addTerminal _).bind fun _ => local_bindName _ _
  · exact (local_addTerminal _).bind fun _ => .change fun _ => rfl
  · exact .report _ ⟨rfl, rfl⟩

theorem local_declareToken (name : String) (body : Rule) (immediate : Bool) :
    Drafting.Local (declareToken g name body immediate) :=
  (local_tokenForm body name).bind fun _ =>
    (local_addTerminal _).bind fun _ => local_bindName _ _

theorem local_declareRule (name : String) : Drafting.Local (declareRule g levels name) :=
  .look fun _ => (local_addNonterminal _).bind fun _ => local_bindName _ _

theorem local_declareSymbols (start : String) :
    Drafting.Local (declareSymbols g levels start) := by
  refine (local_addTerminal _).bind fun _ =>
    (Local.forM fun _ => local_declareExternal _ _).bind fun _ =>
      (Local.forM fun _ => .look fun _ => ?_).bind fun _ => .forM fun _ => .look fun _ => ?_
  · split
    · split
      · exact local_declareToken _ _ _
      · exact .pure _
    · exact .pure _
  · split
    · exact local_declareRule _
    · exact .pure _

/-! ## Expanding rules -/

theorem local_precedenceValue (p : Precedence) (owner : Nat) :
    Drafting.Local (precedenceValue levels p owner) := by
  unfold precedenceValue
  split
  · exact .pure _
  · split
    · exact .pure _
    · exact .look fun _ => (Local.report _ ⟨rfl, rfl⟩).bind fun _ => .pure _

theorem local_expandToken (body : Rule) (immediate : Bool) (owner : Nat) :
    Drafting.Local (expandToken body immediate owner) := by
  refine (local_inlineToken body immediate owner).bind fun r => ?_
  cases r <;> exact .pure _

theorem local_extendSequence (owner : Nat) (before member : List Alternative) :
    Drafting.Local (extendSequence owner before member) := by
  unfold extendSequence
  split
  · exact (local_addHelper owner "seq" member).bind fun _ => .pure _
  · exact .pure _

theorem local_nameAlternatives (owner : Nat) (name : String) (named : Bool)
    (as : List Alternative) : Drafting.Local (nameAlternatives owner name named as) := by
  unfold nameAlternatives
  split
  · exact (local_addHelper owner "alias" as).bind fun _ => .pure _
  · exact .pure _

mutual

theorem local_expand (owner : Nat) : (rule : Rule) → Drafting.Local (expand levels owner rule)
  | .blank => .pure _
  | .string _ | .pattern _ _ | .token _ | .immediateToken _ => by
    simp only [expand]
    exact local_expandToken _ _ _
  | .symbol name => by
    rw [expand]
    refine .look fun d => ?_
    split <;> exact .pure _
  | .seq members => by
    rw [expand]
    exact local_expandSequence owner _ members
  | .choice members => by
    rw [expand]
    exact (local_expandChoice owner members).bind fun _ => .pure _
  | .zeroOrMore content | .oneOrMore content => by
    simp only [expand]
    exact (local_addHelper owner "repeat" []).bind fun _ => (local_expand owner content).bind fun _ =>
      (local_setAlternatives _ _).bind fun _ => .pure _
  | .field _ content | .precDynamic _ content => by
    simp only [expand]
    exact (local_expand owner content).bind fun _ => .pure _
  | .renamed content name named => by
    rw [expand]
    exact (local_expand owner content).bind fun _ => local_nameAlternatives owner name named _
  | .prec value content | .precLeft value content | .precRight value content => by
    simp only [expand]
    exact (local_precedenceValue value owner).bind fun _ =>
      (local_expand owner content).bind fun _ => .pure _
  | .reserved _ content => by
    rw [expand]
    exact local_expand owner content

theorem local_expandSequence (owner : Nat) (before : List Alternative) : (members : List Rule) →
    Drafting.Local (expandSequence levels owner before members)
  | [] => .pure _
  | rule :: rest => by
    rw [expandSequence]
    exact (local_expand owner rule).bind fun _ =>
      (local_extendSequence owner before _).bind fun _ => local_expandSequence owner _ rest

theorem local_expandChoice (owner : Nat) : (members : List Rule) →
    Drafting.Local (expandChoice levels owner members)
  | [] => .pure _
  | rule :: rest => by
    rw [expandChoice]
    exact (local_expand owner rule).bind fun _ => (local_expandChoice owner rest).bind fun _ => .pure _

end

theorem local_expandRules : Drafting.Local (expandRules g levels) := by
  refine .look fun _ => .forM fun i => .look fun _ => ?_
  split
  · exact (local_expand i _).bind fun _ => local_setAlternatives i _
  · exact .pure _

/-! ## Extras -/

theorem local_extraToken (rule : Rule) : Drafting.Local (do
    match rule.tokenBody, (← get).nonterminals.isEmpty with
    | some (body, immediate), false =>
      match ← inlineToken body immediate 0 with
      | some n => return Extra.token n
      | none => return .nothing
    | _, _ =>
      report .unsupportedExtra none
      return .nothing) := by
  refine .look fun _ => ?_
  split
  · refine (local_inlineToken _ _ 0).bind fun r => ?_
    cases r <;> exact .pure _
  · exact (Local.report _ ⟨rfl, rfl⟩).bind fun _ => .pure _

theorem local_expandExtra (rule : Rule) : Drafting.Local (expandExtra rule) := by
  unfold expandExtra
  split
  · dsimp only
    split
    · exact .pure _
    · exact (Local.report _ ⟨rfl, rfl⟩).bind fun _ => .pure _
  · refine .look fun _ => ?_
    split
    · exact .pure _
    · exact (Local.report _ ⟨rfl, rfl⟩).bind fun _ => .pure _
    · exact .pure _
  · dsimp only
    split
    · split
      · exact .pure _
      · exact local_extraToken _
    · exact local_extraToken _

theorem local_expandExtras : Drafting.Local (expandExtras g) :=
  (Local.mapM local_expandExtra).bind fun _ => .after (fun _ => rfl) fun _ => .pure _

/-! ## Final numbers -/

theorem local_wordToken : Drafting.Local (wordToken g) := by
  unfold wordToken
  split
  · exact .pure _
  · refine .look fun _ => ?_
    split
    · exact .pure _
    · exact (Local.report _ ⟨rfl, rfl⟩).bind fun _ => .pure _

theorem local_recoveryToken (name : String) : Drafting.Local (recoveryToken name) := by
  refine .look fun _ => ?_
  split
  · exact .pure _
  · split
    · exact .pure _
    · exact (Local.report _ ⟨rfl, rfl⟩).bind fun _ => .pure _

theorem local_conflictSymbol (name : String) : Drafting.Local (conflictSymbol name) := by
  refine .look fun _ => ?_
  split
  · exact .pure _
  · exact (Local.report _ ⟨rfl, rfl⟩).bind fun _ => .pure _

theorem local_finish (padding : Option String) (extras : List Nat) :
    Drafting.Local (finish g padding extras) :=
  local_wordToken.bind fun _ => (Local.mapM local_recoveryToken).bind fun _ =>
    (Local.mapM fun _ => (Local.mapM local_conflictSymbol).bind fun _ => .pure _).bind fun _ =>
      .look fun _ => .pure _

/-- All that is reported on the way to a flat grammar is about single places of the grammar. -/
theorem local_flatten (start : String) : Drafting.Local (flatten g levels start) :=
  (local_declareSymbols start).bind fun _ => local_expandRules.bind fun _ =>
    local_expandExtras.bind fun _ => local_finish _ _

/-! ## Owners -/

namespace Flattened

variable {start : String} {flat : FlatGrammar} {base d : Draft}
  (h : Flattened g levels start flat base d)
include h

/-- Nonterminals of rules are those that were declared. -/
theorem lookup_of_isRule {i : Nat} (hi : d.IsRule i) :
    d.nonterminalName i ∈ g.rules.names ∧
      d.names.lookup (d.nonterminalName i) = some (.nonterminal i) := by
  obtain ⟨n, hn, hkind⟩ := hi
  have hname : d.nonterminalName i = n.name := by rw [nonterminalName, hn]; rfl
  have hmem : (n.name, Sym.nonterminal i) ∈ base.names := by
    rw [← h.names_eq, h.indexed.names]
    refine List.mem_append_left _ (List.mem_map.2 ⟨(n.name, i), mem_latest.2 ⟨n, ?_, ?_⟩, rfl⟩)
    · rwa [Array.getElem?_toList]
    · rw [ruleName, hkind]
      rfl
  have lt : i < base.nonterminals.size := h.declared.indexed.has_of_mem hmem
  have same := h.expanded.grows.nonterminalName lt
  have declared := Array.getElem?_eq_getElem lt
  have hbase : base.nonterminalName i = base.nonterminals[i].name := by
    rw [nonterminalName, declared]
    rfl
  rw [same, hbase]
  refine ⟨(h.declared.nonterminal _ (Array.getElem_mem lt)).2.2.1, ?_⟩
  rw [h.names_eq]
  exact h.declared.own i _ declared

/-- The owner of a nonterminal is that of a rule, which can be told by its name. -/
theorem exists_owner {s : SymbolId} (hs : flat.IsNonterminal s) :
    flat.nameOf (flat.ownerOf s) ∈ g.rules.names ∧ ∃ i, flat.ownerOf s = flat.terminalCount + i ∧
      d.names.lookup (flat.nameOf (flat.ownerOf s)) = some (.nonterminal i) := by
  obtain ⟨hle, hlt⟩ := hs
  rw [FlatGrammar.IsSymbol, h.numbers.nonterminalCount] at hlt
  obtain ⟨i, rfl⟩ := Nat.exists_eq_add_of_le hle
  have hi : i < d.nonterminals.size := Nat.lt_of_add_lt_add_left hlt
  have rule := h.expanded.owned _ (Array.getElem_mem hi)
  obtain ⟨n, hn, -⟩ := id rule
  have name : flat.nameOf (flat.terminalCount + d.nonterminals[i].owner) =
      d.nonterminalName d.nonterminals[i].owner := by
    rw [FlatGrammar.nameOf, h.getElem?_symbols_nonterminal hn, nonterminalName, hn]
    rfl
  obtain ⟨named, found⟩ := h.lookup_of_isRule rule
  rw [h.ownerOf_nonterminal (getElem?_pos d.nonterminals i hi), name]
  exact ⟨named, _, rfl, found⟩

theorem ownerOf_inj {s t : SymbolId} (hs : flat.IsNonterminal s) (ht : flat.IsNonterminal t)
    (heq : flat.nameOf (flat.ownerOf s) = flat.nameOf (flat.ownerOf t)) :
    flat.ownerOf s = flat.ownerOf t := by
  obtain ⟨-, i, hi, hfound⟩ := h.exists_owner hs
  obtain ⟨-, j, hj, hfound'⟩ := h.exists_owner ht
  rw [heq, hfound'] at hfound
  obtain rfl := Sym.nonterminal.inj (Option.some.inj hfound)
  exact hi.trans hj.symm

end Flattened

end Draft

end Flat

/-! ## What is reported about rules -/

namespace Grammar

variable {g : Grammar} {flat : FlatGrammar} {reports : List Diagnostic}

/-- The reports name just the rules that cannot be reached and those of which some nonterminal derives
no text, each once. -/
structure Judged (g : Grammar) (flat : FlatGrammar) (reports : List Diagnostic) : Prop where
  unreachable : ∀ name, name ∈ reports.filterMap (·.finding.unreachable?) ↔
    name ∈ g.rules.names ∧ name ∉ g.externalNames ∧ ¬ g.Reached name
  unproductive : ∀ name, name ∈ reports.filterMap (·.finding.unproductive?) ↔
    ∃ s, flat.IsNonterminal s ∧ flat.nameOf (flat.ownerOf s) = name ∧
      ¬ ∃ w, (∀ t ∈ w, t < flat.terminalCount) ∧ flat.Derives [s] w
  owners : ∀ s, flat.IsNonterminal s → flat.nameOf (flat.ownerOf s) ∈ g.rules.names
  once : (reports.filterMap (·.finding.unreachable?)).Nodup ∧
    (reports.filterMap (·.finding.unproductive?)).Nodup
  rule : ∀ d ∈ reports, ∀ name, d.finding = .unreachableRule name ∨
    d.finding = .unproductiveRule name → d.rule = some name

/-- What is about single places names no rule. -/
theorem filterMap_local {l : List Diagnostic} (h : ∀ d ∈ l, d.finding.IsLocal) :
    l.filterMap (·.finding.unreachable?) = [] ∧ l.filterMap (·.finding.unproductive?) = [] :=
  ⟨List.filterMap_eq_nil_iff.2 fun d hd => (h d hd).1,
    List.filterMap_eq_nil_iff.2 fun d hd => (h d hd).2⟩

/-- The reports on a grammar: those on single places, those on rules that are not reached and those on
rules that are not productive. -/
theorem exists_reports (h : g.flatten = (some flat, reports)) :
    ∃ before between, reports = before ++ g.unreachableRules ++ between ++ flat.unproductiveRules ∧
      (∀ d ∈ before, d.finding.IsLocal) ∧ ∀ d ∈ between, d.finding.IsLocal := by
  unfold Grammar.flatten at h
  split at h
  · cases h
  · next start body hstart =>
    obtain ⟨hflat, rfl⟩ := Prod.mk.inj h
    obtain rfl := Option.some.inj hflat
    refine ⟨_, _, rfl, fun d hd => ?_, ?_⟩
    · rcases List.mem_append.1 hd with hd | hd
      · unfold Levels.reports at hd
        split at hd
        · exact List.mem_singleton.1 hd ▸ ⟨rfl, rfl⟩
        · cases hd
      · obtain ⟨e, -, rfl⟩ := List.mem_map.1 hd
        exact ⟨rfl, rfl⟩
    · have drafted := @Flat.Draft.local_flatten g (.ofOrderings g.precedences) start {}
        fun x hx => absurd hx (Array.not_mem_empty x)
      exact fun d hd => drafted d (Array.mem_toList_iff.1 hd)

/-- The rules that are reported as unreachable. -/
theorem unreachable_reports (h : g.flatten = (some flat, reports)) :
    reports.filterMap (·.finding.unreachable?) =
      g.rules.names.filter fun n => !g.reachable.contains n && !g.externalNames.contains n := by
  obtain ⟨before, between, rfl, hbefore, hbetween⟩ := exists_reports h
  have here : g.unreachableRules.filterMap (·.finding.unreachable?) =
      g.rules.names.filter fun n => !g.reachable.contains n && !g.externalNames.contains n := by
    simp only [unreachableRules, List.filterMap_map]
    exact List.filterMap_some
  have elsewhere : flat.unproductiveRules.filterMap (·.finding.unreachable?) = [] := by
    refine List.filterMap_eq_nil_iff.2 fun d hd => ?_
    obtain ⟨s, -, rfl⟩ := List.mem_map.1 hd
    rfl
  rw [List.filterMap_append, List.filterMap_append, List.filterMap_append,
    (filterMap_local hbefore).1, (filterMap_local hbetween).1, here, elsewhere, List.nil_append,
    List.append_nil, List.append_nil]

/-- The rules that are reported as unproductive. -/
theorem unproductive_reports (h : g.flatten = (some flat, reports)) :
    reports.filterMap (·.finding.unproductive?) =
      ((((List.range flat.nonterminalCount).map (flat.terminalCount + ·)).filter fun s =>
        !flat.isProductive flat.productive s).map flat.ownerOf).eraseDups.map flat.nameOf := by
  obtain ⟨before, between, rfl, hbefore, hbetween⟩ := exists_reports h
  have here : flat.unproductiveRules.filterMap (·.finding.unproductive?) =
      ((((List.range flat.nonterminalCount).map (flat.terminalCount + ·)).filter fun s =>
        !flat.isProductive flat.productive s).map flat.ownerOf).eraseDups.map flat.nameOf := by
    simp only [FlatGrammar.unproductiveRules, List.filterMap_map]
    exact congrFun List.filterMap_eq_map _
  have elsewhere : g.unreachableRules.filterMap (·.finding.unproductive?) = [] := by
    refine List.filterMap_eq_nil_iff.2 fun d hd => ?_
    obtain ⟨s, -, rfl⟩ := List.mem_map.1 hd
    rfl
  rw [List.filterMap_append, List.filterMap_append, List.filterMap_append,
    (filterMap_local hbefore).2, (filterMap_local hbetween).2, here, elsewhere, List.append_nil,
    List.append_nil, List.nil_append]

/-- What is reported about a rule among all others names the rule. -/
theorem rule_of_reports (h : g.flatten = (some flat, reports)) {d : Diagnostic} (hd : d ∈ reports)
    {name : String} (hname : d.finding = .unreachableRule name ∨
      d.finding = .unproductiveRule name) : d.rule = some name := by
  obtain ⟨before, between, rfl, hbefore, hbetween⟩ := exists_reports h
  have notLocal : ¬ d.finding.IsLocal := by
    rintro ⟨reached, productive⟩
    rcases hname with hname | hname
    · rw [hname] at reached
      cases reached
    · rw [hname] at productive
      cases productive
  simp only [List.mem_append] at hd
  rcases hd with ((hd | hd) | hd) | hd
  · exact absurd (hbefore d hd) notLocal
  · obtain ⟨n, -, rfl⟩ := List.mem_map.1 hd
    rcases hname with hname | hname
    · exact congrArg some (Finding.unreachableRule.inj hname)
    · cases hname
  · exact absurd (hbetween d hd) notLocal
  · obtain ⟨s, -, rfl⟩ := List.mem_map.1 hd
    rcases hname with hname | hname
    · cases hname
    · exact congrArg some (Finding.unproductiveRule.inj hname)

/-- What flattening reports about rules is right, and it is all that there is to report. -/
theorem judged_of_flatten (h : g.flatten = (some flat, reports)) : g.Judged flat reports := by
  obtain ⟨start, body, base, d, -, flattened, -⟩ := exists_flattened h
  have lhs : ∀ p ∈ flat.productions, flat.IsNonterminal p.lhs :=
    fun p hp => flattened.isNonterminal_lhs hp
  have missed {s : SymbolId} : s ∈ ((List.range flat.nonterminalCount).map
      (flat.terminalCount + ·)).filter (fun s => !flat.isProductive flat.productive s) ↔
        flat.IsNonterminal s ∧ ¬ ∃ w, (∀ t ∈ w, t < flat.terminalCount) ∧ flat.Derives [s] w := by
    rw [List.mem_filter, FlatGrammar.mem_nonterminals, Bool.not_eq_true', ← Bool.not_eq_true,
      FlatGrammar.isProductive_iff lhs]
    refine and_congr_right fun _ => not_congr (exists_congr fun w => ?_)
    exact ⟨fun hw => ⟨hw.lt_terminalCount, hw.derives⟩,
      fun ⟨hw, derives⟩ => (FlatGrammar.derives_iff_yields hw).1 derives⟩
  exact {
    unreachable := fun name => by
      rw [unreachable_reports h]
      simp [mem_reachable_iff, and_comm]
    unproductive := fun name => by
      rw [unproductive_reports h]
      simp only [List.mem_map, List.mem_eraseDups]
      constructor
      · rintro ⟨_, ⟨s, hs, rfl⟩, rfl⟩
        obtain ⟨hnonterminal, hnone⟩ := missed.1 hs
        exact ⟨s, hnonterminal, rfl, hnone⟩
      · rintro ⟨s, hnonterminal, rfl, hnone⟩
        exact ⟨_, ⟨s, missed.2 ⟨hnonterminal, hnone⟩, rfl⟩, rfl⟩
    owners := fun s hs => (flattened.exists_owner hs).1
    once := by
      rw [unreachable_reports h, unproductive_reports h]
      refine ⟨g.rules.nodup.filter _, (Lr.nodup_eraseDups _).map_on fun o ho o' ho' heq => ?_⟩
      obtain ⟨s, hs, rfl⟩ := List.mem_map.1 (List.mem_eraseDups.1 ho)
      obtain ⟨t, ht, rfl⟩ := List.mem_map.1 (List.mem_eraseDups.1 ho')
      exact flattened.ownerOf_inj (missed.1 hs).1 (missed.1 ht).1 heq
    rule := fun d hd name hname => rule_of_reports h hd hname }

/-- A rule that nothing refers to, beside one that refers to itself over and over. -/
def idle : Grammar where
  name := "idle"
  rules := .ofList [("s", .choice [.string "a", .symbol "loop"]),
    ("loop", .seq [.symbol "loop", .oneOrMore (.string "b")]), ("dead", .string "c")]

end Grammar

end IncrementalGlr
