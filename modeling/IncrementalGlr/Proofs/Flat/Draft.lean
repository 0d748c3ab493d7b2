import IncrementalGlr.Flat.OfGrammar
import IncrementalGlr.Proofs.Flat.RuleLanguage

/-!
What drafting does to a draft. Work is described by what comes of it and the draft that it leaves
(`Drafting.Ensures`), with one rule for each way to put work together. A draft only grows: symbols
are entered at the end and keep what they were entered for, tokens once known stay known, and
alternatives change only where they are set (`Draft.Grows`). All the while the names and the tokens
that rules can refer to can be read off the symbols (`Draft.Indexed`).
-/
namespace IncrementalGlr

/-! ## Tables of places -/

section Latest

variable {α β : Type} {key : α → Option β} {xs : List α} {x : α}

theorem latest_concat :
    latest key (xs ++ [x]) = ((key x).map (·, xs.length)).toList ++ latest key xs := by
  cases h : key x <;> simp [latest, List.zipIdx_append, h]

theorem latest_map {γ : Type} (f : γ → α) (ys : List γ) :
    latest key (ys.map f) = latest (key ∘ f) ys := by
  rw [latest, latest, List.zipIdx_map, List.filterMap_map]
  rfl

theorem mem_latest {k : β} {i : Nat} :
    (k, i) ∈ latest key xs ↔ ∃ x, xs[i]? = some x ∧ key x = some k := by
  simp only [latest, List.mem_reverse, List.mem_filterMap, Option.map_eq_some_iff, Prod.mk.injEq]
  constructor
  · rintro ⟨⟨x, j⟩, hmem, k', hk, rfl, rfl⟩
    exact ⟨x, List.mem_zipIdx_iff_getElem?.1 hmem, hk⟩
  · rintro ⟨x, hx, hk⟩
    exact ⟨(x, i), List.mem_zipIdx_iff_getElem?.2 hx, k, hk, rfl, rfl⟩

/-- Only what decides the keys counts. -/
theorem latest_congr {γ : Type} {heading : α → γ} {ys : List α}
    (h : xs.map heading = ys.map heading) (keyOf : γ → Option β)
    (hkey : key = keyOf ∘ heading) : latest key xs = latest key ys := by
  rw [hkey, ← latest_map, ← latest_map, h]

end Latest

namespace Flat

/-! ## Work on drafts -/

namespace Drafting

variable {α β : Type} {d : Draft} {m : Drafting α} {Q Q' : α → Draft → Prop} {R : β → Draft → Prop}

/-- What comes of the work on a draft, and the draft afterwards, are as described. -/
def Ensures (d : Draft) (m : Drafting α) (Q : α → Draft → Prop) : Prop := Q (m.run d).1 (m.run d).2

theorem ensures_pure {a : α} (h : Q a d) : Ensures d (pure a) Q := h

theorem Ensures.bind {f : α → Drafting β} (hm : Ensures d m Q)
    (hf : ∀ a d', Q a d' → Ensures d' (f a) R) : Ensures d (m >>= f) R :=
  hf _ _ hm

theorem Ensures.imp (hm : Ensures d m Q) (h : ∀ a d', Q a d' → Q' a d') : Ensures d m Q' := h _ _ hm

theorem Ensures.and (hm : Ensures d m Q) (hm' : Ensures d m Q') :
    Ensures d m fun a d' => Q a d' ∧ Q' a d' :=
  ⟨hm, hm'⟩

theorem ensures_get_bind {f : Draft → Drafting β} (h : Ensures d (f d) R) :
    Ensures d (get >>= f) R :=
  h

theorem ensures_modify {f : Draft → Draft} {R : PUnit → Draft → Prop} (h : R ⟨⟩ (f d)) :
    Ensures d (modify f) R :=
  h

/-- What every piece of work keeps, all of it keeps; and what each of them brings about holds in the
end if it is kept as well. -/
theorem ensures_forM {I : Draft → Prop} {R : α → Draft → Prop} {l : List α} {f : α → Drafting PUnit}
    (hf : ∀ a ∈ l, ∀ d, I d →
      Ensures d (f a) fun _ d' => I d' ∧ R a d' ∧ ∀ b, R b d → R b d') (hd : I d) :
    Ensures d (l.forM f) fun _ d' => I d' ∧ (∀ a ∈ l, R a d') ∧ ∀ b, R b d → R b d' := by
  induction l generalizing d with
  | nil => exact ⟨hd, fun _ h => absurd h List.not_mem_nil, fun _ h => h⟩
  | cons a l ih =>
    refine (hf a List.mem_cons_self d hd).bind fun _ d' ⟨hI, ha, kept⟩ => ?_
    refine (ih (fun b hb => hf b (List.mem_cons_of_mem a hb)) hI).imp
      fun _ d'' ⟨hI', all, kept'⟩ => ⟨hI', fun b hb => ?_, fun b hb => kept' b (kept b hb)⟩
    rcases List.mem_cons.1 hb with rfl | hb
    · exact kept' b ha
    · exact all b hb

/-- What holds of each result holds of all of them in the end if it is kept. -/
theorem ensures_mapM_forall {I : Draft → Prop} {R : β → Draft → Prop} {l : List α}
    {f : α → Drafting β} (hf : ∀ a ∈ l, ∀ d, I d →
      Ensures d (f a) fun b d' => I d' ∧ R b d' ∧ ∀ b, R b d → R b d') (hd : I d) :
    Ensures d (l.mapM f) fun bs d' => I d' ∧ (∀ b ∈ bs, R b d') ∧ ∀ b, R b d → R b d' := by
  induction l generalizing d with
  | nil => exact ⟨hd, fun _ h => absurd h List.not_mem_nil, fun _ h => h⟩
  | cons a l ih =>
    rw [List.mapM_cons]
    refine (hf a List.mem_cons_self d hd).bind fun b d' ⟨hI, hb, kept⟩ => ?_
    refine (ih (fun a ha => hf a (List.mem_cons_of_mem _ ha)) hI).bind
      fun bs d'' ⟨hI', all, kept'⟩ => ensures_pure ⟨hI', ?_, fun b hb => kept' b (kept b hb)⟩
    exact List.forall_mem_cons.2 ⟨kept' b hb, all⟩

/-- What holds of each result, whatever the draft, holds of all of them. -/
theorem ensures_mapM_each {I : Draft → Prop} {R : β → Prop} {l : List α} {f : α → Drafting β}
    (hf : ∀ a ∈ l, ∀ d, I d → Ensures d (f a) fun b d' => I d' ∧ R b) (hd : I d) :
    Ensures d (l.mapM f) fun bs d' => I d' ∧ ∀ b ∈ bs, R b :=
  (ensures_mapM_forall (R := fun b _ => R b) (fun a ha d hd => (hf a ha d hd).imp
    fun _ _ ⟨h, hb⟩ => ⟨h, hb, fun _ h => h⟩) hd).imp fun _ _ ⟨h, all, _⟩ => ⟨h, all⟩

end Drafting

/-! ## Drafts that grow -/

/-- What a terminal was entered for. -/
def TerminalDraft.heading (t : TerminalDraft) : String × Bool × SymbolKind × Terminal :=
  (t.info.name, t.info.named, t.info.kind, t.terminal)

/-- What a nonterminal was entered for. -/
def NonterminalDraft.heading (n : NonterminalDraft) : String × SymbolKind × Option Int :=
  (n.name, n.kind, n.precedence)

namespace Draft

open Drafting FlatGrammar

/-- The alternatives of a nonterminal so far. -/
def alternativesOf (d : Draft) (i : Nat) : List Alternative :=
  ((d.nonterminals[i]?).map (·.alternatives)).getD []

/-- The precedence of alternatives of a nonterminal that have none of their own. -/
def precedenceOf (d : Draft) (i : Nat) : Option Int := (d.nonterminals[i]?).bind (·.precedence)

/-- The name of a nonterminal that rules can refer to. -/
def ruleName (n : NonterminalDraft) : Option String :=
  if n.kind = .auxiliary then none else some n.name

/-- The token that a terminal stands for where rules write it out. -/
def tokenOf (t : TerminalDraft) : Option Terminal := writtenToken t.info t.terminal

/-- The symbol has been entered, a terminal so that rules can refer to it. -/
def Has (d : Draft) : Sym → Prop
  | .terminal n => ∃ t, d.terminals[n]? = some t ∧
    ((referredName t.info).isSome = true ∨ (tokenOf t).isSome = true)
  | .nonterminal i => i < d.nonterminals.size

theorem Has.lt_terminals {d : Draft} {n : Nat} (h : d.Has (.terminal n)) :
    n < d.terminals.size :=
  have ⟨_, ht, _⟩ := h
  (Array.getElem?_eq_some_iff.1 ht).1

/-- Only terminals that rules can refer to are extras. -/
def Marked (d : Draft) : Prop := ∀ t ∈ d.terminals, t.info.extra = true →
  (referredName t.info).isSome = true ∨ (tokenOf t).isSome = true

/-- External tokens have numbers below a count. -/
def Numbered (count : Nat) (d : Draft) : Prop :=
  ∀ t ∈ d.terminals, ∀ i, t.terminal.form = .external i → i < count

/-- What rules can refer to is what the symbols were entered for. -/
structure Indexed (d : Draft) : Prop where
  names : d.names =
    (latest ruleName d.nonterminals.toList).map (Prod.map id Sym.nonterminal) ++
      (latest (fun t => referredName t.info) d.terminals.toList).map (Prod.map id Sym.terminal)
  anonymous : d.anonymous = latest tokenOf d.terminals.toList

/-- Nothing is taken back; the alternatives of the nonterminals that `keep` tells stay as they
are. -/
structure Grows (keep : Nat → Prop) (d d' : Draft) : Prop where
  names : d'.names = d.names
  anonymous : ∀ t n, d.anonymous.lookup t = some n → d'.anonymous.lookup t = some n
  terminals :
    d.terminals.toList.map TerminalDraft.heading <+: d'.terminals.toList.map TerminalDraft.heading
  nonterminals : d.nonterminals.toList.map NonterminalDraft.heading <+:
    d'.nonterminals.toList.map NonterminalDraft.heading
  alternatives : ∀ i < d.nonterminals.size, keep i → d'.alternativesOf i = d.alternativesOf i
  indexed : d.Indexed → d'.Indexed
  marked : d.Marked → d'.Marked
  numbered : ∀ count, d.Numbered count → d'.Numbered count

variable {d d' d'' : Draft} {keep keep' : Nat → Prop}

/-- What the symbols are entered for decides what rules can refer to. -/
theorem Indexed.of_headings (h : d.Indexed) (names : d'.names = d.names)
    (anonymous : d'.anonymous = d.anonymous)
    (terminals : d'.terminals.toList.map TerminalDraft.heading =
      d.terminals.toList.map TerminalDraft.heading)
    (nonterminals : d'.nonterminals.toList.map NonterminalDraft.heading =
      d.nonterminals.toList.map NonterminalDraft.heading) : d'.Indexed where
  names := by
    have referred : latest (fun t => referredName t.info) d'.terminals.toList =
        latest (fun t => referredName t.info) d.terminals.toList :=
      latest_congr terminals (fun (name, named, kind, _) =>
        referredName { name, kind, named, visible := true }) rfl
    have rules : latest ruleName d'.nonterminals.toList = latest ruleName d.nonterminals.toList :=
      latest_congr nonterminals (fun (name, kind, _) =>
        if kind = .auxiliary then none else some name) rfl
    rw [names, h.names, referred, rules]
  anonymous := by
    have written : latest tokenOf d'.terminals.toList = latest tokenOf d.terminals.toList :=
      latest_congr terminals (fun (name, named, kind, t) =>
        writtenToken { name, kind, named, visible := true } t) rfl
    rw [anonymous, h.anonymous, written]

theorem Indexed.has_of_mem (h : d.Indexed) {name : String} {s : Sym}
    (hmem : (name, s) ∈ d.names) : d.Has s := by
  rw [h.names, List.mem_append, List.mem_map, List.mem_map] at hmem
  rcases hmem with ⟨⟨k, i⟩, hi, heq⟩ | ⟨⟨k, n⟩, hn, heq⟩
  · obtain ⟨rfl, rfl⟩ := Prod.mk.inj heq
    obtain ⟨x, hx, -⟩ := mem_latest.1 hi
    exact (Array.getElem?_eq_some_iff.1 (Array.getElem?_toList ▸ hx)).1
  · obtain ⟨rfl, rfl⟩ := Prod.mk.inj heq
    obtain ⟨x, hx, hname⟩ := mem_latest.1 hn
    exact ⟨x, Array.getElem?_toList ▸ hx, .inl (by rw [hname]; rfl)⟩

theorem Indexed.has_of_lookup (h : d.Indexed) {name : String} {s : Sym}
    (hs : d.names.lookup name = some s) : d.Has s := by
  obtain ⟨l₁, l₂, hl, -⟩ := List.lookup_eq_some_iff.1 hs
  exact h.has_of_mem (hl ▸ List.mem_append_right l₁ List.mem_cons_self)

theorem Indexed.has_of_anonymous (h : d.Indexed) {t : Terminal} {n : Nat}
    (hn : d.anonymous.lookup t = some n) : d.Has (.terminal n) := by
  obtain ⟨l₁, l₂, hl, -⟩ := List.lookup_eq_some_iff.1 hn
  have hmem : (t, n) ∈ d.anonymous := hl ▸ List.mem_append_right l₁ List.mem_cons_self
  rw [h.anonymous] at hmem
  obtain ⟨x, hx, htoken⟩ := mem_latest.1 hmem
  exact ⟨x, Array.getElem?_toList ▸ hx, .inr (by rw [htoken]; rfl)⟩

namespace Grows

theorem refl (d : Draft) : d.Grows keep d where
  names := rfl
  anonymous _ _ h := h
  terminals := List.prefix_rfl
  nonterminals := List.prefix_rfl
  alternatives _ _ _ := rfl
  indexed h := h
  marked h := h
  numbered _ h := h

theorem size_nonterminals (h : d.Grows keep d') : d.nonterminals.size ≤ d'.nonterminals.size := by
  simpa using h.nonterminals.length_le

theorem trans (h : d.Grows keep d') (h' : d'.Grows keep d'') : d.Grows keep d'' where
  names := h'.names.trans h.names
  anonymous t n hn := h'.anonymous t n (h.anonymous t n hn)
  terminals := h.terminals.trans h'.terminals
  nonterminals := h.nonterminals.trans h'.nonterminals
  alternatives i hi hk :=
    (h'.alternatives i (Nat.lt_of_lt_of_le hi h.size_nonterminals) hk).trans (h.alternatives i hi hk)
  indexed hd := h'.indexed (h.indexed hd)
  marked hd := h'.marked (h.marked hd)
  numbered count hd := h'.numbered count (h.numbered count hd)

theorem mono (h : d.Grows keep d') (hk : ∀ i < d.nonterminals.size, keep' i → keep i) :
    d.Grows keep' d' :=
  { h with alternatives := fun i hi hki => h.alternatives i hi (hk i hi hki) }

/-- Only marks, counts and findings differ. -/
theorem of_headings (names : d'.names = d.names) (anonymous : d'.anonymous = d.anonymous)
    (terminals : d'.terminals.toList.map TerminalDraft.heading =
      d.terminals.toList.map TerminalDraft.heading)
    (nonterminals : d'.nonterminals.toList.map NonterminalDraft.heading =
      d.nonterminals.toList.map NonterminalDraft.heading)
    (marked : d.Marked → d'.Marked) (alternatives : ∀ i < d.nonterminals.size, keep i →
      d'.alternativesOf i = d.alternativesOf i) : d.Grows keep d' where
  names := names
  anonymous _ _ h := anonymous ▸ h
  terminals := terminals ▸ List.prefix_rfl
  nonterminals := nonterminals ▸ List.prefix_rfl
  alternatives := alternatives
  indexed h := h.of_headings names anonymous terminals nonterminals
  marked := marked
  numbered count h t ht i hi := by
    have hmem : t.heading ∈ d.terminals.toList.map TerminalDraft.heading :=
      terminals ▸ List.mem_map_of_mem (Array.mem_toList_iff.2 ht)
    obtain ⟨t', ht', heading⟩ := List.mem_map.1 hmem
    simp only [TerminalDraft.heading, Prod.mk.injEq] at heading
    obtain ⟨-, -, -, hterminal⟩ := heading
    exact h t' (Array.mem_toList_iff.1 ht') i (hterminal ▸ hi)

/-- A nonterminal keeps what it was entered for. -/
theorem heading (h : d.Grows keep d') {i : Nat} {n : NonterminalDraft}
    (hn : d.nonterminals[i]? = some n) :
    ∃ n', d'.nonterminals[i]? = some n' ∧ n'.heading = n.heading := by
  obtain ⟨hi, rfl⟩ := Array.getElem?_eq_some_iff.1 hn
  have same := List.prefix_iff_getElem?.1 h.nonterminals i (by simpa using hi)
  rw [List.getElem?_map, Array.getElem?_toList] at same
  obtain ⟨n', hn', heading⟩ := Option.map_eq_some_iff.1 same
  exact ⟨n', hn', by simpa using heading⟩

theorem heading_terminal (h : d.Grows keep d') {i : Nat} {t : TerminalDraft}
    (ht : d.terminals[i]? = some t) :
    ∃ t', d'.terminals[i]? = some t' ∧ t'.heading = t.heading := by
  obtain ⟨hi, rfl⟩ := Array.getElem?_eq_some_iff.1 ht
  have same := List.prefix_iff_getElem?.1 h.terminals i (by simpa using hi)
  rw [List.getElem?_map, Array.getElem?_toList] at same
  obtain ⟨t', ht', heading⟩ := Option.map_eq_some_iff.1 same
  exact ⟨t', ht', by simpa using heading⟩

theorem has (h : d.Grows keep d') {s : Sym} (hs : d.Has s) : d'.Has s := by
  cases s with
  | terminal n =>
    obtain ⟨t, ht, hreferred⟩ := hs
    obtain ⟨t', ht', heading⟩ := h.heading_terminal ht
    simp only [TerminalDraft.heading, Prod.mk.injEq] at heading
    obtain ⟨hname, hnamed, hkind, hterminal⟩ := heading
    refine ⟨t', ht', ?_⟩
    rwa [referredName, tokenOf, writtenToken, hname, hnamed, hkind, hterminal]
  | nonterminal i => exact Nat.lt_of_lt_of_le hs h.size_nonterminals

theorem precedenceOf (h : d.Grows keep d') {i : Nat} (hi : i < d.nonterminals.size) :
    d'.precedenceOf i = d.precedenceOf i := by
  obtain ⟨n', hn', heading⟩ := h.heading (Array.getElem?_eq_getElem hi)
  rw [Draft.precedenceOf, Draft.precedenceOf, hn', Array.getElem?_eq_getElem hi]
  exact congrArg (fun h : String × SymbolKind × Option Int => h.2.2) heading

end Grows

/-- Nothing but tokens and findings is new. -/
structure GainsTokens (d d' : Draft) : Prop where
  grows : d.Grows (fun _ => True) d'
  nonterminals : d'.nonterminals = d.nonterminals

theorem GainsTokens.refl (d : Draft) : d.GainsTokens d := ⟨.refl d, rfl⟩

theorem GainsTokens.trans (h : d.GainsTokens d') (h' : d'.GainsTokens d'') : d.GainsTokens d'' :=
  ⟨h.grows.trans h'.grows, h'.nonterminals.trans h.nonterminals⟩

/-- Nothing but findings is new. -/
def Reports (d d' : Draft) : Prop := ∃ diagnostics, d' = { d with diagnostics }

theorem Reports.refl (d : Draft) : d.Reports d := ⟨d.diagnostics, rfl⟩

theorem Reports.gains (h : d.Reports d') : d.GainsTokens d' := by
  obtain ⟨diagnostics, rfl⟩ := h
  exact ⟨.of_headings rfl rfl rfl rfl id fun _ _ _ => rfl, rfl⟩

/-! ## Entering symbols -/

theorem map_toList_modify {α β : Type} (heading : α → β) (f : α → α) (xs : Array α) (i : Nat)
    (hf : ∀ x, heading (f x) = heading x) :
    (xs.modify i f).toList.map heading = xs.toList.map heading := by
  refine List.ext_getElem? fun j => ?_
  simp only [List.getElem?_map, Array.getElem?_toList, Array.getElem?_modify]
  split
  · simp [Function.comp_def, hf]
  · rfl

theorem ensures_report (finding : Finding) (rule : Option String) :
    Ensures d (report finding rule) fun _ d' => d.Reports d' :=
  ensures_modify ⟨_, rfl⟩

theorem Marked.push (h : d.Marked) {t : TerminalDraft} (ht : t.info.extra = false) :
    ∀ x ∈ d.terminals.push t, x.info.extra = true →
      (referredName x.info).isSome = true ∨ (tokenOf x).isSome = true := by
  intro x hx hextra
  rcases Array.mem_push.1 hx with hx | rfl
  · exact h x hx hextra
  · rw [ht] at hextra
    cases hextra

theorem Numbered.push {count : Nat} (h : d.Numbered count) {t : TerminalDraft}
    (ht : ∀ i, t.terminal.form = .external i → i < count) :
    ∀ x ∈ d.terminals.push t, ∀ i, x.terminal.form = .external i → i < count := by
  intro x hx
  rcases Array.mem_push.1 hx with hx | rfl
  · exact h x hx
  · exact ht

/-- A nonterminal that rules cannot refer to is entered. -/
theorem grows_push (n : NonterminalDraft) (hn : n.kind = .auxiliary) :
    d.Grows keep { d with nonterminals := d.nonterminals.push n } where
  names := rfl
  anonymous _ _ h := h
  terminals := List.prefix_rfl
  nonterminals := by
    rw [Array.toList_push, List.map_append]
    exact List.prefix_append _ _
  alternatives i hi _ := by
    rw [alternativesOf, alternativesOf, Array.getElem?_push_lt hi, Array.getElem?_eq_getElem hi]
  indexed h := by
    refine ⟨h.names.trans ?_, h.anonymous⟩
    rw [Array.toList_push, latest_concat, ruleName, if_pos hn]
    rfl
  marked h := h
  numbered _ h := h

/-- Alternatives are set. -/
theorem ensures_setAlternatives (i : Nat) (alternatives : List Alternative) :
    Ensures d (setAlternatives i alternatives) fun _ d' => d.Grows (· ≠ i) d' ∧
      d'.nonterminals.size = d.nonterminals.size ∧
      (i < d.nonterminals.size → d'.alternativesOf i = alternatives) ∧
      ∀ j, d'.precedenceOf j = d.precedenceOf j := by
  refine ensures_modify ⟨.of_headings rfl rfl rfl (map_toList_modify _ _ _ _ fun _ => rfl) id
    fun j _ hj => ?_, Array.size_modify, fun hi => ?_, fun j => ?_⟩
  · simp [alternativesOf, Array.getElem?_modify, Ne.symm hj]
  · rw [alternativesOf, Array.getElem?_modify, if_pos rfl, Array.getElem?_eq_getElem hi]
    rfl
  · rw [precedenceOf, precedenceOf, Array.getElem?_modify]
    split
    · cases d.nonterminals[j]? <;> rfl
    · rfl

/-- A helper comes behind all nonterminals. -/
theorem ensures_addHelper (owner : Nat) (suffix : String) (alternatives : List Alternative) :
    Ensures d (addHelper owner suffix alternatives) fun i d' => i = d.nonterminals.size ∧
      d.Grows keep d' ∧ d'.nonterminals.size = d.nonterminals.size + 1 ∧
      d'.alternativesOf i = alternatives ∧ d'.precedenceOf i = none := by
  let counted : Draft := { d with nonterminals := d.nonterminals.modify owner fun n =>
    { n with helpers := ((d.nonterminals[owner]?).map (·.helpers)).getD 0 + 1 } }
  have grows : d.Grows keep counted := by
    refine .of_headings rfl rfl rfl (map_toList_modify _ _ _ _ fun _ => rfl) id fun i _ _ => ?_
    rw [alternativesOf, alternativesOf, Array.getElem?_modify]
    split
    · cases d.nonterminals[i]? <;> rfl
    · rfl
  have size : counted.nonterminals.size = d.nonterminals.size := Array.size_modify
  refine ⟨size, grows.trans (grows_push _ rfl), ?_, ?_, ?_⟩
  · exact (Array.size_push _).trans (congrArg (· + 1) size)
  · show (((counted.nonterminals.push _)[counted.nonterminals.size]?).map _).getD [] = _
    rw [Array.getElem?_push_size]
    rfl
  · show ((counted.nonterminals.push _)[counted.nonterminals.size]?).bind _ = _
    rw [Array.getElem?_push_size]
    rfl

/-! ## Tokens -/

/-- The form of a token depends on its body alone. -/
theorem ensures_tokenForm (body : Rule) (name : String) :
    Ensures d (tokenForm body name) fun form d' => form = body.tokenForm ∧ d.Reports d' := by
  unfold tokenForm
  cases htext : body.literalText with
  | some text => exact ensures_pure ⟨by rw [Rule.tokenForm, htext], .refl d⟩
  | none =>
    have form : body.tokenForm = .regex (body.toRegex.toOption.getD "") := by
      rw [Rule.tokenForm, htext]
    cases hregex : body.toRegex with
    | error name =>
      rw [hregex] at form
      exact (ensures_report _ _).bind fun _ _ reports => ensures_pure ⟨form.symm, reports⟩
    | ok regex =>
      rw [hregex] at form
      dsimp only
      split
      · exact (ensures_report _ _).bind fun _ _ reports => ensures_pure ⟨form.symm, reports⟩
      · split
        · exact (ensures_report _ _).bind fun _ _ reports => ensures_pure ⟨form.symm, reports⟩
        · exact ensures_pure ⟨form.symm, .refl d⟩

/-- A terminal without a name is entered for a token that was not known. -/
theorem grows_pushTerminal {t : Terminal} {info : SymbolInfo} (regexes : Nat)
    (hnew : d.anonymous.lookup t = none) (hnamed : info.named = false)
    (hextra : info.extra = false) (htoken : writtenToken info t = some t)
    (hform : ∀ i, t.form ≠ .external i) :
    d.Grows (fun _ => True) { d with
      regexes
      terminals := d.terminals.push { info, terminal := t }
      anonymous := (t, d.terminals.size) :: d.anonymous } where
  names := rfl
  anonymous t' n hn := by
    rw [List.lookup_cons]
    split
    · next h => rw [eq_of_beq h, hnew] at hn; cases hn
    · exact hn
  terminals := by
    rw [Array.toList_push, List.map_append]
    exact List.prefix_append _ _
  nonterminals := List.prefix_rfl
  alternatives _ _ _ := rfl
  indexed h := by
    refine ⟨h.names.trans ?_, ?_⟩
    · rw [Array.toList_push, latest_concat, referredName, hnamed]
      rfl
    · rw [Array.toList_push, latest_concat, tokenOf, htoken, ← h.anonymous]
      simp
  marked h := h.push hextra
  numbered _ h := h.push fun i hi => absurd hi (hform i)

/-- A token of text or of a regular expression is known once it has been asked for. -/
theorem ensures_intern (owner : Nat) {t : Terminal}
    (ht : (∃ text, t.form = .literal text) ∨ ∃ regex, t.form = .regex regex) :
    Ensures d (intern t owner) fun n d' => d.GainsTokens d' ∧ d'.anonymous.lookup t = some n := by
  refine ensures_get_bind ?_
  split
  · next n hn => exact ensures_pure ⟨.refl d, hn⟩
  · next hnew =>
    rcases ht with ⟨text, htext⟩ | ⟨regex, hregex⟩
    · rw [htext]
      refine ⟨⟨grows_pushTerminal d.regexes hnew rfl rfl ?_ (by simp [htext]), rfl⟩,
        List.lookup_cons_self⟩
      rw [writtenToken, htext]
      rfl
    · rw [hregex]
      refine ⟨⟨grows_pushTerminal (d.regexes + 1) hnew rfl rfl ?_ (by simp [hregex]), rfl⟩,
        List.lookup_cons_self⟩
      rw [writtenToken, hregex]
      rfl

theorem form_eq_literal_or_regex (body : Rule) :
    (∃ text, body.tokenForm = .literal text) ∨ ∃ regex, body.tokenForm = .regex regex := by
  unfold Rule.tokenForm
  split
  · exact .inl ⟨_, rfl⟩
  · exact .inr ⟨_, rfl⟩

/-- A token written in a rule is known afterwards, unless it has no text. -/
theorem ensures_inlineToken (body : Rule) (immediate : Bool) (owner : Nat) :
    Ensures d (inlineToken body immediate owner) fun r d' => d.GainsTokens d' ∧
      if body.tokenForm = .literal "" then r = none
      else ∃ n, r = some n ∧ d'.anonymous.lookup { form := body.tokenForm, immediate } = some n := by
  refine ensures_get_bind ((ensures_tokenForm body _).bind fun form d' ⟨hform, reports⟩ => ?_)
  subst hform
  split
  · exact (ensures_report _ _).bind fun _ _ reports' =>
      ensures_pure ⟨reports.gains.trans reports'.gains, rfl⟩
  · exact (ensures_intern owner (form_eq_literal_or_regex body)).bind fun n _ ⟨gains, hn⟩ =>
      ensures_pure ⟨reports.gains.trans gains, n, rfl, hn⟩

end Draft

end Flat

end IncrementalGlr
