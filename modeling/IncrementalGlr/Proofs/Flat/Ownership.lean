import IncrementalGlr.Proofs.Flat.Expansion

/-!
Helpers are made for rules that are there. Expanding a rule does three things to a draft: it enters
tokens, makes helpers for the rule and sets alternatives. What these keep, it keeps, whatever the rule
(`Keeps.expand`); and so the owner of every nonterminal stays that of a rule (`keeps_owned`).
-/
namespace IncrementalGlr.Flat.Draft

open Drafting

variable {levels : Levels} {d : Draft} {owner : Nat} {I : Draft → Prop}

/-! ## What expanding a rule keeps -/

/-- What entering tokens, making helpers for a rule and setting alternatives keep. -/
structure Keeps (owner : Nat) (I : Draft → Prop) : Prop where
  tokens : ∀ {d d'}, d.GainsTokens d' → I d → I d'
  helper : ∀ {d} suffix as, I d → Ensures d (addHelper owner suffix as) fun _ d' => I d'
  alternatives : ∀ {d} i as, I d → Ensures d (setAlternatives i as) fun _ d' => I d'

namespace Keeps

variable (h : Keeps owner I)
include h

theorem expandToken (body : Rule) (immediate : Bool) (hd : I d) :
    Ensures d (expandToken body immediate owner) fun _ d' => I d' := by
  refine (ensures_inlineToken body immediate owner).bind fun r d' ⟨gains, _⟩ => ?_
  cases r <;> exact ensures_pure (h.tokens gains hd)

theorem precedenceValue (p : Precedence) (hd : I d) :
    Ensures d (precedenceValue levels p owner) fun _ d' => I d' :=
  (ensures_precedenceValue p).imp fun _ _ gains => h.tokens gains hd

theorem extendSequence (before member : List Alternative) (hd : I d) :
    Ensures d (extendSequence owner before member) fun _ d' => I d' := by
  unfold Draft.extendSequence
  split
  · exact (h.helper "seq" member hd).bind fun _ _ hd' => ensures_pure hd'
  · exact ensures_pure hd

theorem nameAlternatives (name : String) (named : Bool) (as : List Alternative) (hd : I d) :
    Ensures d (nameAlternatives owner name named as) fun _ d' => I d' := by
  unfold Draft.nameAlternatives
  split
  · exact (h.helper "alias" as hd).bind fun _ _ hd' => ensures_pure hd'
  · exact ensures_pure hd

end Keeps

mutual

/-- Whatever rule is expanded, it is kept. -/
theorem Keeps.expand (h : Keeps owner I) {d : Draft} (hd : I d) : (rule : Rule) →
    Ensures d (expand levels owner rule) fun _ d' => I d'
  | .blank => hd
  | .string _ | .pattern _ _ | .token _ | .immediateToken _ => by
    simp only [Draft.expand]
    exact h.expandToken _ _ hd
  | .symbol name => by
    rw [Draft.expand]
    refine ensures_get_bind ?_
    split <;> exact ensures_pure hd
  | .seq members => by
    rw [Draft.expand]
    exact h.expandSequence hd _ members
  | .choice members => by
    rw [Draft.expand]
    exact (h.expandChoice hd members).bind fun _ _ hd' => ensures_pure hd'
  | .zeroOrMore content | .oneOrMore content => by
    simp only [Draft.expand]
    refine (h.helper "repeat" [] hd).bind fun k _ hd₁ => (h.expand hd₁ content).bind fun as _ hd₂ => ?_
    exact (h.alternatives k _ hd₂).bind fun _ _ hd₃ => ensures_pure hd₃
  | .field _ content | .precDynamic _ content => by
    simp only [Draft.expand]
    exact (h.expand hd content).bind fun _ _ hd' => ensures_pure hd'
  | .renamed content name named => by
    rw [Draft.expand]
    exact (h.expand hd content).bind fun as _ hd' => h.nameAlternatives name named as hd'
  | .prec value content | .precLeft value content | .precRight value content => by
    simp only [Draft.expand]
    refine (h.precedenceValue value hd).bind fun _ _ hd₁ => ?_
    exact (h.expand hd₁ content).bind fun _ _ hd₂ => ensures_pure hd₂
  | .reserved _ content => by
    rw [Draft.expand]
    exact h.expand hd content

theorem Keeps.expandSequence (h : Keeps owner I) {d : Draft} (hd : I d) (before : List Alternative) :
    (members : List Rule) →
    Ensures d (expandSequence levels owner before members) fun _ d' => I d'
  | [] => hd
  | rule :: rest => by
    rw [Draft.expandSequence]
    refine (h.expand hd rule).bind fun member _ hd₁ => ?_
    exact (h.extendSequence before member hd₁).bind fun as _ hd₂ => h.expandSequence hd₂ as rest

theorem Keeps.expandChoice (h : Keeps owner I) {d : Draft} (hd : I d) : (members : List Rule) →
    Ensures d (expandChoice levels owner members) fun _ d' => I d'
  | [] => hd
  | rule :: rest => by
    rw [Draft.expandChoice]
    refine (h.expand hd rule).bind fun _ _ hd₁ => ?_
    exact (h.expandChoice hd₁ rest).bind fun _ _ hd₂ => ensures_pure hd₂

end

/-! ## Owners -/

/-- The nonterminal is that of a rule, not one that was made for a part of a rule. -/
def IsRule (d : Draft) (i : Nat) : Prop := ∃ n, d.nonterminals[i]? = some n ∧ n.kind = .nonterminal

theorem IsRule.lt {i : Nat} (h : d.IsRule i) : i < d.nonterminals.size :=
  let ⟨_, hn, _⟩ := h
  (Array.getElem?_eq_some_iff.1 hn).1

theorem IsRule.modify {j : Nat} (h : d.IsRule j) (i : Nat) {f : NonterminalDraft → NonterminalDraft}
    (hf : ∀ n, (f n).kind = n.kind) :
    IsRule { d with nonterminals := d.nonterminals.modify i f } j := by
  obtain ⟨n, hn, hkind⟩ := h
  simp only [IsRule, Array.getElem?_modify, hn]
  split
  · exact ⟨f n, rfl, (hf n).trans hkind⟩
  · exact ⟨n, rfl, hkind⟩

theorem IsRule.push {j : Nat} (h : d.IsRule j) (n : NonterminalDraft) :
    IsRule { d with nonterminals := d.nonterminals.push n } j := by
  obtain ⟨m, hm, hkind⟩ := h
  obtain ⟨hj, rfl⟩ := Array.getElem?_eq_some_iff.1 hm
  exact ⟨_, Array.getElem?_push_lt hj, hkind⟩

/-- Every nonterminal was made for one of a rule. -/
def Owned (d : Draft) : Prop := ∀ n ∈ d.nonterminals, d.IsRule n.owner

theorem Owned.modify (h : d.Owned) (i : Nat) {f : NonterminalDraft → NonterminalDraft}
    (howner : ∀ n, (f n).owner = n.owner) (hkind : ∀ n, (f n).kind = n.kind) :
    Owned { d with nonterminals := d.nonterminals.modify i f } := by
  intro n hn
  obtain ⟨j, hj, rfl⟩ := Array.mem_iff_getElem.1 hn
  rw [Array.size_modify] at hj
  rw [Array.getElem_modify]
  split
  · rw [howner]
    exact (h _ (Array.getElem_mem hj)).modify i hkind
  · exact (h _ (Array.getElem_mem hj)).modify i hkind

theorem Owned.push (h : d.Owned) {n : NonterminalDraft}
    (hn : IsRule { d with nonterminals := d.nonterminals.push n } n.owner) :
    Owned { d with nonterminals := d.nonterminals.push n } := by
  intro x hx
  rcases Array.mem_push.1 hx with hx | rfl
  · exact (h x hx).push n
  · exact hn

theorem keeps_owned (owner : Nat) :
    Keeps owner fun d => d.Owned ∧ d.IsRule owner where
  tokens gains h := by
    simp only [Owned, IsRule, gains.nonterminals]
    exact h
  helper {d} suffix as h := by
    obtain ⟨owned, rule⟩ := h
    have counted := owned.modify owner (f := fun n => { n with
      helpers := ((d.nonterminals[owner]?).map (·.helpers)).getD 0 + 1 }) (fun _ => rfl) fun _ => rfl
    have rule' := rule.modify owner (f := fun n => { n with
      helpers := ((d.nonterminals[owner]?).map (·.helpers)).getD 0 + 1 }) fun _ => rfl
    exact ⟨counted.push (rule'.push _), rule'.push _⟩
  alternatives i as h :=
    ⟨h.1.modify i (fun _ => rfl) fun _ => rfl, h.2.modify i fun _ => rfl⟩

end IncrementalGlr.Flat.Draft
