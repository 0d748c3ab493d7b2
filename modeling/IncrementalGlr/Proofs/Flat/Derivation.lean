import Mathlib.Logic.Relation
import IncrementalGlr.Flat.Basic

/-!
What a flat grammar derives. `Derives` rewrites nonterminals by their productions, one at a time and
anywhere in a row of symbols. `Yields` reads the same off a derivation tree: every symbol of a row
yields its own part of a text of terminals. Both agree on such texts (`derives_iff_yields`); proofs
about parsers go by induction on the second.
-/
namespace IncrementalGlr.FlatGrammar

/-- The number is that of a terminal or of a nonterminal. -/
def IsSymbol (g : FlatGrammar) (s : Nat) : Prop := s < g.terminalCount + g.nonterminalCount

/-- The number is that of a nonterminal. -/
def IsNonterminal (g : FlatGrammar) (s : Nat) : Prop := g.terminalCount ≤ s ∧ g.IsSymbol s

/-- All numbers of symbols are those of terminals and nonterminals, and productions are made for
nonterminals. -/
structure InRange (g : FlatGrammar) : Prop where
  endSymbol : 0 < g.terminalCount
  start : g.IsSymbol g.start
  lhs : ∀ p ∈ g.productions, g.IsNonterminal p.lhs
  rhs : ∀ p ∈ g.productions, ∀ s ∈ p.rhs, g.IsSymbol s

/-- One nonterminal is replaced by what one of its productions makes of it. -/
def Rewrites (g : FlatGrammar) (u v : List SymbolId) : Prop :=
  ∃ p ∈ g.productions, ∃ before after,
    u = before ++ p.lhs :: after ∧ v = before ++ (p.rhs ++ after)

/-- Any number of replacements, one after another. -/
def Derives (g : FlatGrammar) : List SymbolId → List SymbolId → Prop :=
  Relation.ReflTransGen g.Rewrites

/-- The symbols yield the terminals: a terminal yields itself, and a nonterminal what the right side
of one of its productions yields. -/
inductive Yields (g : FlatGrammar) : List SymbolId → List SymbolId → Prop where
  | nil : Yields g [] []
  | terminal {t : Nat} {rest w : List SymbolId} (ht : t < g.terminalCount)
      (hw : Yields g rest w) : Yields g (t :: rest) (t :: w)
  | rule {p : Production} {rest u w : List SymbolId} (hp : p ∈ g.productions)
      (hu : Yields g p.rhs u) (hw : Yields g rest w) : Yields g (p.lhs :: rest) (u ++ w)

/-- The symbols yield the terminals by derivation trees whose productions have these dynamic
precedences together. -/
inductive Weighs (g : FlatGrammar) : List SymbolId → List SymbolId → Int → Prop where
  | nil : Weighs g [] [] 0
  | terminal {t : Nat} {rest w : List SymbolId} {d : Int} (ht : t < g.terminalCount)
      (hw : Weighs g rest w d) : Weighs g (t :: rest) (t :: w) d
  | rule {p : Production} {rest u w : List SymbolId} {d d' : Int} (hp : p ∈ g.productions)
      (hu : Weighs g p.rhs u d) (hw : Weighs g rest w d') :
      Weighs g (p.lhs :: rest) (u ++ w) (p.dynamicPrecedence + d + d')

variable {g : FlatGrammar}

/-! ## Rewriting in context -/

theorem Rewrites.append_left {u v : List SymbolId} (h : g.Rewrites u v) (a : List SymbolId) :
    g.Rewrites (a ++ u) (a ++ v) := by
  obtain ⟨p, hp, before, after, rfl, rfl⟩ := h
  exact ⟨p, hp, a ++ before, after, by simp, by simp⟩

theorem Rewrites.append_right {u v : List SymbolId} (h : g.Rewrites u v) (a : List SymbolId) :
    g.Rewrites (u ++ a) (v ++ a) := by
  obtain ⟨p, hp, before, after, rfl, rfl⟩ := h
  exact ⟨p, hp, before, after ++ a, by simp, by simp⟩

namespace Derives

theorem append_left {u v : List SymbolId} (h : g.Derives u v) (a : List SymbolId) :
    g.Derives (a ++ u) (a ++ v) := by
  induction h with
  | refl => exact .refl
  | tail _ step ih => exact ih.tail (step.append_left a)

theorem append_right {u v : List SymbolId} (h : g.Derives u v) (a : List SymbolId) :
    g.Derives (u ++ a) (v ++ a) := by
  induction h with
  | refl => exact .refl
  | tail _ step ih => exact ih.tail (step.append_right a)

theorem append {u v u' v' : List SymbolId} (h : g.Derives u v) (h' : g.Derives u' v') :
    g.Derives (u ++ u') (v ++ v') :=
  (h.append_right u').trans (h'.append_left v)

/-- A nonterminal derives the right side of each of its productions. -/
theorem rule {p : Production} (hp : p ∈ g.productions) : g.Derives [p.lhs] p.rhs :=
  Relation.ReflTransGen.single ⟨p, hp, [], [], rfl, by simp⟩

end Derives

/-- What symbols derive are symbols. -/
theorem Derives.isSymbol (hg : g.InRange) {u v : List SymbolId} (h : g.Derives u v)
    (hu : ∀ s ∈ u, g.IsSymbol s) : ∀ s ∈ v, g.IsSymbol s := by
  induction h with
  | refl => exact hu
  | tail _ step ih =>
    obtain ⟨p, hp, before, after, rfl, rfl⟩ := step
    simp only [List.forall_mem_append, List.forall_mem_cons] at ih ⊢
    exact ⟨ih.1, hg.rhs p hp, ih.2.2⟩

/-! ## Yields -/

namespace Yields

theorem lt_terminalCount {s w : List SymbolId} (h : g.Yields s w) :
    ∀ t ∈ w, t < g.terminalCount := by
  induction h with
  | nil => intro t ht; simp at ht
  | terminal ht _ ih =>
    intro t' ht'
    rcases List.mem_cons.1 ht' with rfl | h
    · exact ht
    · exact ih t' h
  | rule _ _ _ ihu ihw =>
    intro t ht
    rcases List.mem_append.1 ht with h | h
    · exact ihu t h
    · exact ihw t h

theorem terminals {w : List SymbolId} (h : ∀ t ∈ w, t < g.terminalCount) : g.Yields w w := by
  induction w with
  | nil => exact .nil
  | cons t w ih =>
    exact .terminal (h t List.mem_cons_self) (ih fun t' ht' => h t' (List.mem_cons_of_mem t ht'))

theorem append {s s' w w' : List SymbolId} (h : g.Yields s w) (h' : g.Yields s' w') :
    g.Yields (s ++ s') (w ++ w') := by
  induction h with
  | nil => exact h'
  | terminal ht _ ih => exact .terminal ht ih
  | @rule p rest u w hp hu _ _ ih =>
    rw [List.append_assoc]
    exact .rule hp hu ih

theorem of_rule {p : Production} {u : List SymbolId} (hp : p ∈ g.productions)
    (hu : g.Yields p.rhs u) : g.Yields [p.lhs] u :=
  List.append_nil u ▸ .rule hp hu .nil

/-- The text of a row of symbols falls into those of its two parts. -/
theorem of_append {s s' w : List SymbolId} (h : g.Yields (s ++ s') w) :
    ∃ v v', w = v ++ v' ∧ g.Yields s v ∧ g.Yields s' v' := by
  generalize hs : s ++ s' = row at h
  induction h generalizing s with
  | nil =>
    obtain ⟨rfl, rfl⟩ := List.append_eq_nil_iff.1 hs
    exact ⟨[], [], rfl, .nil, .nil⟩
  | @terminal t rest w ht hw ih =>
    cases s with
    | nil => exact ⟨[], t :: w, rfl, .nil, by rw [show s' = _ from hs]; exact .terminal ht hw⟩
    | cons x s =>
      obtain ⟨rfl, hrest⟩ := List.cons.inj hs
      obtain ⟨v, v', rfl, hv, hv'⟩ := ih hrest
      exact ⟨x :: v, v', rfl, .terminal ht hv, hv'⟩
  | @rule p rest u w hp hu hw _ ih =>
    cases s with
    | nil => exact ⟨[], u ++ w, rfl, .nil, by rw [show s' = _ from hs]; exact .rule hp hu hw⟩
    | cons x s =>
      obtain ⟨rfl, hrest⟩ := List.cons.inj hs
      obtain ⟨v, v', rfl, hv, hv'⟩ := ih hrest
      exact ⟨u ++ v, v', (List.append_assoc u v v').symm, .rule hp hu hv, hv'⟩

theorem derives {s w : List SymbolId} (h : g.Yields s w) : g.Derives s w := by
  induction h with
  | nil => exact .refl
  | @terminal t _ _ _ _ ih => exact ih.append_left [t]
  | rule hp _ _ ihu ihw => exact Derives.append ((Derives.rule hp).trans ihu) ihw

theorem exists_weighs {s w : List SymbolId} (h : g.Yields s w) : ∃ d, g.Weighs s w d := by
  induction h with
  | nil => exact ⟨0, .nil⟩
  | terminal ht _ ih =>
    obtain ⟨d, hd⟩ := ih
    exact ⟨d, .terminal ht hd⟩
  | rule hp _ _ ihu ihw =>
    obtain ⟨d, hd⟩ := ihu
    obtain ⟨d', hd'⟩ := ihw
    exact ⟨_, .rule hp hd hd'⟩

end Yields

theorem Weighs.yields {s w : List SymbolId} {d : Int} (h : g.Weighs s w d) : g.Yields s w := by
  induction h with
  | nil => exact .nil
  | terminal ht _ ih => exact .terminal ht ih
  | rule hp _ _ ihu ihw => exact .rule hp ihu ihw

theorem Rewrites.yields {u v w : List SymbolId} (h : g.Rewrites u v) (hv : g.Yields v w) :
    g.Yields u w := by
  obtain ⟨p, hp, before, after, rfl, rfl⟩ := h
  obtain ⟨w₁, rest, rfl, h₁, hrest⟩ := hv.of_append
  obtain ⟨w₂, w₃, rfl, h₂, h₃⟩ := hrest.of_append
  exact h₁.append (.rule hp h₂ h₃)

theorem Derives.yields {u v w : List SymbolId} (h : g.Derives u v) (hv : g.Yields v w) :
    g.Yields u w := by
  induction h using Relation.ReflTransGen.head_induction_on with
  | refl => exact hv
  | head step _ ih => exact step.yields ih

/-- A text of terminals is derived just if it is the text of a derivation tree. -/
theorem derives_iff_yields {s w : List SymbolId} (hw : ∀ t ∈ w, t < g.terminalCount) :
    g.Derives s w ↔ g.Yields s w :=
  ⟨fun h => h.yields (.terminals hw), Yields.derives⟩

/-! ## Productions by number -/

theorem mem_productionsOf {s : SymbolId} {i : ProductionId} :
    i ∈ g.productionsOf s ↔ ∃ p, g.productions[i]? = some p ∧ p.lhs = s := by
  simp only [productionsOf, List.mem_filter, List.mem_range, Option.any_eq_true, decide_eq_true_eq]
  constructor
  · exact fun h => h.2
  · rintro ⟨p, hp, hs⟩
    exact ⟨(Array.getElem?_eq_some_iff.1 hp).1, p, hp, hs⟩

theorem mem_productions_iff {p : Production} :
    p ∈ g.productions ↔ ∃ i : ProductionId, g.productions[i]? = some p :=
  Array.mem_iff_getElem?

@[simp] theorem rhs_augmented : g.rhs g.productions.size = [g.start] := by
  simp [rhs]

theorem rhs_of_getElem? {i : ProductionId} {p : Production} (h : g.productions[i]? = some p) :
    g.rhs i = p.rhs := by
  have hi := (Array.getElem?_eq_some_iff.1 h).1
  simp [rhs, h, Nat.ne_of_lt hi]

theorem InRange.isSymbol_of_mem_rhs (hg : g.InRange) {i : ProductionId} {s : SymbolId}
    (hs : s ∈ g.rhs i) : g.IsSymbol s := by
  unfold FlatGrammar.rhs at hs
  split at hs
  · rw [List.mem_singleton.1 hs]
    exact hg.start
  · split at hs
    · next p hp => exact hg.rhs p (mem_productions_iff.2 ⟨i, hp⟩) s hs
    · simp at hs

end IncrementalGlr.FlatGrammar
