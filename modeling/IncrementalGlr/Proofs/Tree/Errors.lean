import IncrementalGlr.Proofs.Parse.Genuine
import IncrementalGlr.Proofs.Table.Lookup
import IncrementalGlr.Proofs.Tree.Navigation

/-!
Errors in trees. Every error is shown, under its own name: what is shown of a subtree has the same
errors as the subtree itself, in the same order (`Place.filter_visible`), and no node but that of an
error has the kind of errors (`Place.Plain`). The infos of a node and of all below it, in order, are
those of the parts that are shown (`Tree.Shows.map_info`).
-/
namespace IncrementalGlr

open Visible Subtree

namespace Visible

/-- The subtrees of several parts and of all below them, in order. -/
def subtreesOf (vs : List Visible) : List Subtree := (preorderOf vs).map fun v => v.place.subtree

theorem subtreesOf_append (a b : List Visible) :
    subtreesOf (a ++ b) = subtreesOf a ++ subtreesOf b := by
  rw [subtreesOf, preorderOf_append, List.map_append]
  rfl

theorem subtreesOf_node (p : Place) (children : List Visible) :
    subtreesOf [.node p children] = p.subtree :: subtreesOf children := by
  simp [subtreesOf, preorderOf, preorder, place]

end Visible

namespace Place

variable {t : ParseTable}

/-- A symbol under which a subtree is shown instead of its own is a symbol of the table, and an error
has none. -/
def Plain (t : ParseTable) (p : Place) : Prop :=
  ∀ s ∈ p.renamed, s < t.symbolCount ∧ p.subtree.isError = false

theorem plain_of_mem_among {inherited : Option FieldId} {offset : Nat} {slots : List Child}
    (hslots : ∀ c ∈ slots, ∀ s ∈ c.renamed, s < t.symbolCount) {ts : List Subtree} {p : Place}
    (hp : p ∈ among inherited offset slots ts) : p.Plain t := by
  induction ts generalizing offset slots with
  | nil => cases hp
  | cons c rest ih =>
    rw [among] at hp
    dsimp only at hp
    split at hp
    · rcases List.mem_cons.1 hp with rfl | hp
      · intro s hs
        cases hs
      · exact ih hslots hp
    · rcases List.mem_cons.1 hp with rfl | hp
      · intro s hs
        dsimp only at hs
        split at hs
        · cases hs
        · next herror =>
          obtain ⟨slot, hslot, hrenamed⟩ := Option.bind_eq_some_iff.1 hs
          exact ⟨hslots slot (List.mem_of_head? hslot) s hrenamed, by simpa using herror⟩
      · exact ih (fun c hc => hslots c (List.mem_of_mem_tail hc)) hp

theorem plain_of_mem_children {p c : Place} {inherited : Option FieldId}
    (hc : c ∈ p.children t inherited) : c.Plain t := by
  refine plain_of_mem_among (fun slot hslot s hs => ?_) hc
  rw [slots] at hslot
  cases hproduction : p.subtree.info.production.bind t.production? with
  | none =>
    rw [hproduction] at hslot
    cases hslot
  | some production =>
    rw [hproduction] at hslot
    obtain ⟨id, -, hid⟩ := Option.bind_eq_some_iff.1 hproduction
    exact ((ParseTable.lt_of_production hid).2 slot hslot).2 s hs

/-- What every place hands on to those of its children holds of all that is shown of a place. -/
theorem forall_visible {Q : Place → Prop}
    (hand : ∀ p inherited, Q p → ∀ c ∈ p.children t inherited, Q c) {p : Place} (hp : Q p)
    {v : Visible} (h : v ∈ p.visible t) : Q v.place := by
  induction hn : p.subtree.count using Nat.strongRecOn generalizing p with
  | _ n ih =>
    rw [visible_eq] at h
    split at h
    · rw [List.mem_singleton.1 h]
      exact hp
    · obtain ⟨c, hc, hv⟩ := List.mem_flatMap.1 h
      exact ih _ (hn ▸ count_lt_of_mem_children hc) (hand p _ hp c hc) hv rfl

section Filter

variable {pred : Subtree → Bool}

theorem filter_flatMap_visible {ps : List Place}
    (h : ∀ p ∈ ps, (subtreesOf (p.visible t)).filter pred = p.subtree.parts.filter pred) :
    (subtreesOf (ps.flatMap (visible t))).filter pred =
      (partsOf (ps.map Place.subtree)).filter pred := by
  induction ps with
  | nil => rfl
  | cons p rest ih =>
    obtain ⟨hp, hrest⟩ := List.forall_mem_cons.1 h
    rw [List.flatMap_cons, subtreesOf_append, List.filter_append, hp, ih hrest, List.map_cons,
      partsOf, List.filter_append]

theorem filter_shownBelow_of_children {p : Place} {inherited : Option FieldId}
    (h : ∀ c ∈ p.children t inherited,
      (subtreesOf (c.visible t)).filter pred = c.subtree.parts.filter pred) :
    (subtreesOf (p.shownBelow t inherited)).filter pred =
      (partsOf p.subtree.children).filter pred := by
  have children := filter_flatMap_visible h
  rwa [Place.children, map_subtree_among] at children

/-- What is shown of a subtree has the errors that are in it, in the same order. By induction on the
number of subtrees in it. -/
theorem filter_visible {p : Place}
    (hpred : ∀ x ∈ p.subtree.parts, pred x = true → x.isError = true) :
    (subtreesOf (p.visible t)).filter pred = p.subtree.parts.filter pred := by
  induction hn : p.subtree.count using Nat.strongRecOn generalizing p with
  | _ n ih =>
    rw [parts_eq] at hpred ⊢
    obtain ⟨itself, hbelow⟩ := List.forall_mem_cons.1 hpred
    have below (inherited : Option FieldId) : (subtreesOf (p.shownBelow t inherited)).filter pred =
        (partsOf p.subtree.children).filter pred :=
      filter_shownBelow_of_children fun c hc => ih _ (hn ▸ count_lt_of_mem_children hc)
        (fun x hx => hbelow x (mem_partsOf.2 ⟨_, subtree_mem_children hc, hx⟩)) rfl
    rw [visible_eq]
    split
    · rw [subtreesOf_node, List.filter_cons, List.filter_cons, below]
    · next hhidden =>
      have hnot : ¬ pred p.subtree = true := fun h => hhidden (by simp [isShown, itself h])
      rw [List.filter_cons_of_neg hnot, below]

theorem filter_shownBelow {p : Place}
    (hpred : ∀ x ∈ partsOf p.subtree.children, pred x = true → x.isError = true)
    (inherited : Option FieldId) : (subtreesOf (p.shownBelow t inherited)).filter pred =
      (partsOf p.subtree.children).filter pred :=
  filter_shownBelow_of_children fun _ hc => filter_visible fun x hx =>
    hpred x (mem_partsOf.2 ⟨_, subtree_mem_children hc, hx⟩)

end Filter

end Place

namespace Visible

variable {t : ParseTable}

/-- What every place hands on to those of its children holds of all parts below one whose children
have it. -/
theorem At.of_handed {Q : Place → Prop}
    (hand : ∀ p inherited, Q p → ∀ c ∈ p.children t inherited, Q c) {r q : Nat} {v w : Visible}
    (h : At r v q w) (hv : v.children = v.place.shownBelow t none)
    (hbelow : ∀ c ∈ v.place.children t none, Q c) :
    (∀ c ∈ w.place.children t none, Q c) ∧ (q ≠ r → Q w.place) := by
  induction h with
  | root => exact ⟨hbelow, fun hq => absurd rfl hq⟩
  | child h _ hx ih =>
    have hmem := List.mem_of_getElem? hx
    rw [(h.children_eq hv).1] at hmem
    obtain ⟨p, hp, hmem⟩ := List.mem_flatMap.1 hmem
    have here := Place.forall_visible hand (ih.1 p hp) hmem
    exact ⟨hand _ _ here, fun _ => here⟩

/-- A part that is shown of a tree is the root, or it stands for something below the root. -/
theorem root_or_below_of_at {green : Subtree} {q : Nat} {w : Visible}
    (h : At 0 (Tree.shown t green) q w) : (q = 0 ∧ w = Tree.shown t green) ∨
      (q ≠ 0 ∧ w.place.Plain t ∧ w.place.subtree ∈ partsOf green.children) := by
  let Q (p : Place) : Prop := p.Plain t ∧ p.subtree ∈ partsOf green.children
  have below : q ≠ 0 → Q w.place := by
    refine (h.of_handed (fun p inherited hp c hc => ?_) rfl fun c hc => ?_).2
    · refine ⟨Place.plain_of_mem_children hc, mem_partsOf_trans ?_ _ hp.2⟩
      rw [parts_eq]
      exact List.mem_cons_of_mem _
        (mem_partsOf.2 ⟨_, Place.subtree_mem_children hc, mem_parts_self _⟩)
    · exact ⟨Place.plain_of_mem_children hc,
        mem_partsOf.2 ⟨_, Place.subtree_mem_children hc, mem_parts_self _⟩⟩
  by_cases hq : q = 0
  · subst hq
    exact .inl ⟨rfl, (Option.some.inj h.getElem?).symm⟩
  · exact .inr ⟨hq, below hq⟩

/-- A part has below it, with the numbers from the next one on, those that its children lead to. -/
theorem at_of_getElem?_preorderOf {u w : Visible} {k : Nat} (r : Nat)
    (h : (preorderOf u.children)[k]? = some w) : At r u (r + 1 + k) w := by
  obtain ⟨hlt, -⟩ := List.getElem?_eq_some_iff.1 h
  have hsize : u.size = (preorderOf u.children).length + 1 := u.size_eq
  obtain ⟨x, hx⟩ := Visible.exists_at r u (r + 1 + k) (by omega) (by omega)
  have found := hx.getElem?
  rw [show r + 1 + k - r = k + 1 by omega] at found
  obtain ⟨place, children⟩ := u
  obtain rfl : x = w := Option.some.inj (found.symm.trans h)
  exact hx

end Visible

namespace Tree.Shows

variable {t : Tree} {info : NodeInfo} {v u : Visible} {r : Nat} (h : t.Shows info v)
include h

/-- The infos of all nodes below a node, in order, are those of the parts below it. -/
theorem map_info (hu : At 0 v r u) : (List.range' (r + 1) (sizes u.children)).map t.info =
    (preorderOf u.children).map fun x => x.place.nodeInfo t.table := by
  refine List.ext_getElem? fun k => ?_
  rw [List.getElem?_map, List.getElem?_map]
  cases hw : (preorderOf u.children)[k]? with
  | none =>
    have hlength : (List.range' (r + 1) (sizes u.children)).length ≤ k := by
      rw [List.length_range']
      exact List.getElem?_eq_none_iff.1 hw
    rw [List.getElem?_eq_none hlength]
    rfl
  | some w =>
    have hlt : k < sizes u.children := (List.getElem?_eq_some_iff.1 hw).1
    have hat := hu.trans (at_of_getElem?_preorderOf r hw)
    rw [List.getElem?_range' hlt, Option.map_some, Option.map_some, Nat.one_mul,
      h.info_of_at hat (by omega)]

end Tree.Shows

end IncrementalGlr
