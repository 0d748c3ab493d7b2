import IncrementalGlr.Proofs.Tree.Ambiguity
import IncrementalGlr.Proofs.Tree.Flattening

/-!
Looking for a range. From a node the search goes down to the first child that covers the range, as long as
there is one. The children of a node stand one behind another, so no two of them cover the same text, and
what is found is as small as any node that covers the range (`Tree.Made.finds`). An empty range is the
exception: it can lie where one child ends and the next begins. Both cover it then, and the search goes
down in the first of them, however small what begins there is.
-/
namespace IncrementalGlr.Tree

variable {t : Tree} {start stop id c m : Nat} {parts : List Visible}

/-- What is found for a range from a node down covers it and has no child that does. Every node that
covers the range is found or stands above what is found, and so is no smaller; or the range is empty, and
the one node ends and the other begins there. -/
structure Finds (t : Tree) (id : NodeId) (start stop : Nat) (m : NodeId) : Prop where
  below : t.Below id m
  covers : t.covers start stop m = true
  last : ∀ c ∈ t.children m, t.covers start stop c = false
  least : ∀ c, t.Below id c → t.covers start stop c = true →
    t.Below c m ∧ (t.info m).stop - (t.info m).start ≤ (t.info c).stop - (t.info c).start ∨
      start = stop ∧ (t.info m).stop = start ∧ (t.info c).start = start

theorem covers_iff :
    t.covers start stop id = true ↔ (t.info id).start ≤ start ∧ stop ≤ (t.info id).stop := by
  simp [covers]

/-- The children of a node have greater numbers. -/
theorem Shows.lt_of_mem_children {info : NodeInfo} {v : Visible} (h : t.Shows info v)
    (hc : c ∈ t.children id) : id < c := by
  obtain ⟨k, hk⟩ := List.getElem?_of_mem hc
  obtain ⟨w, x, -, hplace, hx⟩ := h.exists_of_getElem? hk
  exact (Visible.le_of_places hplace hx).1

theorem children_of_size_le (h : t.nodes.size ≤ id) : t.children id = [] := by
  rw [children, node?, Array.getElem?_eq_none h]

namespace Flattening

variable (h : t.Flattening parts)
include h

/-- What stands below a node lies inside it. -/
theorem inside_of_below (hbelow : t.Below id c) :
    (t.info id).start ≤ (t.info c).start ∧ (t.info c).stop ≤ (t.info id).stop := by
  induction hbelow with
  | refl => exact ⟨Nat.le_refl _, Nat.le_refl _⟩
  | @tail b c _ hc ih =>
    have := h.inside b c hc
    omega

theorem covers_of_below (hbelow : t.Below id c) (hc : t.covers start stop c = true) :
    t.covers start stop id = true := by
  have := h.inside_of_below hbelow
  rw [covers_iff] at hc ⊢
  omega

/-- Of two children that cover a range the first ends where the other begins, and the range lies there. -/
theorem meet_of_find {x y : Nat} (hx : (t.children id).find? (t.covers start stop) = some x)
    (hy : y ∈ t.children id) (hcovers : t.covers start stop y = true) (hne : y ≠ x)
    (hrange : start ≤ stop) : start = stop ∧ (t.info x).stop = start ∧ (t.info y).start = start := by
  obtain ⟨hfirst, before, after, hchildren, hbefore⟩ := List.find?_eq_some_iff_append.1 hx
  have behind : y ∈ after := by
    rw [hchildren, List.mem_append, List.mem_cons] at hy
    rcases hy with hy | rfl | hy
    · exact absurd hcovers (by simpa using hbefore y hy)
    · exact absurd rfl hne
    · exact hy
  have ordered := h.ordered id
  rw [hchildren, List.pairwise_append, List.pairwise_cons] at ordered
  have := ordered.2.1.1 y behind
  rw [covers_iff] at hfirst hcovers
  omega

/-- The search ends at what covers the range, and all that covers it otherwise is above that, or meets it
where the range lies. -/
theorem of_narrow (hchildren : ∀ id c : Nat, c ∈ t.children id → id < c) (hrange : start ≤ stop)
    {depth : Nat} (hdepth : t.nodes.size ≤ id + depth) (hid : t.covers start stop id = true) :
    t.Below id (t.narrow start stop depth id) ∧
      t.covers start stop (t.narrow start stop depth id) = true ∧
      (∀ c ∈ t.children (t.narrow start stop depth id), t.covers start stop c = false) ∧
      ∀ c, t.Below id c → t.covers start stop c = true → t.Below c (t.narrow start stop depth id) ∨
        start = stop ∧ (t.info (t.narrow start stop depth id)).stop = start ∧
          (t.info c).start = start := by
  -- By induction on how far the search may go: a child has a greater number than its parent.
  induction depth generalizing id with
  | zero =>
    have childless : t.children id = [] := children_of_size_le hdepth
    refine ⟨.refl, hid, by rw [narrow, childless]; nofun, fun c hbelow _ => .inl ?_⟩
    rcases hbelow.cases_head with rfl | ⟨y, hy, -⟩
    · exact .refl
    · exact absurd hy (childless ▸ List.not_mem_nil)
  | succ depth ih =>
    rw [narrow]
    split
    · next x hx =>
      have hmem := List.mem_of_find?_eq_some hx
      have hlt := hchildren id x hmem
      obtain ⟨below, covers, last, above⟩ := ih (by omega) (List.find?_some hx)
      refine ⟨.head hmem below, covers, last, fun c hbelow hc => ?_⟩
      rcases hbelow.cases_head with rfl | ⟨y, hy, hbelow⟩
      · exact .inl (.head hmem below)
      by_cases hyx : y = x
      · exact above c (hyx ▸ hbelow) hc
      -- The search went down in another child than the one above this node.
      · obtain ⟨hempty, hstop, hstart⟩ :=
          h.meet_of_find hx hy (h.covers_of_below hbelow hc) hyx hrange
        have inside := h.inside_of_below below
        have inside' := h.inside_of_below hbelow
        rw [covers_iff] at covers hc
        exact .inr ⟨hempty, by omega, by omega⟩
    · next hnone =>
      have none : ∀ c ∈ t.children id, t.covers start stop c = false := fun c hc =>
        Bool.eq_false_iff.2 (List.find?_eq_none.1 hnone c hc)
      refine ⟨.refl, hid, none, fun c hbelow hc => .inl ?_⟩
      rcases hbelow.cases_head with rfl | ⟨y, hy, hbelow⟩
      · exact .refl
      · exact absurd (h.covers_of_below hbelow hc) (by rw [none y hy]; exact Bool.false_ne_true)

end Flattening

/-- In the tree of a parse nothing is found for a range exactly if the node does not cover it, and what is
found is as small as any node below that does, unless the range is empty and lies between two nodes. -/
theorem Made.finds (h : t.Made) (id : NodeId) (hrange : start ≤ stop) :
    (t.descendantForRange id start stop = none ↔ t.covers start stop id = false) ∧
      ∀ m, t.descendantForRange id start stop = some m → t.Finds id start stop m := by
  have flattening := h.flattening
  unfold descendantForRange
  cases hid : t.covers start stop id with
  | false => exact ⟨⟨fun _ => rfl, fun _ => rfl⟩, nofun⟩
  | true =>
    refine ⟨⟨nofun, nofun⟩, fun m hm => ?_⟩
    obtain rfl := Option.some.inj hm
    obtain ⟨below, covers, last, above⟩ := flattening.of_narrow
      (fun _ _ => h.fits.shows.lt_of_mem_children) hrange (Nat.le_add_left _ _) hid
    refine ⟨below, covers, last, fun c hbelow hc => ?_⟩
    refine (above c hbelow hc).imp_left fun habove => ⟨habove, ?_⟩
    have := flattening.inside_of_below habove
    omega

end IncrementalGlr.Tree

namespace IncrementalGlr.Twofold

/-- The letter covers the text, and is found for it. -/
theorem finds_letter : ∃ tree, (parser.parseUnless (fun _ => false) "a").result = .ok tree ∧
    tree.descendantForRange 0 0 1 = some 2 ∧ tree.Finds 0 0 1 2 := by
  have found : (parser.parseUnless (fun _ => false) "a").result.toOption.map
      (·.descendantForRange 0 0 1) = some (some 2) := by
    cbv
  obtain ⟨tree, h, found⟩ := ParseOutcome.exists_tree found
  exact ⟨tree, h, found, (Tree.Made.finds (.parse h) 0 (Nat.zero_le 1)).2 2 found⟩

end IncrementalGlr.Twofold
