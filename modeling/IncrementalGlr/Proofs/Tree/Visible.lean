import IncrementalGlr.Proofs.Parse.Subtree
import IncrementalGlr.Tree.OfSubtree

/-!
What is shown of a tree, as a tree of its own. A subtree that is shown has below it what is shown next
below it, and a subtree that is not shown stands for that itself (`Place.visible`). Numbers are given
to the parts in the order of the text, a part before those below it: `Visible.At` says which part has
which number, and `Visible.Stands` that rows with these numbers describe the parts.
-/
namespace IncrementalGlr

/-- A subtree that is shown at its place, and what is shown next below it. -/
inductive Visible where
  | node (place : Place) (children : List Visible)

namespace Place

variable {t : ParseTable} {p c : Place} {inherited : Option FieldId}

theorem count_le_countOf {x : Subtree} {xs : List Subtree} (h : x ∈ xs) :
    x.count ≤ Subtree.countOf xs := by
  induction xs with
  | nil => cases h
  | cons y rest ih =>
    rw [Subtree.countOf]
    rcases List.mem_cons.1 h with rfl | h
    · exact Nat.le_add_right _ _
    · exact Nat.le_trans (ih h) (Nat.le_add_left _ _)

/-- The place of a child is that of a child of the subtree. -/
theorem subtree_mem_children (h : c ∈ p.children t inherited) :
    c.subtree ∈ p.subtree.children := by
  have hmap := map_subtree_among inherited p.start (slots t p.subtree.info.production)
    p.subtree.children
  exact hmap ▸ List.mem_map_of_mem h

theorem count_lt_of_mem_children (h : c ∈ p.children t inherited) :
    c.subtree.count < p.subtree.count := by
  rw [p.subtree.count_eq]
  exact Nat.lt_succ_of_le (count_le_countOf (subtree_mem_children h))

/-- What is shown of a subtree: it is shown itself, or what is shown next below it stands for it. -/
def visible (t : ParseTable) (p : Place) : List Visible :=
  if p.isShown t then
    [.node p ((p.children t none).attach.flatMap fun c => visible t c.1)]
  else (p.children t p.field).attach.flatMap fun c => visible t c.1
termination_by p.subtree.count
decreasing_by all_goals exact count_lt_of_mem_children c.2

/-- What is shown next below a subtree that has a field to hand on. -/
def shownBelow (t : ParseTable) (p : Place) (inherited : Option FieldId) : List Visible :=
  (p.children t inherited).flatMap (visible t)

theorem shownBelow_of_childless (h : p.subtree.children = []) : p.shownBelow t inherited = [] := by
  rw [shownBelow, children, h]
  rfl

theorem visible_eq (t : ParseTable) (p : Place) : p.visible t =
    if p.isShown t then [.node p (p.shownBelow t none)] else p.shownBelow t p.field := by
  rw [visible, List.flatMap_subtype (fun _ _ => rfl), List.flatMap_subtype (fun _ _ => rfl),
    List.unattach_attach, List.unattach_attach]
  rfl

end Place

namespace Visible

def place : Visible → Place
  | node place _ => place

def children : Visible → List Visible
  | node _ children => children

mutual

/-- A part and all below it, in the order of the text, a part before those below it. -/
def preorder : Visible → List Visible
  | node place children => node place children :: preorderOf children

/-- Several parts and all below them. -/
def preorderOf : List Visible → List Visible
  | [] => []
  | v :: rest => preorder v ++ preorderOf rest

end

/-- The number of parts, those below it included. -/
def size (v : Visible) : Nat := v.preorder.length

/-- The number of several parts, those below them included. -/
def sizes (vs : List Visible) : Nat := (preorderOf vs).length

theorem size_node (place : Place) (children : List Visible) :
    size (node place children) = sizes children + 1 := rfl

theorem size_eq (v : Visible) : v.size = sizes v.children + 1 := by
  cases v
  rfl

theorem sizes_cons (v : Visible) (rest : List Visible) :
    sizes (v :: rest) = v.size + sizes rest := by
  rw [sizes, preorderOf, List.length_append]
  rfl

theorem preorderOf_append (a b : List Visible) :
    preorderOf (a ++ b) = preorderOf a ++ preorderOf b := by
  induction a with
  | nil => rfl
  | cons v a ih => rw [List.cons_append, preorderOf, preorderOf, ih, List.append_assoc]

theorem sizes_append (a b : List Visible) : sizes (a ++ b) = sizes a + sizes b := by
  rw [sizes, preorderOf_append, List.length_append]
  rfl

/-! ## Numbers -/

/-- The numbers of several parts, the first of which is given. -/
def places (id : Nat) : List Visible → List Nat
  | [] => []
  | v :: rest => id :: places (id + v.size) rest

theorem length_places (id : Nat) (vs : List Visible) : (places id vs).length = vs.length := by
  induction vs generalizing id with
  | nil => rfl
  | cons v rest ih => rw [places, List.length_cons, ih, List.length_cons]

theorem places_append (id : Nat) (a b : List Visible) :
    places id (a ++ b) = places id a ++ places (id + sizes a) b := by
  induction a generalizing id with
  | nil => rfl
  | cons v a ih => rw [List.cons_append, places, places, ih, sizes_cons, Nat.add_assoc]; rfl

/-- A part has its number when those before it have theirs. -/
theorem exists_of_places {id k c : Nat} {vs : List Visible} {x : Visible}
    (hc : (places id vs)[k]? = some c) (hx : vs[k]? = some x) : ∃ before after,
      vs = before ++ x :: after ∧ before.length = k ∧ c = id + sizes before := by
  obtain ⟨hlt, rfl⟩ := List.getElem?_eq_some_iff.1 hx
  have split : vs = vs.take k ++ vs[k] :: vs.drop (k + 1) := by simp
  have hlength : (vs.take k).length = k := List.length_take_of_le (Nat.le_of_lt hlt)
  refine ⟨vs.take k, vs.drop (k + 1), split, hlength, ?_⟩
  have hle : (places id (vs.take k)).length = k := (length_places ..).trans hlength
  rw [split, places_append, List.getElem?_append_right (Nat.le_of_eq hle), hle, Nat.sub_self] at hc
  exact (Option.some.inj hc).symm

theorem le_of_places {id k c : Nat} {vs : List Visible} {x : Visible}
    (hc : (places id vs)[k]? = some c) (hx : vs[k]? = some x) :
    id ≤ c ∧ c + x.size ≤ id + sizes vs := by
  obtain ⟨before, after, rfl, -, rfl⟩ := exists_of_places hc hx
  rw [sizes_append, sizes_cons]
  omega

/-- The number behind a part is that of the next, unless the part is the last. -/
theorem getElem?_places_succ {id k c : Nat} {vs : List Visible} {x : Visible}
    (hc : (places id vs)[k]? = some c) (hx : vs[k]? = some x) :
    (places id vs)[k + 1]? = if c + x.size < id + sizes vs then some (c + x.size) else none := by
  obtain ⟨before, after, rfl, rfl, rfl⟩ := exists_of_places hc hx
  rw [places_append, List.getElem?_append_right (by rw [length_places]; omega), length_places,
    Nat.add_sub_cancel_left, sizes_append, sizes_cons]
  cases after with
  | nil => rw [if_neg (by rw [show sizes [] = 0 from rfl]; omega)]; rfl
  | cons z rest =>
    have := z.size_eq
    rw [if_pos (by rw [sizes_cons]; omega)]
    rfl

/-- The part `v` of number `r` has below it, or is itself, this part with this number. -/
inductive At (r : Nat) (v : Visible) : Nat → Visible → Prop where
  | root : At r v r v
  | child {q c : Nat} {w x : Visible} {k : Nat} (h : At r v q w)
      (hc : (places (q + 1) w.children)[k]? = some c) (hx : w.children[k]? = some x) : At r v c x

/-- The parts below a part stand in a row in the order of the whole, from its number on. -/
theorem At.exists_segment {r q : Nat} {v w : Visible} (h : At r v q w) :
    ∃ before after, v.preorder = before ++ (w.preorder ++ after) ∧ q = r + before.length := by
  induction h with
  | root => exact ⟨[], [], by simp, rfl⟩
  | @child q c w x k _ hc hx ih =>
    obtain ⟨before, after, whole, rfl⟩ := ih
    obtain ⟨left, right, hchildren, rfl, rfl⟩ := exists_of_places hc hx
    obtain ⟨place, children⟩ := w
    obtain rfl : children = left ++ x :: right := hchildren
    refine ⟨before ++ node place (left ++ x :: right) :: preorderOf left, preorderOf right ++ after,
      ?_, ?_⟩
    · rw [whole, preorder, preorderOf_append, preorderOf]
      simp
    · rw [List.length_append, List.length_cons, sizes]
      omega

theorem At.getElem? {r q : Nat} {v w : Visible} (h : At r v q w) :
    v.preorder[q - r]? = some w := by
  obtain ⟨before, after, whole, rfl⟩ := h.exists_segment
  obtain ⟨place, children⟩ := w
  rw [whole, Nat.add_sub_cancel_left, List.getElem?_append_right (Nat.le_refl _), Nat.sub_self,
    preorder]
  rfl

theorem At.bounds {r q : Nat} {v w : Visible} (h : At r v q w) :
    r ≤ q ∧ q + w.size ≤ r + v.size := by
  obtain ⟨before, after, whole, rfl⟩ := h.exists_segment
  have := congrArg List.length whole
  rw [List.length_append, List.length_append] at this
  simp only [size]
  omega

theorem At.trans {r q x : Nat} {u v w : Visible} (h : At r u q v) (h' : At q v x w) :
    At r u x w := by
  induction h' with
  | root => exact h
  | child _ hc hx ih => exact ih.child hc hx

/-- The parts below a part are found under the numbers that they have. -/
theorem At.map_places {r q : Nat} {v w : Visible} (h : At r v q w) :
    (places (q + 1) w.children).map (fun c => v.preorder[c - r]?) = w.children.map some := by
  refine List.ext_getElem? fun k => ?_
  rw [List.getElem?_map, List.getElem?_map]
  by_cases hk : k < w.children.length
  · have hplace : k < (places (q + 1) w.children).length := by rw [length_places]; exact hk
    have hx := List.getElem?_eq_getElem hk
    have hc := List.getElem?_eq_getElem hplace
    rw [hx, hc, Option.map_some, Option.map_some, (h.child hc hx).getElem?]
  · rw [List.getElem?_eq_none (by rw [length_places]; omega), List.getElem?_eq_none (by omega)]
    rfl

mutual

/-- Every number from that of a part on, for as many as there are parts, is that of one of them. -/
theorem exists_at (r : Nat) : (v : Visible) → ∀ q, r ≤ q → q < r + v.size → ∃ w, At r v q w
  | node place children, q, hle, hlt => by
    by_cases hq : q = r
    · subst hq
      exact ⟨_, .root⟩
    · have inside := exists_atOf (r + 1) children q (by omega) (by rw [size_node] at hlt; omega)
      obtain ⟨c, x, k, w, hc, hx, hw⟩ := inside
      exact ⟨w, (At.root.child hc hx).trans hw⟩

theorem exists_atOf (id : Nat) : (vs : List Visible) → ∀ q, id ≤ q → q < id + sizes vs →
    ∃ (c : Nat) (x : Visible) (k : Nat) (w : Visible), (places id vs)[k]? = some c ∧
      vs[k]? = some x ∧ At c x q w
  | [], q, hle, hlt => absurd (Nat.lt_of_lt_of_le hlt hle) (Nat.lt_irrefl _)
  | v :: rest, q, hle, hlt => by
    by_cases hq : q < id + v.size
    · obtain ⟨w, hw⟩ := exists_at id v q hle hq
      exact ⟨id, v, 0, w, rfl, rfl, hw⟩
    · rw [sizes_cons] at hlt
      obtain ⟨c, x, k, w, hc, hx, hw⟩ := exists_atOf (id + v.size) rest q (by omega) (by omega)
      exact ⟨c, x, k + 1, w, hc, hx, hw⟩

end

/-! ## Rows -/

/-- What is known of a node with a number, its children included. -/
structure Row where
  info : NodeInfo
  parent : Option Nat
  index : Nat
  children : List Nat

variable {t : ParseTable} {row row' : Nat → Option Row}

mutual

/-- Rows describe a part with this number and all below it. The root has an info of its own. -/
def Stands (t : ParseTable) (row : Nat → Option Row) (info : NodeInfo) (parent : Option Nat)
    (index id : Nat) : Visible → Prop
  | node _ children => row id = some ⟨info, parent, index, places (id + 1) children⟩ ∧
      StandsOf t row id 0 (id + 1) children

/-- Rows describe parts next below a part, from one place among them on, and all below them. -/
def StandsOf (t : ParseTable) (row : Nat → Option Row) (parent index id : Nat) :
    List Visible → Prop
  | [] => True
  | v :: rest => Stands t row (v.place.nodeInfo t) (some parent) index id v ∧
      StandsOf t row parent (index + 1) (id + v.size) rest

end

mutual

/-- Only rows of the part and of those below it matter. -/
theorem Stands.congr {info : NodeInfo} {parent : Option Nat} {index id : Nat} :
    (v : Visible) → (∀ j, id ≤ j → j < id + v.size → row' j = row j) →
      Stands t row info parent index id v → Stands t row' info parent index id v
  | node _ children, same, ⟨here, below⟩ => by
    rw [size_node] at same
    refine ⟨(same id (Nat.le_refl _) (by omega)).trans here, ?_⟩
    exact StandsOf.congr children (fun j hle hlt => same j (by omega) (by omega)) below

theorem StandsOf.congr {parent index id : Nat} :
    (vs : List Visible) → (∀ j, id ≤ j → j < id + sizes vs → row' j = row j) →
      StandsOf t row parent index id vs → StandsOf t row' parent index id vs
  | [], _, _ => trivial
  | v :: rest, same, ⟨here, behind⟩ => by
    rw [sizes_cons] at same
    exact ⟨Stands.congr v (fun j hle hlt => same j hle (by omega)) here,
      StandsOf.congr rest (fun j hle hlt => same j (by omega) (by omega)) behind⟩

end

theorem Stands.row_eq {info : NodeInfo} {parent : Option Nat} {index id : Nat} {v : Visible}
    (h : Stands t row info parent index id v) :
    row id = some ⟨info, parent, index, places (id + 1) v.children⟩ := by
  cases v
  exact h.1

theorem Stands.below {info : NodeInfo} {parent : Option Nat} {index id : Nat} {v : Visible}
    (h : Stands t row info parent index id v) : StandsOf t row id 0 (id + 1) v.children := by
  cases v
  exact h.2

theorem StandsOf.getElem? {parent index id k c : Nat} {vs : List Visible} {x : Visible}
    (h : StandsOf t row parent index id vs) (hc : (places id vs)[k]? = some c)
    (hx : vs[k]? = some x) :
    Stands t row (x.place.nodeInfo t) (some parent) (index + k) c x := by
  induction vs generalizing index id k with
  | nil => cases hx
  | cons v rest ih =>
    obtain ⟨here, behind⟩ := h
    cases k with
    | zero =>
      cases hc
      cases hx
      exact here
    | succ k =>
      rw [Nat.add_comm k, ← Nat.add_assoc]
      exact ih behind hc hx

/-- A part is the whole, or it is a child of another part and its row says so. -/
theorem Stands.of_at {info : NodeInfo} {r q : Nat} {v w : Visible}
    (h : Stands t row info none 0 r v) (hat : At r v q w) :
    (q = r ∧ w = v) ∨ ∃ (p : Nat) (u : Visible) (k : Nat), At r v p u ∧
      (places (p + 1) u.children)[k]? = some q ∧ u.children[k]? = some w ∧
      Stands t row (w.place.nodeInfo t) (some p) k q w := by
  induction hat with
  | root => exact .inl ⟨rfl, rfl⟩
  | @child q c w x k hw hc hx ih =>
    have below : StandsOf t row q 0 (q + 1) w.children := by
      rcases ih with ⟨rfl, rfl⟩ | ⟨_, _, _, -, -, -, stands⟩
      · exact h.below
      · exact stands.below
    have stands := below.getElem? hc hx
    rw [Nat.zero_add] at stands
    exact .inr ⟨q, w, k, hw, hc, hx, stands⟩

end Visible

/-! ## Ranges -/

namespace Place

/-- Where the text of a subtree begins. -/
def first (p : Place) : Nat := p.start + p.subtree.padding

/-- Where a subtree ends. -/
def last (p : Place) : Nat := p.start + p.subtree.total

end Place

namespace Visible

/-- Parts stand one behind another between two offsets. -/
structure Between (lo hi : Nat) (vs : List Visible) : Prop where
  pairwise : vs.Pairwise fun a b => a.place.last ≤ b.place.first
  inside : ∀ v ∈ vs, lo ≤ v.place.first ∧ v.place.last ≤ hi

theorem Between.nil (lo hi : Nat) : Between lo hi [] := ⟨.nil, nofun⟩

theorem Between.mono {lo lo' hi hi' : Nat} {vs : List Visible} (h : Between lo hi vs)
    (hlo : lo' ≤ lo) (hhi : hi ≤ hi') : Between lo' hi' vs where
  pairwise := h.pairwise
  inside v hv := ⟨Nat.le_trans hlo (h.inside v hv).1, Nat.le_trans (h.inside v hv).2 hhi⟩

theorem Between.append {lo mid hi : Nat} {a b : List Visible} (ha : Between lo mid a)
    (hb : Between mid hi b) (hlo : lo ≤ mid) (hhi : mid ≤ hi) : Between lo hi (a ++ b) where
  pairwise := List.pairwise_append.2 ⟨ha.pairwise, hb.pairwise, fun x hx y hy =>
    Nat.le_trans (ha.inside x hx).2 (hb.inside y hy).1⟩
  inside := List.forall_mem_append.2
    ⟨(ha.mono (Nat.le_refl _) hhi).inside, (hb.mono hlo (Nat.le_refl _)).inside⟩

end Visible

namespace Place

open Visible Subtree

variable {t : ParseTable}

/-- What is shown of subtrees one behind another stands so too. -/
theorem between_among (inherited : Option FieldId) (offset : Nat) (slots : List Child)
    (ts : List Subtree) (h : ∀ c ∈ among inherited offset slots ts,
      Between c.first c.last (c.visible t)) :
    Between (offset + (ts.head?.map Subtree.padding).getD 0) (offset + totals ts)
      ((among inherited offset slots ts).flatMap (visible t)) := by
  induction ts generalizing offset slots with
  | nil => exact .nil _ _
  | cons c rest ih =>
    have step {place : Place} {slots : List Child} (hplace : place.subtree = c)
        (hstart : place.start = offset)
        (h : ∀ x ∈ place :: among inherited (offset + c.total) slots rest,
          Between x.first x.last (x.visible t)) :
        Between (offset + c.padding) (offset + totals (c :: rest))
          ((place :: among inherited (offset + c.total) slots rest).flatMap (visible t)) := by
      obtain ⟨here, behind⟩ := List.forall_mem_cons.1 h
      have rest := ih _ slots behind
      rw [first, last, hplace, hstart] at here
      have : c.total = c.padding + c.size := rfl
      rw [List.flatMap_cons, totals]
      refine here.append (rest.mono (by omega) (by omega)) (by omega) (by omega)
    by_cases hextra : c.extra = true
    · simp only [among, if_pos hextra] at h ⊢
      exact step rfl rfl h
    · simp only [among, if_neg hextra] at h ⊢
      exact step rfl rfl h

theorem sized_of_mem_children {p c : Place} {inherited : Option FieldId} (hp : p.subtree.Sized)
    (h : c ∈ p.children t inherited) : c.subtree.Sized :=
  hp.children _ (subtree_mem_children h)

theorem between_shownBelow {p : Place} {inherited : Option FieldId} (hp : p.subtree.Sized)
    (h : ∀ c ∈ p.children t inherited, Between c.first c.last (c.visible t)) :
    Between p.first p.last (p.shownBelow t inherited) := by
  have row := between_among inherited p.start (slots t p.subtree.info.production)
    p.subtree.children h
  obtain ⟨⟨info, ts⟩, start, field, renamed⟩ := p
  cases ts with
  | nil => exact .nil _ _
  | cons c rest =>
    obtain ⟨hpadding, htotal, -⟩ := hp
    refine row.mono (Nat.le_of_eq ?_) (Nat.le_of_eq ?_)
    · exact congrArg (start + ·) hpadding
    · exact congrArg (start + ·) htotal.symm

/-- What is shown of a subtree stands between the first and the last of its text. By induction on the
number of subtrees in it. -/
theorem between_visible (p : Place) (hp : p.subtree.Sized) :
    Between p.first p.last (p.visible t) := by
  induction hn : p.subtree.count using Nat.strongRecOn generalizing p with
  | _ n ih =>
    have children (inherited : Option FieldId) (c : Place) (hc : c ∈ p.children t inherited) :
        Between c.first c.last (c.visible t) :=
      ih _ (hn ▸ count_lt_of_mem_children hc) c (sized_of_mem_children hp hc) rfl
    rw [visible_eq]
    split
    · refine ⟨List.pairwise_singleton _ _, fun v hv => ?_⟩
      rw [List.mem_singleton.1 hv]
      exact ⟨Nat.le_refl _, Nat.le_refl _⟩
    · exact between_shownBelow hp (children _)

/-- A part that is shown of a subtree has below it what is shown next below it. -/
theorem of_mem_visible {p : Place} {v : Visible} (h : v ∈ p.visible t) :
    v.place.isShown t = true ∧ v.children = v.place.shownBelow t none ∧
      (p.subtree.Sized → v.place.subtree.Sized) := by
  induction hn : p.subtree.count using Nat.strongRecOn generalizing p with
  | _ n ih =>
    rw [visible_eq] at h
    split at h
    · next hshown =>
      rw [List.mem_singleton.1 h]
      exact ⟨hshown, rfl, id⟩
    · obtain ⟨c, hc, hv⟩ := List.mem_flatMap.1 h
      obtain ⟨hshown, hchildren, hsized⟩ := ih _ (hn ▸ count_lt_of_mem_children hc) hv rfl
      exact ⟨hshown, hchildren, fun hp => hsized (sized_of_mem_children hp hc)⟩

end Place

namespace Visible

variable {t : ParseTable}

/-- Every part has below it what is shown next below its subtree, if the whole has. -/
theorem At.children_eq {r q : Nat} {v w : Visible} (h : At r v q w)
    (hv : v.children = v.place.shownBelow t none) :
    w.children = w.place.shownBelow t none ∧ (q ≠ r → w.place.isShown t = true) ∧
      (v.place.subtree.Sized → w.place.subtree.Sized) := by
  induction h with
  | root => exact ⟨hv, fun h => absurd rfl h, id⟩
  | @child q c w x k _ hc hx ih =>
    obtain ⟨hchildren, -, hsized⟩ := ih
    have hmem : x ∈ w.place.shownBelow t none := hchildren ▸ List.mem_of_getElem? hx
    obtain ⟨p, hp, hmem⟩ := List.mem_flatMap.1 hmem
    obtain ⟨hshown, hbelow, hsized'⟩ := Place.of_mem_visible hmem
    exact ⟨hbelow, fun _ => hshown, fun h => hsized' (Place.sized_of_mem_children (hsized h) hp)⟩

theorem At.between {r q : Nat} {v w : Visible} (h : At r v q w)
    (hv : v.children = v.place.shownBelow t none) (hsized : v.place.subtree.Sized) :
    Between w.place.first w.place.last w.children := by
  obtain ⟨hchildren, -, hw⟩ := h.children_eq hv
  rw [hchildren]
  exact Place.between_shownBelow (hw hsized) fun c hc =>
    c.between_visible (Place.sized_of_mem_children (hw hsized) hc)

end Visible

end IncrementalGlr
