import Mathlib.Logic.Relation
import IncrementalGlr.Proofs.Tree.Building
import IncrementalGlr.Tree.Cursor

/-!
Going about in a tree whose rows describe what is shown. Parents, places among siblings and the siblings
themselves agree with the children (`Shows.getElem?_children`, `Shows.nextSibling?`). A cursor in front
of a part without children climbs to the number behind the part (`Shows.climb`), so a walk over a node
and all below it counts on from the node (`Shows.descendants`).
-/
namespace IncrementalGlr.Tree

open Visible

/-- A node is another, or stands below it. -/
def Below (t : Tree) : NodeId → NodeId → Prop :=
  Relation.ReflTransGen fun id c => c ∈ t.children id

/-- The nodes of a tree are the parts of `v`, and its rows describe them. -/
structure Shows (t : Tree) (info : NodeInfo) (v : Visible) : Prop where
  size : t.nodes.size = v.size
  stands : Stands t.table t.row info none 0 0 v

namespace Shows

variable {t : Tree} {info : NodeInfo} {v u w x : Visible} {id q c d k : Nat} (h : t.Shows info v)

section Rows

theorem of_row {r : Row} (hr : t.row id = some r) : ∃ data, t.node? id = some data ∧
    r = ⟨data.info, data.parent, data.index, t.children id⟩ := by
  obtain ⟨data, hdata, rfl⟩ := Option.map_eq_some_iff.1 hr
  exact ⟨data, hdata, rfl⟩

include h

theorem stands_of_at (hw : At 0 v q w) : ∃ info parent index,
    Stands t.table t.row info parent index q w := by
  rcases h.stands.of_at hw with ⟨rfl, rfl⟩ | ⟨_, _, _, -, -, -, stands⟩
  · exact ⟨_, _, _, h.stands⟩
  · exact ⟨_, _, _, stands⟩

theorem exists_at (hlt : q < t.nodes.size) : ∃ w, At 0 v q w :=
  Visible.exists_at 0 v q (Nat.zero_le q) (by rw [Nat.zero_add, ← h.size]; exact hlt)

theorem children_eq (hw : At 0 v q w) : t.children q = places (q + 1) w.children := by
  obtain ⟨_, _, _, stands⟩ := h.stands_of_at hw
  obtain ⟨_, -, hrow⟩ := of_row stands.row_eq
  exact (congrArg Row.children hrow).symm

/-- The child of a part is known as such. -/
theorem of_child (hw : At 0 v q w) (hc : (places (q + 1) w.children)[k]? = some c)
    (hx : w.children[k]? = some x) : ∃ data, t.node? c = some data ∧
      data.info = x.place.nodeInfo t.table ∧ data.parent = some q ∧ data.index = k := by
  obtain ⟨_, _, _, stands⟩ := h.stands_of_at hw
  obtain ⟨data, hdata, hrow⟩ := of_row (stands.below.getElem? hc hx).row_eq
  obtain ⟨hinfo, hparent, hindex, -⟩ := Row.mk.inj hrow
  exact ⟨data, hdata, hinfo.symm, hparent.symm, (Nat.zero_add k ▸ hindex).symm⟩

theorem info_root : t.info 0 = info := by
  obtain ⟨data, hdata, hrow⟩ := of_row h.stands.row_eq
  rw [Tree.info, hdata]
  exact (congrArg Row.info hrow).symm

theorem info_of_at (hw : At 0 v q w) (hq : q ≠ 0) : t.info q = w.place.nodeInfo t.table := by
  rcases h.stands.of_at hw with ⟨rfl, -⟩ | ⟨_, _, _, -, -, -, stands⟩
  · exact absurd rfl hq
  · obtain ⟨data, hdata, hrow⟩ := of_row stands.row_eq
    rw [Tree.info, hdata]
    exact (congrArg Row.info hrow).symm

/-- A part is found under the number of its node. -/
theorem at_of_getElem? (hw : v.preorder[q]? = some w) : At 0 v q w := by
  obtain ⟨hlt, -⟩ := List.getElem?_eq_some_iff.1 hw
  obtain ⟨x, hx⟩ := h.exists_at (Nat.lt_of_lt_of_eq hlt h.size.symm)
  obtain rfl : x = w := Option.some.inj (hx.getElem?.symm.trans hw)
  exact hx

theorem map_info_children (hw : At 0 v q w) :
    (t.children q).map t.info = w.children.map fun x => x.place.nodeInfo t.table := by
  rw [h.children_eq hw]
  refine List.ext_getElem? fun k => ?_
  rw [List.getElem?_map, List.getElem?_map]
  by_cases hk : k < w.children.length
  · have hplace : k < (places (q + 1) w.children).length := by rw [length_places]; exact hk
    have hx := List.getElem?_eq_getElem hk
    have hc := List.getElem?_eq_getElem hplace
    have hle := le_of_places hc hx
    rw [hx, hc, Option.map_some, Option.map_some, h.info_of_at (hw.child hc hx) (by omega)]
  · rw [List.getElem?_eq_none (by rw [length_places]; omega), List.getElem?_eq_none (by omega)]
    rfl

/-- A child in the list of a node is the child of a part. -/
theorem exists_of_getElem? (hc : (t.children q)[k]? = some c) : ∃ w x, At 0 v q w ∧
    (places (q + 1) w.children)[k]? = some c ∧ w.children[k]? = some x := by
  have hlt : q < t.nodes.size := Nat.lt_of_not_le fun hge => by
    rw [children, node?, Array.getElem?_eq_none hge] at hc
    cases hc
  obtain ⟨w, hw⟩ := h.exists_at hlt
  rw [h.children_eq hw] at hc
  obtain ⟨hk, -⟩ := List.getElem?_eq_some_iff.1 hc
  rw [length_places] at hk
  exact ⟨w, _, hw, hc, List.getElem?_eq_getElem hk⟩

end Rows

/-! ## Relatives -/

section Relatives

include h

/-- A node is a child where it says that it is one. -/
theorem getElem?_children : (t.children q)[k]? = some c ↔
    ∃ data, t.node? c = some data ∧ data.parent = some q ∧ data.index = k := by
  constructor
  · intro hc
    obtain ⟨w, x, hw, hplace, hx⟩ := h.exists_of_getElem? hc
    obtain ⟨data, hdata, -, hparent, hindex⟩ := h.of_child hw hplace hx
    exact ⟨data, hdata, hparent, hindex⟩
  · rintro ⟨data, hdata, hparent, rfl⟩
    obtain ⟨x, hx⟩ := h.exists_at (Array.getElem?_eq_some_iff.1 hdata).1
    rcases h.stands.of_at hx with ⟨rfl, rfl⟩ | ⟨p, u, k, hu, hc, -, stands⟩
    · obtain ⟨data', hdata', hrow⟩ := of_row h.stands.row_eq
      obtain rfl := Option.some.inj (hdata.symm.trans hdata')
      exact absurd (hparent.symm.trans (congrArg Row.parent hrow).symm) nofun
    · obtain ⟨data', hdata', hrow⟩ := of_row stands.row_eq
      obtain rfl := Option.some.inj (hdata.symm.trans hdata')
      obtain ⟨-, hparent', hindex', -⟩ := Row.mk.inj hrow
      obtain rfl := Option.some.inj (hparent'.trans hparent)
      rw [h.children_eq hu, ← hindex']
      exact hc

/-- Every node but the root is a child. -/
theorem parent?_eq_none (hlt : c < t.nodes.size) : t.parent? c = none ↔ c = 0 := by
  obtain ⟨x, hx⟩ := h.exists_at hlt
  have known {r : Row} (hr : t.row c = some r) : t.parent? c = r.parent := by
    obtain ⟨data, hdata, rfl⟩ := of_row hr
    rw [parent?, hdata]
    rfl
  rcases h.stands.of_at hx with ⟨rfl, rfl⟩ | ⟨p, u, k, hu, hc, hchild, stands⟩
  · rw [known h.stands.row_eq]
    exact ⟨fun _ => rfl, fun _ => rfl⟩
  · rw [known stands.row_eq]
    refine ⟨nofun, ?_⟩
    rintro rfl
    obtain ⟨before, after, -, -, hplace⟩ := exists_of_places hc hchild
    omega

theorem nextSibling?_eq (hc : (t.children q)[k]? = some c) :
    t.nextSibling? c = (t.children q)[k + 1]? := by
  obtain ⟨data, hdata, hparent, rfl⟩ := h.getElem?_children.1 hc
  simp [nextSibling?, hdata, hparent]

/-- The next sibling of a node stands behind it among the children of the same node. -/
theorem nextSibling?_eq_some : t.nextSibling? c = some d ↔
    ∃ q k, (t.children q)[k]? = some c ∧ (t.children q)[k + 1]? = some d := by
  constructor
  · intro hd
    obtain ⟨data, hdata, hnext⟩ := Option.bind_eq_some_iff.1 hd
    obtain ⟨q, hparent, hnext⟩ := Option.bind_eq_some_iff.1 hnext
    exact ⟨q, data.index, h.getElem?_children.2 ⟨data, hdata, hparent, rfl⟩, hnext⟩
  · rintro ⟨q, k, hc, hd⟩
    rw [h.nextSibling?_eq hc, hd]

/-- The previous sibling of a node stands before it among the children of the same node. -/
theorem prevSibling?_eq_some : t.prevSibling? d = some c ↔
    ∃ q k, (t.children q)[k]? = some c ∧ (t.children q)[k + 1]? = some d := by
  constructor
  · intro hc
    obtain ⟨data, hdata, hprev⟩ := Option.bind_eq_some_iff.1 hc
    obtain ⟨q, hparent, hprev⟩ := Option.bind_eq_some_iff.1 hprev
    split at hprev
    · cases hprev
    · next hindex =>
      refine ⟨q, data.index - 1, hprev, h.getElem?_children.2 ⟨data, hdata, hparent, ?_⟩⟩
      exact (Nat.succ_pred_eq_of_ne_zero hindex).symm
  · rintro ⟨q, k, hc, hd⟩
    obtain ⟨data, hdata, hparent, hindex⟩ := h.getElem?_children.1 hd
    simp [prevSibling?, hdata, hparent, hindex, hc]

end Relatives

/-! ## Walks -/

section Walks

variable {r y : Nat} (hu : At 0 v r u)

/-- What stands below a part are the numbers from that of the part on. -/
theorem below_of_at (hw : At r u q w) (h : t.Shows info v) (hu : At 0 v r u) : t.Below r q := by
  induction hw with
  | root => exact .refl
  | @child q c w x k hw hc hx ih =>
    refine ih.tail (List.mem_of_getElem? (i := k) ?_)
    rw [h.children_eq (hu.trans hw)]
    exact hc

include h hu

theorem below_iff : t.Below r q ↔ r ≤ q ∧ q < r + u.size := by
  constructor
  · intro hbelow
    have found : ∃ w, At r u q w := by
      induction hbelow with
      | refl => exact ⟨u, .root⟩
      | tail _ hmem ih =>
        obtain ⟨w, hw⟩ := ih
        obtain ⟨k, hk⟩ := List.getElem?_of_mem hmem
        rw [h.children_eq (hu.trans hw)] at hk
        obtain ⟨hlt, -⟩ := List.getElem?_eq_some_iff.1 hk
        rw [length_places] at hlt
        exact ⟨_, hw.child hk (List.getElem?_eq_getElem hlt)⟩
    obtain ⟨w, hw⟩ := found
    have := hw.bounds
    have := w.size_eq
    omega
  · rintro ⟨hle, hlt⟩
    obtain ⟨w, hw⟩ := Visible.exists_at r u q hle hlt
    exact below_of_at hw h hu

/-- From a part a walk climbs to the number behind the part, unless that is behind the walk. -/
theorem climb (hy : At r u y w) {depth : Nat} (hdepth : y < r + depth) :
    Descendants.climb t depth ⟨r, y⟩ =
      if y + w.size < r + u.size then some ⟨r, y + w.size⟩ else none := by
  induction hy generalizing depth with
  | root =>
    obtain ⟨depth, rfl⟩ : ∃ n, depth = n + 1 := ⟨depth - 1, by omega⟩
    rw [if_neg (Nat.lt_irrefl _)]
    simp [Descendants.climb, TreeCursor.nextSibling, TreeCursor.parent, TreeCursor.moveTo]
  | @child q y w x k hw hy hx ih =>
    have hle := hw.bounds
    have hplace := le_of_places hy hx
    obtain ⟨depth, rfl⟩ : ∃ n, depth = n + 1 := ⟨depth - 1, by omega⟩
    have hchildren := h.children_eq (hu.trans hw)
    have hnode : (t.children q)[k]? = some y := by rw [hchildren, hy]
    obtain ⟨data, hdata, hparent, hindex⟩ := h.getElem?_children.1 hnode
    have hparent : t.parent? y = some q := by rw [parent?, hdata]; exact hparent
    have hne : y ≠ r := by omega
    have hsize := w.size_eq
    have hnext : t.nextSibling? y =
        if y + x.size < q + w.size then some (y + x.size) else none := by
      rw [h.nextSibling?_eq hnode, hchildren, getElem?_places_succ hy hx, hsize]
      congr 2
      omega
    by_cases hlast : y + x.size < q + w.size
    · rw [if_pos hlast] at hnext
      rw [if_pos (by omega)]
      simp [Descendants.climb, TreeCursor.nextSibling, TreeCursor.moveTo, hne, hnext]
    · rw [if_neg hlast] at hnext
      have hend : y + x.size = q + w.size := by omega
      have above := ih (show q < r + depth by omega)
      rw [hend, ← above]
      simp [Descendants.climb, TreeCursor.nextSibling, TreeCursor.parent, TreeCursor.moveTo, hne,
        hnext, hparent]

/-- A walk gives the number of the part at which it is, and goes on to the next number. -/
theorem next (hy : At r u y w) : Descendants.next t ⟨⟨r, y⟩, false⟩ =
    some (y, if y + 1 < r + u.size then ⟨⟨r, y + 1⟩, false⟩ else ⟨⟨r, y⟩, true⟩) := by
  have hchildren := h.children_eq (hu.trans hy)
  have hsize := w.size_eq
  have hle := hy.bounds
  cases hbelow : w.children with
  | nil =>
    rw [hbelow] at hchildren hsize
    have hdepth : y < r + t.nodes.size := by
      have := hu.bounds
      have := h.size
      omega
    have hclimb := h.climb hu hy hdepth
    rw [show w.size = 1 from hsize] at hclimb
    have hfirst : TreeCursor.firstChild t ⟨r, y⟩ = (false, ⟨r, y⟩) := by
      simp [TreeCursor.firstChild, TreeCursor.moveTo, hchildren, places]
    split <;> rename_i hlt
    · rw [if_pos hlt] at hclimb
      simp [Descendants.next, hfirst, hclimb]
    · rw [if_neg hlt] at hclimb
      simp [Descendants.next, hfirst, hclimb]
  | cons x rest =>
    rw [hbelow] at hchildren hsize
    have hpos := x.size_eq
    rw [sizes_cons] at hsize
    rw [if_pos (by omega)]
    have hfirst : TreeCursor.firstChild t ⟨r, y⟩ = (true, ⟨r, y + 1⟩) := by
      simp [TreeCursor.firstChild, TreeCursor.moveTo, hchildren, places]
    simp [Descendants.next, hfirst]

/-- The rest of a walk counts on from where it is to the end of the part on which it began. -/
theorem take (hy : At r u y w) (n : Nat) : Descendants.take t n ⟨⟨r, y⟩, false⟩ =
    List.range' y (min n (r + u.size - y)) := by
  induction n generalizing y w with
  | zero => rw [Nat.zero_min]; rfl
  | succ n ih =>
    have hle := hy.bounds
    have hsize := w.size_eq
    rw [Descendants.take, h.next hu hy]
    by_cases hlt : y + 1 < r + u.size
    · obtain ⟨x, hx⟩ := Visible.exists_at r u (y + 1) (by omega) hlt
      have hcount : min (n + 1) (r + u.size - y) = min n (r + u.size - (y + 1)) + 1 := by omega
      rw [if_pos hlt, hcount, List.range'_succ, ← ih hx]
    · have hcount : min (n + 1) (r + u.size - y) = 1 := by omega
      rw [if_neg hlt, hcount]
      cases n <;> rfl

/-- A walk over a node and all below it counts on from the node. -/
theorem descendants : t.descendants r = List.range' r u.size := by
  have hle := hu.bounds
  have hsize := h.size
  have hcount : min t.nodes.size (r + u.size - r) = u.size := by omega
  have walk := h.take hu .root t.nodes.size
  rw [hcount] at walk
  exact walk

end Walks

end Shows

end IncrementalGlr.Tree
