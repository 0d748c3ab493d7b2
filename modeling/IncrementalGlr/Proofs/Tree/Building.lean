import IncrementalGlr.Proofs.Tree.Visible

/-!
Trees are built as they are shown. The subtrees that wait on the stack of a builder come to what is
shown of each, one after another (`TreeBuilder.run_eq`). Putting a part below a node gives it the next
number, makes it the last child of the node and leaves all other rows as they are
(`TreeBuilder.Puts`). So the rows of a tree describe what is shown of its subtree
(`Tree.stands_ofSubtree`).
-/
namespace IncrementalGlr

open Visible

namespace TreeBuilder

variable (t : ParseTable)

/-! ## What the stack comes to -/

mutual

/-- Adds a part and all below it, below the node with the given number. -/
def put (parent : Nat) : Visible → TreeBuilder → TreeBuilder
  | .node place children, b => putAll b.nodes.size children (b.visibleNode t ⟨place, parent⟩)

/-- Adds several parts one after another. -/
def putAll (parent : Nat) : List Visible → TreeBuilder → TreeBuilder
  | [], b => b
  | v :: rest, b => putAll parent rest (put parent v b)

end

variable {t}

theorem putAll_append (parent : Nat) (a b : List Visible) (start : TreeBuilder) :
    putAll t parent (a ++ b) start = putAll t parent b (putAll t parent a start) := by
  induction a generalizing start with
  | nil => rfl
  | cons v a ih => exact ih _

/-- Adds what is shown of a subtree that waits. -/
def putFrame (t : ParseTable) (b : TreeBuilder) (f : Frame) : TreeBuilder :=
  putAll t f.parent (f.visible t) b

theorem foldl_frames (p : Place) (parent : Nat) (inherited : Option FieldId) (b : TreeBuilder) :
    (frames t p parent inherited).foldl (putFrame t) b =
      putAll t parent (p.shownBelow t inherited) b := by
  unfold frames Place.shownBelow
  induction p.children t inherited generalizing b with
  | nil => rfl
  | cons c rest ih =>
    rw [List.map_cons, List.foldl_cons, ih, List.flatMap_cons, putAll_append]
    rfl

/-- Working off the stack adds what is shown of each subtree that waits, one after another. -/
theorem run_eq (stack : List Frame) (b : TreeBuilder) :
    run t stack b = stack.foldl (putFrame t) b := by
  fun_induction run t stack b with
  | case1 => rfl
  | case2 f stack b hshown ih =>
    rw [ih, List.foldl_append, foldl_frames, List.foldl_cons, putFrame, Place.visible_eq,
      if_pos hshown]
    rfl
  | case3 f stack b hhidden ih =>
    rw [ih, List.foldl_append, foldl_frames, List.foldl_cons, putFrame, Place.visible_eq,
      if_neg hhidden]

/-! ## Rows -/

/-- What the builder knows of a node. -/
def row (b : TreeBuilder) (id : Nat) : Option Row :=
  b.nodes[id]?.bind fun data => b.children[id]?.map fun children =>
    ⟨data.info, data.parent, data.index, children.toList⟩

variable {b b' : TreeBuilder} {parent : Nat} {r : Row}

theorem exists_of_row (h : b.row parent = some r) : ∃ data children,
    b.nodes[parent]? = some data ∧ b.children[parent]? = some children ∧
      r = ⟨data.info, data.parent, data.index, children.toList⟩ := by
  obtain ⟨data, hdata, hrow⟩ := Option.bind_eq_some_iff.1 h
  obtain ⟨children, hchildren, rfl⟩ := Option.map_eq_some_iff.1 hrow
  exact ⟨data, children, hdata, hchildren, rfl⟩

theorem lt_of_row (h : b.row parent = some r) : parent < b.nodes.size := by
  obtain ⟨_, _, hdata, -⟩ := exists_of_row h
  exact (Array.getElem?_eq_some_iff.1 hdata).1

/-- Adding a part gives it the next number. It becomes the last child of the node above it, and other
rows stay as they are. -/
theorem visibleNode_spec (heven : b.children.size = b.nodes.size) (hparent : b.row parent = some r)
    (place : Place) : let added := b.visibleNode t ⟨place, parent⟩
    added.children.size = added.nodes.size ∧ added.nodes.size = b.nodes.size + 1 ∧
      (∀ j < b.nodes.size, j ≠ parent → added.row j = b.row j) ∧
      added.row parent = some { r with children := r.children ++ [b.nodes.size] } ∧
      added.row b.nodes.size =
        some ⟨place.nodeInfo t, some parent, r.children.length, []⟩ := by
  have hlt := lt_of_row hparent
  obtain ⟨data, children, hdata, hchildren, rfl⟩ := exists_of_row hparent
  intro added
  have hnodes : added.nodes =
      b.nodes.push ⟨place.nodeInfo t, some parent, children.toList.length, (0, 0)⟩ := by
    simp [added, visibleNode, add, hchildren]
  have hadded : added.children = (b.children.push #[]).modify parent (·.push b.nodes.size) := rfl
  have hne : parent ≠ b.nodes.size := Nat.ne_of_lt hlt
  refine ⟨?_, ?_, fun j hj hother => ?_, ?_, ?_⟩
  · rw [hnodes, hadded, Array.size_modify, Array.size_push, Array.size_push, heven]
  · rw [hnodes, Array.size_push]
  · rw [row, row, hnodes, hadded, Array.getElem?_modify, if_neg (Ne.symm hother),
      Array.getElem?_push, Array.getElem?_push, if_neg (Nat.ne_of_lt hj), heven,
      if_neg (Nat.ne_of_lt hj)]
  · rw [row, hnodes, hadded, Array.getElem?_modify, if_pos rfl, Array.getElem?_push,
      Array.getElem?_push, if_neg hne, heven, if_neg hne, hdata, hchildren]
    simp
  · rw [row, hnodes, hadded, Array.getElem?_modify, if_neg hne, Array.getElem?_push,
      Array.getElem?_push, heven, if_pos rfl, if_pos rfl]
    rfl

/-- What adding parts below a node leads to. -/
structure Puts (t : ParseTable) (parent : Nat) (r : Row) (vs : List Visible) (b b' : TreeBuilder) :
    Prop where
  even : b'.children.size = b'.nodes.size
  size : b'.nodes.size = b.nodes.size + sizes vs
  others : ∀ j < b.nodes.size, j ≠ parent → b'.row j = b.row j
  above : b'.row parent = some { r with children := r.children ++ places b.nodes.size vs }
  stands : StandsOf t b'.row parent r.children.length b.nodes.size vs

mutual

theorem puts_put {b : TreeBuilder} {parent : Nat} {r : Row} :
    (v : Visible) → b.children.size = b.nodes.size → b.row parent = some r →
      Puts t parent r [v] b (put t parent v b)
  | .node place children, heven, hparent => by
    have hlt := lt_of_row hparent
    obtain ⟨heven₁, hsize₁, hothers₁, hparent₁, hhere⟩ := visibleNode_spec (t := t) heven hparent place
    have below := puts_putAll children heven₁ hhere
    have hsize : sizes [Visible.node place children] = sizes children + 1 := by
      rw [sizes_cons, Visible.size_node]
      rfl
    refine ⟨below.even, ?_, fun j hj hne => ?_, ?_, ?_⟩
    · rw [hsize]
      have := below.size
      change (putAll t b.nodes.size children _).nodes.size = _
      omega
    · rw [← hothers₁ j hj hne]
      exact below.others j (by omega) (Nat.ne_of_lt hj)
    · exact (below.others parent (by omega) (Nat.ne_of_lt hlt)).trans hparent₁
    · refine ⟨⟨?_, ?_⟩, trivial⟩
      · have here := below.above
        rw [hsize₁] at here
        exact here
      · have stands := below.stands
        rw [hsize₁] at stands
        exact stands

theorem puts_putAll {b : TreeBuilder} {parent : Nat} {r : Row} :
    (vs : List Visible) → b.children.size = b.nodes.size → b.row parent = some r →
      Puts t parent r vs b (putAll t parent vs b)
  | [], heven, hparent =>
    ⟨heven, rfl, fun _ _ _ => rfl, by rw [places, List.append_nil]; exact hparent, trivial⟩
  | v :: rest, heven, hparent => by
    have hlt := lt_of_row hparent
    have here := puts_put v heven hparent
    have behind := puts_putAll rest here.even here.above
    have hsize := here.size
    rw [sizes_cons, show sizes [] = 0 from rfl] at hsize
    refine ⟨behind.even, ?_, fun j hj hne => ?_, ?_, ?_⟩
    · rw [sizes_cons, ← Nat.add_assoc]
      have := behind.size
      change (putAll t parent rest _).nodes.size = _
      omega
    · rw [← here.others j hj hne]
      exact behind.others j (by omega) hne
    · have := behind.above
      rw [hsize, Nat.add_zero, List.append_assoc] at this
      exact this
    · refine ⟨Stands.congr v (fun j hle hj => ?_) here.stands.1, ?_⟩
      · exact behind.others j (by omega) (by omega)
      · have := behind.stands
        rw [hsize, Nat.add_zero, List.length_append] at this
        exact this

end

/-! ## Edges -/

/-- The edges of every node are its children, and nothing else about the nodes changes. By induction on
the nodes that are still to come. -/
theorem foldl_finishNode (rest : List (NodeData × Array NodeId))
    (done : Array NodeData × Array NodeId) :
    let finished := rest.foldl finishNode done
    (∃ more, finished.2 = done.2 ++ more) ∧
      finished.1.size = done.1.size + rest.length ∧
      (∀ j < done.1.size, finished.1[j]? = done.1[j]?) ∧
      ∀ (k : Nat) (data : NodeData) (children : Array NodeId), rest[k]? = some (data, children) →
        ∃ edges, finished.1[done.1.size + k]? = some { data with edges } ∧
          finished.2.extract edges.1 edges.2 = children := by
  induction rest generalizing done with
  | nil => exact ⟨⟨#[], by simp⟩, rfl, fun _ _ => rfl, fun _ _ _ h => by cases h⟩
  | cons node rest ih =>
    obtain ⟨⟨more, hmore⟩, hsize, hsame, hrest⟩ := ih (finishNode done node)
    have hnext : (finishNode done node).1.size = done.1.size + 1 := Array.size_push _
    rw [hnext] at hsize hsame hrest
    rw [List.foldl_cons]
    refine ⟨⟨node.2 ++ more, ?_⟩, ?_, fun j hj => ?_, fun k data children hk => ?_⟩
    · rw [hmore, finishNode, Array.append_assoc]
    · rw [hsize, List.length_cons]
      omega
    · rw [hsame j (by omega), finishNode, Array.getElem?_push_lt hj]
      exact (Array.getElem?_eq_getElem hj).symm
    · cases k with
      | zero =>
        obtain rfl := Option.some.inj hk
        refine ⟨(done.2.size, (done.2 ++ children).size), ?_, ?_⟩
        · rw [hsame _ (by omega), finishNode]
          exact Array.getElem?_push_size
        · rw [hmore, finishNode]
          simp
      | succ k =>
        rw [Nat.add_comm k, ← Nat.add_assoc]
        exact hrest k data children hk

end TreeBuilder

namespace Tree

/-- What a tree knows of a node. -/
def row (t : Tree) (id : Nat) : Option Row :=
  (t.node? id).map fun data => ⟨data.info, data.parent, data.index, t.children id⟩

/-- A tree knows of its nodes what the builder knew in the end. -/
theorem row_of_finish {t : Tree} {b : TreeBuilder} (heven : b.children.size = b.nodes.size)
    (h : b.finish = (t.nodes, t.edges)) : t.nodes.size = b.nodes.size ∧ t.row = b.row := by
  obtain ⟨-, hsize, -, hrest⟩ :=
    TreeBuilder.foldl_finishNode (b.nodes.toList.zip b.children.toList) (#[], #[])
  have hfinish : (b.nodes.toList.zip b.children.toList).foldl TreeBuilder.finishNode (#[], #[]) =
      (t.nodes, t.edges) := by
    rw [← h, TreeBuilder.finish, ← Array.foldl_toList, Array.toList_zip]
  rw [hfinish] at hsize hrest
  have hsize : t.nodes.size = b.nodes.size := by
    simpa [heven] using hsize
  refine ⟨hsize, funext fun id => ?_⟩
  by_cases hid : id < b.nodes.size
  · have hdata : b.nodes[id]? = some b.nodes[id] := Array.getElem?_eq_getElem hid
    have hid' : id < b.children.size := heven ▸ hid
    have hchildren : b.children[id]? = some b.children[id] := Array.getElem?_eq_getElem hid'
    obtain ⟨edges, hnode, hedges⟩ := hrest id b.nodes[id] b.children[id]
      (List.getElem?_zip_eq_some.2 ⟨by simp, by simp⟩)
    have hnode : t.node? id = some { b.nodes[id] with edges } := by
      rw [← hnode]
      exact congrArg (t.nodes[·]?) (Nat.zero_add id).symm
    rw [row, TreeBuilder.row, children, hnode, hdata, hchildren]
    simp [hedges]
  · rw [row, TreeBuilder.row, node?, Array.getElem?_eq_none (by omega),
      Array.getElem?_eq_none (by omega)]
    rfl

variable (table : ParseTable) (source : String) (green : Subtree) (stats : ReuseStats)

/-- What is shown of a whole tree. -/
def shown (table : ParseTable) (green : Subtree) : Visible :=
  .node { subtree := green, start := 0 } (Place.shownBelow table { subtree := green, start := 0 } none)

/-- The nodes of a tree are the parts that are shown of its subtree, and its rows describe them. -/
theorem stands_ofSubtree : let tree := ofSubtree table source green stats
    tree.nodes.size = (shown table green).size ∧
      Stands table tree.row (TreeBuilder.rootInfo table green source.utf8ByteSize) none 0 0
        (shown table green) := by
  intro tree
  let root : Place := { subtree := green, start := 0 }
  let info := TreeBuilder.rootInfo table green source.utf8ByteSize
  let begun : TreeBuilder := ({} : TreeBuilder).add { info, parent := none, index := 0 }
  let b := TreeBuilder.run table (TreeBuilder.frames table root 0 none) begun
  have hb : b = TreeBuilder.putAll table 0 (root.shownBelow table none) begun :=
    (TreeBuilder.run_eq _ _).trans (TreeBuilder.foldl_frames _ _ _ _)
  have puts : TreeBuilder.Puts table 0 ⟨info, none, 0, []⟩ (root.shownBelow table none) begun b :=
    hb ▸ TreeBuilder.puts_putAll _ rfl rfl
  obtain ⟨hsize, hrow⟩ := row_of_finish (t := tree) puts.even rfl
  refine ⟨?_, ?_⟩
  · rw [hsize, puts.size, shown, Visible.size_node, Nat.add_comm]
    rfl
  · rw [hrow]
    exact ⟨puts.above, puts.stands⟩

end Tree

end IncrementalGlr
