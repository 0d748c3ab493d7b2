import IncrementalGlr.Tree.Basic

/-!
From subtrees to trees. The subtrees still to be looked at wait on a stack, the next in the text on top.
One that is shown becomes a node, the next child of the nearest node above it. The children of every
subtree come onto the stack in its stead, so a subtree that is not shown hands them on to the node
above it, along with its field.
-/
namespace IncrementalGlr

/-! ## Subtrees at their places -/

/-- A subtree at its place in a tree. -/
structure Place where
  subtree : Subtree
  /-- Where its padding begins. -/
  start : Nat
  field : Option FieldId := none
  /-- The symbol under which it is shown instead of its own. -/
  renamed : Option SymbolId := none
  deriving Repr, Inhabited

namespace Place

variable (t : ParseTable) (p : Place)

/-- Whether a subtree leaves a node, under a name of its own or another. -/
def isShown : Bool := p.subtree.isError || p.renamed.isSome || t.isVisible p.subtree.symbol

/-- The node of a subtree. An error node without children that stands for nothing is unnamed. -/
def nodeInfo : NodeInfo :=
  let kind := p.renamed.getD p.subtree.symbol
  { kind
    named := if kind = errorSymbol then
        !p.subtree.children.isEmpty || p.subtree.info.missing.isSome
      else t.isNamed kind
    start := p.start + p.subtree.padding
    stop := p.start + p.subtree.padding + p.subtree.size
    field := p.field
    missing := p.subtree.info.missing
    extra := p.subtree.extra
    hasError := 0 < p.subtree.errorCount }

/-- The places of several subtrees that begin at `offset`. Extras have no part in the production. -/
def among (inherited : Option FieldId) (offset : Nat) (slots : List Child) :
    List Subtree → List Place
  | [] => []
  | c :: rest =>
    let next := offset + c.total
    if c.extra then
      { subtree := c, start := offset } :: among inherited next slots rest
    else
      let slot := slots.head?
      { subtree := c
        start := offset
        field := (slot.bind Child.field).or inherited
        renamed := if c.isError then none else slot.bind Child.renamed } ::
        among inherited next slots.tail rest

/-- What a production says about its children. -/
def slots (production : Option ProductionId) : List Child :=
  ((production.bind t.production?).map Production.children).getD []

/-- The places of the children of a subtree, which has a field to hand on to them. -/
def children (inherited : Option FieldId) : List Place :=
  among inherited p.start (slots t p.subtree.info.production) p.subtree.children

end Place

/-! ## Building -/

/-- A subtree that waits, below the node with the given number. -/
structure Frame extends Place where
  parent : NodeId
  deriving Repr, Inhabited

/-- The nodes so far, and their children so far. -/
structure TreeBuilder where
  nodes : Array NodeData := #[]
  children : Array (Array NodeId) := #[]
  deriving Repr, Inhabited

namespace Subtree

mutual

/-- The number of subtrees in a subtree, itself included. -/
def count : Subtree → Nat
  | mk _ children => countOf children + 1

/-- The number of subtrees in several subtrees. -/
def countOf : List Subtree → Nat
  | [] => 0
  | t :: rest => count t + countOf rest

end

theorem countOf_append (a b : List Subtree) : countOf (a ++ b) = countOf a + countOf b := by
  induction a with
  | nil => simp [countOf]
  | cons t a ih => simp only [List.cons_append, countOf, ih, Nat.add_assoc]

theorem count_eq (t : Subtree) : t.count = countOf t.children + 1 := by
  cases t
  rfl

end Subtree

theorem Place.map_subtree_among (inherited : Option FieldId) (offset : Nat) (slots : List Child)
    (ts : List Subtree) : (among inherited offset slots ts).map Place.subtree = ts := by
  induction ts generalizing offset slots with
  | nil => rfl
  | cons c rest ih =>
    rw [among]
    split
    · rw [List.map_cons, ih]
    · rw [List.map_cons, ih]

namespace TreeBuilder

/-- Adds a node without children. -/
def add (b : TreeBuilder) (data : NodeData) : TreeBuilder :=
  ⟨b.nodes.push data, b.children.push #[]⟩

/-- Adds the node of a subtree, as the last child so far of the node above it. -/
def visibleNode (t : ParseTable) (b : TreeBuilder) (f : Frame) : TreeBuilder :=
  let id := b.nodes.size
  let index := (b.children.getD f.parent #[]).size
  let added := b.add { info := f.nodeInfo t, parent := some f.parent, index }
  { added with children := added.children.modify f.parent (·.push id) }

/-- The children of a subtree, which wait below the node with the given number. -/
def frames (t : ParseTable) (p : Place) (parent : NodeId) (inherited : Option FieldId) :
    List Frame :=
  (p.children t inherited).map fun c => ⟨c, parent⟩

theorem map_subtree_frames (t : ParseTable) (p : Place) (parent : NodeId)
    (inherited : Option FieldId) :
    (frames t p parent inherited).map (·.subtree) = p.subtree.children := by
  rw [frames, List.map_map]
  exact Place.map_subtree_among ..

/-- Looks at all subtrees that wait. -/
def run (t : ParseTable) : List Frame → TreeBuilder → TreeBuilder
  | [], b => b
  | f :: stack, b =>
    if f.isShown t then
      run t (frames t f.toPlace b.nodes.size none ++ stack) (b.visibleNode t f)
    else run t (frames t f.toPlace f.parent f.field ++ stack) b
termination_by stack => Subtree.countOf (stack.map (·.subtree))
decreasing_by
  all_goals
    rw [List.map_append, Subtree.countOf_append, map_subtree_frames, List.map_cons,
      Subtree.countOf, Subtree.count_eq]
    omega

/-- The node of the root, which covers the whole text whatever its subtree covers. -/
def rootInfo (t : ParseTable) (root : Subtree) (length : Nat) : NodeInfo where
  kind := root.symbol
  named := t.isNamed root.symbol
  start := 0
  stop := length
  missing := root.info.missing
  hasError := 0 < root.errorCount

/-- Puts the children of one more node behind those of the nodes before. -/
def finishNode (done : Array NodeData × Array NodeId) (node : NodeData × Array NodeId) :
    Array NodeData × Array NodeId :=
  let edges := done.2 ++ node.2
  (done.1.push { node.1 with edges := (done.2.size, edges.size) }, edges)

/-- The nodes with their edges. -/
def finish (b : TreeBuilder) : Array NodeData × Array NodeId :=
  (b.nodes.zip b.children).foldl finishNode (#[], #[])

/-- The nodes and edges of the tree of a subtree. -/
def build (t : ParseTable) (root : Subtree) (length : Nat) : Array NodeData × Array NodeId :=
  let begun := ({} : TreeBuilder).add { info := rootInfo t root length, parent := none, index := 0 }
  (run t (frames t { subtree := root, start := 0 } 0 none) begun).finish

end TreeBuilder

namespace Tree

/-- The tree of a subtree that was built from a whole text. -/
def ofSubtree (t : ParseTable) (source : String) (green : Subtree) (stats : ReuseStats) : Tree :=
  let (nodes, edges) := TreeBuilder.build t green source.utf8ByteSize
  { table := t, source, nodes, edges, green, lines := .ofText source, stats }

end Tree

end IncrementalGlr
