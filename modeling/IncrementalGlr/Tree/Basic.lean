import IncrementalGlr.Parse.Reuse
import IncrementalGlr.Table.Basic
import IncrementalGlr.Text.Point
import IncrementalGlr.Text.Utf8

/-!
Syntax trees. The nodes of a tree are those subtrees that have a name to show; what has none hands
its children on to the nearest node above. Nodes are numbered in the order of the text, a node
before its children, and the root has number 0.
-/
namespace IncrementalGlr

/-- The number of a node in its tree. -/
abbrev NodeId := Nat

/-- What is known of a node besides its place in the tree. -/
structure NodeInfo where
  kind : SymbolId
  named : Bool
  start : Nat
  stop : Nat
  field : Option FieldId := none
  /-- The symbol that it stands for without text. -/
  missing : Option SymbolId := none
  extra : Bool := false
  /-- It is an error or has one below it. -/
  hasError : Bool := false
  deriving DecidableEq, Repr, Inhabited

/-- A node in its tree. -/
structure NodeData where
  info : NodeInfo
  parent : Option NodeId
  /-- Its place among the children of its parent. -/
  index : Nat
  /-- Where its children begin and end among the edges of the tree. -/
  edges : Nat × Nat := (0, 0)
  deriving DecidableEq, Repr, Inhabited

/-- A syntax tree with the text that it was made from. -/
structure Tree where
  table : ParseTable
  source : String
  nodes : Array NodeData
  /-- The children of all nodes, those of one node in a row. -/
  edges : Array NodeId
  /-- The subtree that the nodes were made from. -/
  green : Subtree
  lines : LineIndex
  stats : ReuseStats

namespace Tree

/-- Trees are equal when their text, their nodes and their edges are. -/
instance : BEq Tree :=
  ⟨fun a b => a.source == b.source && a.nodes == b.nodes && a.edges == b.edges⟩

def root : NodeId := 0

def node? (t : Tree) (id : NodeId) : Option NodeData := t.nodes[id]?

def info (t : Tree) (id : NodeId) : NodeInfo := ((t.node? id).map (·.info)).getD default

def children (t : Tree) (id : NodeId) : List NodeId :=
  match t.node? id with
  | some node => (t.edges.extract node.edges.1 node.edges.2).toList
  | none => []

def hasError (t : Tree) : Bool := 0 < t.green.errorCount

/-- The ranges of all leaves with their padding. -/
def leafSpans (t : Tree) : List (Nat × Nat) := t.green.leafSpans 0

/-- The text put together from its leaves and what follows the last. -/
def render (t : Tree) : String :=
  let spans := t.leafSpans
  let stop := (spans.getLast?.map Prod.snd).getD 0
  String.join (spans.map fun s => Text.slice t.source s.1 s.2)
    ++ Text.slice t.source stop t.source.utf8ByteSize

end Tree

end IncrementalGlr
