import IncrementalGlr.Tree.OfSubtree

/-!
Going about in a tree: kinds and texts of nodes, their relatives, and the smallest node that covers
a range.
-/
namespace IncrementalGlr.Tree

variable (t : Tree)

/-! ## One node -/

/-- The name of a node's symbol. -/
def kindName (id : NodeId) : String := t.table.symbolName (t.info id).kind

def isError (id : NodeId) : Bool := (t.info id).kind == errorSymbol

/-- The name of the symbol that a node stands for without text. -/
def missingKind (id : NodeId) : Option String := (t.info id).missing.map t.table.symbolName

def startPoint (id : NodeId) : Point := t.lines.point (t.info id).start

def stopPoint (id : NodeId) : Point := t.lines.point (t.info id).stop

def text (id : NodeId) : String := Text.slice t.source (t.info id).start (t.info id).stop

/-- The name of the field that a node has in its parent. -/
def fieldName (id : NodeId) : Option String := (t.info id).field.map t.table.fieldName

/-- A node in a few words. -/
def describe (id : NodeId) : String :=
  let suffix := if (t.info id).missing.isSome then " (missing)" else ""
  s!"{t.kindName id} {(t.info id).start}..{(t.info id).stop}{suffix}"

/-! ## Relatives -/

def parent? (id : NodeId) : Option NodeId := (t.node? id).bind NodeData.parent

def namedChildren (id : NodeId) : List NodeId := (t.children id).filter fun c => (t.info c).named

/-- The children in the field of a name. -/
def childrenByField (id : NodeId) (name : String) : List NodeId :=
  match t.table.fieldId name with
  | some field => (t.children id).filter fun c => (t.info c).field == some field
  | none => []

def nextSibling? (id : NodeId) : Option NodeId := do
  let node ← t.node? id
  (t.children (← node.parent))[node.index + 1]?

def prevSibling? (id : NodeId) : Option NodeId := do
  let node ← t.node? id
  let siblings := t.children (← node.parent)
  if node.index = 0 then none else siblings[node.index - 1]?

/-! ## Ranges -/

/-- Whether a node covers a range. -/
def covers (start stop : Nat) (id : NodeId) : Bool :=
  (t.info id).start ≤ start && stop ≤ (t.info id).stop

/-- Goes down to the first child that covers the range, as long as there is one. -/
def narrow (start stop : Nat) : Nat → NodeId → NodeId
  | 0, id => id
  | depth + 1, id =>
    match (t.children id).find? (t.covers start stop) with
    | some child => narrow start stop depth child
    | none => id

/-- The smallest node, from `id` down, that covers a range. -/
def descendantForRange (id : NodeId) (start stop : Nat) : Option NodeId :=
  if t.covers start stop id then some (t.narrow start stop t.nodes.size id) else none

end IncrementalGlr.Tree
