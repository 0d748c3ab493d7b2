import IncrementalGlr.Tree.Navigation

/-!
Cursors: places in a tree that can be moved step by step. A cursor never leaves the node that it was
created on. With a cursor all nodes below a node are visited: it goes to the first child if there is
one, and else to the next sibling of the nearest node above that has one.
-/
namespace IncrementalGlr

/-- A place at or below a node. -/
structure TreeCursor where
  root : NodeId
  current : NodeId
  deriving DecidableEq, Repr, Inhabited

namespace TreeCursor

def ofNode (id : NodeId) : TreeCursor := ⟨id, id⟩

/-- The field of the place; the node of creation has none. -/
def fieldName (t : Tree) (c : TreeCursor) : Option String :=
  if c.current = c.root then none else t.fieldName c.current

/-- Moves to a place if there is one. Also says whether there was. -/
def moveTo (c : TreeCursor) : Option NodeId → Bool × TreeCursor
  | some id => (true, { c with current := id })
  | none => (false, c)

def firstChild (t : Tree) (c : TreeCursor) : Bool × TreeCursor :=
  c.moveTo (t.children c.current).head?

def nextSibling (t : Tree) (c : TreeCursor) : Bool × TreeCursor :=
  c.moveTo (if c.current = c.root then none else t.nextSibling? c.current)

def prevSibling (t : Tree) (c : TreeCursor) : Bool × TreeCursor :=
  c.moveTo (if c.current = c.root then none else t.prevSibling? c.current)

def parent (t : Tree) (c : TreeCursor) : Bool × TreeCursor :=
  c.moveTo (if c.current = c.root then none else t.parent? c.current)

/-- Back to the node of creation. -/
def reset (c : TreeCursor) : TreeCursor := ofNode c.root

end TreeCursor

/-- A walk over a node and all below it. -/
structure Descendants where
  cursor : TreeCursor
  done : Bool := false
  deriving DecidableEq, Repr, Inhabited

namespace Descendants

def ofNode (id : NodeId) : Descendants := { cursor := .ofNode id }

/-- Moves to the next sibling of the place, or of the nearest place above that has one; from a place
of the given depth at most. -/
def climb (t : Tree) : Nat → TreeCursor → Option TreeCursor
  | 0, _ => none
  | depth + 1, c =>
    match c.nextSibling t with
    | (true, c) => some c
    | (false, c) =>
      match c.parent t with
      | (true, c) => climb t depth c
      | (false, _) => none

/-- The node at which the walk is, and the rest of it. -/
def next (t : Tree) (d : Descendants) : Option (NodeId × Descendants) :=
  if d.done then none
  else
    match d.cursor.firstChild t with
    | (true, c) => some (d.cursor.current, { d with cursor := c })
    | (false, c) =>
      match climb t t.nodes.size c with
      | some c => some (d.cursor.current, { d with cursor := c })
      | none => some (d.cursor.current, { d with done := true })

/-- The nodes of the rest of a walk, so many at most. -/
def take (t : Tree) : Nat → Descendants → List NodeId
  | 0, _ => []
  | n + 1, d =>
    match d.next t with
    | some (id, d) => id :: take t n d
    | none => []

end Descendants

namespace Tree

/-- A node and all below it, in order. -/
def descendants (t : Tree) (id : NodeId) : List NodeId :=
  (Descendants.ofNode id).take t t.nodes.size

/-- Named error nodes: what was skipped, and what was made up. -/
def errors (t : Tree) : List NodeId :=
  (t.descendants root).filter fun id => t.isError id && (t.info id).named

end Tree

end IncrementalGlr
