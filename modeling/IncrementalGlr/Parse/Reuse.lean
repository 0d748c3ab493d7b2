import IncrementalGlr.Parse.Subtree
import IncrementalGlr.Text.Edit

/-!
Reusing subtrees after an edit. Outside of the replaced text every offset of the new text stands for
one of the old text. The old subtrees that begin there and were built without a look at the
replaced text are candidates to be taken over whole, the outermost first.
-/
namespace IncrementalGlr

/-- What was taken over from an old tree. -/
structure ReuseStats where
  nodes : Nat := 0
  bytes : Nat := 0
  deriving DecidableEq, Repr, Inhabited

/-- The old tree and how its text was changed. -/
structure ReuseCursor where
  root : Subtree
  edit : Edit
  deriving Repr, Inhabited

namespace ReuseCursor

/-- The old offset of a new one, unless it lies in the replacement. -/
def oldOffset (edit : Edit) (position : Nat) : Option Nat :=
  if position < edit.start then some position
  else if edit.newEnd ≤ position then some ((position : Int) - edit.delta).toNat
  else none

/-- Whether neither a subtree at `start` nor what was looked at behind it was touched. -/
def intact (edit : Edit) (t : Subtree) (start : Nat) : Bool :=
  !edit.touches start (start + t.total + t.info.lookahead)

mutual

/-- The intact subtrees below a node at `offset` that begin at `target`. -/
def candidatesIn (edit : Edit) (target offset : Nat) : Subtree → List Subtree
  | .mk _ children => candidatesAmong edit target offset children

/-- The intact subtrees among children at `offset`, and below them, that begin at `target`. The
search goes on in the first child that covers the target. -/
def candidatesAmong (edit : Edit) (target offset : Nat) : List Subtree → List Subtree
  | [] => []
  | t :: rest =>
    if offset + t.total ≤ target || t.total == 0 then
      candidatesAmong edit target (offset + t.total) rest
    else if target < offset then []
    else
      let below := candidatesIn edit target offset t
      if offset == target && intact edit t offset then t :: below else below

end

/-- The subtrees that may be taken over at an offset of the new text, the outermost first. -/
def candidates (r : ReuseCursor) (position : Nat) : List Subtree :=
  match oldOffset r.edit position with
  | none => []
  | some target => candidatesIn r.edit target 0 r.root

/-- Whether a subtree can stand for the parse that begins with `token` in a state: it was built from
that state, beginning with that token, and nothing but its text had a part in it. -/
def reusable (t : Subtree) (token : Token) (state : StateId) : Bool :=
  let first := t.firstLeaf
  t.errorCount == 0 && !t.info.fragile && !t.extra && !t.children.isEmpty && t.size != 0
    && t.info.parseState == some state
    && first.info.missing.isNone && first.symbol == token.symbol
    && first.padding == token.padding && first.size == token.length

end ReuseCursor

end IncrementalGlr
