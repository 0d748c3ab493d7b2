import IncrementalGlr.Parse.Choices
import IncrementalGlr.Parse.Subtree

/-!
Stacks and heads. A stack holds the subtrees built so far, each with the state that it led to; below
the first entry the state is 0. A parser that can go on in several ways has a head with a stack of
its own for each of them.
-/
namespace IncrementalGlr

/-- A subtree on the stack. -/
structure Entry where
  /-- The state that the subtree led to. -/
  state : StateId
  subtree : Subtree
  /-- Where the subtree ends. -/
  stop : Nat
  deriving BEq, Repr, Inhabited

/-- A stack, its top first. -/
abbrev Stack := List Entry

namespace Stack

def state : Stack → StateId
  | [] => 0
  | e :: _ => e.state

/-- Where the text covered by the stack ends. -/
def stop : Stack → Nat
  | [] => 0
  | e :: _ => e.stop

def push (s : Stack) (state : StateId) (t : Subtree) : Stack := ⟨state, t, stop s + t.total⟩ :: s

/-- The subtrees from the bottom to the top. -/
def subtrees (s : Stack) : List Subtree := (s.map Entry.subtree).reverse

/-- Whether two stacks have the same states all the way down. What can follow them is then the
same. -/
def sameStates : Stack → Stack → Bool
  | [], [] => true
  | a :: as, b :: bs => a.state == b.state && sameStates as bs
  | _, _ => false

/-- Takes the extras off the top. They are returned in the order of the text. -/
def popExtras : Stack → List Subtree → List Subtree × Stack
  | [], extras => (extras, [])
  | e :: below, extras =>
    if e.subtree.extra then popExtras below (e.subtree :: extras) else (extras, e :: below)

/-- Takes `count` subtrees off the top, and the extras between them. They are put before those
already taken, in the order of the text. -/
def popChildren : Stack → Nat → List Subtree → Option (List Subtree × Stack)
  | s, 0, children => some (children, s)
  | [], _ + 1, _ => none
  | e :: below, count + 1, children =>
    popChildren below (if e.subtree.extra then count + 1 else count) (e.subtree :: children)

end Stack

/-- One way to go on. -/
structure Head where
  stack : Stack := []
  errorCost : Nat := 0
  dynamicPrecedence : Int := 0
  /-- The choices made where there were several actions, since there was last one head alone. -/
  path : Choices := []
  /-- How many symbols were made up since a token was taken. -/
  insertions : Nat := 0
  deriving BEq, Repr, Inhabited

namespace Head

def state (h : Head) : StateId := h.stack.state

/-- The better of two heads is less: it has fewer errors, then the greater dynamic precedence, then
the earlier choice where the two parted. -/
def preference (a b : Head) : Ordering :=
  (compare a.errorCost b.errorCost).then <|
    (compare b.dynamicPrecedence a.dynamicPrecedence).then <|
      a.path.compare b.path

/-- The value with the best head, the first of those that are equally good. -/
def preferredBy {α : Type} (head : α → Head) : List α → Option α
  | [] => none
  | x :: rest =>
    match preferredBy head rest with
    | none => some x
    | some best => if (head best).preference (head x) = .lt then some best else some x

/-- The best of several heads. -/
def preferred : List Head → Option Head := preferredBy id

end Head

end IncrementalGlr
