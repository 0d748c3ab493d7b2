import IncrementalGlr.Parse.Token

/-!
Subtrees: what a parser builds. A subtree knows sizes but no positions, so that one tree can share
it with another in which it stands elsewhere. It covers the padding before its first token and its
content, and remembers how much text behind it was looked at.
-/
namespace IncrementalGlr

/-- What is known of a subtree besides its children. -/
structure SubtreeInfo where
  symbol : SymbolId
  padding : Nat := 0
  /-- The number of bytes without padding. -/
  size : Nat := 0
  /-- How many bytes behind the end were looked at. -/
  lookahead : Nat := 0
  production : Option ProductionId := none
  /-- It stands between the symbols of a production and belongs to none of them. -/
  extra : Bool := false
  /-- The symbol that it stands for without text. -/
  missing : Option SymbolId := none
  /-- The number of errors in it, itself included. -/
  errorCount : Nat := 0
  dynamicPrecedence : Int := 0
  /-- It was built under circumstances that the text alone does not bring back. -/
  fragile : Bool := false
  /-- The state in which its first token was taken. -/
  parseState : Option StateId := none
  /-- The state in which the token after it was looked for. -/
  lexAfter : Option StateId := none
  deriving DecidableEq, Repr, Inhabited

/-- A subtree. -/
inductive Subtree where
  | mk (info : SubtreeInfo) (children : List Subtree)
  deriving BEq, Repr, Inhabited

namespace Subtree

def info : Subtree → SubtreeInfo
  | mk info _ => info

def children : Subtree → List Subtree
  | mk _ children => children

def symbol (t : Subtree) : SymbolId := t.info.symbol

def padding (t : Subtree) : Nat := t.info.padding

def size (t : Subtree) : Nat := t.info.size

/-- The number of bytes with padding. -/
def total (t : Subtree) : Nat := t.padding + t.size

def extra (t : Subtree) : Bool := t.info.extra

def errorCount (t : Subtree) : Nat := t.info.errorCount

def isError (t : Subtree) : Bool := t.symbol == errorSymbol

/-- The number of bytes of several subtrees. -/
def totals : List Subtree → Nat
  | [] => 0
  | t :: rest => t.total + totals rest

/-- The number of errors in several subtrees. -/
def errorCounts : List Subtree → Nat
  | [] => 0
  | t :: rest => t.errorCount + errorCounts rest

/-- The dynamic precedences of several subtrees, added up from the first to the last. -/
def dynamicPrecedences (ts : List Subtree) : Int :=
  ts.foldl (fun sum t => wrap32 (sum + t.info.dynamicPrecedence)) 0

/-! ## Building -/

/-- A token that was taken. -/
def leaf (token : Token) (extra fragile : Bool) (parseState lexAfter : StateId) : Subtree :=
  .mk {
    symbol := token.symbol
    padding := token.padding
    size := token.length
    lookahead := token.lookaheadEnd - token.stop
    extra, fragile
    parseState := some parseState
    lexAfter := some lexAfter } []

/-- A symbol that was left out before `token`, whose padding it takes over. -/
def missing (symbol : SymbolId) (token : Token) : Subtree :=
  .mk {
    symbol := errorSymbol
    padding := token.padding
    lookahead := token.lookaheadEnd - token.start
    missing := some symbol
    errorCount := 1
    fragile := true } []

/-- The end of what was looked at for subtrees that begin at `offset`, at least `least`. -/
def lookaheadEnd (least offset : Nat) : List Subtree → Nat
  | [] => least
  | t :: rest =>
    let offset := offset + t.total
    lookaheadEnd (max least (offset + t.info.lookahead)) offset rest

/-- A node over children that begin at `start`. -/
def node (symbol : SymbolId) (production : Option ProductionId) (children : List Subtree)
    (start lookaheadEnd : Nat) (dynamicPrecedence : Int) (fragile : Bool)
    (parseState : Option StateId) : Subtree :=
  let padding := (children.head?.map Subtree.padding).getD 0
  let total := totals children
  let beginsWithText := children.head?.any fun c => 0 < c.size
  .mk {
    symbol, production, padding
    size := total - padding
    lookahead := Subtree.lookaheadEnd lookaheadEnd start children - (start + total)
    errorCount := errorCounts children + (if symbol = errorSymbol then 1 else 0)
    dynamicPrecedence := wrap32 (dynamicPrecedence + dynamicPrecedences children)
    fragile := fragile || children.any (·.info.fragile)
    parseState := if beginsWithText then parseState else none
    lexAfter := (children.reverse.find? fun c => 0 < c.size).bind (·.info.lexAfter) } children

/-- An error node over what was skipped or given up. -/
def error (children : List Subtree) (start lookaheadEnd : Nat) (extra : Bool) : Subtree :=
  match node errorSymbol none children start lookaheadEnd 0 true none with
  | mk info children => mk { info with extra } children

/-- The node with more children around its own. -/
def withExtras (t : Subtree) (leading trailing : List Subtree) (start lookaheadEnd : Nat) :
    Subtree :=
  if leading.isEmpty && trailing.isEmpty then t
  else
    let own := wrap32 (t.info.dynamicPrecedence - dynamicPrecedences t.children)
    node t.symbol t.info.production (leading ++ t.children ++ trailing) start lookaheadEnd own
      t.info.fragile t.info.parseState

/-! ## Leaves -/

/-- The first leaf. -/
def firstLeaf : Subtree → Subtree
  | mk info [] => mk info []
  | mk _ (t :: _) => t.firstLeaf

mutual

/-- The ranges of all leaves with their padding, in order, when the subtree begins at `start`.
Leaves without text and padding have none. -/
def leafSpans (start : Nat) : Subtree → List (Nat × Nat)
  | mk info [] =>
    if 0 < info.padding + info.size then [(start, start + (info.padding + info.size))] else []
  | mk _ (t :: rest) => leafSpansOf start (t :: rest)

/-- The ranges of the leaves of subtrees one after another. -/
def leafSpansOf (start : Nat) : List Subtree → List (Nat × Nat)
  | [] => []
  | t :: rest => leafSpans start t ++ leafSpansOf (start + t.total) rest

end

end Subtree

end IncrementalGlr
