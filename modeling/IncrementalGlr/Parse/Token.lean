import IncrementalGlr.Symbol

/-!
Tokens: the pieces that a lexer cuts a text into. Before a token stands padding, which belongs to
it. A token also remembers how far the lexer looked, for text further on may have decided where the
token ends.
-/
namespace IncrementalGlr

/-- A piece of text with its symbol. All offsets count from the start of the text. -/
structure Token where
  symbol : SymbolId
  /-- Where the padding before the token begins. -/
  paddingStart : Nat
  start : Nat
  stop : Nat
  /-- The end of what was looked at. -/
  lookaheadEnd : Nat
  deriving DecidableEq, Repr, Inhabited

namespace Token

/-- The number of bytes of padding. -/
def padding (t : Token) : Nat := t.start - t.paddingStart

/-- The number of bytes without padding. -/
def length (t : Token) : Nat := t.stop - t.start

def isEmpty (t : Token) : Bool := t.start == t.stop

end Token

end IncrementalGlr
