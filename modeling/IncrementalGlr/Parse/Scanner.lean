import IncrementalGlr.Text.Utf8

/-!
External scanners. A scanner recognises tokens that the lexer cannot. It moves over the text
character by character from where a token may begin, seeing only the character in front of it, and
in the end says which of its tokens stands there, if any. It can mark a place as the end of the
token before it looks further; without a mark the token ends where the scanner stops.
-/
namespace IncrementalGlr

/-- What a scanner does in front of a character. -/
inductive ScanMove (State : Type) where
  /-- Moves past the character. -/
  | advance (next : State)
  /-- Stops, with the number of its token if there is one. -/
  | stop (result : Option Nat)

/-- A step of a scanner: it may mark the end of its token, and then moves or stops. -/
structure ScanStep (State : Type) where
  mark : Bool := false
  move : ScanMove State

/-- A scanner. It begins with the offset and with what tokens would be welcome there. -/
structure Scanner where
  State : Type
  begin : Nat → List Bool → State
  step : State → Option Char → ScanStep State

/-- A token that a scanner recognised. -/
structure ScanResult where
  index : Nat
  /-- Where the token ends. -/
  stop : Nat
  /-- The end of what the scanner looked at. -/
  examined : Nat
  deriving DecidableEq, Repr, Inhabited

namespace Scanner

/-- What has been recognised when a scanner stops at `offset`. -/
def finish (size offset : Nat) (marked : Option Nat) (result : Option Nat) : Option ScanResult :=
  result.map fun index =>
    let stop := marked.getD offset
    ⟨index, stop, max (min (offset + 1) size) stop⟩

/-- Moves on from `offset`. At the end of the text there is nothing to move past. -/
def runFrom (s : Scanner) (text : String) (offset : Nat) (state : s.State) (marked : Option Nat) :
    Option ScanResult :=
  if offset < text.utf8ByteSize then
    match Text.charAt? text offset with
    | none => none
    | some c =>
      let step := s.step state (some c)
      let marked := if step.mark then some offset else marked
      match step.move with
      | .stop result => finish text.utf8ByteSize offset marked result
      | .advance next => runFrom s text (offset + c.utf8Size) next marked
  else
    let step := s.step state none
    let marked := if step.mark then some offset else marked
    match step.move with
    | .stop result => finish text.utf8ByteSize offset marked result
    | .advance _ => none
termination_by text.utf8ByteSize - offset
decreasing_by
  have := c.utf8Size_pos
  omega

/-- Looks for a token at `offset`. -/
def run (s : Scanner) (text : String) (offset : Nat) (valid : List Bool) : Option ScanResult :=
  s.runFrom text offset (s.begin offset valid) none

end Scanner

end IncrementalGlr
