import IncrementalGlr.Text.Snippet
import IncrementalGlr.Unicode.ShorthandClass

/-!
Diagnostics as text. A diagnostic about a rule is shown at the place where the rule's key stands in
the text of the grammar, if that text is given and the key is found in it.
-/
namespace IncrementalGlr

/-- Whether a colon follows, blanks aside. -/
def colonFollows : List Char → Bool
  | [] => false
  | c :: rest => c == ':' || (Unicode.blanks.contains c.toNat && colonFollows rest)

/-- Where `needle` first stands before a colon in `cs`, which begin at `offset`; occurrences
without a colon are passed over whole. -/
def findKey (needle : List Char) (offset : Nat) (cs : List Char) : Option Nat :=
  match cs with
  | [] => none
  | c :: rest =>
    if _found : needle ≠ [] ∧ needle.isPrefixOf (c :: rest) then
      let after := (c :: rest).drop needle.length
      if colonFollows after then some offset
      else findKey needle (offset + Text.byteLength needle) after
    else findKey needle (offset + c.utf8Size) rest
termination_by cs.length
decreasing_by
  · have : 0 < needle.length := List.length_pos_iff.2 _found.1
    simp only [List.length_drop, List.length_cons]
    omega
  · simp

/-- Where the key of a rule stands in the text of a grammar, as the offsets of its two ends. -/
def ruleSpan (source rule : String) : Option (Nat × Nat) :=
  let needle := "\"" ++ rule ++ "\""
  (findKey needle.toList 0 source.toList).map fun start => (start, start + needle.utf8ByteSize)

/-- The text of a grammar, which diagnostics are shown in. -/
structure DiagnosticPrinter where
  source : Option String := none
  path : Option String := none
  coloured : Bool := false
  deriving Repr, Inhabited

namespace DiagnosticPrinter

/-- The excerpt that shows a diagnostic, if its rule is found. -/
def snippet (p : DiagnosticPrinter) (d : Diagnostic) : Option Snippet := do
  let source ← p.source
  let rule ← d.rule
  let (start, stop) ← ruleSpan source rule
  return {
    severity := d.severity
    title := d.message
    source, path := p.path, start, stop
    label := s!"rule `{rule}`" }

/-- One diagnostic, as an excerpt or as a line. -/
def renderOne (p : DiagnosticPrinter) (d : Diagnostic) : String :=
  match p.snippet d with
  | some s => s.render p.coloured ++ "\n"
  | none => d.render ++ "\n"

/-- All diagnostics, an empty line between them. -/
def render (p : DiagnosticPrinter) (ds : List Diagnostic) : String :=
  "\n".intercalate (ds.map p.renderOne)

end DiagnosticPrinter

end IncrementalGlr
