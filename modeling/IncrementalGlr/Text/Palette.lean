/-!
Terminal colours. A palette holds the escape sequences put around coloured output; the plain
palette holds empty strings, so that output is built in one way whether it is coloured or not.
-/
namespace IncrementalGlr

/-- Escape sequences by role: section headers and named nodes are blue, names and token text
green, conflicts and recovery red, and numbers dim. -/
structure Palette where
  blue : String
  green : String
  red : String
  dim : String
  reset : String
  deriving DecidableEq, Repr, Inhabited

namespace Palette

def coloured : Palette := ⟨"\x1b[34m", "\x1b[32m", "\x1b[31m", "\x1b[2m", "\x1b[0m"⟩

def plain : Palette := ⟨"", "", "", "", ""⟩

/-- The palette for output that is or is not coloured. -/
def ofBool (enabled : Bool) : Palette := if enabled then coloured else plain

end Palette

end IncrementalGlr
