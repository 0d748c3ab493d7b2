/-!
JSON values, and what can be wrong with a JSON text. A value keeps the members of an object in the
order written, repetitions included. Numbers are kept only as far as a grammar can use them: an
integer of 64 bits has its value, every other number is just `real`.
-/
namespace IncrementalGlr.Json

/-- A JSON value. -/
inductive Value where
  | null
  | bool (b : Bool)
  | integer (n : Int)
  | real
  | string (text : String)
  | array (items : List Value)
  | object (members : List (String × Value))
  deriving Repr, Inhabited

/-- Why a JSON text was refused. -/
inductive Problem where
  /-- The text is not JSON. -/
  | malformed
  /-- The text ends inside a value. -/
  | truncated
  /-- A value is not of the kind wanted in its place. -/
  | mismatch
  | missingField (name : String)
  | duplicateField (name : String)
  | unknownVariant (name : String) (expected : List String)
  /-- A value fits none of the forms that the named type may take. -/
  | noVariant (type : String)
  deriving DecidableEq, Repr, Inhabited

/-- The three kinds of problem. -/
inductive Category where
  | malformed
  | truncated
  | data
  deriving DecidableEq, Repr, Inhabited

namespace Problem

/-- A problem of shape is one of data; the others concern the text itself. -/
def category : Problem → Category
  | malformed => .malformed
  | truncated => .truncated
  | _ => .data

/-- The names of variants as a reader lists them. -/
def listVariants : List String → String
  | [] => "there are no variants"
  | [a] => s!"expected `{a}`"
  | [a, b] => s!"expected `{a}` or `{b}`"
  | names => "expected one of " ++ String.intercalate ", " (names.map fun n => s!"`{n}`")

/-- The text of a problem whose wording does not depend on the reader. -/
def message : Problem → Option String
  | missingField name => some s!"missing field `{name}`"
  | duplicateField name => some s!"duplicate field `{name}`"
  | unknownVariant name expected => some (s!"unknown variant `{name}`, " ++ listVariants expected)
  | noVariant type => some s!"data did not match any variant of untagged enum {type}"
  | _ => none

end Problem

end IncrementalGlr.Json
