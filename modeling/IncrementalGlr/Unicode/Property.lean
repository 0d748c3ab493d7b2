import IncrementalGlr.Unicode.GeneralCategory
import IncrementalGlr.Unicode.Script
import IncrementalGlr.Unicode.BinaryProperty
import IncrementalGlr.Unicode.Age
import IncrementalGlr.Unicode.Segmentation

/-!
Looking up properties by name. Names are compared loosely: case, blanks, hyphens, underscores and
a leading "is" do not count.
-/
namespace IncrementalGlr.Unicode

/-- The form of a name in which names are compared. -/
def looseName (name : String) : String :=
  let plain := fun (cs : List Char) =>
    (cs.filter fun c => c.toNat < 0x80 && c ≠ ' ' && c ≠ '_' && c ≠ '-').map Char.toLower
  match name.toList with
  | a :: b :: rest =>
    if a.toLower = 'i' ∧ b.toLower = 's' then
      let rest := plain rest
      -- The name "isc" is one of its own and not "c" with a prefix.
      if rest = ['c'] then "isc" else String.ofList rest
    else String.ofList (plain (a :: b :: rest))
  | short => String.ofList (plain short)

/-- The categories that make up a group of categories. -/
def categoryGroups : List (List String × List String) :=
  [(["l", "letter"], ["lu", "ll", "lt", "lm", "lo"]),
   (["lc", "casedletter"], ["lu", "ll", "lt"]),
   (["m", "mark", "combiningmark"], ["mn", "mc", "me"]),
   (["n", "number"], ["nd", "nl", "no"]),
   (["p", "punctuation", "punct"], ["pc", "pd", "ps", "pe", "pi", "pf", "po"]),
   (["s", "symbol"], ["sm", "sc", "sk", "so"]),
   (["z", "separator"], ["zs", "zl", "zp"])]

/-- Every assigned character. -/
def assigned : CodeSet := .unions (generalCategories.map fun row => .ofText row.2)

/-- The characters of a general category or of a group of categories. -/
def category? (name : String) : Option CodeSet :=
  if name = "any" then some .all
  else if name = "assigned" then some assigned
  else if name = "ascii" then some (.range 0 0x7F)
  else if name = "cn" ∨ name = "unassigned" then some assigned.complement
  else if name = "c" ∨ name = "other" then
    some (.unions [assigned.complement, (generalCategories.find? "cc").getD .empty,
      (generalCategories.find? "cf").getD .empty, (generalCategories.find? "co").getD .empty])
  else match List.find? (fun g => g.1.contains name) categoryGroups with
    | some g => some (.unions (g.2.filterMap generalCategories.find?))
    | none => generalCategories.find? name

/-- The characters of a script. -/
def script? (name : String) : Option CodeSet := scripts.find? name

/-- The characters used with a script. -/
def scriptExtension? (name : String) : Option CodeSet :=
  (scriptExtensions.find? name).orElse fun _ => script? name

/-- The rows up to the first that carries the name, that one included. -/
def rowsUpTo (name : String) : Table → Option Table
  | [] => none
  | row :: rest => if row.1.contains name then some [row] else (rowsUpTo name rest).map (row :: ·)

/-- The characters that a version has, whichever version added them. -/
def age? (version : String) : Option CodeSet :=
  (rowsUpTo version ages).map fun rows => .unions (rows.map fun row => .ofText row.2)

/-- The characters that have a property given by one name: a binary property, a general category
or a script. Three names of properties that are not binary mean categories here. -/
def property? (name : String) : Option CodeSet :=
  let name := looseName name
  let binary := if name = "cf" ∨ name = "sc" ∨ name = "lc" then none
    else binaryProperties.find? name
  (binary.orElse fun _ => category? name).orElse fun _ => script? name

/-- The characters for which the named property has the named value. -/
def propertyValue? (name value : String) : Option CodeSet :=
  let name := looseName name
  let value := looseName value
  if name = "gc" ∨ name = "generalcategory" then category? value
  else if name = "sc" ∨ name = "script" then script? value
  else if name = "scx" ∨ name = "scriptextensions" then scriptExtension? value
  else if name = "age" then age? value
  else if name = "gcb" ∨ name = "graphemeclusterbreak" then graphemeBreaks.find? value
  else if name = "wb" ∨ name = "wordbreak" then wordBreaks.find? value
  else if name = "sb" ∨ name = "sentencebreak" then sentenceBreaks.find? value
  else none

end IncrementalGlr.Unicode
