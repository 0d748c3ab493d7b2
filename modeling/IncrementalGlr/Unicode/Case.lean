import IncrementalGlr.Unicode.CodeSet
import IncrementalGlr.Unicode.CaseFolding

/-!
Sets closed under case: with every character the ones that differ from it only by case.
-/
namespace IncrementalGlr.Unicode

/-- Reads classes written as numbers joined by equals signs: `n` holds the digits read so far,
`members` the numbers of the class that is open, last first. -/
def readClasses (n : Nat) (members : List Nat) : List Char → List (List Nat)
  | [] => [(n :: members).reverse]
  | c :: rest =>
    match CodeSet.hexDigit? c with
    | some d => readClasses (n * 16 + d) members rest
    | none =>
      if c = '=' then readClasses 0 (n :: members) rest
      else if n = 0 then readClasses 0 members rest
      else (n :: members).reverse :: readClasses 0 [] rest

/-- The classes of characters that are equal up to case. -/
def caseClasses : List (List Nat) := readClasses 0 [] caseClassText.toList

namespace CodeSet

/-- The set with all characters added that differ only by case from a member. -/
def foldCase (s : CodeSet) : CodeSet :=
  let added := caseClasses.filter fun cls => cls.any s.contains
  ofRanges (s.ranges ++ added.flatMap fun cls => cls.map fun c => (c, c))

/-- The same for the letters of ASCII only. -/
def foldAsciiCase (s : CodeSet) : CodeSet :=
  let pairs := (List.range 26).map fun i => (0x41 + i, 0x61 + i)
  let added := pairs.filter fun p => s.contains p.1 || s.contains p.2
  ofRanges (s.ranges ++ added.flatMap fun p => [(p.1, p.1), (p.2, p.2)])

end CodeSet

end IncrementalGlr.Unicode
