import IncrementalGlr.Diagnostic.Basic
import IncrementalGlr.Grammar.Basic

/-!
Numbers for named precedences. Every ordering of a grammar lists its entries from the strongest to
the weakest. An entry's number is the length of the longest chain of entries, each listed right
before the next, that begins with it; so an entry has a greater number than all that follow it. The
chains are found by a search into the depth, which deals with every entry once. When it comes back to
an entry that it is under way from, the orderings contradict each other.
-/
namespace IncrementalGlr

/-- The entries of all orderings and the number of each. -/
structure Levels where
  values : List (PrecedenceEntry × Nat)
  /-- Two orderings disagree. -/
  contradictory : Bool
  deriving DecidableEq, Repr, Inhabited

namespace Levels

/-! ## The search -/

/-- How far the search has come with an entry. -/
inductive Mark where
  | fresh
  /-- Chains that begin with it are being followed. -/
  | active
  | done
  deriving DecidableEq, Repr, Inhabited

/-- A search that is under way. Entries are numbered. -/
structure Search where
  marks : Array Mark
  values : Array Nat
  /-- It came back to an entry that it was under way from. -/
  cycle : Bool := false
  deriving DecidableEq, Repr, Inhabited

namespace Search

def start (count : Nat) : Search := ⟨.replicate count .fresh, .replicate count 0, false⟩

def markOf (s : Search) (node : Nat) : Mark := (s.marks[node]?).getD .done

def valueOf (s : Search) (node : Nat) : Nat := (s.values[node]?).getD 0

def enter (s : Search) (node : Nat) : Search := { s with marks := s.marks.setIfInBounds node .active }

def leave (s : Search) (node value : Nat) : Search :=
  { s with
    marks := s.marks.setIfInBounds node .done
    values := s.values.setIfInBounds node value }

/-- The length of the longest chain that begins with an entry. No chain that is being followed is longer
than there are entries, which bounds the depth. -/
def visit (next : Nat → List Nat) : Nat → Nat → Search → Nat × Search
  | 0, _, s => (0, s)
  | depth + 1, node, s =>
    match s.markOf node with
    | .done => (s.valueOf node, s)
    | .active => (0, { s with cycle := true })
    | .fresh =>
      let (value, s) := (next node).foldl (fun (value, s) after =>
        let (length, s) := visit next depth after s
        (max value (length + 1), s)) (1, s.enter node)
      (value, s.leave node value)

/-- Visits all entries. -/
def ofNext (next : Nat → List Nat) (count : Nat) : Search :=
  (List.range count).foldl (fun s node => (visit next (count + 1) node s).2) (start count)

end Search

/-! ## Orderings -/

/-- The pairs of neighbours of a list. -/
def neighbours {α : Type} : List α → List (α × α)
  | a :: b :: rest => (a, b) :: neighbours (b :: rest)
  | _ => []

/-- The entries of all orderings, each of them once. -/
def entries (orderings : List (List PrecedenceEntry)) : List PrecedenceEntry :=
  orderings.flatten.eraseDups

/-- The numbers of the entries that are listed right after the entry of a number. -/
def successors (orderings : List (List PrecedenceEntry)) (entries : List PrecedenceEntry)
    (node : Nat) : List Nat :=
  match entries[node]? with
  | some e => ((orderings.flatMap neighbours).filter (·.1 = e)).map fun pair => entries.idxOf pair.2
  | none => []

/-- The search through the entries of all orderings. -/
def searched (orderings : List (List PrecedenceEntry)) : Search :=
  let entries := entries orderings
  .ofNext (successors orderings entries) entries.length

/-- The numbers of all entries of the orderings. -/
def ofOrderings (orderings : List (List PrecedenceEntry)) : Levels :=
  let found := searched orderings
  ⟨(entries orderings).zip found.values.toList, found.cycle⟩

/-- What is to be said about the orderings. -/
def reports (levels : Levels) : List Diagnostic :=
  if levels.contradictory then [{ finding := .precedenceCycle }] else []

/-- The number of an entry. -/
def ofEntry (levels : Levels) (entry : PrecedenceEntry) : Option Nat := levels.values.lookup entry

/-- The number of a named level. -/
def ofLevel (levels : Levels) (name : String) : Option Nat := levels.ofEntry (.name name)

/-- The number of a rule that is listed in an ordering. -/
def ofRule (levels : Levels) (name : String) : Option Nat := levels.ofEntry (.symbol name)

end Levels

end IncrementalGlr
