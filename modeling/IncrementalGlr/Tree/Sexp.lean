import IncrementalGlr.Text.Quoted
import IncrementalGlr.Tree.Navigation

/-!
Trees in parentheses. Only named nodes are written, except that the node asked for is written in any
case. The name of its field stands before a child, and symbols that were made up are marked.
-/
namespace IncrementalGlr.Tree

variable (t : Tree)

/-- What a node is called. -/
def sexpName (id : NodeId) : String :=
  match t.missingKind id with
  | some kind => "MISSING " ++ kind
  | none => if (t.info id).named then t.kindName id else "\"" ++ t.kindName id ++ "\""

/-- A node and what is below it, to the given depth. -/
def sexpTo : Nat → NodeId → String
  | 0, id => "(" ++ t.sexpName id ++ ")"
  | depth + 1, id =>
    let child (c : NodeId) : String :=
      let field := ((t.fieldName c).map (· ++ ": ")).getD ""
      " " ++ field ++ sexpTo depth c
    "(" ++ t.sexpName id ++ String.join ((t.namedChildren id).map child) ++ ")"

/-- A node and what is below it. -/
def sexp (id : NodeId) : String := t.sexpTo t.nodes.size id

/-- A tree in a few words. -/
def summary : String :=
  let name := Text.quoted t.table.name
  let sexp := Text.quoted (t.sexp root)
  "Tree \x7b " ++ s!"language: {name}, nodes: {t.nodes.size}, sexp: {sexp}" ++ " \x7d"

end IncrementalGlr.Tree
