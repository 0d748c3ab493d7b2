import IncrementalGlr.CommandLine.Folder
import IncrementalGlr.Grammar.Error
import IncrementalGlr.Parse.Options
import IncrementalGlr.Table.Binary
import IncrementalGlr.Text.Snippet
import IncrementalGlr.Tree.Cursor

/-!
What is shown when something is wrong: why a command fails, and the syntax errors of a tree, each
where it stands in the source.
-/
namespace IncrementalGlr.CommandLine

inductive Failure where
  | unreadable (path : String) (why : FileError)
  | unwritable (path : String) (why : FileError)
  /-- The file is neither a table nor a grammar. -/
  | noGrammar (path : String) (why : GrammarError)
  /-- What is wrong with the grammar, ready to be shown. -/
  | diagnostics (text : String)
  | table (why : TableError)
  | parse (why : ParseError)
  | noSource
  | malformedEdit (text : String)
  /-- The edit does not fit a source of this length. -/
  | editRange (start stop length : Nat)
  deriving DecidableEq, Repr, Inhabited

namespace Failure

def message : Failure → String
  | unreadable path why => s!"failed to read '{path}': {why.message}"
  | unwritable path why => s!"failed to write '{path}': {why.message}"
  | noGrammar path why =>
    let reason := why.message.getD "malformed grammar"
    s!"'{path}' is neither a compiled table nor a grammar: {reason}"
  | diagnostics text => text
  | table why => "invalid table: " ++ why.message
  | parse why => why.message
  | noSource => "source is required: use a SOURCE argument or -s/--source"
  | malformedEdit text => s!"invalid edit '{text}': expected START:OLD_END:TEXT"
  | editRange start stop length => s!"edit {start}..{stop} does not fit the {length}-byte source"

/-- What is written when a command fails. -/
def report : Failure → String
  | diagnostics text => text
  | f => s!"error: {f.message}\n"

end Failure

end IncrementalGlr.CommandLine

/-! ## Syntax errors -/

namespace IncrementalGlr.Tree

/-- A number with a noun, which takes an `s` unless there is one. -/
def counted (n : Nat) (noun : String) : String := if n = 1 then s!"1 {noun}" else s!"{n} {noun}s"

/-- The excerpt that shows one error. -/
def errorSnippet (t : Tree) (origin : String) (id : NodeId) : Snippet :=
  let info := t.info id
  let (title, label) := match t.missingKind id with
    | some kind => (s!"missing {kind}", s!"expected {kind} here")
    | none =>
      let p := t.startPoint id
      (s!"unexpected input at {p.row + 1}:{p.column + 1}",
        counted (info.stop - info.start) "byte" ++ " skipped")
  { severity := .error
    title, label
    source := t.source
    path := some origin
    start := info.start
    stop := info.stop }

/-- All errors, one below the other. -/
def renderErrors (t : Tree) (origin : String) (coloured : Bool) : String :=
  String.join (t.errors.map fun id => (t.errorSnippet origin id).render coloured ++ "\n")

/-- How many errors there are. -/
def errorSummary (t : Tree) : String :=
  if t.errors.isEmpty then "no syntax errors" else counted t.errors.length "syntax error"

end IncrementalGlr.Tree
