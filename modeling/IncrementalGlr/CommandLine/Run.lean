import IncrementalGlr.CommandLine.Arguments
import IncrementalGlr.CommandLine.Failure
import IncrementalGlr.Compile
import IncrementalGlr.Diagnostic.Printer
import IncrementalGlr.Grammar.Json
import IncrementalGlr.Parse.Parser
import IncrementalGlr.Table.Dump

/-!
What the commands do. A command reads files and says what is to be shown and, if it compiles, what
is to be written.
-/
namespace IncrementalGlr.CommandLine

/-- What a command can read. -/
structure Inputs where
  file : String → Except FileError ByteArray
  standardInput : ByteArray := .empty

/-- What a command shows. -/
structure Output where
  stdout : String := ""
  stderr : String := ""
  deriving DecidableEq, Repr, Inhabited

/-- What a command wants done: something to be shown, after a file has been written if there is
one. -/
structure Effect where
  file : Option (String × ByteArray) := none
  output : Output
  deriving Inhabited

/-! ## Files -/

def readBytes (inputs : Inputs) (path : String) : Except Failure ByteArray :=
  (inputs.file path).mapError (.unreadable path)

/-- Takes bytes for text. -/
def textOf (path : String) (bytes : ByteArray) : Except Failure String :=
  match String.fromUTF8? bytes with
  | some text => .ok text
  | none => .error (.unreadable path .notText)

/-- Reads a grammar; its text comes with it. -/
def readGrammar (inputs : Inputs) (path : String) : Except Failure (Grammar × String) := do
  let text ← textOf path (← readBytes inputs path)
  let grammar ← (Grammar.ofJson text).mapError (.noGrammar path)
  return (grammar, text)

/-- Shows diagnostics in the text of the grammar. -/
def renderDiagnostics (path text : String) (coloured : Bool) (ds : List Diagnostic) : String :=
  ({ source := some text, path := some path, coloured } : DiagnosticPrinter).render ds

def compileGrammar (path text : String) (coloured : Bool) (g : Grammar) :
    Except Failure (Compiled × List Diagnostic) :=
  g.compile.mapError fun ds => .diagnostics (renderDiagnostics path text coloured ds)

/-- Reads a table, or compiles the grammar that the file holds. -/
def readTable (inputs : Inputs) (path : String) (coloured : Bool) : Except Failure ParseTable := do
  let bytes := (← readBytes inputs path).toList
  if bytes.take 4 = Header.expectedMagic.toList then (ParseTable.ofBytes bytes).mapError .table
  else
    let (grammar, text) ← readGrammar inputs path
    let (compiled, _) ← compileGrammar path text coloured grammar
    (ParseTable.ofData compiled.table).mapError fun e => .table (.defect e)

/-- The text to parse: given itself, or the name of its file, or standard input for a dash. -/
def readSource (inputs : Inputs) (path text : Option String) : Except Failure String :=
  match text, path with
  | some text, _ => .ok text
  | none, none => .error .noSource
  | none, some path => do
    textOf path (← if path = "-" then pure inputs.standardInput else readBytes inputs path)

/-! ## Edits -/

/-- Splits a text at its first colon. -/
def splitColon (cs : List Char) : Option (List Char × List Char) :=
  match cs.dropWhile (· ≠ ':') with
  | [] => none
  | _ :: rest => some (cs.takeWhile (· ≠ ':'), rest)

/-- Reads `START:OLD_END:TEXT`; the text may hold colons. -/
def editOf? (spec : String) : Option (Nat × Nat × String) := do
  let (start, rest) ← splitColon spec.toList
  let (stop, text) ← splitColon rest
  let start ← (natural? (String.ofList start)).filter (· < Nat.pow 2 64)
  let stop ← (natural? (String.ofList stop)).filter (· < Nat.pow 2 64)
  if stop < start then none else some (start, stop, String.ofList text)

/-! ## Commands -/

/-- Compiles a grammar. The table goes to a file next to it unless another is named. -/
def compile (inputs : Inputs) (path : String) (output : Option String) (coloured : Bool) :
    Except Failure Effect := do
  let (grammar, text) ← readGrammar inputs path
  let (compiled, warnings) ← compileGrammar path text coloured grammar
  let output := output.getD (withExtension path "thkt")
  let summary := s!"compiled '{grammar.name}': {compiled.table.stateCount} states, "
    ++ s!"{compiled.productionCount} productions, {compiled.conflictCount} conflicts -> {output}\n"
  return {
    file := some (output, ⟨compiled.table.encode.toArray⟩)
    output := { stderr := renderDiagnostics path text coloured warnings ++ summary } }

/-- Says what is wrong with a grammar. Warnings are failures only if it is to be strict. -/
def check (inputs : Inputs) (path : String) (strict coloured : Bool) : Except Failure Output := do
  let (grammar, text) ← readGrammar inputs path
  let ds := grammar.check
  let shown := renderDiagnostics path text coloured ds
  if ds.any (·.isError) || (strict && ds.any (·.isWarning)) then throw (.diagnostics shown)
  return { stderr := shown }

/-- Shows a table. -/
def dump (inputs : Inputs) (path : String) (coloured : Bool) : Except Failure Output := do
  let table ← readTable inputs path coloured
  return { stdout := table.dump (.ofBool coloured) }

namespace ParseRequest

/-- The limits of the parse. -/
def options (r : ParseRequest) : ParseOptions :=
  let o : ParseOptions := { (default : ParseOptions) with fuel := r.fuel }
  let o := match r.maxHeads with
    | some n => o.withMaxHeads n
    | none => o
  match r.maxInsertions with
  | some n => { o with maxInsertions := n }
  | none => o

/-- How much of the trace is to be shown; asking for more of it is asking for it. -/
def verbosity (r : ParseRequest) : Option Verbosity :=
  match r.trace, r.verbose with
  | false, 0 => none
  | true, 0 => some .normal
  | _, 1 => some .verbose
  | _, _ => some .veryVerbose

/-- The trace of a parse as far as it is to be shown, and its tree. -/
def traced (r : ParseRequest) (table : ParseTable) (text : String) (outcome : ParseOutcome) :
    Except Failure (String × Tree) := do
  let tree ← outcome.result.mapError .parse
  let trace := match r.verbosity with
    | none => ""
    | some verbosity =>
      let printer : TracePrinter :=
        { table, source := text, verbosity, palette := .ofBool r.coloured }
      String.join ((printer.lines outcome.trace).map (· ++ "\n"))
  return (trace, tree)

/-- Parses the source, or parses it and then what an edit makes of it. -/
def tree (r : ParseRequest) (parser : Parser) (source : String) :
    Except Failure (String × Tree) :=
  let table := parser.language.table
  let never : Nat → Bool := fun _ => false
  match r.edit with
  | none => r.traced table source (parser.parseUnless never source)
  | some spec => do
    let (start, stop, inserted) ← match editOf? spec with
      | some e => pure e
      | none => throw (.malformedEdit spec)
    let old ← (parser.parse source).mapError .parse
    match Edit.splice source start stop inserted with
    | none => throw (.editRange start stop source.utf8ByteSize)
    | some (edit, text) =>
      let (trace, tree) ← r.traced table text (parser.reparseUnless never old edit text)
      let reused := s!"; {edit.render}: reused {tree.stats.nodes} nodes, "
        ++ s!"{tree.stats.bytes} bytes\n"
      return (trace ++ reused, tree)

/-- Where the text is from. -/
def origin (r : ParseRequest) : String := r.source.getD "<source>"

/-- Parses a text and shows its tree, and its errors if they are asked for. -/
def run (r : ParseRequest) (inputs : Inputs) : Except Failure Output := do
  let table ← readTable inputs r.grammar r.coloured
  let source ← readSource inputs r.source r.text
  let (trace, tree) ← match Parser.ofLanguage { table, scanner := none } with
    | .error why => throw (.parse why)
    | .ok parser => r.tree { parser with options := r.options } source
  let errors := if r.errors && tree.hasError then
      "\n" ++ tree.renderErrors r.origin r.coloured ++ tree.errorSummary ++ "\n"
    else ""
  return { stdout := trace ++ tree.sexp Tree.root ++ "\n" ++ errors }

end ParseRequest

/-- What an invocation wants done. -/
def Invocation.run (inputs : Inputs) : Invocation → Except Failure Effect
  | .compile path output coloured => CommandLine.compile inputs path output coloured
  | .check path strict coloured => do
    return { output := ← CommandLine.check inputs path strict coloured }
  | .dump path coloured => do
    return { output := ← CommandLine.dump inputs path coloured }
  | .parse r => do
    return { output := ← r.run inputs }

/-- The files that an invocation may read. -/
def Invocation.files : Invocation → List String
  | .compile path _ _ | .check path _ _ | .dump path _ => [path]
  | .parse r => r.grammar :: r.source.toList

/-- Runs an invocation in a folder. The folder stays as it is if the command fails. -/
def Folder.run (f : Folder) (i : Invocation) : Except Failure Output × Folder :=
  match i.run { file := f.read } with
  | .error why => (.error why, f)
  | .ok { file := none, output } => (.ok output, f)
  | .ok { file := some (path, bytes), output } =>
    match f.write path bytes with
    | .error why => (.error (.unwritable path why), f)
    | .ok f => (.ok output, f)

end IncrementalGlr.CommandLine
