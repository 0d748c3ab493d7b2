import IncrementalGlr.CommandLine.Run

/-!
The program: reads the command line and the files that it names, and shows what the command says.
-/
open IncrementalGlr IncrementalGlr.CommandLine

namespace IncrementalGlr.CommandLine

/-- How the program is used. -/
def usageText : String :=
  "Usage: compile GRAMMAR [-o FILE]\n"
    ++ "       check GRAMMAR [--strict]\n"
    ++ "       dump GRAMMAR\n"
    ++ "       parse GRAMMAR (SOURCE | -s TEXT) [--errors] [--trace] [-v]\n"
    ++ "         [--edit START:OLD_END:TEXT] [--fuel N] [--max-heads N] [--max-insertions N]\n"
    ++ "Every command takes --color auto|always|never.\n"

/-- What the operating system says about a file. -/
def fileError : IO.Error → FileError
  | .noFileOrDirectory .. => .notFound
  | .inappropriateType .. => .isFolder
  | e => .other (toString e)

/-- Reads one file. -/
def readFile (path : String) : IO (Except FileError ByteArray) := do
  try
    return .ok (← IO.FS.readBinFile path)
  catch e => return .error (fileError e)

/-- Reads the files that an invocation names. -/
def gather (i : Invocation) : IO Inputs := do
  let files ← i.files.mapM fun path => do return (path, ← readFile path)
  let standardInput ← if i.files.drop 1 = ["-"] then do
      (← IO.getStdin).readBinToEnd
    else pure .empty
  return { file := fun path => (files.lookup path).getD (.error .notFound), standardInput }

/-- Does what a command wants. -/
def perform (e : Effect) : IO (Except Failure Output) := do
  match e.file with
  | none => return .ok e.output
  | some (path, bytes) =>
    try
      IO.FS.writeBinFile path bytes
      return .ok e.output
    catch why => return .error (.unwritable path (fileError why))

/-- Runs a command line. -/
def execute (arguments : List String) : IO UInt32 := do
  match Invocation.ofArguments arguments with
  | .error .help =>
    IO.print usageText
    return 0
  | .error _ =>
    IO.eprint usageText
    return 2
  | .ok i =>
    let result ← match i.run (← gather i) with
      | .error why => pure (.error why)
      | .ok e => perform e
    match result with
    | .ok output =>
      IO.print output.stdout
      IO.eprint output.stderr
      return 0
    | .error why =>
      IO.eprint why.report
      return 1

end IncrementalGlr.CommandLine

def main (arguments : List String) : IO UInt32 := execute arguments
