/-!
Command lines. A command line names a command and gives settings, as options or by position. The
value of a setting is checked when the next setting begins, or at the end, so that a wrong value is
reported after an unknown option directly behind it.
-/
namespace IncrementalGlr.CommandLine

/-- What can be set on a command line. -/
inductive Setting where
  /-- The file of the grammar or table. -/
  | grammar
  /-- The file of the text to parse. -/
  | source
  /-- The text to parse itself. -/
  | text
  /-- The file to write. -/
  | output
  | colour
  | strict
  | errors
  | trace
  | verbose
  | edit
  | fuel
  | maxHeads
  | maxInsertions
  deriving DecidableEq, Repr, Inhabited

/-- What a setting takes. -/
inductive ValueKind where
  /-- Nothing; given twice it is an error. -/
  | nothing
  /-- Nothing; it counts how often it is given. -/
  | repeatable
  | text
  | path
  | word (choices : List String)
  /-- A number below the limit, which may have a plus sign in front. -/
  | natural (limit : Nat)
  /-- A number from zero up to the limit, which may have either sign in front. -/
  | integer (limit : Nat)
  deriving DecidableEq, Repr, Inhabited

namespace Setting

/-- The letter of an option. -/
def letter : Setting → Option Char
  | text => some 's'
  | output => some 'o'
  | verbose => some 'v'
  | _ => none

/-- The name of an option. -/
def name : Setting → Option String
  | grammar | source | verbose => none
  | text => some "source"
  | output => some "output"
  | colour => some "color"
  | strict => some "strict"
  | errors => some "errors"
  | trace => some "trace"
  | edit => some "edit"
  | fuel => some "fuel"
  | maxHeads => some "max-heads"
  | maxInsertions => some "max-insertions"

def kind : Setting → ValueKind
  | grammar | source | output => .path
  | text | edit => .text
  | colour => .word ["auto", "always", "never"]
  | strict | errors | trace => .nothing
  | verbose => .repeatable
  | fuel | maxInsertions => .integer (Nat.pow 2 32)
  | maxHeads => .natural (Nat.pow 2 64)

def takesValue (s : Setting) : Bool :=
  match s.kind with
  | .nothing | .repeatable => false
  | _ => true

end Setting

/-- The commands. -/
inductive Command where
  | compile
  | check
  | dump
  | parse
  deriving DecidableEq, Repr, Inhabited

namespace Command

def all : List Command := [.compile, .check, .dump, .parse]

def name : Command → String
  | compile => "compile"
  | check => "check"
  | dump => "dump"
  | parse => "parse"

def named? (name : String) : Option Command := all.find? fun c => c.name == name

/-- The options of a command. -/
def options : Command → List Setting
  | compile => [.output, .colour]
  | check => [.strict, .colour]
  | dump => [.colour]
  | parse => [.text, .errors, .trace, .verbose, .edit, .fuel, .maxHeads, .maxInsertions, .colour]

/-- The settings that a command takes by position. -/
def arguments : Command → List Setting
  | parse => [.grammar, .source]
  | _ => [.grammar]

end Command

/-- Why a command line names nothing to do. -/
inductive UsageError where
  /-- Help was asked for. -/
  | help
  /-- There is no command. -/
  | noCommand
  | unknownCommand (name : String)
  | unknownArgument (argument : String)
  | missingArgument (setting : Setting)
  | missingValue (setting : Setting)
  /-- The value is none of the words that can be chosen. -/
  | noSuchChoice (setting : Setting) (value : String)
  | malformedNumber (setting : Setting) (value : String)
  /-- An option that takes no value has one. -/
  | surplusValue (option value : String)
  | repeated (setting : Setting)
  /-- The two cannot be given together. -/
  | conflict (setting other : Setting)
  deriving DecidableEq, Repr, Inhabited

/-! ## Values -/

/-- Reads decimal digits. -/
def digits? (cs : List Char) : Option Nat :=
  if cs.isEmpty || !cs.all Char.isDigit then none
  else some (cs.foldl (fun n c => 10 * n + (c.toNat - '0'.toNat)) 0)

/-- Reads digits that may have a plus sign in front. -/
def natural? (value : String) : Option Nat :=
  match value.toList with
  | '+' :: cs => digits? cs
  | cs => digits? cs

/-- Reads digits that may have a sign in front and are not negative. -/
def nonNegative? (value : String) : Option Nat :=
  match value.toList with
  | '-' :: cs => (digits? cs).filter (· == 0)
  | _ => natural? value

/-- The number that is the value of a setting. -/
def Setting.number? (s : Setting) (value : String) : Option Nat :=
  match s.kind with
  | .natural limit => (natural? value).filter (· < limit)
  | .integer limit => (nonNegative? value).filter (· < limit)
  | _ => none

/-- What is wrong with a value. -/
def Setting.fault? (s : Setting) (value : String) : Option UsageError :=
  match s.kind with
  | .nothing | .repeatable | .text => none
  | .path => if value.isEmpty then some (.missingValue s) else none
  | .word choices => if choices.contains value then none else some (.noSuchChoice s value)
  | .natural _ | .integer _ =>
    if (s.number? value).isSome then none else some (.malformedNumber s value)

/-! ## Reading -/

/-- How far a command line has been read. -/
structure Reading where
  /-- The settings whose values have been checked. -/
  given : List (Setting × String) := []
  /-- The last setting, if its value is not checked; it may still be without one. -/
  pending : Option (Setting × Option String) := none
  /-- The settings still to be given by position. -/
  expected : List Setting
  deriving DecidableEq, Repr, Inhabited

namespace Reading

/-- Takes down a setting with its value. -/
def record (r : Reading) (s : Setting) (value : String) : Except UsageError Reading :=
  if s.kind ≠ .repeatable ∧ r.given.any (·.1 == s) then .error (.repeated s)
  else match s.fault? value with
    | some fault => .error fault
    | none => .ok { r with given := r.given ++ [(s, value)] }

/-- Takes down the setting that is pending. -/
def settle (r : Reading) : Except UsageError Reading :=
  match r.pending with
  | none => .ok r
  | some (s, none) => .error (.missingValue s)
  | some (s, some value) => { r with pending := none }.record s value

/-- Begins with a setting that has its value behind it, or none. -/
def begin (r : Reading) (s : Setting) (value : Option String) : Except UsageError Reading := do
  let r ← r.settle
  match value with
  | some value => r.record s value
  | none => if s.takesValue then return { r with pending := some (s, none) } else r.record s ""

/-- Takes an argument by position. -/
def place (r : Reading) (argument : String) : Except UsageError Reading :=
  match r.expected with
  | [] => .error (.unknownArgument argument)
  | s :: rest => do
    let r ← r.settle
    return { r with pending := some (s, some argument), expected := rest }

/-- Reads the letters behind a dash. -/
def letters (c : Command) (r : Reading) : List Char → Except UsageError Reading
  | [] => .ok r
  | 'h' :: _ => do
    let _ ← r.settle
    throw .help
  | l :: rest =>
    match c.options.find? fun s => s.letter == some l with
    | none => .error (.unknownArgument ("-" ++ String.singleton l))
    | some s =>
      if s.takesValue then
        match rest with
        | [] => r.begin s none
        | '=' :: value => r.begin s (some (String.ofList value))
        | value => r.begin s (some (String.ofList value))
      else do
        let r ← r.begin s none
        letters c r rest

/-- Splits what stands behind two dashes at its first equals sign. -/
def nameAndValue (cs : List Char) : String × Option String :=
  let name := String.ofList (cs.takeWhile (· ≠ '='))
  match cs.dropWhile (· ≠ '=') with
  | [] => (name, none)
  | _ :: value => (name, some (String.ofList value))

/-- Reads the name behind two dashes. -/
def named (c : Command) (r : Reading) (cs : List Char) : Except UsageError Reading :=
  let (name, value) := nameAndValue cs
  if name = "help" then
    match value with
    | some value => .error (.surplusValue name value)
    | none => do
      let _ ← r.settle
      throw .help
  else match c.options.find? fun s => s.name == some name with
    | none => .error (.unknownArgument ("--" ++ name))
    | some s =>
      match value with
      | some value => if s.takesValue then r.begin s value else .error (.surplusValue name value)
      | none => r.begin s none

/-- Takes an argument that is no option: a value if one is awaited, or else by position. -/
def plain (r : Reading) (argument : String) : Except UsageError Reading :=
  match r.pending with
  | some (s, none) => .ok { r with pending := some (s, some argument) }
  | _ => r.place argument

/-- Reads all arguments. Behind two dashes alone there are no options. -/
def arguments (c : Command) (r : Reading) : List String → Except UsageError Reading
  | [] => r.settle
  | "--" :: rest => do (← rest.foldlM place r).settle
  | argument :: rest => do
    let r ← match argument.toList with
      | '-' :: '-' :: cs => r.named c cs
      | '-' :: l :: ls => r.letters c (l :: ls)
      | _ => r.plain argument
    r.arguments c rest

def value? (r : Reading) (s : Setting) : Option String := r.given.lookup s

def has (r : Reading) (s : Setting) : Bool := r.given.any (·.1 == s)

def number? (r : Reading) (s : Setting) : Option Nat := (r.value? s).bind s.number?

def count (r : Reading) (s : Setting) : Nat := r.given.countP (·.1 == s)

end Reading

/-! ## What is to be done -/

/-- A text to parse, and how. -/
structure ParseRequest where
  grammar : String
  source : Option String
  text : Option String
  errors : Bool
  trace : Bool
  verbose : Nat
  edit : Option String
  fuel : Option Nat
  maxHeads : Option Nat
  maxInsertions : Option Nat
  coloured : Bool
  deriving DecidableEq, Repr, Inhabited

/-- A command with its settings. -/
inductive Invocation where
  | compile (grammar : String) (output : Option String) (coloured : Bool)
  | check (grammar : String) (strict coloured : Bool)
  | dump (grammar : String) (coloured : Bool)
  | parse (request : ParseRequest)
  deriving DecidableEq, Repr, Inhabited

/-- The invocation that settings make up. Output is coloured only if that is always wanted. -/
def Reading.invocation (c : Command) (r : Reading) (grammar : String) : Invocation :=
  let coloured := r.value? .colour == some "always"
  match c with
  | .compile => .compile grammar (r.value? .output) coloured
  | .check => .check grammar (r.has .strict) coloured
  | .dump => .dump grammar coloured
  | .parse => .parse {
      grammar
      source := r.value? .source
      text := r.value? .text
      errors := r.has .errors
      trace := r.has .trace
      verbose := r.count .verbose
      edit := r.value? .edit
      fuel := r.number? .fuel
      maxHeads := r.number? .maxHeads
      maxInsertions := r.number? .maxInsertions
      coloured }

/-- Reads the arguments of a command. -/
def Command.invocation (c : Command) (arguments : List String) : Except UsageError Invocation := do
  let r ← Reading.arguments c { expected := c.arguments } arguments
  if r.has .source && r.has .text then throw (.conflict .text .source)
  match r.value? .grammar with
  | none => throw (.missingArgument .grammar)
  | some grammar => return r.invocation c grammar

/-- What the words behind `help` lead to. -/
def helpFor : List String → UsageError
  | [] => .help
  | name :: rest =>
    if (Command.named? name).isNone && name != "help" then .unknownCommand name
    else match rest with
      | [] => .help
      | name :: _ => .unknownCommand name

/-- Reads a command line. -/
def Invocation.ofArguments : List String → Except UsageError Invocation
  | [] => .error .noCommand
  | "help" :: rest => .error (helpFor rest)
  | "--" :: rest =>
    match rest with
    | [] => .error .noCommand
    | name :: _ =>
      if (Command.named? name).isSome || name == "help" then .error (.unknownArgument name)
      else .error (.unknownCommand name)
  | argument :: rest =>
    match Command.named? argument with
    | some c => c.invocation rest
    | none =>
      match argument.toList with
      | '-' :: '-' :: cs =>
        match Reading.nameAndValue cs with
        | ("help", none) => .error .help
        | ("help", some value) => .error (.surplusValue "help" value)
        | (name, _) => .error (.unknownArgument ("--" ++ name))
      | '-' :: 'h' :: _ => .error .help
      | '-' :: l :: _ => .error (.unknownArgument ("-" ++ String.singleton l))
      | _ => .error (.unknownCommand argument)

end IncrementalGlr.CommandLine
