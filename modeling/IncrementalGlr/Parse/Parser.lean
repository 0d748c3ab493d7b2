import IncrementalGlr.Parse.Run
import IncrementalGlr.Tree.Sexp

/-!
Parsers: a language with limits for its parses. A text is parsed from scratch, or after an edit with
the help of the tree of the text before.
-/
namespace IncrementalGlr

/-- A table, and what recognises its external tokens. -/
structure Language where
  table : ParseTable
  scanner : Option Scanner

/-- Answers with yes or no as words. -/
def yesNo (b : Bool) : String := if b then "true" else "false"

namespace Language

def name (l : Language) : String := l.table.name

/-- A language in a few words. -/
def summary (l : Language) : String :=
  let name := Text.quoted l.name
  let scanner := yesNo l.scanner.isSome
  "Language \x7b " ++ s!"name: {name}, states: {l.table.stateCount}, scanner: {scanner}"
    ++ " \x7d"

end Language

/-- A parser for a language whose external tokens can be recognised. -/
structure Parser where
  language : Language
  options : ParseOptions := default
  complete : language.table.data.externalCount = 0 ∨ language.scanner.isSome

/-- What a parse led to, how often it asked whether to stop, and what it did. -/
structure ParseOutcome where
  result : Except ParseError Tree
  polls : Nat := 0
  trace : List TraceEvent := []

namespace Parser

/-- A parser for a language; one with external tokens needs a scanner. -/
def ofLanguage (l : Language) : Except ParseError Parser :=
  if h : l.table.data.externalCount = 0 ∨ l.scanner.isSome then .ok { language := l, complete := h }
  else .error (.missingScanner l.name)

/-- A parser in a few words. -/
def summary (p : Parser) (cancellable : Bool) : String :=
  let fuel := match p.options.fuel with
    | some n => s!"Some({n})"
    | none => "None"
  let options := "ParseOptions \x7b " ++ s!"max_heads: {p.options.maxHeads}, "
    ++ s!"max_insertions: {p.options.maxInsertions}, exec_fuel: {fuel}" ++ " \x7d"
  "Parser \x7b " ++ s!"language: {p.language.summary}, options: {options}, "
    ++ s!"cancellable: {yesNo cancellable}" ++ " \x7d"

/-- The engine for a text. -/
def engine (p : Parser) (text : String) (reuse : Option ReuseCursor) (cancelled : Nat → Bool) :
    Engine where
  table := p.language.table
  lexer := .ofText p.language.table p.language.scanner text
  options := p.options
  reuse := reuse
  cancelled := cancelled

/-- Runs the engine on a text. -/
def runOn (p : Parser) (text : String) (reuse : Option ReuseCursor) (cancelled : Nat → Bool) :
    ParseOutcome :=
  let (result, c) := ((p.engine text reuse cancelled).run.run).run { fuel := p.options.fuel }
  { result := result.map fun root => .ofSubtree p.language.table text root c.stats
    polls := c.polls
    trace := c.trace.toList }

/-- Parses a text from scratch. It is asked before every token whether to stop. -/
def parseUnless (p : Parser) (cancelled : Nat → Bool) (text : String) : ParseOutcome :=
  p.runOn text none cancelled

/-- Parses the text that an edit made of an old tree's text, and takes over what the edit left
alone. -/
def reparseUnless (p : Parser) (cancelled : Nat → Bool) (old : Tree) (edit : Edit)
    (text : String) : ParseOutcome :=
  let oldLength := old.source.utf8ByteSize
  if edit.newTextLen oldLength = some text.utf8ByteSize then
    p.runOn text (some ⟨old.green, edit⟩) cancelled
  else { result := .error (.editConflict edit oldLength text.utf8ByteSize) }

def parse (p : Parser) (text : String) : Except ParseError Tree :=
  (p.parseUnless (fun _ => false) text).result

def reparse (p : Parser) (old : Tree) (edit : Edit) (text : String) : Except ParseError Tree :=
  (p.reparseUnless (fun _ => false) old edit text).result

end Parser

end IncrementalGlr
