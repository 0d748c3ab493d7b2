import IncrementalGlr.Codec.Basic
import IncrementalGlr.CommandLine.Arguments
import IncrementalGlr.CommandLine.Failure
import IncrementalGlr.CommandLine.Folder
import IncrementalGlr.CommandLine.Run
import IncrementalGlr.Compile
import IncrementalGlr.Diagnostic.Basic
import IncrementalGlr.Diagnostic.Printer
import IncrementalGlr.Fixpoint
import IncrementalGlr.Flat.Alternative
import IncrementalGlr.Flat.Basic
import IncrementalGlr.Flat.Draft
import IncrementalGlr.Flat.Expansion
import IncrementalGlr.Flat.OfGrammar
import IncrementalGlr.Flat.Reference
import IncrementalGlr.Grammar.Basic
import IncrementalGlr.Grammar.Binary
import IncrementalGlr.Grammar.Builder
import IncrementalGlr.Grammar.Error
import IncrementalGlr.Grammar.Json
import IncrementalGlr.Grammar.Levels
import IncrementalGlr.Json.Basic
import IncrementalGlr.Json.Number
import IncrementalGlr.Json.Printer
import IncrementalGlr.Json.Reader
import IncrementalGlr.Json.Tagged
import IncrementalGlr.Lr.Action
import IncrementalGlr.Lr.Automaton
import IncrementalGlr.Lr.First
import IncrementalGlr.Lr.Item
import IncrementalGlr.Lr.TerminalSet
import IncrementalGlr.Main
import IncrementalGlr.Parse.Choices
import IncrementalGlr.Parse.Engine
import IncrementalGlr.Parse.Lexer
import IncrementalGlr.Parse.Options
import IncrementalGlr.Parse.Parser
import IncrementalGlr.Parse.Recovery
import IncrementalGlr.Parse.Reuse
import IncrementalGlr.Parse.Run
import IncrementalGlr.Parse.Scanner
import IncrementalGlr.Parse.Simulation
import IncrementalGlr.Parse.Stack
import IncrementalGlr.Parse.Subtree
import IncrementalGlr.Parse.Token
import IncrementalGlr.Parse.Trace
import IncrementalGlr.Regex.Basic
import IncrementalGlr.Regex.Binary
import IncrementalGlr.Regex.Derivative
import IncrementalGlr.Regex.Parser
import IncrementalGlr.Regex.Pattern
import IncrementalGlr.Symbol
import IncrementalGlr.Table.Basic
import IncrementalGlr.Table.Binary
import IncrementalGlr.Table.Data
import IncrementalGlr.Table.Dump
import IncrementalGlr.Table.Header
import IncrementalGlr.Table.OfActions
import IncrementalGlr.Table.Validation
import IncrementalGlr.Text.Canvas
import IncrementalGlr.Text.Edit
import IncrementalGlr.Text.Palette
import IncrementalGlr.Text.Point
import IncrementalGlr.Text.Quoted
import IncrementalGlr.Text.Snippet
import IncrementalGlr.Text.SourceLine
import IncrementalGlr.Text.Utf8
import IncrementalGlr.Text.Width
import IncrementalGlr.Text.Window
import IncrementalGlr.Token.Body
import IncrementalGlr.Tree.Basic
import IncrementalGlr.Tree.Cursor
import IncrementalGlr.Tree.Navigation
import IncrementalGlr.Tree.OfSubtree
import IncrementalGlr.Tree.Sexp
import IncrementalGlr.Unicode.Additions
import IncrementalGlr.Unicode.Age
import IncrementalGlr.Unicode.BinaryProperty
import IncrementalGlr.Unicode.Case
import IncrementalGlr.Unicode.CaseFolding
import IncrementalGlr.Unicode.CodeSet
import IncrementalGlr.Unicode.GeneralCategory
import IncrementalGlr.Unicode.Property
import IncrementalGlr.Unicode.Script
import IncrementalGlr.Unicode.Segmentation
import IncrementalGlr.Unicode.ShorthandClass
import IncrementalGlr.Proofs.Fixpoint
import IncrementalGlr.Proofs.Flat.Derivation
import IncrementalGlr.Proofs.Lr.First
import IncrementalGlr.Proofs.Lr.Lookahead
import IncrementalGlr.Proofs.Lr.Automaton
import IncrementalGlr.Proofs.Lr.Machine
import IncrementalGlr.Proofs.Lr.Recognition
import IncrementalGlr.Proofs.Parse.Parsing
import IncrementalGlr.Proofs.Parse.Stack
import IncrementalGlr.Proofs.Parse.Phase
import IncrementalGlr.Proofs.Parse.Steps
import IncrementalGlr.Proofs.Parse.Pursuit
import IncrementalGlr.Proofs.Regex.Boundary
import IncrementalGlr.Proofs.Text.Boundary
import IncrementalGlr.Proofs.Parse.Lexer
import IncrementalGlr.Proofs.Parse.Shift
import IncrementalGlr.Proofs.Parse.Coverage
import IncrementalGlr.Proofs.Flat.RuleLanguage
import IncrementalGlr.Proofs.Flat.Draft
import IncrementalGlr.Proofs.Flat.Matching
import IncrementalGlr.Proofs.Flat.Expansion
import IncrementalGlr.Proofs.Flat.Reference
import IncrementalGlr.Proofs.Flat.Flattening
import IncrementalGlr.Proofs.Flat.Language
import IncrementalGlr.Proofs.Table.OfActions
import IncrementalGlr.Proofs.Compile
import IncrementalGlr.Proofs.Tree.Coverage
import IncrementalGlr.Proofs.Parse.Best
import IncrementalGlr.Proofs.Tree.Ambiguity
import IncrementalGlr.Proofs.Tree.Derivation
import IncrementalGlr.Proofs.Flat.Rightmost
import IncrementalGlr.Proofs.Lr.Validity
import IncrementalGlr.Proofs.Lr.Kernels
import IncrementalGlr.Proofs.Lr.Origin
import IncrementalGlr.Proofs.Lr.Lalr
import IncrementalGlr.Proofs.Parse.Progress
import IncrementalGlr.Proofs.Tree.Termination
import IncrementalGlr.Proofs.Flat.Fits
import IncrementalGlr.Proofs.Table.Consistency
import IncrementalGlr.Proofs.Totality
import IncrementalGlr.Proofs.Flat.Ownership
import IncrementalGlr.Proofs.Parse.Driving
import IncrementalGlr.Proofs.Parse.Simulation
import IncrementalGlr.Proofs.Parse.Insertion
import IncrementalGlr.Proofs.Parse.Selection
import IncrementalGlr.Proofs.Parse.Locality
import IncrementalGlr.Proofs.Lr.Determined
import IncrementalGlr.Proofs.Parse.Errors
import IncrementalGlr.Proofs.Parse.Single
import IncrementalGlr.Proofs.Parse.Faultless
import IncrementalGlr.Proofs.Tree.Sentences
import IncrementalGlr.Proofs.Codec.Basic
import IncrementalGlr.Proofs.Table.Header
import IncrementalGlr.Proofs.Table.Binary
import IncrementalGlr.Proofs.Json.Reader
import IncrementalGlr.Proofs.Json.Tagged
import IncrementalGlr.Proofs.Grammar.Json
import IncrementalGlr.Proofs.Table.Reliance
import IncrementalGlr.Proofs.Table.Lookup
import IncrementalGlr.Proofs.Parse.Checked
import IncrementalGlr.Proofs.Parse.Known
import IncrementalGlr.Proofs.Tree.Safety
import IncrementalGlr.Proofs.Codec.Delimited
import IncrementalGlr.Proofs.Grammar.Binary
import IncrementalGlr.Proofs.Parse.Limits
import IncrementalGlr.Proofs.Tree.Limits
import IncrementalGlr.Proofs.Parse.Extent
import IncrementalGlr.Proofs.Tree.Visible
import IncrementalGlr.Proofs.Tree.Building
import IncrementalGlr.Proofs.Tree.Navigation
import IncrementalGlr.Proofs.Tree.Flattening
import IncrementalGlr.Proofs.Lr.Search
import IncrementalGlr.Proofs.Operators.Expression
import IncrementalGlr.Proofs.Operators.Grammar
import IncrementalGlr.Proofs.Operators.States
import IncrementalGlr.Proofs.Operators.Actions
import IncrementalGlr.Proofs.Operators.Acceptance
import IncrementalGlr.Proofs.Operators.Stack
import IncrementalGlr.Proofs.Operators.Parsing
import IncrementalGlr.Proofs.Parse.Resynchronising
import IncrementalGlr.Proofs.Parse.Accounting
import IncrementalGlr.Proofs.Parse.Forks
import IncrementalGlr.Proofs.Parse.Ranking
import IncrementalGlr.Proofs.Parse.Ending
import IncrementalGlr.Proofs.Tree.Errors
import IncrementalGlr.Proofs.Tree.Accounting
import IncrementalGlr.Proofs.Tree.Placeholders
import IncrementalGlr.Proofs.Tree.Worth
import IncrementalGlr.Proofs.Tree.Ranges
import IncrementalGlr.Proofs.Grammar.Levels
import IncrementalGlr.Proofs.Text.Edit
import IncrementalGlr.Proofs.Table.Answers
import IncrementalGlr.Proofs.Flat.Findings
import IncrementalGlr.Proofs.Regex.Language
import IncrementalGlr.Proofs.Regex.Grouping
import IncrementalGlr.Proofs.Token.Body
import IncrementalGlr.Proofs.Parse.Candidates
import IncrementalGlr.Proofs.Json.Layout
import IncrementalGlr.Proofs.Json.Accepted
import IncrementalGlr.Proofs.Grammar.Document
import IncrementalGlr.Proofs.Diagnostic.Place
