import IncrementalGlr.Table.Basic
import IncrementalGlr.Text.Palette
import IncrementalGlr.Text.Quoted

/-!
Tables for people to read: symbols, fields, productions, and what each state does.
-/
namespace IncrementalGlr

/-- A kind of symbol in one word. -/
def SymbolKind.word : SymbolKind → String
  | endOfText => "end"
  | literal => "literal"
  | pattern => "pattern"
  | external => "external"
  | nonterminal => "nonterminal"
  | auxiliary => "auxiliary"
  | renamed => "alias"

namespace ParseTable

/-- The number of digits of the last of `count` things counted from 0. -/
def indexWidth (count : Nat) : Nat := (Nat.toDigits 10 (count - 1)).length

/-- A number with zeros in front. -/
def padded (width n : Nat) : String :=
  let digits := Nat.toDigits 10 n
  String.ofList (List.replicate (width - digits.length) '0' ++ digits)

/-- A symbol's name; fixed text is in quotes. -/
def shownName (t : ParseTable) (s : SymbolId) : String :=
  match t.symbol? s with
  | some info => if info.kind = .literal then Text.quoted info.name else info.name
  | none => "?"

def shownState (t : ParseTable) (s : StateId) : String := "S" ++ padded (indexWidth t.stateCount) s

def shownProduction (t : ParseTable) (p : ProductionId) : String :=
  "P" ++ padded (indexWidth t.data.productions.size) p

/-- The lines about the table as a whole. -/
def dumpHeader (t : ParseTable) (c : Palette) : List String :=
  [s!"{c.blue}[table]{c.reset}",
    s!"name = {c.green}{Text.quoted t.name}{c.reset}",
    s!"start = {t.shownName t.data.startSymbol}",
    s!"terminals = {t.terminalCount}",
    s!"states = {t.stateCount}"]
  ++ (t.word.map fun w => s!"word = {t.shownName w}").toList
  ++ (if t.data.recovery.isEmpty then []
    else ["recovery = " ++ " ".intercalate (t.data.recovery.map t.shownName)])
  ++ [""]

/-- The line of one symbol. -/
def dumpSymbol (t : ParseTable) (c : Palette) (id : SymbolId) (info : SymbolInfo) : String :=
  let flags := (if info.visible then [] else ["hidden"]) ++ (if info.extra then ["extra"] else [])
    ++ (if info.supertype then ["supertype"] else [])
    ++ (if t.isKeyword id then ["keyword"] else [])
  let detail := match (t.token? id).map TokenEntry.matcher with
    | some (.pattern p) => s!" /{p.source}/"
    | some (.external index) => s!" external #{index}"
    | _ => ""
  let flagText := if flags.isEmpty then "" else " [" ++ ", ".intercalate flags ++ "]"
  padded (indexWidth t.symbolCount) id ++ s!" {c.green}{t.shownName id}{c.reset}"
    ++ s!"{c.dim}  ; {info.kind.word}{detail}{flagText}{c.reset}"

def dumpSymbols (t : ParseTable) (c : Palette) : List String :=
  [s!"{c.blue}[symbols]{c.reset}"]
  ++ t.data.symbols.toList.zipIdx.map (fun (info, id) => t.dumpSymbol c id info) ++ [""]

def dumpFields (t : ParseTable) (c : Palette) : List String :=
  if t.data.fields.isEmpty then []
  else [s!"{c.blue}[fields]{c.reset}"]
    ++ t.data.fields.toList.zipIdx.map (fun (name, i) =>
      s!"F{i + 1} {c.green}{name}{c.reset}")
    ++ [""]

/-- One symbol of a production, with its field and its name. -/
def dumpChild (t : ParseTable) (c : Palette) (child : Child) : String :=
  let field := (child.field.map fun f => s!"{c.green}{t.fieldName f}:{c.reset}").getD ""
  let renamed := (child.renamed.map fun a => s!"{c.dim}@{t.shownName a}{c.reset}").getD ""
  " " ++ field ++ t.shownName child.symbol ++ renamed

/-- How a production binds. -/
def dumpBinding (p : Production) : List String :=
  let word := match p.associativity with
    | .none => ""
    | .left => " left"
    | .right => " right"
  (if p.precedence ≠ 0 || p.associativity ≠ .none then [s!"prec {p.precedence}{word}"] else [])
  ++ if p.dynamicPrecedence ≠ 0 then [s!"dynamic {p.dynamicPrecedence}"] else []

/-- The line of one production. -/
def dumpProduction (t : ParseTable) (c : Palette) (id : ProductionId) (p : Production) : String :=
  let children := if p.children.isEmpty then s!" {c.dim}ε{c.reset}"
    else String.join (p.children.map (t.dumpChild c))
  let binding := dumpBinding p
  let note := if binding.isEmpty then ""
    else s!"{c.dim}  ; " ++ ", ".intercalate binding ++ c.reset
  s!"{t.shownProduction id} {t.shownName p.lhs} ->" ++ children ++ note

def dumpProductions (t : ParseTable) (c : Palette) : List String :=
  [s!"{c.blue}[productions]{c.reset}"]
  ++ t.data.productions.toList.zipIdx.map (fun (p, id) => t.dumpProduction c id p) ++ [""]

def dumpAction (t : ParseTable) : Action → String
  | .shift state => "shift " ++ t.shownState state
  | .shiftExtra => "shift-extra"
  | .reduce p => "reduce " ++ t.shownProduction p
  | .accept => "accept"

/-- The lines of one state: what it does at each terminal and after each nonterminal. -/
def dumpState (t : ParseTable) (c : Palette) (state : StateId) : List String :=
  let terminals := (t.validTerminals state).map fun terminal =>
    let actions := (t.actions state terminal).map t.dumpAction
    let note := if 1 < actions.length then s!"{c.red}  ; conflict{c.reset}" else ""
    s!"  {t.shownName terminal} " ++ " | ".intercalate actions ++ note
  let gotos := (List.range t.symbolCount).filterMap fun s => (t.goto state s).map fun next =>
    s!"  {c.dim}{t.shownName s}{c.reset} goto {t.shownState next}"
  [t.shownState state] ++ terminals ++ gotos

def dumpStates (t : ParseTable) (c : Palette) : List String :=
  [s!"{c.blue}[states]{c.reset}"] ++ (List.range t.stateCount).flatMap (t.dumpState c)

/-- The whole table, every line with a line feed. -/
def dump (t : ParseTable) (c : Palette) : String :=
  let lines := t.dumpHeader c ++ t.dumpSymbols c ++ t.dumpFields c ++ t.dumpProductions c
    ++ t.dumpStates c
  String.join (lines.map (· ++ "\n"))

end ParseTable

end IncrementalGlr
