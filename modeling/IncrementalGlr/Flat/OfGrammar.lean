import IncrementalGlr.Flat.Expansion
import IncrementalGlr.Flat.Reference

/-!
From grammars to flat grammars. Terminals are numbered first: the end of the text, the external
tokens, the rules that are tokens, then tokens written inside rules as they are met. Nonterminals
follow, the start rule first, then the other rules in order and what was made for parts of them;
names for nodes that no symbol has come last. Whatever is found wrong is reported, and flattening
goes on.
-/
namespace IncrementalGlr.Flat

namespace Draft

/-- Enters the external token with the given number. -/
def declareExternal (g : Grammar) (index : Nat) (rule : Rule) : Drafting Unit := do
  let draft (name : String) (named : Bool) : TerminalDraft := {
    info := { name, kind := .external, named, visible := !named || !g.isHidden name }
    terminal := { form := .external index } }
  match rule with
  | .symbol name =>
    let n ← addTerminal (draft name true)
    bindName name (.terminal n)
  | .string text =>
    let n ← addTerminal (draft text false)
    modify fun d => { d with anonymous := ({ form := .literal text }, n) :: d.anonymous }
  | _ => report (.invalidExternal index) none

/-- Enters a rule that stands for one token. -/
def declareToken (g : Grammar) (name : String) (body : Rule) (immediate : Bool) :
    Drafting Unit := do
  let form ← tokenForm body name
  let kind := match form with
    | .literal _ => SymbolKind.literal
    | _ => .pattern
  let n ← addTerminal {
    info := { name, kind, named := true, visible := !g.isHidden name }
    terminal := { form, immediate } }
  bindName name (.terminal n)

/-- Enters a rule as a nonterminal without alternatives. -/
def declareRule (g : Grammar) (levels : Levels) (name : String) : Drafting Unit := do
  let supertype := g.supertypes.contains name
  let i ← addNonterminal {
    name
    kind := .nonterminal
    visible := !g.isHidden name && !supertype
    supertype
    owner := (← get).nonterminals.size
    precedence := (levels.ofRule name).map Int.ofNat }
  bindName name (.nonterminal i)

/-- Enters all symbols that have names. -/
def declareSymbols (g : Grammar) (levels : Levels) (start : String) : Drafting Unit := do
  let reachable := g.reachable
  let _ ← addTerminal {
    info := { name := endName, kind := .endOfText, named := false, visible := false }
    terminal := { form := .endOfText } }
  g.externals.zipIdx.forM fun (rule, index) => declareExternal g index rule
  g.rules.entries.forM fun (name, rule) => do
    if name ≠ start && reachable.contains name && ((← get).names.lookup name).isNone then
      match rule.tokenBody with
      | some (body, immediate) => declareToken g name body immediate
      | none => return
  (start :: g.rules.names.filter (· ≠ start)).forM fun name => do
    if reachable.contains name && ((← get).names.lookup name).isNone then
      declareRule g levels name

/-- Expands all rules. -/
def expandRules (g : Grammar) (levels : Levels) : Drafting Unit := do
  let count := (← get).nonterminals.size
  (List.range count).forM fun i => do
    match g.rules.find? ((← get).nonterminalName i) with
    | some rule => setAlternatives i (← expand levels i rule)
    | none => return

/-- What an extra adds: a piece of padding or an extra token. -/
inductive Extra where
  | padding (regex : String)
  | token (terminal : Nat)
  | nothing
  deriving DecidableEq, Repr, Inhabited

/-- Enters an extra. Patterns and texts are padding; token rules are extra tokens. -/
def expandExtra (rule : Rule) : Drafting Extra := do
  match rule with
  | .pattern regex flags =>
    let regex := Rule.patternRegex regex flags
    if (Regex.parse? regex).isSome then return .padding regex
    else
      report (.invalidRegex regex) "extras"
      return .nothing
  | .symbol name =>
    match (← get).names.lookup name with
    | some (.terminal n) => return .token n
    | some (.nonterminal _) =>
      report (.extraNotToken name) name
      return .nothing
    | none => return .nothing
  | rule =>
    if let .string text := rule then
      if text ≠ "" then return .padding (Regex.escapeText text)
    match rule.tokenBody, (← get).nonterminals.isEmpty with
    | some (body, immediate), false =>
      match ← inlineToken body immediate 0 with
      | some n => return .token n
      | none => return .nothing
    | _, _ =>
      report .unsupportedExtra none
      return .nothing

/-- Enters all extras. Returns what matches one piece of padding, and the extra tokens. -/
def expandExtras (g : Grammar) : Drafting (Option String × List Nat) := do
  let extras ← g.extras.mapM expandExtra
  let padding := extras.filterMap fun
    | .padding regex => some ("(?:" ++ regex ++ ")")
    | _ => none
  let tokens := extras.filterMap fun
    | .token n => some n
    | _ => none
  modify fun d => { d with
    terminals := tokens.foldl (fun ts n =>
      ts.modify n fun t => { t with info := { t.info with extra := true } }) d.terminals }
  return (if padding.isEmpty then none else some ("|".intercalate padding), tokens)

/-! ## Final numbers -/

/-- The number of a symbol among all. -/
def idOf (d : Draft) : Sym → SymbolId
  | .terminal n => n
  | .nonterminal i => d.terminals.size + i

/-- All parts of all alternatives. -/
def allParts (d : Draft) : List Part :=
  d.nonterminals.toList.flatMap fun n => n.alternatives.flatMap (·.parts)

/-- Everything known of terminals and nonterminals. -/
def symbolInfos (d : Draft) : Array SymbolInfo :=
  d.terminals.map (·.info) ++ d.nonterminals.map fun n => {
    name := n.name
    kind := n.kind
    named := true
    visible := n.visible
    supertype := n.supertype }

/-- Field names in alphabetical order. -/
def fieldNames (d : Draft) : List String :=
  (d.allParts.filterMap (·.field)).eraseDups.mergeSort fun a b => !decide (b < a)

/-- Adds a name for nodes, unless a visible symbol has it. Keeps the number of every name. -/
def addAlias (acc : Array SymbolInfo × List ((String × Bool) × SymbolId)) (key : String × Bool) :
    Array SymbolInfo × List ((String × Bool) × SymbolId) :=
  let (symbols, aliases) := acc
  match symbols.findIdx? fun s => s.visible && s.name == key.1 && s.named == key.2 with
  | some id => (symbols, aliases ++ [(key, id)])
  | none =>
    (symbols.push { name := key.1, kind := .renamed, named := key.2, visible := true },
      aliases ++ [(key, symbols.size)])

/-- All symbols, and the symbols that stand for the names given to nodes. -/
def symbolsAndAliases (d : Draft) : Array SymbolInfo × List ((String × Bool) × SymbolId) :=
  (d.allParts.filterMap (·.renamed)).eraseDups.foldl addAlias (d.symbolInfos, [])

/-- Drops productions with the same symbols, fields and names as an earlier one. -/
def distinct (seen : List (List Child)) : List Production → List Production
  | [] => []
  | p :: rest =>
    if seen.contains p.children then distinct seen rest
    else p :: distinct (p.children :: seen) rest

/-- The productions of one nonterminal. -/
def productionsOf (d : Draft) (fields : List String)
    (aliases : List ((String × Bool) × SymbolId)) (i : Nat) (n : NonterminalDraft) :
    List Production :=
  distinct [] <| n.alternatives.map fun a => {
    lhs := d.terminals.size + i
    children := a.parts.map fun p => {
      symbol := d.idOf p.sym
      field := p.field.bind fun f => (fields.idxOf? f).map (· + 1)
      renamed := p.renamed.bind fun key => aliases.lookup key }
    precedence := (a.precedence.or n.precedence).getD 0
    associativity := a.associativity.getD .none
    dynamicPrecedence := a.dynamic.getD 0 }

/-- The word token. -/
def wordToken (g : Grammar) : Drafting (Option SymbolId) := do
  match g.word with
  | none => return none
  | some name =>
    match (← get).names.lookup name with
    | some (.terminal n) => return some n
    | _ =>
      report (.invalidWord name) name
      return none

/-- The token called `name`, or else the first whose text it is. -/
def recoveryToken (name : String) : Drafting (Option SymbolId) := do
  let d ← get
  match d.names.lookup name with
  | some (.terminal n) => return some n
  | _ =>
    match d.terminals.findIdx? fun t => t.terminal.form == .literal name with
    | some n => return some n
    | none =>
      report (.unknownRecovery name) none
      return none

/-- The nonterminal of a rule between which and others ambiguity is intended. -/
def conflictSymbol (name : String) : Drafting (Option SymbolId) := do
  let d ← get
  match d.names.lookup name with
  | some (.nonterminal i) => return some (d.idOf (.nonterminal i))
  | _ =>
    report (.unknownConflict name) none
    return none

/-- Gives all symbols their numbers. -/
def finish (g : Grammar) (padding : Option String) (extras : List Nat) :
    Drafting FlatGrammar := do
  let word ← wordToken g
  let recovery ← g.recovery.mapM recoveryToken
  let conflicts ← g.conflicts.mapM fun names => do
    return ((← names.mapM conflictSymbol).filterMap id).mergeSort
  let d ← get
  let (symbols, aliases) := d.symbolsAndAliases
  let fields := d.fieldNames
  return {
    name := g.name
    symbols
    terminalCount := d.terminals.size
    nonterminalCount := d.nonterminals.size
    externalCount := g.externals.length
    fields
    productions := (d.nonterminals.toList.zipIdx.flatMap fun (n, i) =>
      d.productionsOf fields aliases i n).toArray
    start := d.terminals.size
    terminals := d.terminals.map (·.terminal)
    padding, extras, word
    recovery := recovery.filterMap id
    conflicts
    owners := Array.range d.terminals.size ++
      d.nonterminals.map (fun n => d.terminals.size + n.owner)
      ++ (Array.range (symbols.size - (d.terminals.size + d.nonterminals.size))).map
        (· + (d.terminals.size + d.nonterminals.size)) }

/-- The whole of flattening, on a draft. -/
def flatten (g : Grammar) (levels : Levels) (start : String) : Drafting FlatGrammar := do
  declareSymbols g levels start
  expandRules g levels
  let (padding, extras) ← expandExtras g
  finish g padding extras

end Draft

end IncrementalGlr.Flat

namespace IncrementalGlr

namespace FlatGrammar

/-- Whether a symbol is a terminal or a marked nonterminal. -/
def isProductive (g : FlatGrammar) (marked : Array Bool) (s : SymbolId) : Bool :=
  g.isTerminal s || (marked[s]?).getD false

/-- Marks the nonterminal of a production of terminals and marked nonterminals alone. -/
def mark (g : FlatGrammar) (marked : Array Bool) (p : Production) : Array Bool :=
  if p.rhs.all (g.isProductive marked) then marked.setIfInBounds p.lhs true else marked

/-- Goes over all productions once. -/
def productiveStep (g : FlatGrammar) (marked : Array Bool) : Array Bool :=
  g.productions.foldl g.mark marked

/-- Marks the nonterminals that derive some text. -/
def productive (g : FlatGrammar) : Array Bool :=
  settle g.productiveStep (g.nonterminalCount + 1)
    (.replicate (g.terminalCount + g.nonterminalCount) false)

/-- The rules of nonterminals that derive no text. -/
def unproductiveRules (g : FlatGrammar) : List Diagnostic :=
  let productive := g.productive
  let nonterminals := (List.range g.nonterminalCount).map (g.terminalCount + ·)
  let owners := (nonterminals.filter fun s => !g.isProductive productive s).map g.ownerOf
  owners.eraseDups.map fun s =>
    { finding := .unproductiveRule (g.nameOf s), rule := some (g.nameOf s) }

end FlatGrammar

/-- The flat form of a grammar, unless it has no rules, and all that is to be said about it. -/
def Grammar.flatten (g : Grammar) : Option FlatGrammar × List Diagnostic :=
  match g.startRule? with
  | none => (none, [{ finding := .emptyGrammar }])
  | some (start, _) =>
    let levels := Levels.ofOrderings g.precedences
    let (flat, draft) := (Flat.Draft.flatten g levels start).run {}
    (some flat, levels.reports ++ g.undefinedReferences ++ g.unreachableRules ++ draft.diagnostics.toList
      ++ flat.unproductiveRules)

end IncrementalGlr
