import IncrementalGlr.Proofs.Parse.Lexer
import IncrementalGlr.Proofs.Table.Lookup

/-!
A lexer that watches its indexes. For every terminal there is a flag that says whether it is welcome,
and an entry that says how it is recognised; for every external token there is a flag for the scanner.
The lexer reads them at numbers that the table gives it: the word, the keywords, and the numbers under
which terminals are external tokens. Here every such read answers nothing when its index is not inside
(`Lexer.lex?`). Making a table ready for use does not look at these numbers, so a text can make the
lexer read outside (`Lexer.lex?_eq_none_of_word`); if they are inside (`TableData.LexerBounds`), it
never does, whatever the text, the states and the scanner are (`Lexer.lex?_eq`).
-/
namespace IncrementalGlr

/-- The numbers at which the lexer reads are those of terminals and of external tokens. -/
structure TableData.LexerBounds (d : TableData) : Prop where
  word : ∀ s ∈ d.lex.word, s < d.terminalCount
  keywords : ∀ s ∈ d.lex.keywords, s < d.terminalCount
  externals : ∀ e ∈ d.lex.tokens, ∀ i, e.matcher = .external i → i < d.externalCount

namespace Lexer

/-! ## Reading at checked places -/

/-- The flag of a terminal. -/
def flag? (table : ParseTable) (valid : TerminalSet) (t : SymbolId) : Option Bool :=
  if t < table.terminalCount then some (valid.contains t) else none

/-- Sets the flag of a terminal. -/
def mark? (table : ParseTable) (valid : TerminalSet) (t : SymbolId) : Option TerminalSet :=
  if t < table.terminalCount then some (valid ∪ .singleton t) else none

/-- Whether the flag of one of the terminals is set. Those behind the first such are not read. -/
def anyFlag? (table : ParseTable) (valid : TerminalSet) : List SymbolId → Option Bool
  | [] => some false
  | t :: rest => (flag? table valid t).bind fun
    | true => some true
    | false => anyFlag? table valid rest

/-- Whether a terminal is wanted. If all are, no flag is read. -/
def wants? (table : ParseTable) (w : Wanted) (t : SymbolId) : Option Bool :=
  if w.any then some true else flag? table w.valid t

/-- Whether the word competes: it is wanted itself, or a keyword is welcome. -/
def wordWanted? (table : ParseTable) (w : Wanted) : Option Bool :=
  match table.word with
  | none => some false
  | some word => (wants? table w word).bind fun
    | true => some true
    | false => anyFlag? table w.valid table.data.lex.keywords

/-- Whether a terminal competes, when it is known whether the word does. -/
def competes? (table : ParseTable) (w : Wanted) (wordWanted : Bool) (t : SymbolId) : Option Bool :=
  if table.word = some t then some wordWanted
  else if table.word.isSome && table.isKeyword t then some false
  else (wants? table w t).map (· || table.isExtra t)

/-- Tries one more terminal. -/
def consider? (l : Lexer) (start : Nat) (padded : Bool) (w : Wanted) (wordWanted : Bool)
    (s : Search) (t : SymbolId) : Option Search := do
  if ← competes? l.table w wordWanted t then
    let entry ← l.table.token? t
    if padded && entry.immediate then return s
    match l.tryTerminal t start with
    | some trial => return s.add t trial
    | none => return s
  else return s

/-- The first of several keywords that has the text. -/
def findKeyword? (l : Lexer) (text : String) : List SymbolId → Option (Option SymbolId)
  | [] => some none
  | k :: rest => (l.table.token? k).bind fun entry =>
    if entry.matcher = .literal text then some (some k) else findKeyword? l text rest

/-- The symbol of the best match. -/
def refine? (l : Lexer) (start : Nat) (w : Wanted) (c : Candidate) : Option SymbolId :=
  if l.table.word = some c.symbol then do
    match ← l.findKeyword? (Text.slice l.text start (start + c.length))
        l.table.data.lex.keywords with
    | some k => return if ← wants? l.table w k then k else c.symbol
    | none => return c.symbol
  else some c.symbol

/-- The longest match at `start`, and the end of what was looked at. -/
def longest? (l : Lexer) (start : Nat) (padded : Bool) (w : Wanted) (examined : Nat) :
    Option (Option (SymbolId × Nat) × Nat) := do
  let wordWanted ← wordWanted? l.table w
  let search ← (List.range' 1 (l.table.terminalCount - 1)).foldlM
    (l.consider? start padded w wordWanted) ⟨none, examined⟩
  match search.best with
  | some c => return (some (← l.refine? start w c, c.length), search.examined)
  | none => return (none, search.examined)

/-- The flags of the external tokens. -/
def validExternals? (table : ParseTable) (valid : TerminalSet) : Option (List Bool) :=
  (List.range table.data.externalCount).mapM fun index =>
    match table.externalSymbol index with
    | some symbol => flag? table valid symbol
    | none => some false

/-- What the external scanner finds at `start`, if it is welcome there. -/
def scanExternal? (l : Lexer) (position start : Nat) (valid : TerminalSet) :
    Option (Option Token) :=
  match l.scanner with
  | none => some none
  | some scanner => do
    let welcome ← validExternals? l.table valid
    if !welcome.contains true then return none
    match scanner.run l.text start welcome with
    | none => return none
    | some result =>
      match l.table.externalSymbol result.index with
      | none => return none
      | some symbol =>
        if (← welcome[result.index]?) && start < result.stop then
          return some ⟨symbol, position, start, result.stop, max result.examined result.stop⟩
        else return none

/-- The match at `start` that counts: that of a welcome terminal, or else of any. -/
def match? (l : Lexer) (start : Nat) (padded : Bool) (valid : TerminalSet) (examined : Nat) :
    Option (Option (SymbolId × Nat) × Nat) := do
  match ← l.longest? start padded ⟨valid, false⟩ examined with
  | (some found, examined) => return (some found, examined)
  | (none, examined) => l.longest? start padded ⟨valid, true⟩ examined

/-- The token whose padding begins at `position`, when the terminals of `valid` are welcome. -/
def lexWith? (l : Lexer) (position : Nat) (valid : TerminalSet) : Option Token := do
  let (start, examined) := l.contentStart position
  match ← l.scanExternal? position start valid with
  | some token => return token
  | none =>
    if l.size ≤ start then
      return ⟨endSymbol, position, l.size, l.size, max examined l.size⟩
    match ← l.match? start (position < start) valid examined with
    | (some (symbol, length), examined) =>
      return ⟨symbol, position, start, start + length, max examined (start + length)⟩
    | (none, examined) =>
      let stop := start + Text.widthAt l.bytes start
      return ⟨errorSymbol, position, start, stop, max examined stop⟩

/-- The terminals for which one of the states has actions. -/
def validIn? (table : ParseTable) (states : List StateId) : Option TerminalSet :=
  states.foldlM (fun set state => (table.validTerminals state).foldlM (mark? table) set) .empty

/-- The token whose padding begins at `position`, for a parser in one of the states; nothing if an
index on the way is not inside. -/
def lex? (l : Lexer) (position : Nat) (states : List StateId) : Option Token :=
  (validIn? l.table states).bind (l.lexWith? position)

/-! ## Nothing is read outside -/

section Steps

variable {α β : Type} {xs : List α}

/-- Steps that all succeed do so one after another. -/
theorem foldlM_eq_some {f : β → α → Option β} {g : β → α → β}
    (h : ∀ x ∈ xs, ∀ b, f b x = some (g b x)) (b : β) : xs.foldlM f b = some (xs.foldl g b) := by
  induction xs generalizing b with
  | nil => rfl
  | cons x xs ih =>
    obtain ⟨hx, hxs⟩ := List.forall_mem_cons.1 h
    rw [List.foldlM_cons, hx b, List.foldl_cons]
    exact ih hxs (g b x)

theorem mapM_eq_some {f : α → Option β} {g : α → β} (h : ∀ x ∈ xs, f x = some (g x)) :
    xs.mapM f = some (xs.map g) := by
  induction xs with
  | nil => rfl
  | cons x xs ih =>
    obtain ⟨hx, hxs⟩ := List.forall_mem_cons.1 h
    rw [List.mapM_cons, hx, ih hxs]
    rfl

/-- The terminals behind the end of the text. -/
theorem lt_of_mem_range' {t n : Nat} (h : t ∈ List.range' 1 (n - 1)) : t < n := by
  have := List.mem_range'_1.1 h
  omega

end Steps

section Table

variable {table : ParseTable} {w : Wanted} {t : SymbolId}

theorem flag?_eq (h : t < table.terminalCount) (valid : TerminalSet) :
    flag? table valid t = some (valid.contains t) := if_pos h

theorem wants?_eq (h : t < table.terminalCount) : wants? table w t = some (w.contains t) := by
  rw [wants?, flag?_eq h, Wanted.contains]
  cases w.any <;> rfl

theorem anyFlag?_eq {ts : List SymbolId} (h : ∀ t ∈ ts, t < table.terminalCount)
    (valid : TerminalSet) : anyFlag? table valid ts = some (ts.any valid.contains) := by
  induction ts with
  | nil => rfl
  | cons t rest ih =>
    obtain ⟨ht, hrest⟩ := List.forall_mem_cons.1 h
    rw [anyFlag?, flag?_eq ht, Option.bind_some, List.any_cons]
    cases valid.contains t with
    | true => rfl
    | false => exact ih hrest

/-- There is an entry for every terminal. -/
theorem exists_token (h : t < table.terminalCount) : ∃ entry, table.token? t = some entry := by
  have inside : t < table.data.lex.tokens.size := table.consistent_data.tokens.symm ▸ h
  exact ⟨_, getElem?_pos table.data.lex.tokens t inside⟩

/-- An external token is a terminal, and it has an entry with its number. -/
theorem exists_of_externalSymbol {index : Nat} (h : table.externalSymbol index = some t) :
    t < table.terminalCount ∧ ∃ e ∈ table.data.lex.tokens, e.matcher = .external index := by
  obtain ⟨inside, hmatcher, -⟩ := Array.findIdx?_eq_some_iff_getElem.1 h
  refine ⟨?_, _, Array.getElem_mem inside, beq_iff_eq.1 hmatcher⟩
  rw [table.consistent_data.tokens] at inside
  exact inside

theorem validExternals?_eq (valid : TerminalSet) :
    validExternals? table valid = some (validExternals table valid) := by
  apply mapM_eq_some
  intro index _
  cases hsymbol : table.externalSymbol index with
  | none => rfl
  | some t => exact flag?_eq (exists_of_externalSymbol hsymbol).1 valid

/-- Only terminals are welcome in a state. -/
theorem lt_of_mem_validTerminals {q : StateId} (h : t ∈ table.validTerminals q) :
    t < table.terminalCount := by
  rw [ParseTable.validTerminals, table.valid_eq] at h
  unfold TableData.valid at h
  rw [Array.getElem?_map] at h
  cases hq : (Array.range table.data.stateCount)[q]? with
  | none => simp [hq] at h
  | some q' =>
    rw [hq] at h
    exact List.mem_range.1 (List.mem_filter.1 h).1

theorem validIn?_eq (states : List StateId) :
    validIn? table states = some (validIn table states) := by
  apply foldlM_eq_some
  intro q _ set
  apply foldlM_eq_some
  intro t ht set
  exact if_pos (lt_of_mem_validTerminals ht)

variable (bounds : table.data.LexerBounds)
include bounds

theorem wordWanted?_eq (h : table.word = some t) :
    wordWanted? table w =
      some (w.contains t || table.data.lex.keywords.any w.valid.contains) := by
  rw [wordWanted?, h]
  dsimp only
  rw [wants?_eq (bounds.word t h), Option.bind_some]
  cases w.contains t with
  | true => rfl
  | false => exact anyFlag?_eq bounds.keywords w.valid

theorem exists_wordWanted : ∃ wordWanted, wordWanted? table w = some wordWanted := by
  cases hword : table.word with
  | none => exact ⟨false, by rw [wordWanted?, hword]⟩
  | some t => exact ⟨_, wordWanted?_eq bounds hword⟩

theorem competes?_eq {wordWanted : Bool} (hword : wordWanted? table w = some wordWanted)
    (h : t < table.terminalCount) :
    competes? table w wordWanted t = some (competes table w t) := by
  unfold competes? competes
  split
  · next heq => rw [← hword, wordWanted?_eq bounds heq]
  · split
    · rfl
    · rw [wants?_eq h, Option.map_some]

end Table

variable {l : Lexer} (bounds : l.table.data.LexerBounds) {w : Wanted}
include bounds

theorem consider?_eq {wordWanted : Bool} (hword : wordWanted? l.table w = some wordWanted)
    {t : SymbolId} (h : t < l.table.terminalCount) (start : Nat) (padded : Bool) (s : Search) :
    l.consider? start padded w wordWanted s t = some (l.consider start padded w s t) := by
  obtain ⟨entry, hentry⟩ := exists_token h
  have fits : fitsPadding l.table padded t = !(padded && entry.immediate) := by
    rw [fitsPadding, hentry, Option.any_some]
  unfold consider? consider
  rw [competes?_eq bounds hword h, hentry, fits]
  simp only [Option.bind_eq_bind, Option.bind_some]
  cases competes l.table w t with
  | false => rfl
  | true =>
    cases padded && entry.immediate with
    | true => rfl
    | false => cases l.tryTerminal t start <;> rfl

omit bounds in
theorem findKeyword?_eq (text : String) {ts : List SymbolId}
    (h : ∀ t ∈ ts, t < l.table.terminalCount) :
    l.findKeyword? text ts = some (ts.find? fun k =>
      match (l.table.token? k).map TokenEntry.matcher with
      | some (.literal keyword) => keyword == text
      | _ => false) := by
  induction ts with
  | nil => rfl
  | cons k rest ih =>
    obtain ⟨hk, hrest⟩ := List.forall_mem_cons.1 h
    obtain ⟨entry, hentry⟩ := exists_token hk
    rw [findKeyword?, hentry, Option.bind_some, List.find?_cons, hentry, Option.map_some, ih hrest]
    cases hmatcher : entry.matcher with
    | literal keyword =>
      dsimp only
      by_cases hsame : keyword = text
      · rw [if_pos (congrArg _ hsame), beq_iff_eq.2 hsame]
      · rw [if_neg fun h => hsame (Matcher.literal.inj h), beq_eq_false_iff_ne.2 hsame]
    | endOfText => rfl
    | pattern p => rfl
    | external index => rfl

theorem refine?_eq (start : Nat) (c : Candidate) :
    l.refine? start w c = some (l.refine start w c) := by
  unfold refine? refine
  split
  · have keyword : l.findKeyword? (Text.slice l.text start (start + c.length))
        l.table.data.lex.keywords = some (l.keywordFor start c.length) :=
      findKeyword?_eq _ bounds.keywords
    rw [keyword]
    simp only [Option.bind_eq_bind, Option.bind_some]
    cases hk : l.keywordFor start c.length with
    | none => rfl
    | some k =>
      have inside : k < l.table.terminalCount := bounds.keywords k (List.mem_of_find?_eq_some hk)
      simp only [wants?_eq inside, Option.bind_some, Option.pure_def]
  · rfl

theorem longest?_eq (start : Nat) (padded : Bool) (examined : Nat) :
    l.longest? start padded w examined = some (l.longest start padded w examined) := by
  obtain ⟨wordWanted, hword⟩ := exists_wordWanted bounds (w := w)
  have search := foldlM_eq_some
    (fun t ht s => consider?_eq bounds hword (lt_of_mem_range' ht) start padded s) ⟨none, examined⟩
  unfold longest? longest
  rw [hword]
  simp only [Option.bind_eq_bind, Option.bind_some, search]
  split
  · next c hbest => rw [refine?_eq bounds, hbest, Option.bind_some, Option.map_some, Option.pure_def]
  · next hbest => rw [hbest, Option.map_none, Option.pure_def]

theorem scanExternal?_eq (position start : Nat) (valid : TerminalSet) :
    l.scanExternal? position start valid = some (l.scanExternal position start valid) := by
  unfold scanExternal? scanExternal
  cases l.scanner with
  | none => rfl
  | some scanner =>
    dsimp only
    rw [validExternals?_eq]
    simp only [Option.bind_eq_bind, Option.bind_some]
    cases (validExternals l.table valid).contains true with
    | false => rfl
    | true =>
      simp only [Bool.not_true, Bool.false_eq_true, if_false, if_true]
      cases scanner.run l.text start (validExternals l.table valid) with
      | none => rfl
      | some result =>
        rw [Option.bind_some]
        dsimp only
        cases hsymbol : l.table.externalSymbol result.index with
        | none => rfl
        | some symbol =>
          obtain ⟨-, e, he, hmatcher⟩ := exists_of_externalSymbol hsymbol
          have inside : result.index < (validExternals l.table valid).length := by
            rw [validExternals, List.length_map, List.length_range]
            exact bounds.externals e he _ hmatcher
          rw [Option.bind_some, List.getD_eq_getElem?_getD, getElem?_pos _ result.index inside,
            Option.getD_some]
          dsimp only [Option.bind_some]
          split <;> rfl

/-- If the numbers at which the lexer reads are inside, the token is found without a read outside. -/
theorem lexWith?_eq (position : Nat) (valid : TerminalSet) :
    l.lexWith? position valid = some (l.lexWith position valid) := by
  unfold lexWith? lexWith
  generalize l.contentStart position = content
  obtain ⟨start, examined⟩ := content
  dsimp only
  rw [scanExternal?_eq bounds]
  simp only [Option.bind_eq_bind, Option.bind_some]
  cases l.scanExternal position start valid with
  | some token => rfl
  | none =>
    dsimp only
    split
    · rfl
    · rw [match?, longest?_eq bounds]
      simp only [Option.bind_eq_bind, Option.bind_some]
      -- the first match among what is welcome, and the second among all
      generalize l.longest start (position < start) ⟨valid, false⟩ examined = first
      obtain ⟨_ | found, examined⟩ := first
      · dsimp only
        rw [longest?_eq bounds, Option.bind_some]
        generalize l.longest start (position < start) ⟨valid, true⟩ _ = second
        obtain ⟨_ | found, examined⟩ := second <;> rfl
      · rfl

/-- Whatever the text, the scanner and the states are. -/
theorem lex?_eq (position : Nat) (states : List StateId) :
    l.lex? position states = some (l.lex position states) := by
  rw [lex?, validIn?_eq, Option.bind_some, lexWith?_eq bounds, lex]

omit bounds in
/-- A word that is no terminal: wherever there is something to match, the lexer reads outside. -/
theorem lex?_eq_none_of_word {t : SymbolId} (hword : l.table.word = some t)
    (ht : l.table.terminalCount ≤ t) (hscanner : l.scanner = none) {position : Nat}
    (h : (l.contentStart position).1 < l.size) (states : List StateId) :
    l.lex? position states = none := by
  have wanted (valid : TerminalSet) : wordWanted? l.table ⟨valid, false⟩ = none := by
    rw [wordWanted?, hword]
    exact congrArg (Option.bind · _) (if_neg (Nat.not_lt.2 ht))
  have unscanned (valid : TerminalSet) :
      l.scanExternal? position (l.contentStart position).1 valid = some none := by
    rw [scanExternal?.eq_def, hscanner]
  rw [lex?, validIn?_eq, Option.bind_some, lexWith?]
  simp only [Option.bind_eq_bind, unscanned, Option.bind_some]
  rw [if_neg (Nat.not_le.2 h), match?, longest?, wanted]
  rfl

/-! ## The symbol that is found -/

omit bounds in
theorem lt_of_tryTerminal {trial : Trial} (h : l.tryTerminal t start = some trial) :
    t < l.table.terminalCount := by
  unfold tryTerminal at h
  cases hentry : l.table.token? t with
  | none => simp [hentry] at h
  | some entry =>
    have inside := (Array.getElem?_eq_some_iff.1 hentry).1
    rwa [l.table.consistent_data.tokens] at inside

/-- What is matched is a terminal. -/
theorem lt_of_longest {start : Nat} {padded : Bool} {examined n : Nat} {t : SymbolId}
    (h : (l.longest start padded w examined).1 = some (t, n)) : t < l.table.terminalCount := by
  obtain ⟨c, rfl, -, -, runs⟩ := exists_runs_of_longest h
  obtain ⟨_, htrial, -⟩ := runs.stands.tried
  have candidate := lt_of_tryTerminal htrial
  unfold refine
  split
  · split
    · next k hk =>
      split
      · exact bounds.keywords k (List.mem_of_find?_eq_some hk)
      · exact candidate
    · exact candidate
  · exact candidate

/-- Every token is a terminal or an error. -/
theorem symbol_lex (position : Nat) (states : List StateId) :
    (l.lex position states).symbol = errorSymbol ∨
      (l.lex position states).symbol < l.table.terminalCount := by
  have found := l.finds_lexWith position (validIn l.table states)
  unfold lex
  generalize l.lexWith position _ = token at found ⊢
  cases found with
  | external run known nonempty => exact .inr (exists_of_externalSymbol known).1
  | endOfText size => exact .inr l.table.consistent_data.terminals
  | matched inside longest => exact .inr (lt_of_longest bounds longest)
  | unmatched inside => exact .inl rfl

end Lexer

end IncrementalGlr
