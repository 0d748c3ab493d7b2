import Mathlib
import IncrementalGlr.Proofs.Parse.Checked

/-!
Which terminal a token is. Where a terminal competes the longest match is as long
(`Lexer.exists_longest`). Those that the states expect, and extras, compete, keywords by way of the
word, so none of them that matches is longer than the token, and the token is one of them
(`Lexer.selects_lex`). There is one exception: the word competes for keywords although it is not
expected itself, and what it then matches need not be a keyword.
-/
namespace IncrementalGlr

namespace ParseTable

variable {table : ParseTable} {t : SymbolId}

/-- A terminal is expected in one of the states. -/
def Expects (table : ParseTable) (states : List StateId) (t : SymbolId) : Prop :=
  ∃ q ∈ states, t ∈ table.validTerminals q

/-- A terminal with actions in one of the states is expected. -/
theorem mem_validTerminals {q : StateId} (h : table.actions q t ≠ []) :
    t ∈ table.validTerminals q := by
  unfold actions at h
  split at h
  · next inside =>
    rw [Bool.and_eq_true, decide_eq_true_eq, decide_eq_true_eq] at inside
    split at h
    · next i hi =>
      have hne : i ≠ 0 := by
        rintro rfl
        rw [table.consistent_data.firstList] at h
        exact h rfl
      have hq : (Array.range table.data.stateCount)[q]? = some q := by
        rw [Array.getElem?_range]
        exact if_pos inside.2
      rw [terminalCount] at hi
      rw [validTerminals, table.valid_eq, TableData.valid, Array.getElem?_map, hq]
      refine List.mem_filter.2 ⟨List.mem_range.2 inside.1, ?_⟩
      simpa [hi] using hne
    · exact absurd rfl h
  · exact absurd rfl h

end ParseTable

namespace Lexer

/-- The terminals for which one of the states has actions are those that are expected. -/
theorem contains_validIn {table : ParseTable} {states : List StateId} {t : SymbolId} :
    (validIn table states).contains t = true ↔ table.Expects states t := by
  have contains_row (row : List SymbolId) (set : TerminalSet) :
      (row.foldl (fun set t => set ∪ .singleton t) set).contains t = true ↔
        set.contains t = true ∨ t ∈ row := by
    induction row generalizing set with
    | nil => simp
    | cons s row ih => simp [ih, or_assoc, @eq_comm _ s t]
  have contains_rows (set : TerminalSet) :
      (states.foldl (fun set state =>
        (table.validTerminals state).foldl (fun set t => set ∪ .singleton t) set) set).contains t =
          true ↔ set.contains t = true ∨ table.Expects states t := by
    induction states generalizing set with
    | nil => simp [ParseTable.Expects]
    | cons q states ih => simp [ih, contains_row, ParseTable.Expects, or_assoc]
  simpa [validIn] using contains_rows .empty

variable (l : Lexer)

/-! ## Matches -/

/-- A terminal matches at an offset. A keyword does so only where the word does, and where the longest
match of the word is the text of the keyword. -/
structure Matches (start : Nat) (padded : Bool) (t : SymbolId) (n : Nat) : Prop
    extends l.Stands start padded t n where
  keyword : ∀ w, l.table.word = some w → l.table.isKeyword t = true → t ≠ w →
    ∃ m, l.Stands start padded w m ∧ (l.table.token? t).map TokenEntry.matcher =
      some (.literal (Text.slice l.text start (start + m)))

variable {l} {start n : Nat} {padded : Bool} {w : Wanted} {t : SymbolId}

/-- Where something matches there is text. -/
theorem Stands.inside (h : l.Stands start padded t n) : start < l.size := by
  obtain ⟨trial, htrial, hn⟩ := h.tried
  have hpos := h.nonempty
  refine Nat.lt_of_not_le fun hsize => ?_
  unfold tryTerminal at htrial
  split at htrial
  · cases htrial
    simp only [tryLiteral] at hn
    split at hn
    · next hcommon =>
      obtain rfl := Option.some.inj hn
      have := (agree_of_lt_commonLength hpos).1
      change l.bytes.size ≤ start at hsize
      omega
    · cases hn
  · obtain ⟨p, -, rfl⟩ := Option.map_eq_some_iff.1 htrial
    exact Nat.lt_irrefl 0 (p.eq_zero_of_run hsize hn ▸ hpos)
  · cases htrial

/-- A keyword is no longer than the word that stands for it. -/
theorem Matches.le_word (h : l.Matches start padded t n) {m : Nat}
    (ht : (l.table.token? t).map TokenEntry.matcher =
      some (.literal (Text.slice l.text start (start + m)))) : n ≤ m := by
  obtain ⟨trial, htrial, hn⟩ := h.tried
  rw [tryTerminal, ht] at htrial
  cases htrial
  simp only [tryLiteral] at hn
  split at hn
  · next hcommon =>
    obtain rfl := Option.some.inj hn
    have := Text.utf8ByteSize_slice_le l.text start (start + m)
    rw [hcommon, String.size_toByteArray]
    omega
  · cases hn

/-! ## The longest match -/

/-- Where a terminal competes there is a longest match, which is as long. -/
theorem exists_longest (h : l.Runs start padded w t n) (ht : t ≠ endSymbol) (examined : Nat) :
    ∃ symbol m, (l.longest start padded w examined).1 = some (symbol, m) ∧ n ≤ m := by
  obtain ⟨trial, htrial, -⟩ := h.stands.tried
  have hpos : 1 ≤ t := Nat.pos_of_ne_zero ht
  have hmem : t ∈ List.range' 1 (l.table.terminalCount - 1) := by
    have inside := lt_of_tryTerminal htrial
    rw [List.mem_range'_1, Nat.add_sub_cancel' (Nat.le_of_lt (Nat.lt_of_le_of_lt hpos inside))]
    exact ⟨hpos, inside⟩
  obtain ⟨c, hc, hle⟩ := (goes_foldl _ ⟨none, examined⟩).counts t hmem n h
  exact ⟨l.refine start w c, c.length, by rw [longest, hc]; rfl, hle⟩

/-! ## The terminals that are welcome -/

/-- A terminal is the word, or a keyword that the word stands for. -/
def OfWord (l : Lexer) (t : SymbolId) : Prop :=
  ∃ w, l.table.word = some w ∧ (t = w ∨ l.table.isKeyword t = true)

/-- A terminal with a text or a pattern is expected in one of the states, or an extra. -/
structure Welcome (l : Lexer) (states : List StateId) (t : SymbolId) : Prop where
  proper : t ≠ endSymbol
  text : ∃ entry, l.table.token? t = some entry ∧
    ((∃ text, entry.matcher = .literal text) ∨ ∃ p, entry.matcher = .pattern p)
  expected : l.table.Expects states t ∨ l.table.isExtra t = true

variable {states : List StateId}

/-- What matches has a text or a pattern. -/
theorem exists_text_of_tryTerminal {trial : Trial} (h : l.tryTerminal t start = some trial) :
    ∃ entry, l.table.token? t = some entry ∧
      ((∃ text, entry.matcher = .literal text) ∨ ∃ p, entry.matcher = .pattern p) := by
  unfold tryTerminal at h
  cases hentry : l.table.token? t with
  | none => simp [hentry] at h
  | some entry =>
    rw [hentry, Option.map_some] at h
    refine ⟨entry, rfl, ?_⟩
    cases hmatcher : entry.matcher with
    | literal text => exact .inl ⟨text, rfl⟩
    | pattern p => exact .inr ⟨p, rfl⟩
    | endOfText => simp [hmatcher] at h
    | external index => simp [hmatcher] at h

/-- The text of a keyword was found. -/
theorem keyword_of_keywordFor {k : SymbolId} {m : Nat} (h : l.keywordFor start m = some k) :
    k ∈ l.table.data.lex.keywords ∧ ∃ entry, l.table.token? k = some entry ∧
      ∃ text, entry.matcher = .literal text := by
  refine ⟨List.mem_of_find?_eq_some h, ?_⟩
  have found := List.find?_some h
  cases hentry : l.table.token? k with
  | none => simp [hentry] at found
  | some entry =>
    refine ⟨entry, rfl, ?_⟩
    cases hmatcher : entry.matcher with
    | literal text => exact ⟨text, rfl⟩
    | endOfText | pattern _ | external _ => simp [hentry, hmatcher] at found

/-- Whether the word competes. -/
theorem competes_word_iff {word : SymbolId} (hword : l.table.word = some word) :
    competes l.table ⟨validIn l.table states, false⟩ word = true ↔
      l.table.Expects states word ∨ ∃ k ∈ l.table.data.lex.keywords, l.table.Expects states k := by
  simp [competes, hword, Wanted.contains, contains_validIn]

/-- Whether a terminal competes that has nothing to do with the word. -/
theorem competes_iff (ht : ¬ l.OfWord t) :
    competes l.table ⟨validIn l.table states, false⟩ t = true ↔
      l.table.Expects states t ∨ l.table.isExtra t = true := by
  have hne : l.table.word ≠ some t := fun h => ht ⟨t, h, .inl rfl⟩
  have hkeyword : ¬ (l.table.word.isSome && l.table.isKeyword t) = true := by
    rw [Bool.and_eq_true]
    rintro ⟨hsome, hkeyword⟩
    obtain ⟨w, hw⟩ := Option.isSome_iff_exists.1 hsome
    exact ht ⟨w, hw, .inr hkeyword⟩
  simp [competes, hne, hkeyword, Wanted.contains, contains_validIn]

/-- A welcome terminal that matches does so in the competition, or the word does for it. -/
theorem exists_runs_of_matches (hword : l.table.word ≠ some endSymbol)
    (hextra : ∀ t, l.OfWord t → l.table.isExtra t = true →
      ∃ t', l.OfWord t' ∧ l.table.Expects states t')
    (ht : l.Welcome states t) (h : l.Matches start padded t n) :
    ∃ t' m, t' ≠ endSymbol ∧ n ≤ m ∧
      l.Runs start padded ⟨validIn l.table states, false⟩ t' m := by
  by_cases hof : l.OfWord t
  -- what has to do with the word is found by way of the word
  · have expected : ∃ t', l.OfWord t' ∧ l.table.Expects states t' :=
      ht.expected.elim (fun h => ⟨t, hof, h⟩) (hextra t hof)
    obtain ⟨w, hw, hof⟩ := hof
    have competes : competes l.table ⟨validIn l.table states, false⟩ w = true := by
      obtain ⟨t', ⟨w', hw', hof'⟩, hexpects⟩ := expected
      obtain rfl := Option.some.inj (hw.symm.trans hw')
      rcases hof' with rfl | hkeyword
      · exact (competes_word_iff hw).2 (.inl hexpects)
      · exact (competes_word_iff hw).2 (.inr ⟨t', List.contains_iff_mem.1 hkeyword, hexpects⟩)
    have proper : w ≠ endSymbol := fun h => hword (h ▸ hw)
    by_cases heq : t = w
    · exact ⟨w, n, proper, Nat.le_refl n, competes, heq ▸ h.toStands⟩
    · obtain ⟨m, stands, htext⟩ := h.keyword w hw (hof.resolve_left heq) heq
      exact ⟨w, m, proper, h.le_word htext, competes, stands⟩
  · exact ⟨t, n, ht.proper, Nat.le_refl n, (competes_iff hof).2 ht.expected, h.toStands⟩

/-- What wins among the welcome terminals is one of them, unless it is the word, which competes for a
keyword. -/
theorem welcome_refine (hkeywords : endSymbol ∉ l.table.data.lex.keywords) {c : Candidate}
    (hproper : c.symbol ≠ endSymbol)
    (h : l.Runs start padded ⟨validIn l.table states, false⟩ c.symbol n) :
    l.Welcome states (l.refine start ⟨validIn l.table states, false⟩ c) ∨
      l.table.word = some (l.refine start ⟨validIn l.table states, false⟩ c) ∧
        ∃ k ∈ l.table.data.lex.keywords, l.table.Expects states k := by
  obtain ⟨trial, htrial, -⟩ := h.stands.tried
  have htext := exists_text_of_tryTerminal htrial
  have word_or (hw : l.table.word = some c.symbol) : l.Welcome states c.symbol ∨
      l.table.word = some c.symbol ∧ ∃ k ∈ l.table.data.lex.keywords, l.table.Expects states k :=
    ((competes_word_iff hw).1 h.competes).imp (fun h => ⟨hproper, htext, .inl h⟩) fun h => ⟨hw, h⟩
  unfold refine
  split
  · next hw =>
    split
    · next k hk =>
      obtain ⟨hmem, entry, hentry, text, hmatcher⟩ := keyword_of_keywordFor hk
      split
      · next hwanted =>
        refine .inl ⟨fun h => hkeywords (h ▸ hmem), ⟨entry, hentry, .inl ⟨text, hmatcher⟩⟩, .inl ?_⟩
        exact contains_validIn.1 (by simpa [Wanted.contains] using hwanted)
      · exact word_or hw
    · exact word_or hw
  · next hw =>
    -- a keyword does not compete itself
    refine .inl ⟨hproper, htext, (competes_iff fun hof => ?_).1 h.competes⟩
    obtain ⟨w, hword, rfl | hkeyword⟩ := hof
    · exact hw hword
    · have hcompetes := h.competes
      simp [competes, hword, hkeyword] at hcompetes
      exact hw (hcompetes.1 ▸ hword)

/-- Where a welcome terminal has the longest match, the token is that match. -/
theorem lexWith_of_longest {position m : Nat} {valid : TerminalSet} {symbol : SymbolId}
    (hexternal : l.scanExternal position (l.contentStart position).1 valid = none)
    (inside : (l.contentStart position).1 < l.size)
    (h : (l.longest (l.contentStart position).1 (position < (l.contentStart position).1)
      ⟨valid, false⟩ (l.contentStart position).2).1 = some (symbol, m)) :
    ∃ examined, l.lexWith position valid = ⟨symbol, position, (l.contentStart position).1,
      (l.contentStart position).1 + m, examined⟩ := by
  rw [lexWith_of_none hexternal inside, find]
  generalize l.longest _ _ ⟨valid, false⟩ _ = first at h ⊢
  obtain ⟨_, examined⟩ := first
  cases h
  exact ⟨_, rfl⟩

/-- If a welcome terminal matches, then the token is one and none matches more. Only the word can come
before them, where it competes for a keyword. -/
theorem selects_lex (l : Lexer) (position : Nat) (states : List StateId)
    (hword : l.table.word ≠ some endSymbol) (hkeywords : endSymbol ∉ l.table.data.lex.keywords)
    (hextra : ∀ t, l.OfWord t → l.table.isExtra t = true →
      ∃ t', l.OfWord t' ∧ l.table.Expects states t')
    (hexternal : l.scanExternal position (l.contentStart position).1 (validIn l.table states) = none)
    (hmatches : ∃ t n, l.Welcome states t ∧ l.Matches (l.contentStart position).1
      (decide (position < (l.contentStart position).1)) t n) :
    let token := l.lex position states
    (l.Welcome states token.symbol ∨ l.table.word = some token.symbol ∧
      ∃ k ∈ l.table.data.lex.keywords, l.table.Expects states k) ∧
    ∀ t n, l.Welcome states t →
      l.Matches token.start (decide (position < token.start)) t n → n ≤ token.stop - token.start := by
  -- whatever matches, the longest match of the first round is as long
  have found {t : SymbolId} {n : Nat} (ht : l.Welcome states t)
      (h : l.Matches (l.contentStart position).1
        (decide (position < (l.contentStart position).1)) t n) :
      ∃ symbol m, (l.longest (l.contentStart position).1 (position < (l.contentStart position).1)
        ⟨validIn l.table states, false⟩ (l.contentStart position).2).1 = some (symbol, m) ∧
          n ≤ m := by
    obtain ⟨t', m, proper, hle, runs⟩ := exists_runs_of_matches hword hextra ht h
    obtain ⟨symbol, m', hlongest, hle'⟩ := exists_longest runs proper (l.contentStart position).2
    exact ⟨symbol, m', hlongest, Nat.le_trans hle hle'⟩
  obtain ⟨t₀, n₀, welcome₀, matches₀⟩ := hmatches
  obtain ⟨symbol, m, hlongest, -⟩ := found welcome₀ matches₀
  obtain ⟨examined, token_eq⟩ := lexWith_of_longest hexternal matches₀.inside hlongest
  rw [lex, token_eq]
  refine ⟨?_, fun t n ht h => ?_⟩
  · obtain ⟨c, rfl, -, proper, runs⟩ := exists_runs_of_longest hlongest
    exact welcome_refine hkeywords proper runs
  · obtain ⟨symbol', m', hlongest', hle⟩ := found ht h
    cases hlongest.symm.trans hlongest'
    exact Nat.le_trans hle (Nat.le_of_eq (Nat.add_sub_cancel_left ..).symm)

end Lexer

namespace Reserved

/-- Small letters. -/
def name : Regex := .loop (.chars ⟨[(97, 122)]⟩) 1 none

/-- The one text is a keyword; the word is not expected. -/
def table : ParseTable where
  data := {
    name := "reserved"
    symbols := #[{ name := "end", kind := .endOfText, named := false, visible := false },
      { name := "name", kind := .pattern, named := true, visible := true },
      { name := "if", kind := .literal, named := false, visible := true },
      { name := "s", kind := .nonterminal, named := true, visible := true }]
    terminalCount := 3
    nonterminalCount := 1
    externalCount := 0
    fields := #[]
    productions := #[{ lhs := 3, children := [{ symbol := 2 }] }]
    stateCount := 3
    actionLists := #[[], [.shift 1], [.reduce 0], [.accept]]
    actionIndex := #[0, 0, 1, 2, 0, 0, 3, 0, 0]
    gotoIndex := #[2, noGoto, noGoto]
    startSymbol := 3
    lex := {
      tokens := #[⟨.endOfText, false⟩, ⟨.pattern ⟨"[a-z]+", name.toBytes⟩, false⟩,
        ⟨.literal "if", false⟩]
      padding := none
      word := some 1
      keywords := [2] }
    recovery := []
    conflicts := [] }
  patterns := #[none, some (.ofRegex name), none]
  padding := none
  valid := #[[2], [0], [0]]
  consistent := by cbv
  patterns_eq := by cbv
  padding_eq := by cbv
  valid_eq := by cbv

def lexer : Lexer := .ofText table none "if"

theorem matches_keyword : lexer.Matches 0 false 2 2 where
  nonempty := by decide
  tried := ⟨⟨some 2, true, 2⟩, by cbv, rfl⟩
  fits := rfl
  keyword := by
    intro w hw _ _
    obtain rfl : 1 = w := Option.some.inj hw
    have tried : lexer.tryTerminal 1 0 = some ⟨some 2, false, 2⟩ := by cbv
    exact ⟨2, ⟨by decide, ⟨_, tried, rfl⟩, rfl⟩, by cbv⟩

theorem welcome_keyword : lexer.Welcome [0] 2 where
  proper := by decide
  text := ⟨_, rfl, .inl ⟨_, rfl⟩⟩
  expected := .inl ⟨0, by decide, ParseTable.mem_validTerminals (by decide)⟩

theorem selects_keyword :
    (lexer.Welcome [0] (lexer.lex 0 [0]).symbol ∨ table.word = some (lexer.lex 0 [0]).symbol ∧
      ∃ k ∈ table.data.lex.keywords, table.Expects [0] k) ∧
    ∀ t n, lexer.Welcome [0] t →
      lexer.Matches (lexer.lex 0 [0]).start (decide (0 < (lexer.lex 0 [0]).start)) t n →
        n ≤ (lexer.lex 0 [0]).stop - (lexer.lex 0 [0]).start :=
  Lexer.selects_lex lexer 0 [0] (by decide) (by decide)
    (fun _ _ _ => ⟨2, ⟨1, rfl, .inr (by decide)⟩, 0, by decide, by decide⟩)
    rfl ⟨2, 2, welcome_keyword, matches_keyword⟩

end Reserved

end IncrementalGlr
