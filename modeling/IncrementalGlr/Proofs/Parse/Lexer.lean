import IncrementalGlr.Parse.Lexer
import IncrementalGlr.Proofs.Regex.Boundary

/-!
Where tokens lie. A token that is looked for at a character boundary begins behind padding and ends
at a boundary; it has text unless it is the end of the text, and before that there is nothing but
padding (`Lexed`). This holds for every table whose end of the text is told by nothing else
(`ParseTable.EndApart`), and for every scanner. It rests on what a search for the longest match keeps
(`Search.Goes`) and on what a token can be (`Finds`).
-/
namespace IncrementalGlr

open Text

/-- The end of the text is neither an external token nor a keyword. -/
structure ParseTable.EndApart (t : ParseTable) : Prop where
  external : ∀ index, t.externalSymbol index ≠ some endSymbol
  keyword : endSymbol ∉ t.data.lex.keywords

namespace Lexer

/-- Pieces of padding stand one after another between the two offsets. -/
inductive Padding (l : Lexer) : Nat → Nat → Prop where
  | nil (i : Nat) : Padding l i i
  | piece {pattern : Pattern} {i j n : Nat} (hp : l.table.padding = some pattern)
      (h : (pattern.run l.bytes i).longest = some (n + 1)) (rest : Padding l (i + (n + 1)) j) :
      Padding l i j

/-- How a token lies in the text if its padding begins at `position`. -/
structure Lexed (l : Lexer) (position : Nat) (t : Token) : Prop where
  paddingStart : t.paddingStart = position
  start_le : position ≤ t.start
  padding : l.Padding position t.start
  start : IsBoundary l.text t.start
  stop : IsBoundary l.text t.stop
  end_of_text : t.symbol = endSymbol → t.start = l.size ∧ t.stop = l.size
  nonempty : t.symbol ≠ endSymbol → t.start < t.stop

variable (l : Lexer)

theorem size_eq : l.size = l.text.utf8ByteSize := by
  rw [size, l.bytes_eq, String.size_toByteArray]

/-! ## Padding -/

theorem padding_skipPadding {pattern : Pattern} (hp : l.table.padding = some pattern)
    {offset examined : Nat} (h : IsBoundary l.text offset) :
    let stop := (l.skipPadding pattern offset examined).1
    offset ≤ stop ∧ l.Padding offset stop ∧ IsBoundary l.text stop := by
  fun_induction skipPadding l pattern offset examined with
  | case1 offset examined hlt scan examined' n hn ih =>
    obtain ⟨hle, hpad, hbound⟩ := ih (Pattern.isBoundary_of_run pattern l.bytes_eq h hn)
    exact ⟨by omega, .piece hp hn hpad, hbound⟩
  | case2 => exact ⟨Nat.le_refl _, .nil _, h⟩
  | case3 => exact ⟨Nat.le_refl _, .nil _, h⟩

theorem padding_contentStart {position : Nat} (h : IsBoundary l.text position) :
    let start := (l.contentStart position).1
    position ≤ start ∧ l.Padding position start ∧ IsBoundary l.text start := by
  unfold contentStart
  cases hp : l.table.padding with
  | none => exact ⟨Nat.le_refl _, .nil _, h⟩
  | some pattern => exact l.padding_skipPadding hp h

/-! ## Matches -/

omit l in
/-- The bytes counted by `commonLength` agree. -/
theorem agree_of_lt_commonLength {bytes literal : ByteArray} {offset i k : Nat}
    (h : k < commonLength bytes literal offset i) :
    offset + k < bytes.size ∧ i + k < literal.size ∧ bytes[offset + k]? = literal[i + k]? := by
  fun_induction commonLength bytes literal offset i generalizing k with
  | case1 offset i hin heq ih =>
    cases k with
    | zero =>
      refine ⟨hin.2, hin.1, ?_⟩
      rw [Nat.add_zero, Nat.add_zero, getElem?_pos bytes offset hin.2, getElem?_pos literal i hin.1,
        heq]
    | succ k =>
      have := ih (Nat.lt_of_succ_lt_succ h)
      rw [Nat.add_right_comm, Nat.add_assoc, Nat.add_right_comm i, Nat.add_assoc i] at this
      exact this
  | case2 => exact absurd h (Nat.not_lt_zero k)
  | case3 => exact absurd h (Nat.not_lt_zero k)

omit l in
/-- Text that agrees with the whole of `literal` is that text. -/
theorem extract_of_commonLength {bytes literal : ByteArray} {start : Nat}
    (h : commonLength bytes literal start 0 = literal.size) :
    start + literal.size ≤ max bytes.size start ∧
      bytes.extract start (start + literal.size) = literal := by
  have agree : ∀ k < literal.size, start + k < bytes.size ∧ bytes[start + k]? = literal[k]? := by
    intro k hk
    have := agree_of_lt_commonLength (h.symm ▸ hk : k < commonLength bytes literal start 0)
    rw [Nat.zero_add] at this
    exact ⟨this.1, this.2.2⟩
  have hle : start + literal.size ≤ max bytes.size start := by
    by_cases hpos : 0 < literal.size
    · have := (agree (literal.size - 1) (by omega)).1
      omega
    · omega
  refine ⟨hle, ByteArray.ext_getElem ?_ fun k hk hk' => ?_⟩
  · rw [ByteArray.size_extract]
    omega
  · rw [ByteArray.getElem_extract]
    obtain ⟨hin, hk''⟩ := agree k hk'
    rw [getElem?_pos bytes (start + k) hin, getElem?_pos literal k hk'] at hk''
    exact Option.some.inj hk''

theorem isBoundary_tryLiteral {literal : String} {start n : Nat} (h : IsBoundary l.text start)
    (hn : (l.tryLiteral literal start).length = some n) : IsBoundary l.text (start + n) := by
  simp only [tryLiteral] at hn
  split at hn
  · next heq =>
    obtain rfl := Option.some.inj hn
    obtain ⟨hle, hextract⟩ := extract_of_commonLength heq
    have hstart := h.le_size
    rw [l.bytes_eq] at hle hextract heq ⊢
    simp only [String.size_toByteArray, Nat.max_eq_left hstart] at hle hextract heq
    rw [heq]
    refine h.of_extract (Nat.le_add_right _ _) hle ?_
    rw [hextract]
    exact literal.isValidUTF8
  · cases hn

theorem isBoundary_tryTerminal {t : SymbolId} {start n : Nat} {trial : Trial}
    (h : IsBoundary l.text start) (ht : l.tryTerminal t start = some trial)
    (hn : trial.length = some n) : IsBoundary l.text (start + n) := by
  unfold tryTerminal at ht
  split at ht
  · cases ht
    exact l.isBoundary_tryLiteral h hn
  · obtain ⟨p, -, rfl⟩ := Option.map_eq_some_iff.1 ht
    exact Pattern.isBoundary_of_run p l.bytes_eq h hn
  · cases ht

/-! ## The longest match -/

/-- The text or the pattern of a terminal matches so many bytes at an offset, behind padding or not. -/
structure Stands (l : Lexer) (start : Nat) (padded : Bool) (t : SymbolId) (n : Nat) : Prop where
  nonempty : 0 < n
  tried : ∃ trial, l.tryTerminal t start = some trial ∧ trial.length = some n
  fits : fitsPadding l.table padded t = true

/-- A terminal that competes matches so many bytes. -/
structure Runs (l : Lexer) (start : Nat) (padded : Bool) (w : Wanted) (t : SymbolId) (n : Nat) :
    Prop where
  competes : competes l.table w t = true
  stands : l.Stands start padded t n

variable {l} {start n : Nat} {padded : Bool} {w : Wanted} {t : SymbolId} {s : Search}

/-- What has come of a search by more trials, of which those with the property succeed: what is best
now was best before or is one of the trials, and it is as long as each. -/
structure Search.Goes (succeeds : SymbolId → Nat → Prop) (ts : List SymbolId) (s s' : Search) :
    Prop where
  origin : ∀ c, s'.best = some c → s.best = some c ∨ c.symbol ∈ ts ∧ succeeds c.symbol c.length
  keeps : ∀ c, s.best = some c → ∃ c', s'.best = some c' ∧ c.length ≤ c'.length
  counts : ∀ t ∈ ts, ∀ n, succeeds t n → ∃ c', s'.best = some c' ∧ n ≤ c'.length

variable {succeeds : SymbolId → Nat → Prop}

theorem Search.Goes.idle {s' : Search} (hbest : s'.best = s.best) (h : ∀ n, ¬ succeeds t n) :
    s.Goes succeeds [t] s' where
  origin _ hc := .inl (hbest ▸ hc)
  keeps c hc := ⟨c, hbest ▸ hc, Nat.le_refl _⟩
  counts _ ht n hn := absurd hn (List.mem_singleton.1 ht ▸ h n)

theorem Search.Goes.add {trial : Trial}
    (h : ∀ n, succeeds t n ↔ trial.length = some n ∧ 0 < n) :
    s.Goes succeeds [t] (s.add t trial) := by
  unfold Search.add
  dsimp only
  split
  · next n hn =>
    split
    · next hbeats =>
      rw [Bool.and_eq_true, decide_eq_true_eq] at hbeats
      refine ⟨fun c hc => ?_, fun c hc => ⟨_, rfl, ?_⟩, fun t' ht m hm => ⟨_, rfl, ?_⟩⟩
      · cases hc
        exact .inr ⟨List.mem_singleton_self t, (h n).2 ⟨hn, hbeats.1⟩⟩
      · have hlonger := hbeats.2
        rw [hc, beats] at hlonger
        simp only [Bool.or_eq_true, Bool.and_eq_true, decide_eq_true_eq, beq_iff_eq] at hlonger
        dsimp only
        omega
      · obtain rfl := List.mem_singleton.1 ht
        exact Nat.le_of_eq (Option.some.inj (((h m).1 hm).1.symm.trans hn))
    · next hbeats =>
      refine ⟨fun c hc => .inl hc, fun c hc => ⟨c, hc, Nat.le_refl _⟩, fun t' ht m hm => ?_⟩
      obtain rfl := List.mem_singleton.1 ht
      obtain ⟨hlength, hpos⟩ := (h m).1 hm
      obtain rfl := Option.some.inj (hlength.symm.trans hn)
      cases hbest : s.best with
      | none => simp [hbest, beats, hpos] at hbeats
      | some c =>
        refine ⟨c, rfl, Nat.le_of_not_lt fun hlt => hbeats ?_⟩
        simp [hbest, beats, hpos, hlt]
  · next hnone =>
    refine Goes.idle rfl fun n hn => ?_
    cases hnone.symm.trans ((h n).1 hn).1

theorem Search.Goes.cons {ts : List SymbolId} {s s' s'' : Search} (h : s.Goes succeeds [t] s')
    (hrest : s'.Goes succeeds ts s'') : s.Goes succeeds (t :: ts) s'' where
  origin c hc := by
    rcases hrest.origin c hc with hc | ⟨hmem, hc⟩
    · refine (h.origin c hc).imp_right fun hc => ⟨?_, hc.2⟩
      exact List.mem_singleton.1 hc.1 ▸ List.mem_cons_self
    · exact .inr ⟨List.mem_cons_of_mem _ hmem, hc⟩
  keeps c hc := by
    obtain ⟨c₁, hc₁, hle⟩ := h.keeps c hc
    obtain ⟨c₂, hc₂, hle'⟩ := hrest.keeps c₁ hc₁
    exact ⟨c₂, hc₂, Nat.le_trans hle hle'⟩
  counts t' ht n hn := by
    rcases List.mem_cons.1 ht with rfl | ht
    · obtain ⟨c₁, hc₁, hle⟩ := h.counts t' (List.mem_singleton_self t') n hn
      obtain ⟨c₂, hc₂, hle'⟩ := hrest.keeps c₁ hc₁
      exact ⟨c₂, hc₂, Nat.le_trans hle hle'⟩
    · exact hrest.counts t' ht n hn

theorem goes_consider (s : Search) (t : SymbolId) :
    s.Goes (l.Runs start padded w) [t] (l.consider start padded w s t) := by
  unfold consider
  split
  · next hcompetes =>
    rw [Bool.and_eq_true] at hcompetes
    split
    · next trial htrial =>
      refine .add fun n => ⟨fun hn => ?_, fun hn => ?_⟩
      · obtain ⟨trial', htrial', hlength⟩ := hn.stands.tried
        obtain rfl := Option.some.inj (htrial.symm.trans htrial')
        exact ⟨hlength, hn.stands.nonempty⟩
      · exact ⟨hcompetes.1, hn.2, ⟨trial, htrial, hn.1⟩, hcompetes.2⟩
    · next hnone =>
      refine .idle rfl fun n hn => ?_
      obtain ⟨_, htrial, -⟩ := hn.stands.tried
      cases hnone.symm.trans htrial
  · next hcompetes =>
    exact .idle rfl fun n hn => hcompetes (Bool.and_eq_true_iff.2 ⟨hn.competes, hn.stands.fits⟩)

theorem goes_foldl (ts : List SymbolId) (s : Search) :
    s.Goes (l.Runs start padded w) ts (ts.foldl (l.consider start padded w) s) := by
  induction ts generalizing s with
  | nil => exact ⟨fun c hc => .inl hc, fun c hc => ⟨c, hc, Nat.le_refl _⟩,
      fun t ht => absurd ht List.not_mem_nil⟩
  | cons t ts ih => exact (goes_consider s t).cons (ih _)

/-- The longest match is that of a terminal that competes. -/
theorem exists_runs_of_longest {examined : Nat}
    (h : (l.longest start padded w examined).1 = some (t, n)) :
    ∃ c : Candidate, t = l.refine start w c ∧ c.length = n ∧ c.symbol ≠ endSymbol ∧
      l.Runs start padded w c.symbol n := by
  obtain ⟨c, hc, heq⟩ := Option.map_eq_some_iff.1 h
  obtain ⟨rfl, rfl⟩ := Prod.mk.inj heq
  rcases (goes_foldl _ _).origin c hc with hnone | ⟨hmem, runs⟩
  · cases hnone
  · exact ⟨c, rfl, rfl, Nat.ne_of_gt (List.mem_range'_1.1 hmem).1, runs⟩

/-- A longest match is not the end of the text. -/
theorem refine_ne_endSymbol (ht : l.table.EndApart) {c : Candidate} (hc : c.symbol ≠ endSymbol) :
    l.refine start w c ≠ endSymbol := by
  unfold refine
  split
  · split
    · next k hk =>
      split
      · intro hend
        exact ht.keyword (hend ▸ List.mem_of_find?_eq_some hk)
      · exact hc
    · exact hc
  · exact hc

/-! ## External tokens -/

end Lexer

namespace Scanner

/-- A token ends where the scanner began or at an offset that it has come to from there. -/
theorem stop_of_runFrom {s : Scanner} {text : String} {Q : Nat → Prop}
    (hnext : ∀ offset c, offset < text.utf8ByteSize → charAt? text offset = some c → Q offset →
      Q (offset + c.utf8Size)) {offset : Nat} {state : s.State} {marked : Option Nat}
    {result : ScanResult} (h : Q offset) (hm : ∀ n, marked = some n → Q n)
    (hr : s.runFrom text offset state marked = some result) : Q result.stop := by
  have finished {offset : Nat} {marked : Option Nat} (h : Q offset)
      (hm : ∀ n, marked = some n → Q n) {found : Option Nat} {result : ScanResult}
      (hr : finish text.utf8ByteSize offset marked found = some result) : Q result.stop := by
    obtain ⟨index, -, rfl⟩ := Option.map_eq_some_iff.1 hr
    cases marked with
    | none => exact h
    | some n => exact hm n rfl
  have marks {offset : Nat} {marked : Option Nat} (h : Q offset)
      (hm : ∀ n, marked = some n → Q n) (mark : Bool) (n : Nat)
      (hn : (if mark then some offset else marked) = some n) : Q n := by
    split at hn
    · exact Option.some.inj hn ▸ h
    · exact hm n hn
  fun_induction runFrom s text offset state marked with
  | case1 => cases hr
  | case2 offset state marked hlt c hc step marked' found hmove =>
    exact finished h (marks h hm step.mark) hr
  | case3 offset state marked hlt c hc step marked' next hmove ih =>
    exact ih (hnext offset c hlt hc h) (marks h hm step.mark) hr
  | case4 offset state marked hend step marked' found hmove =>
    exact finished h (marks h hm step.mark) hr
  | case5 => cases hr

/-- Scanners move from boundary to boundary, so their tokens end at one. -/
theorem isBoundary_of_run {s : Scanner} {text : String} {offset : Nat} {valid : List Bool}
    {result : ScanResult} (h : IsBoundary text offset)
    (hr : s.run text offset valid = some result) : IsBoundary text result.stop := by
  refine stop_of_runFrom (fun offset c hlt hc h => ?_) h (fun _ h => by cases h) hr
  obtain ⟨c', hc', -, hnext⟩ := h.exists_char (by rwa [String.size_toByteArray])
  obtain rfl : c = c' := Option.some.inj (hc.symm.trans hc')
  exact hnext

/-- Scanners do not move beyond the text. -/
theorem le_size_of_run {s : Scanner} {text : String} {offset : Nat} {valid : List Bool}
    {result : ScanResult} (h : offset ≤ text.utf8ByteSize)
    (hr : s.run text offset valid = some result) : result.stop ≤ text.utf8ByteSize := by
  refine stop_of_runFrom (Q := (· ≤ text.utf8ByteSize)) (fun offset c hlt hc _ => ?_) h
    (fun _ h => by cases h) hr
  obtain ⟨c', hc', -, hnext⟩ := (isBoundary_of_charAt? hc).exists_char
    (by rwa [String.size_toByteArray])
  obtain rfl : c = c' := Option.some.inj (hc.symm.trans hc')
  exact hnext.le_size

/-- Behind the end of the text there is nothing to move past. -/
theorem stop_of_run {s : Scanner} {text : String} {offset : Nat} {valid : List Bool}
    {result : ScanResult} (h : text.utf8ByteSize ≤ offset)
    (hr : s.run text offset valid = some result) : result.stop = offset := by
  rw [run, runFrom, if_neg (Nat.not_lt.2 h)] at hr
  dsimp only at hr
  split at hr
  · obtain ⟨index, -, rfl⟩ := Option.map_eq_some_iff.1 hr
    dsimp only
    split <;> rfl
  · cases hr

end Scanner

namespace Lexer

variable {l : Lexer}

theorem widthAt_eq {bytes : ByteArray} {offset : Nat} (h : offset < bytes.size) :
    widthAt bytes offset = min (charWidth bytes[offset]) (bytes.size - offset) := by
  rw [widthAt, getElem?_pos bytes offset h]

theorem widthAt_pos {bytes : ByteArray} {offset : Nat} (h : offset < bytes.size) :
    0 < widthAt bytes offset := by
  have hpos : 0 < charWidth bytes[offset] := by
    unfold charWidth
    repeat' split
    all_goals decide
  rw [widthAt_eq h]
  omega

/-! ## What is found -/

/-- What a token is that begins at `start`: a token of the external scanner, the end of the text, the
longest match, or one character where nothing fits. -/
inductive Finds (l : Lexer) (position start : Nat) : Token → Prop where
  | external {scanner : Scanner} {welcome : List Bool} {result : ScanResult} {symbol : SymbolId}
      {examined : Nat} (run : scanner.run l.text start welcome = some result)
      (known : l.table.externalSymbol result.index = some symbol) (nonempty : start < result.stop) :
      Finds l position start ⟨symbol, position, start, result.stop, examined⟩
  | endOfText {examined : Nat} (size : l.size ≤ start) :
      Finds l position start ⟨endSymbol, position, l.size, l.size, examined⟩
  | matched {padded : Bool} {w : Wanted} {examined examined' n : Nat} {symbol : SymbolId}
      (inside : start < l.size)
      (longest : (l.longest start padded w examined).1 = some (symbol, n)) :
      Finds l position start ⟨symbol, position, start, start + n, examined'⟩
  | unmatched {examined : Nat} (inside : start < l.size) :
      Finds l position start
        ⟨errorSymbol, position, start, start + Text.widthAt l.bytes start, examined⟩

/-- An external token was found by the scanner, which was asked for it. -/
theorem of_scanExternal {position start : Nat} {valid : TerminalSet} {token : Token}
    (h : l.scanExternal position start valid = some token) :
    (validExternals l.table valid).contains true = true ∧ ∃ scanner result symbol,
      l.scanner = some scanner ∧
      scanner.run l.text start (validExternals l.table valid) = some result ∧
      l.table.externalSymbol result.index = some symbol ∧ start < result.stop ∧
      token = ⟨symbol, position, start, result.stop, max result.examined result.stop⟩ := by
  unfold scanExternal at h
  split at h
  · cases h
  · next scanner hscanner =>
    dsimp only at h
    split at h
    · next asked =>
      simp only [Option.bind_eq_bind, Option.bind_eq_some_iff] at h
      obtain ⟨result, run, symbol, known, h⟩ := h
      split at h
      · next hwelcome =>
        rw [Bool.and_eq_true, decide_eq_true_eq] at hwelcome
        exact ⟨asked, scanner, result, symbol, hscanner, run, known, hwelcome.2,
          (Option.some.inj h).symm⟩
      · cases h
    · cases h

/-- The longest match among the terminals that are welcome, or else among all. -/
def find (l : Lexer) (start : Nat) (padded : Bool) (valid : TerminalSet) (examined : Nat) :
    Option (SymbolId × Nat) × Nat :=
  match l.longest start padded ⟨valid, false⟩ examined with
  | (some found, examined) => (some found, examined)
  | (none, examined) => l.longest start padded ⟨valid, true⟩ examined

/-- The token that a longest match is, or one character without. -/
def tokenOf (l : Lexer) (position start : Nat) : Option (SymbolId × Nat) × Nat → Token
  | (some (symbol, n), examined) =>
    ⟨symbol, position, start, start + n, max examined (start + n)⟩
  | (none, examined) =>
    let stop := start + Text.widthAt l.bytes start
    ⟨errorSymbol, position, start, stop, max examined stop⟩

section

variable {position : Nat} {valid : TerminalSet}

theorem lexWith_of_external {token : Token}
    (h : l.scanExternal position (l.contentStart position).1 valid = some token) :
    l.lexWith position valid = token := by
  unfold lexWith
  dsimp only
  rw [h]

theorem lexWith_of_end (h : l.scanExternal position (l.contentStart position).1 valid = none)
    (hsize : l.size ≤ (l.contentStart position).1) : l.lexWith position valid =
      ⟨endSymbol, position, l.size, l.size, max (l.contentStart position).2 l.size⟩ := by
  unfold lexWith
  dsimp only
  rw [h]
  exact if_pos hsize

theorem lexWith_of_none (h : l.scanExternal position (l.contentStart position).1 valid = none)
    (hsize : (l.contentStart position).1 < l.size) :
    l.lexWith position valid = l.tokenOf position (l.contentStart position).1
      (l.find (l.contentStart position).1 (position < (l.contentStart position).1) valid
        (l.contentStart position).2) := by
  unfold lexWith
  dsimp only
  rw [h]
  dsimp only
  rw [if_neg (Nat.not_le.2 hsize)]
  unfold find
  generalize l.longest _ _ ⟨valid, false⟩ _ = first
  obtain ⟨_ | ⟨symbol, n⟩, examined⟩ := first
  · dsimp only
    generalize l.longest _ _ ⟨valid, true⟩ _ = second
    obtain ⟨_ | ⟨symbol, n⟩, examined⟩ := second <;> rfl
  · rfl

/-- What is found is the longest match of a welcome terminal, or else of any. -/
theorem longest_of_find {start examined n : Nat} {padded : Bool} {symbol : SymbolId}
    (h : (l.find start padded valid examined).1 = some (symbol, n)) :
    ∃ w examined', (l.longest start padded w examined').1 = some (symbol, n) := by
  unfold find at h
  split at h
  · next found _ hfound => exact ⟨_, _, (congrArg Prod.fst hfound).trans h⟩
  · exact ⟨_, _, h⟩

/-- Whichever terminals are welcome, the token begins where the padding ends. -/
theorem finds_lexWith (l : Lexer) (position : Nat) (valid : TerminalSet) :
    l.Finds position (l.contentStart position).1 (l.lexWith position valid) := by
  cases hexternal : l.scanExternal position (l.contentStart position).1 valid with
  | some token =>
    obtain ⟨-, scanner, result, symbol, -, run, known, nonempty, rfl⟩ := of_scanExternal hexternal
    rw [lexWith_of_external hexternal]
    exact .external run known nonempty
  | none =>
    by_cases hsize : l.size ≤ (l.contentStart position).1
    · rw [lexWith_of_end hexternal hsize]
      exact .endOfText hsize
    · have inside := Nat.not_le.1 hsize
      rw [lexWith_of_none hexternal inside]
      generalize hfind : l.find (l.contentStart position).1 _ valid _ = found
      obtain ⟨_ | ⟨symbol, n⟩, examined⟩ := found
      · exact .unmatched inside
      · obtain ⟨w, examined', hlongest⟩ := longest_of_find (congrArg Prod.fst hfind)
        exact .matched inside hlongest

end

/-- Every token lies behind padding, from boundary to boundary. -/
theorem lexed_lexWith (ht : l.table.EndApart) {position : Nat} (h : IsBoundary l.text position)
    (valid : TerminalSet) : l.Lexed position (l.lexWith position valid) := by
  obtain ⟨hle, hpad, hbound⟩ := l.padding_contentStart h
  have found := l.finds_lexWith position valid
  generalize (l.contentStart position).1 = start at hle hpad hbound found
  generalize l.lexWith position valid = token at found ⊢
  have matched {symbol stop examined : Nat} (hlt : start < stop) (hstop : IsBoundary l.text stop)
      (hne : symbol ≠ endSymbol) : l.Lexed position ⟨symbol, position, start, stop, examined⟩ :=
    ⟨rfl, hle, hpad, hbound, hstop, fun hend => absurd hend hne, fun _ => hlt⟩
  cases found with
  | external run known nonempty =>
    apply matched nonempty (Scanner.isBoundary_of_run hbound run)
    rintro rfl
    exact ht.external _ known
  | endOfText size =>
    rw [size_eq] at size ⊢
    obtain rfl : start = l.text.utf8ByteSize := Nat.le_antisymm hbound.le_size size
    exact ⟨rfl, hle, hpad, isBoundary_size, isBoundary_size, fun _ => ⟨l.size_eq.symm, l.size_eq.symm⟩,
      fun hne => absurd rfl hne⟩
  | matched inside longest =>
    obtain ⟨c, rfl, -, proper, runs⟩ := exists_runs_of_longest longest
    obtain ⟨trial, htrial, hn⟩ := runs.stands.tried
    exact matched (Nat.lt_add_of_pos_right runs.stands.nonempty)
      (l.isBoundary_tryTerminal hbound htrial hn) (refine_ne_endSymbol ht proper)
  | unmatched inside =>
    have hin : start < l.text.toByteArray.size := by
      rw [String.size_toByteArray, ← size_eq]
      exact inside
    have hstop := hbound.add_charWidth hin
    have width : widthAt l.bytes start = charWidth l.text.toByteArray[start] := by
      have hle := hstop.le_size
      rw [← String.size_toByteArray] at hle
      rw [l.bytes_eq, widthAt_eq hin]
      omega
    rw [← width] at hstop
    exact matched (Nat.lt_add_of_pos_right (widthAt_pos inside)) hstop (by decide)

/-- Wherever it is looked for, a token has text unless it is the end of the text. -/
theorem nonempty_lex (position : Nat) (states : List StateId)
    (h : (l.lex position states).symbol ≠ endSymbol) :
    (l.lex position states).start < (l.lex position states).stop := by
  have found := l.finds_lexWith position (validIn l.table states)
  unfold lex at h ⊢
  generalize l.lexWith position _ = token at h found ⊢
  cases found with
  | external run known nonempty => exact nonempty
  | endOfText size => exact absurd rfl h
  | matched inside longest =>
    obtain ⟨_, -, -, -, runs⟩ := exists_runs_of_longest longest
    exact Nat.lt_add_of_pos_right runs.stands.nonempty
  | unmatched inside => exact Nat.lt_add_of_pos_right (widthAt_pos inside)

theorem le_skipPadding (l : Lexer) (pattern : Pattern) (offset examined : Nat) :
    offset ≤ (l.skipPadding pattern offset examined).1 := by
  fun_induction skipPadding l pattern offset examined with
  | case1 offset examined hlt scan examined' n hn ih => omega
  | case2 => exact Nat.le_refl _
  | case3 => exact Nat.le_refl _

theorem le_contentStart (l : Lexer) (position : Nat) : position ≤ (l.contentStart position).1 := by
  unfold contentStart
  split
  · exact l.le_skipPadding ..
  · exact Nat.le_refl _

/-- Wherever it is looked for, a token begins no earlier and within the text unless it is the end of
the text. -/
theorem start_lex (l : Lexer) (position : Nat) (states : List StateId) :
    (l.lex position states).paddingStart = position ∧
      ((l.lex position states).symbol ≠ endSymbol →
        position ≤ (l.lex position states).start ∧ (l.lex position states).start < l.size) := by
  have hle := l.le_contentStart position
  have found := l.finds_lexWith position (validIn l.table states)
  unfold lex
  generalize l.lexWith position _ = token at found ⊢
  generalize (l.contentStart position).1 = start at hle found
  cases found with
  | external run known nonempty =>
    refine ⟨rfl, fun _ => ⟨hle, Nat.lt_of_not_le fun hsize => ?_⟩⟩
    -- behind the text a scanner has nothing to move past
    have behind : l.text.utf8ByteSize ≤ start := l.size_eq ▸ hsize
    rw [Scanner.stop_of_run behind run] at nonempty
    exact Nat.lt_irrefl _ nonempty
  | endOfText size => exact ⟨rfl, fun h => absurd rfl h⟩
  | matched inside longest => exact ⟨rfl, fun _ => ⟨hle, inside⟩⟩
  | unmatched inside => exact ⟨rfl, fun _ => ⟨hle, inside⟩⟩

/-! ## Within the text -/

theorem skipPadding_le_size (l : Lexer) (pattern : Pattern) {offset : Nat} (h : offset ≤ l.size)
    (examined : Nat) : (l.skipPadding pattern offset examined).1 ≤ l.size := by
  fun_induction skipPadding l pattern offset examined with
  | case1 offset examined hlt scan examined' n hn ih => exact ih (pattern.le_size_of_run h hn)
  | case2 => exact h
  | case3 => exact h

theorem contentStart_le_size (l : Lexer) {position : Nat} (h : position ≤ l.size) :
    (l.contentStart position).1 ≤ l.size := by
  unfold contentStart
  split
  · exact l.skipPadding_le_size _ h _
  · exact h

theorem le_size_of_tryTerminal {t : SymbolId} {start n : Nat} {trial : Trial} (h : start ≤ l.size)
    (ht : l.tryTerminal t start = some trial) (hn : trial.length = some n) : start + n ≤ l.size := by
  unfold tryTerminal at ht
  split at ht
  · cases ht
    simp only [tryLiteral] at hn
    split at hn
    · next heq =>
      obtain rfl := Option.some.inj hn
      have hle := (extract_of_commonLength heq).1
      rw [heq]
      exact Nat.le_trans hle (Nat.max_le.2 ⟨Nat.le_refl _, h⟩)
    · cases hn
  · obtain ⟨p, -, rfl⟩ := Option.map_eq_some_iff.1 ht
    exact p.le_size_of_run h hn
  · cases ht

/-- A token that is looked for within the text lies in it, behind the place where it is looked for. -/
structure Within (l : Lexer) (position : Nat) (t : Token) : Prop where
  paddingStart : t.paddingStart = position
  start_le : position ≤ t.start
  le_stop : t.start ≤ t.stop
  stop_le : t.stop ≤ l.size

theorem within_lex (l : Lexer) {position : Nat} (h : position ≤ l.size) (states : List StateId) :
    l.Within position (l.lex position states) := by
  have hle := l.le_contentStart position
  have hsize := l.contentStart_le_size h
  have found := l.finds_lexWith position (validIn l.table states)
  unfold lex
  generalize l.lexWith position _ = token at found ⊢
  generalize (l.contentStart position).1 = start at hle hsize found
  cases found with
  | external run known nonempty =>
    refine ⟨rfl, hle, Nat.le_of_lt nonempty, ?_⟩
    rw [size_eq] at hsize ⊢
    exact Scanner.le_size_of_run hsize run
  | endOfText size => exact ⟨rfl, h, Nat.le_refl _, Nat.le_refl _⟩
  | matched inside longest =>
    obtain ⟨_, -, -, -, runs⟩ := exists_runs_of_longest longest
    obtain ⟨trial, htrial, hn⟩ := runs.stands.tried
    exact ⟨rfl, hle, Nat.le_add_right _ _, l.le_size_of_tryTerminal hsize htrial hn⟩
  | unmatched inside =>
    refine ⟨rfl, hle, Nat.le_add_right _ _, ?_⟩
    rw [widthAt_eq inside]
    change start + min _ (l.size - start) ≤ l.size
    omega

theorem lexed_lex (ht : l.table.EndApart) {position : Nat} (h : IsBoundary l.text position)
    (states : List StateId) : l.Lexed position (l.lex position states) :=
  lexed_lexWith ht h _

end Lexer

end IncrementalGlr
