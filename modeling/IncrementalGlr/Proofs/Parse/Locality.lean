import Mathlib
import IncrementalGlr.Proofs.Parse.Lexer
import IncrementalGlr.Proofs.Text.Boundary

/-!
How far a token depends on the text. A token says up to where the lexer looked for it. That is the
whole truth for what the lexer finds by itself: on another text that is the same up to there, and one
byte further, it finds the same token (`Lexer.lexWith_of_alike`). It is not where an external scanner
was asked. What the scanner looked at is forgotten when it finds nothing, and when it does, what was
looked at for the padding is forgotten and of the last character that it saw only one byte counts;
`Lexer.reach` has the missing part.
-/
namespace IncrementalGlr

open Text

/-! ## Fixed text and patterns -/

namespace Lexer

theorem commonLength_of_agree {a b literal : ByteArray} {n offset i : Nat} (h : Agree a b n)
    (hlt : offset + commonLength a literal offset i < n) :
    commonLength b literal offset i = commonLength a literal offset i := by
  have left := h.left
  have right := h.right
  fun_induction commonLength a literal offset i with
  | case1 offset i hin heq ih =>
    have inside : offset < b.size := by omega
    have same : b[offset] = literal[i] := heq ▸ (h.getElem (by omega) hin.2 inside).symm
    rw [commonLength, dif_pos ⟨hin.1, inside⟩, if_pos same, ih (by omega)]
  | case2 offset i hin hne =>
    -- the byte that differs is the first one behind those that are counted, and still in common
    have inside : offset < b.size := by omega
    have differs : b[offset] ≠ literal[i] := by
      rw [← h.getElem (by omega) hin.2 inside]
      exact hne
    rw [commonLength, dif_pos ⟨hin.1, inside⟩, if_neg differs]
  | case3 offset i hout =>
    have short : ¬ (i < literal.size ∧ offset < b.size) := fun hin => hout ⟨hin.1, by omega⟩
    rw [commonLength, dif_neg short]

end Lexer

namespace Pattern

variable {p : Pattern} {a b : ByteArray} {start offset : Nat} {s : State} {last : Option Nat}

theorem le_examined_runFrom (h : offset ≤ a.size) :
    offset ≤ (p.runFrom a start offset s last).examined := by
  fun_induction runFrom p a start offset s last with
  | case1 => exact Nat.le_succ _
  | case2 offset _ _ hlt _ _ _ _ _ ih => exact Nat.le_of_succ_le (ih hlt)
  | case3 offset _ _ hlt _ _ _ _ _ _ ih => exact Nat.le_of_succ_le (ih hlt)
  | case4 => exact Nat.le_succ _
  | case5 => exact h

/-- A run takes the same course where all that it looks at is the same. -/
theorem runFrom_of_agree {e : Nat} (h : Agree a b (e + 1))
    (he : (p.runFrom a start offset s last).examined ≤ e) :
    p.runFrom b start offset s last = p.runFrom a start offset s last := by
  have left := h.left
  have right := h.right
  -- the run goes on beyond every byte that it reads
  have same {offset : Nat} (hlt : offset < a.size) (hle : offset + 1 ≤ e) :
      ∃ inside : offset < b.size, b[offset] = a[offset] := by
    exact ⟨by omega, (h.getElem (by omega) hlt (by omega)).symm⟩
  fun_induction runFrom p a start offset s last with
  | case1 offset s last hlt byte hgiveUp =>
    obtain ⟨inside, hbyte⟩ := same hlt he
    rw [runFrom, dif_pos inside]
    simp only [hbyte]
    exact if_pos hgiveUp
  | case2 offset s last hlt byte hgoes matched next hmatched ih =>
    obtain ⟨inside, hbyte⟩ := same hlt (Nat.le_trans (le_examined_runFrom hlt) he)
    rw [runFrom, dif_pos inside]
    simp only [hbyte]
    rw [if_neg hgoes, if_pos hmatched]
    exact ih he
  | case3 offset s last hlt byte hgoes matched next hmatched halive ih =>
    obtain ⟨inside, hbyte⟩ := same hlt (Nat.le_trans (le_examined_runFrom hlt) he)
    rw [runFrom, dif_pos inside]
    simp only [hbyte]
    rw [if_neg hgoes, if_neg hmatched, if_pos halive]
    exact ih he
  | case4 offset s last hlt byte hgoes matched next hmatched halive =>
    obtain ⟨inside, hbyte⟩ := same hlt he
    rw [runFrom, dif_pos inside]
    simp only [hbyte]
    rw [if_neg hgoes, if_neg hmatched, if_neg halive]
  -- a run that comes to the end looks at the whole text
  | case5 => exact absurd he (Nat.not_le.2 h.left)

/-- A pattern also looks at the byte before its start. -/
theorem run_of_agree {e : Nat} (h : Agree a b (e + 1)) (hstart : start ≤ e)
    (he : (p.run a start).examined ≤ e) : p.run b start = p.run a start := by
  have before : b[start - 1]? = a[start - 1]? := (h.same (start - 1) (by omega)).symm
  unfold run at he ⊢
  rw [before]
  exact runFrom_of_agree h he

end Pattern

/-! ## External scanners -/

namespace Scanner

/-- The end of the characters that a scanner sees; the end of the text, if it comes to stand there. -/
def seenFrom (s : Scanner) (text : String) (offset : Nat) (state : s.State) : Nat :=
  if offset < text.utf8ByteSize then
    match charAt? text offset with
    | none => offset
    | some c =>
      match (s.step state (some c)).move with
      | .stop _ => offset + c.utf8Size
      | .advance next => seenFrom s text (offset + c.utf8Size) next
  else text.utf8ByteSize
termination_by text.utf8ByteSize - offset
decreasing_by
  have := c.utf8Size_pos
  omega

variable {s : Scanner} {text text' : String} {offset e : Nat} {state : s.State}
  {marked : Option Nat}

theorem seenFrom_of_stop {c : Char} {found : Option Nat} (hc : charAt? text offset = some c)
    (hlt : offset < text.utf8ByteSize) (hmove : (s.step state (some c)).move = .stop found) :
    s.seenFrom text offset state = offset + c.utf8Size := by
  rw [seenFrom, if_pos hlt, hc]
  dsimp only
  rw [hmove]

theorem seenFrom_of_advance {c : Char} {next : s.State} (hc : charAt? text offset = some c)
    (hlt : offset < text.utf8ByteSize) (hmove : (s.step state (some c)).move = .advance next) :
    s.seenFrom text offset state = s.seenFrom text (offset + c.utf8Size) next := by
  rw [seenFrom, if_pos hlt, hc]
  dsimp only
  rw [hmove]

theorem le_seenFrom (h : offset ≤ text.utf8ByteSize) : offset ≤ s.seenFrom text offset state := by
  fun_induction seenFrom s text offset state with
  | case1 => exact Nat.le_refl _
  | case2 => exact Nat.le_add_right _ _
  | case3 offset state hlt c hc next hmove ih =>
    exact Nat.le_trans (Nat.le_add_right _ _) (ih (add_utf8Size_le_of_charAt? hc))
  | case4 => exact h

theorem finish_eq {size : Nat} {found : Option Nat} (h : offset < size) :
    finish size offset marked found = found.map fun index =>
      ⟨index, marked.getD offset, max (offset + 1) (marked.getD offset)⟩ := by
  unfold finish
  rw [Nat.min_eq_left h]

/-- A scanner finds the same where all that it sees is the same. -/
theorem runFrom_of_agree (h : Agree text.toByteArray text'.toByteArray (e + 1))
    (he : s.seenFrom text offset state ≤ e) :
    s.runFrom text' offset state marked = s.runFrom text offset state marked := by
  have left := h.left
  have right := h.right
  rw [String.size_toByteArray] at left right
  fun_induction runFrom s text offset state marked with
  | case1 offset state marked hlt hnone =>
    rw [seenFrom, if_pos hlt, hnone] at he
    dsimp only at he
    rw [runFrom, if_pos (by omega), h.charAt?_eq_none hnone (by omega)]
  | case2 offset state marked hlt c hc step marked' found hmove =>
    rw [seenFrom_of_stop hc hlt hmove] at he
    have hpos := c.utf8Size_pos
    rw [runFrom, if_pos (by omega), h.charAt?_eq hc (by omega)]
    dsimp only
    rw [hmove]
    exact (finish_eq (by omega)).trans (finish_eq hlt).symm
  | case3 offset state marked hlt c hc step marked' next hmove ih =>
    rw [seenFrom_of_advance hc hlt hmove] at he
    have hpos := c.utf8Size_pos
    have hle : offset + c.utf8Size ≤ s.seenFrom text (offset + c.utf8Size) next :=
      le_seenFrom (add_utf8Size_le_of_charAt? hc)
    rw [runFrom, if_pos (by omega), h.charAt?_eq hc (by omega)]
    dsimp only
    rw [hmove]
    exact ih he
  | case4 offset state marked hend step marked' found hmove =>
    rw [seenFrom, if_neg hend] at he
    omega
  | case5 offset state marked hend step next hmove =>
    rw [seenFrom, if_neg hend] at he
    omega

end Scanner

/-! ## Tokens -/

namespace Lexer

/-- Two lexers for texts that begin alike. -/
structure Alike (l l' : Lexer) (n : Nat) : Prop where
  table : l'.table = l.table
  scanner : l'.scanner = l.scanner
  agree : Agree l.bytes l'.bytes n

variable {l l' : Lexer} {e start : Nat} {padded : Bool} {w : Wanted}

theorem Search.le_examined_add (s : Search) (t : SymbolId) (trial : Trial) :
    s.examined ≤ (s.add t trial).examined ∧ trial.examined ≤ (s.add t trial).examined := by
  unfold Search.add
  dsimp only
  split
  · split <;> exact ⟨Nat.le_max_left .., Nat.le_max_right ..⟩
  · exact ⟨Nat.le_max_left .., Nat.le_max_right ..⟩

theorem le_examined_consider (s : Search) (t : SymbolId) :
    s.examined ≤ (l.consider start padded w s t).examined := by
  unfold consider
  split
  · split
    · exact (s.le_examined_add t _).1
    · exact Nat.le_refl _
  · exact Nat.le_refl _

theorem le_examined_foldl (ts : List SymbolId) (s : Search) :
    s.examined ≤ (ts.foldl (l.consider start padded w) s).examined := by
  induction ts generalizing s with
  | nil => exact Nat.le_refl _
  | cons t ts ih => exact Nat.le_trans (le_examined_consider s t) (ih _)

theorem le_examined_longest (l : Lexer) (start : Nat) (padded : Bool) (w : Wanted)
    (examined : Nat) : examined ≤ (l.longest start padded w examined).2 :=
  le_examined_foldl _ ⟨none, examined⟩

theorem le_examined_skipPadding (pattern : Pattern) (offset examined : Nat) :
    examined ≤ (l.skipPadding pattern offset examined).2 := by
  fun_induction Lexer.skipPadding l pattern offset examined with
  | case1 offset examined hlt scan examined' n hn ih => exact Nat.le_trans (Nat.le_max_left ..) ih
  | case2 => exact Nat.le_max_left ..
  | case3 => exact Nat.le_refl _

theorem le_examined_find (start : Nat) (padded : Bool) (valid : TerminalSet) (examined : Nat) :
    examined ≤ (l.find start padded valid examined).2 := by
  have first := l.le_examined_longest start padded ⟨valid, false⟩ examined
  unfold find
  split
  · next hfound => exact hfound ▸ first
  · next examined' hfound =>
    rw [hfound] at first
    exact Nat.le_trans first (l.le_examined_longest start padded ⟨valid, true⟩ examined')

section

variable {position : Nat} {found : Option (SymbolId × Nat) × Nat}

theorem examined_le_tokenOf : found.2 ≤ (l.tokenOf position start found).lookaheadEnd := by
  obtain ⟨_ | ⟨symbol, n⟩, examined⟩ := found
  · exact Nat.le_max_left ..
  · exact Nat.le_max_left ..

theorem stop_le_tokenOf : (l.tokenOf position start found).stop ≤
    (l.tokenOf position start found).lookaheadEnd := by
  obtain ⟨_ | ⟨symbol, n⟩, examined⟩ := found
  · exact Nat.le_max_right ..
  · exact Nat.le_max_right ..

theorem stop_tokenOf {t : SymbolId} {n : Nat} (h : found.1 = some (t, n)) :
    (l.tokenOf position start found).stop = start + n := by
  obtain ⟨_, examined⟩ := found
  cases h
  rfl

theorem start_le_tokenOf : start ≤ (l.tokenOf position start found).stop := by
  obtain ⟨_ | ⟨symbol, n⟩, examined⟩ := found
  · exact Nat.le_add_right ..
  · exact Nat.le_add_right ..

end

section

variable (h : l.Alike l' (e + 1))
include h

theorem Alike.lt_size : e < l.size ∧ e < l'.size := ⟨h.agree.left, h.agree.right⟩

theorem Alike.tryLiteral (literal : String) (he : (l.tryLiteral literal start).examined ≤ e) :
    l'.tryLiteral literal start = l.tryLiteral literal start := by
  have hsize : e < l.bytes.size ∧ e < l'.bytes.size := h.lt_size
  unfold Lexer.tryLiteral size at he ⊢
  dsimp only at he ⊢
  have common : commonLength l'.bytes literal.toByteArray start 0 =
      commonLength l.bytes literal.toByteArray start 0 := by
    refine commonLength_of_agree h.agree ?_
    split at he
    · exact Nat.lt_succ_of_le he
    · dsimp only at he
      omega
  rw [common]
  split at he
  · next hall => rw [if_pos hall, if_pos hall]
  · next hall =>
    dsimp only at he
    rw [if_neg hall, if_neg hall, Nat.min_eq_left (by omega), Nat.min_eq_left (by omega)]

theorem Alike.tryTerminal {t : SymbolId} (hstart : start ≤ e)
    (he : ∀ trial, l.tryTerminal t start = some trial → trial.examined ≤ e) :
    l'.tryTerminal t start = l.tryTerminal t start := by
  unfold Lexer.tryTerminal at he ⊢
  rw [h.table]
  split at he
  · exact congrArg some (h.tryLiteral _ (he _ rfl))
  · cases hp : l.table.pattern? t with
    | none => rfl
    | some p =>
      rw [hp] at he
      simp only [Option.map_some, Lexer.tryPattern, p.run_of_agree h.agree hstart (he _ rfl)]
  · rfl

theorem Alike.consider (hstart : start ≤ e) {s : Search} {t : SymbolId}
    (he : (l.consider start padded w s t).examined ≤ e) :
    l'.consider start padded w s t = l.consider start padded w s t := by
  unfold Lexer.consider at he ⊢
  rw [h.table]
  split at he
  · next hcompetes =>
    rw [if_pos hcompetes, if_pos hcompetes, h.tryTerminal hstart]
    intro trial htrial
    rw [htrial] at he
    exact Nat.le_trans (s.le_examined_add t trial).2 he
  · next hcompetes => rw [if_neg hcompetes, if_neg hcompetes]

theorem Alike.foldl (hstart : start ≤ e) {ts : List SymbolId} {s : Search}
    (he : (ts.foldl (l.consider start padded w) s).examined ≤ e) :
    ts.foldl (l'.consider start padded w) s = ts.foldl (l.consider start padded w) s := by
  induction ts generalizing s with
  | nil => rfl
  | cons t ts ih =>
    rw [List.foldl_cons, List.foldl_cons, h.consider hstart (Nat.le_trans (le_examined_foldl ts _) he)]
    exact ih he

theorem Alike.refine {c : Candidate} (hstop : start + c.length ≤ e) :
    l'.refine start w c = l.refine start w c := by
  have agree := h.agree
  rw [l.bytes_eq, l'.bytes_eq] at agree
  have slice := agree.slice_eq (p := start) (q := start + c.length) (by omega) (by omega)
  have keyword : l'.keywordFor start c.length = l.keywordFor start c.length := by
    unfold keywordFor
    rw [h.table, slice]
  unfold Lexer.refine
  rw [h.table, keyword]

theorem Alike.longest (hstart : start ≤ e) {examined : Nat}
    (he : (l.longest start padded w examined).2 ≤ e)
    (hstop : ∀ t n, (l.longest start padded w examined).1 = some (t, n) → start + n ≤ e) :
    l'.longest start padded w examined = l.longest start padded w examined := by
  unfold Lexer.longest at he hstop ⊢
  dsimp only at he hstop ⊢
  rw [h.table, h.foldl hstart he]
  refine Prod.ext ?_ rfl
  dsimp only
  -- whether the best match is a keyword is read off the text up to its end
  cases hbest : (List.foldl (l.consider start padded w) ⟨none, examined⟩
      (List.range' 1 (l.table.terminalCount - 1))).best with
  | none => rfl
  | some c =>
    rw [hbest] at hstop
    rw [Option.map_some, Option.map_some, h.refine (hstop _ _ rfl)]

theorem Alike.find (hstart : start ≤ e) {valid : TerminalSet} {examined : Nat}
    (he : (l.find start padded valid examined).2 ≤ e)
    (hstop : ∀ t n, (l.find start padded valid examined).1 = some (t, n) → start + n ≤ e) :
    l'.find start padded valid examined = l.find start padded valid examined := by
  unfold Lexer.find at he hstop ⊢
  generalize hfirst : l.longest start padded ⟨valid, false⟩ examined = first at he hstop ⊢
  obtain ⟨found, examined'⟩ := first
  cases found with
  | some found =>
    have first : l'.longest start padded ⟨valid, false⟩ examined =
        l.longest start padded ⟨valid, false⟩ examined :=
      h.longest hstart (by rw [hfirst]; exact he) (by rw [hfirst]; exact hstop)
    rw [first, hfirst]
  | none =>
    -- what was looked at in the first round counts in the second
    have hle : examined' ≤ e := Nat.le_trans (l.le_examined_longest ..) he
    have first : l'.longest start padded ⟨valid, false⟩ examined =
        l.longest start padded ⟨valid, false⟩ examined :=
      h.longest hstart (by rw [hfirst]; exact hle) fun t n hn => by
        rw [hfirst] at hn
        cases hn
    rw [first, hfirst]
    exact h.longest hstart he hstop

theorem Alike.skipPadding {pattern : Pattern} {offset examined : Nat}
    (hstart : (l.skipPadding pattern offset examined).1 ≤ e)
    (he : (l.skipPadding pattern offset examined).2 ≤ e) :
    l'.skipPadding pattern offset examined = l.skipPadding pattern offset examined := by
  have hsize := h.lt_size
  fun_induction Lexer.skipPadding l pattern offset examined with
  | case1 offset examined hlt scan examined' n hn ih =>
    have hle := Nat.le_trans (l.le_skipPadding pattern (offset + (n + 1)) examined') hstart
    have run : pattern.run l'.bytes offset = pattern.run l.bytes offset := by
      refine pattern.run_of_agree h.agree (by omega) (Nat.le_trans ?_ he)
      exact Nat.le_trans (Nat.le_max_right ..) (le_examined_skipPadding ..)
    rw [Lexer.skipPadding, if_pos (by omega), run]
    dsimp only
    rw [hn]
    exact ih hstart he
  | case2 offset examined hlt scan examined' hnone =>
    have run : pattern.run l'.bytes offset = pattern.run l.bytes offset :=
      pattern.run_of_agree h.agree hstart (Nat.le_trans (Nat.le_max_right ..) he)
    rw [Lexer.skipPadding, if_pos (by omega), run]
    dsimp only
    split
    · next n hn => exact absurd hn (hnone n)
    · rfl
  -- padding up to the end of the text
  | case3 offset examined hout => omega

theorem Alike.contentStart {position : Nat} (hstart : (l.contentStart position).1 ≤ e)
    (he : (l.contentStart position).2 ≤ e) :
    l'.contentStart position = l.contentStart position := by
  unfold Lexer.contentStart at hstart he ⊢
  rw [h.table]
  cases hp : l.table.padding with
  | none => rfl
  | some pattern =>
    rw [hp] at hstart he
    exact h.skipPadding hstart he

theorem Alike.widthAt (hstop : start + Text.widthAt l.bytes start ≤ e) :
    Text.widthAt l'.bytes start = Text.widthAt l.bytes start := by
  have inside : start < l.bytes.size := by
    have : e < l.bytes.size := h.lt_size.1
    omega
  have inside' : start < l'.bytes.size := by
    have : e < l'.bytes.size := h.lt_size.2
    omega
  have hpos := widthAt_pos inside
  have byte := h.agree.getElem (p := start) (by omega) inside inside'
  rw [widthAt_eq inside] at hstop ⊢
  rw [widthAt_eq inside', ← byte]
  -- neither text ends within the character
  have left := h.agree.left
  have right := h.agree.right
  omega

theorem Alike.scanExternal {position : Nat} {valid : TerminalSet}
    (he : ∀ s, l.scanner = some s → (validExternals l.table valid).contains true = true →
      s.seenFrom l.text start (s.begin start (validExternals l.table valid)) ≤ e) :
    l'.scanExternal position start valid = l.scanExternal position start valid := by
  have agree := h.agree
  rw [l.bytes_eq, l'.bytes_eq] at agree
  unfold Lexer.scanExternal
  rw [h.scanner, h.table]
  cases hs : l.scanner with
  | none => rfl
  | some s =>
    dsimp only
    split
    · next asked =>
      have run : s.run l'.text start (validExternals l.table valid) =
          s.run l.text start (validExternals l.table valid) :=
        Scanner.runFrom_of_agree agree (he s hs asked)
      rw [run]
    · rfl

theorem Alike.tokenOf {position : Nat} {found : Option (SymbolId × Nat) × Nat}
    (he : (l.tokenOf position start found).lookaheadEnd ≤ e) :
    l'.tokenOf position start found = l.tokenOf position start found := by
  obtain ⟨_ | ⟨symbol, n⟩, examined⟩ := found
  · have hstop := Nat.le_trans (Nat.le_max_right ..) he
    rw [Lexer.tokenOf, Lexer.tokenOf, h.widthAt hstop]
  · rfl

theorem Alike.lexWith {position : Nat} {valid : TerminalSet}
    (hstart : (l.contentStart position).1 ≤ e) (hcontent : (l.contentStart position).2 ≤ e)
    (hseen : ∀ s, l.scanner = some s → (validExternals l.table valid).contains true = true →
      s.seenFrom l.text (l.contentStart position).1
        (s.begin (l.contentStart position).1 (validExternals l.table valid)) ≤ e)
    (he : (l.lexWith position valid).lookaheadEnd ≤ e) :
    l'.lexWith position valid = l.lexWith position valid := by
  have content := h.contentStart hstart hcontent
  have external : l'.scanExternal position (l.contentStart position).1 valid =
      l.scanExternal position (l.contentStart position).1 valid := h.scanExternal hseen
  cases hexternal : l.scanExternal position (l.contentStart position).1 valid with
  | some token =>
    rw [lexWith_of_external hexternal, lexWith_of_external (by rw [content, external, hexternal])]
  | none =>
    have hsize := h.lt_size
    rw [lexWith_of_none hexternal (by omega)] at he ⊢
    rw [lexWith_of_none (by rw [content, external, hexternal]) (by rw [content]; omega), content]
    have find := h.find hstart (Nat.le_trans examined_le_tokenOf he) fun t n hn =>
      stop_tokenOf hn ▸ Nat.le_trans stop_le_tokenOf he
    rw [find, h.tokenOf he]

end

/-! ## What the lexer looks at -/

/-- What is looked at before an external scanner has found something or not, if one is asked. -/
def reach (l : Lexer) (position : Nat) (valid : TerminalSet) : Nat :=
  match l.scanner with
  | none => 0
  | some s =>
    let welcome := validExternals l.table valid
    let (start, examined) := l.contentStart position
    if welcome.contains true then max examined (s.seenFrom l.text start (s.begin start welcome))
    else 0

variable {position : Nat} {valid : TerminalSet}

theorem reach_eq {s : Scanner} (hs : l.scanner = some s)
    (asked : (validExternals l.table valid).contains true = true) :
    l.reach position valid = max (l.contentStart position).2
      (s.seenFrom l.text (l.contentStart position).1
        (s.begin (l.contentStart position).1 (validExternals l.table valid))) := by
  rw [reach, hs]
  exact if_pos asked

/-- Where a token begins, and what was looked at for the padding, is within what is looked at. -/
theorem contentStart_le (hsize : (l.lexWith position valid).lookaheadEnd < l.size) :
    (l.contentStart position).1 ≤ (l.lexWith position valid).lookaheadEnd ∧
      (l.contentStart position).2 ≤
        max (l.lexWith position valid).lookaheadEnd (l.reach position valid) := by
  cases hexternal : l.scanExternal position (l.contentStart position).1 valid with
  | some token =>
    obtain ⟨asked, s, result, symbol, hs, -, -, nonempty, rfl⟩ := of_scanExternal hexternal
    rw [lexWith_of_external hexternal, reach_eq hs asked]
    exact ⟨Nat.le_trans (Nat.le_of_lt nonempty) (Nat.le_max_right ..),
      Nat.le_trans (Nat.le_max_left ..) (Nat.le_max_right ..)⟩
  | none =>
    by_cases hend : l.size ≤ (l.contentStart position).1
    · rw [lexWith_of_end hexternal hend] at hsize
      exact absurd (Nat.le_max_right ..) (Nat.not_le.2 hsize)
    · rw [lexWith_of_none hexternal (Nat.not_le.1 hend)]
      refine ⟨Nat.le_trans start_le_tokenOf stop_le_tokenOf, Nat.le_trans ?_ (Nat.le_max_left ..)⟩
      exact Nat.le_trans (le_examined_find ..) examined_le_tokenOf

/-- On a text that is the same up to what the lexer looked at, and one byte further, the lexer finds the
same token. -/
theorem lexWith_of_alike (l l' : Lexer) (position : Nat) (valid : TerminalSet)
    (h : l.Alike l' (max (l.lexWith position valid).lookaheadEnd (l.reach position valid) + 1)) :
    l'.lexWith position valid = l.lexWith position valid := by
  obtain ⟨hstart, hcontent⟩ := contentStart_le (Nat.lt_of_le_of_lt (Nat.le_max_left ..) h.lt_size.1)
  refine h.lexWith (Nat.le_trans hstart (Nat.le_max_left ..)) hcontent (fun s hs asked => ?_)
    (Nat.le_max_left ..)
  rw [reach_eq hs asked]
  omega

end Lexer

namespace Arrows

/-- Single arrows; the scanner takes three at a time. -/
def table : ParseTable where
  data := {
    name := "arrows"
    symbols := #[{ name := "end", kind := .endOfText, named := false, visible := false },
      { name := "<", kind := .literal, named := false, visible := true },
      { name := "shift", kind := .external, named := true, visible := true },
      { name := "s", kind := .nonterminal, named := true, visible := true }]
    terminalCount := 3
    nonterminalCount := 1
    externalCount := 1
    fields := #[]
    productions := #[{ lhs := 3, children := [{ symbol := 1 }] },
      { lhs := 3, children := [{ symbol := 2 }] }]
    stateCount := 4
    actionLists := #[[], [.shift 1], [.shift 2], [.reduce 0], [.reduce 1], [.accept]]
    actionIndex := #[0, 1, 2, 3, 0, 0, 4, 0, 0, 5, 0, 0]
    gotoIndex := #[3, noGoto, noGoto, noGoto]
    startSymbol := 3
    lex := {
      tokens := #[⟨.endOfText, false⟩, ⟨.literal "<", false⟩, ⟨.external 0, false⟩]
      padding := none
      word := none
      keywords := [] }
    recovery := []
    conflicts := [] }
  patterns := #[none, none, none]
  padding := none
  valid := #[[1, 2], [0], [0], [0]]
  consistent := by cbv
  patterns_eq := by cbv
  padding_eq := by cbv
  valid_eq := by cbv

/-- Its states are the numbers of arrows that were read. -/
def scanner : Scanner where
  State := Nat
  begin _ _ := 0
  step read c :=
    if read = 3 then { move := .stop (some 0) }
    else if c = some '<' then { move := .advance (read + 1) }
    else { move := .stop none }

def lexer (text : String) : Lexer := .ofText table (some scanner) text

def welcome : TerminalSet := .singleton 1 ∪ .singleton 2

theorem lexWith_arrow : (lexer "<<ab").lexWith 0 welcome = ⟨1, 0, 0, 1, 1⟩ := by cbv

theorem reach_arrow : (lexer "<<ab").reach 0 welcome = 3 := by cbv

theorem lexWith_edited :
    (lexer "<<abc").lexWith 0 welcome = (lexer "<<ab").lexWith 0 welcome :=
  Lexer.lexWith_of_alike (lexer "<<ab") (lexer "<<abc") 0 welcome
    ⟨rfl, rfl, by
      rw [lexWith_arrow, reach_arrow]
      exact ⟨by decide, by decide, by decide +kernel⟩⟩

-- the first two bytes are the same, and the token above says that one was looked at
example : (lexer "<<<").lexWith 0 welcome = ⟨2, 0, 0, 3, 3⟩ := by cbv

end Arrows

end IncrementalGlr
