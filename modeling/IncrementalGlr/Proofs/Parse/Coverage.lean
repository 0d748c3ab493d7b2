import IncrementalGlr.Parse.Parser
import IncrementalGlr.Proofs.Parse.Invariant
import IncrementalGlr.Proofs.Parse.Lexer
import IncrementalGlr.Proofs.Parse.Stack

/-!
A tree covers its text. All heads have the same row of leaves on their stacks, and that row followed
by the tokens put aside lies in the text from its start to the place of the next token, with every
token that was looked for at its place (`Covering`). Every step of a parse from scratch keeps this,
so the leaves of the root are the tokens, each once and in order. The one exception is a text taken
for a symbol that is not there: extras around the placeholder displace it, and its padding is lost.
-/
namespace IncrementalGlr

open Text

/-- What a parser relies on in a table: only the end of the text is accepted, and not right behind a
token. -/
structure ParseTable.Closing (t : ParseTable) : Prop extends t.EndApart where
  accept : ∀ {q s}, .accept ∈ t.actions q s → s = endSymbol
  shift : ∀ {q s r}, .shift r ∈ t.actions q s → .accept ∉ t.actions r endSymbol

/-- The tokens with text, without the padding before them. -/
def Token.texts (tokens : List Token) : List Piece :=
  (tokens.filter fun t => t.symbol != endSymbol).map Token.piece

theorem Token.texts_append (a b : List Token) :
    Token.texts (a ++ b) = Token.texts a ++ Token.texts b := by
  simp only [Token.texts, List.filter_append, List.map_append]

theorem Token.texts_of_end {token : Token} (h : token.symbol = endSymbol) :
    Token.texts [token] = [] := by
  simp [Token.texts, h]

theorem Token.texts_of_text {token : Token} (h : token.symbol ≠ endSymbol) :
    Token.texts [token] = [token.piece] := by
  simp [Token.texts, h]

theorem Token.texts_unpadded (token : Token) (start : Nat) :
    Token.texts [{ token with paddingStart := start }] = Token.texts [token] := by
  unfold Token.texts
  by_cases h : token.symbol = endSymbol
  · simp [h]
  · simp [h, Token.piece]

/-! ## Rows of leaves -/

/-- One leaf of a row, a placeholder with padding, is left out. -/
def Leaf.Displaced (row leaves : List Leaf) : Prop :=
  ∃ before after padding, row = before ++ ⟨errorSymbol, padding, 0⟩ :: after ∧ 0 < padding ∧
    leaves = before ++ after

/-- An error node with extras below it and nothing else. -/
def Subtree.OnlyExtras (t : Subtree) : Prop :=
  t.symbol = errorSymbol ∧ t.children ≠ [] ∧ ∀ c ∈ t.children, c.extra = true

/-- A row of leaves lies in the text from its start up to `position`: its leaves with text are
`texts`, and each of its leaves ends at a boundary. -/
structure Laid (l : Lexer) (texts : List Piece) (position : Nat) (row : List Leaf) : Prop where
  pieces : Leaf.pieces 0 row = texts
  totals : Leaf.totals row = position
  stops : ∀ s ∈ Leaf.spans 0 row, IsBoundary l.text s.2
  position : IsBoundary l.text position

namespace Laid

variable {l : Lexer} {texts : List Piece} {position : Nat} {row : List Leaf}

theorem nil : Laid l [] 0 [] := ⟨rfl, rfl, fun _ h => absurd h List.not_mem_nil, isBoundary_zero⟩

/-- One more leaf. -/
theorem snoc (h : Laid l texts position row) (leaf : Leaf) (stop : Nat)
    (hstop : position + (leaf.padding + leaf.size) = stop) (hbound : IsBoundary l.text stop) :
    Laid l (texts ++ if 0 < leaf.size then
      [⟨leaf.symbol, position + leaf.padding, stop⟩] else []) stop (row ++ [leaf]) := by
  subst hstop
  refine ⟨?_, ?_, fun s hs => ?_, hbound⟩
  · rw [Leaf.pieces_append, h.pieces, Nat.zero_add, h.totals]
    simp only [Leaf.pieces, List.append_nil, Nat.add_assoc]
  · rw [Leaf.totals_append, h.totals]
    simp only [Leaf.totals, Nat.add_zero]
  · rw [Leaf.spans_append, Nat.zero_add, h.totals, Leaf.spans, Leaf.spans] at hs
    rcases List.mem_append.1 hs with hs | hs
    · exact h.stops s hs
    · rw [List.mem_singleton.1 hs]
      exact hbound

/-- The token that was looked for behind the row is put there. -/
theorem leaf (h : Laid l texts position row) {token : Token} (ht : l.Lexed position token)
    (extra fragile : Bool) (q r : StateId) :
    Laid l (texts ++ Token.texts [token]) token.stop
      (row ++ (Subtree.leaf token extra fragile q r).leaves) := by
  have hpadding : token.padding = token.start - position := by
    rw [Token.padding, ht.paddingStart]
  have hle := ht.start_le
  rw [Subtree.leaves_leaf]
  by_cases hend : token.symbol = endSymbol
  · obtain ⟨hstart, hstop⟩ := ht.end_of_text hend
    have hlength : token.length = 0 := by rw [Token.length, hstart, hstop, Nat.sub_self]
    rw [Token.texts_of_end hend, List.append_nil]
    split
    · have := h.snoc ⟨token.symbol, token.padding, token.length⟩ token.stop
        (by dsimp only; omega) ht.stop
      simpa only [hlength, Nat.lt_irrefl, if_false, List.append_nil] using this
    · have : token.stop = position := by omega
      rw [List.append_nil, this]
      exact h
  · have hpos : 0 < token.length := Nat.sub_pos_of_lt (ht.nonempty hend)
    have hlength : token.length = token.stop - token.start := rfl
    rw [if_pos (by omega), Token.texts_of_text hend]
    have := h.snoc ⟨token.symbol, token.padding, token.length⟩ token.stop
      (by dsimp only; omega) ht.stop
    have hstart : position + token.padding = token.start := by omega
    simpa only [Token.piece, hpos, if_true, hstart] using this

/-- What stands for a missing symbol takes the padding of the token. -/
theorem missing (h : Laid l texts position row) {token : Token} (ht : l.Lexed position token)
    (symbol : SymbolId) :
    Laid l texts token.start (row ++ (Subtree.missing symbol token).leaves) := by
  have hpadding : token.padding = token.start - position := by
    rw [Token.padding, ht.paddingStart]
  have hle := ht.start_le
  rw [Subtree.leaves_missing]
  split
  · have := h.snoc ⟨errorSymbol, token.padding, 0⟩ token.start
      (by dsimp only; omega) ht.start
    simpa only [Nat.lt_irrefl, if_false, List.append_nil] using this
  · have : token.start = position := by omega
    rw [List.append_nil, this]
    exact h

end Laid

/-- Without its padding a token lies where it lies. -/
theorem Lexer.Lexed.unpadded {l : Lexer} {position : Nat} {token : Token}
    (h : l.Lexed position token) : l.Lexed token.start { token with paddingStart := token.start } where
  paddingStart := rfl
  start_le := Nat.le_refl _
  padding := .nil _
  start := h.start
  stop := h.stop
  end_of_text := h.end_of_text
  nonempty := h.nonempty

namespace Engine

open Parsing

variable {e : Engine} {token : Token} {c c' : Configuration} {row : List Leaf}
  {texts : List Piece} {tokens : List Token}

/-! ## The invariant -/

/-- The stack is in order and has the leaves `row`. -/
def Fits (e : Engine) (row : List Leaf) (h : Head) : Prop :=
  h.stack.Sound e.table ∧ h.stack.leaves = row

theorem keeps_fits : e.Keeps token (e.Fits row) where
  path _ _ h := h
  reduce := by
    rintro fragile id h next ⟨hsound, hrow⟩ - ⟨p, stack, state, -, hreduce, rfl⟩
    obtain ⟨hsound', hleaves, -⟩ := hsound.reduce hreduce
    exact ⟨hsound', hleaves.trans hrow⟩

/-- The row followed by the tokens put aside lies in the text up to where the next token is looked
for. -/
structure Covering (e : Engine) (row : List Leaf) (texts : List Piece) (tokens : List Token)
    (c : Configuration) : Prop where
  pulled : c.pulled = tokens
  pending : ∀ t ∈ c.pending, t.Sized
  laid : Laid e.lexer texts c.position (row ++ Subtree.leavesOf c.pending)

/-- All heads have the row on their stacks. While tokens are put aside there is one head only. -/
structure Standing (e : Engine) (row : List Leaf) (c : Configuration) : Prop where
  fits : ∀ h ∈ c.heads, e.Fits row h
  nonempty : c.heads ≠ []
  single : c.pending ≠ [] → ∃ h, c.heads = [h]

/-- A token that is still to be dealt with lies behind all that is covered. It is the last one that
was looked for, but may have lost its padding. -/
structure Facing (e : Engine) (row : List Leaf) (texts : List Piece) (tokens : List Token)
    (token : Token) (c : Configuration) : Prop extends Covering e row texts tokens c where
  lexed : e.lexer.Lexed c.position token
  last : texts ++ Token.texts [token] = Token.texts tokens

theorem Covering.quiet {heads : List Head} (hc : e.Covering row texts tokens c)
    (h : Quiet { c with heads } c') : e.Covering row texts tokens c' where
  pulled := h.pulled.trans hc.pulled
  pending := h.pending ▸ hc.pending
  laid := by
    rw [h.position, h.pending]
    exact hc.laid

theorem Facing.quiet {heads : List Head} (hc : e.Facing row texts tokens token c)
    (h : Quiet { c with heads } c') : e.Facing row texts tokens token c' where
  toCovering := hc.toCovering.quiet h
  lexed := by
    rw [h.position]
    exact hc.lexed
  last := hc.last

theorem Standing.of_single {h : Head} (hfits : e.Fits row h) (hheads : c.heads = [h]) :
    e.Standing row c where
  fits := by
    rw [hheads]
    exact fun x hx => List.mem_singleton.1 hx ▸ hfits
  nonempty := by simp [hheads]
  single _ := ⟨h, hheads⟩

/-! ## Taking a token -/

theorem leaves_leafFor (fragile : Bool) (x : Head × Option StateId) :
    (leafFor token fragile none x).leaves = (Subtree.leaf token false false 0 0).leaves := by
  simp only [leafFor, Subtree.leaves_leaf]

theorem Fits.shifted (hclosing : e.table.Closing) {fragile : Bool} {x : Head × Option StateId}
    (hx : e.Fits row x.1)
    (ha : taking x.2 ∈ e.table.actions x.1.state token.symbol) :
    e.Fits (row ++ (Subtree.leaf token false false 0 0).leaves) (shifted token fragile none x) := by
  obtain ⟨head, target⟩ := x
  obtain ⟨hsound, rfl⟩ := hx
  refine ⟨hsound.push trivial (fun hextra => ?_) fun hextra => .inr (.inr ?_), ?_⟩
  · obtain rfl : target = none := Option.isNone_iff_eq_none.1 hextra
    rfl
  · cases target with
    | none => cases hextra
    | some r => exact hclosing.shift ha
  · rw [← leaves_leafFor fragile (head, target)]
    rfl

theorem Fits.push_missing {h : Head} (hfits : e.Fits row h) (symbol : SymbolId) (q : StateId) :
    (h.stack.push q (.missing symbol token)).Sound e.table ∧
      (h.stack.push q (.missing symbol token)).leaves =
        row ++ (Subtree.missing symbol token).leaves :=
  ⟨hfits.1.push trivial (fun h => by cases h) fun _ =>
    .inr (.inl (Subtree.placeholder_missing symbol token)), hfits.2 ▸ rfl⟩

/-- Heads that take the token cover it. -/
theorem Facing.shift (hclosing : e.table.Closing) (hc : e.Facing row texts tokens token c)
    (hnone : c.pending = []) {shifts : List (Head × Option StateId)} {fragile : Bool} {u : Unit}
    (hne : shifts ≠ [])
    (hs : ∀ x ∈ shifts, e.Fits row x.1 ∧ taking x.2 ∈ e.table.actions x.1.state token.symbol)
    (hr : Returns (e.shift shifts token fragile none) c u c') :
    ∃ row, e.Covering row (Token.texts tokens) tokens c' ∧ e.Standing row c' := by
  obtain ⟨kept, quiet, hkept, origin⟩ := returns_shift hne hr
  have hpending : c'.pending = [] := quiet.pending.trans hnone
  have hlaid := hc.laid
  rw [hnone, Subtree.leavesOf, List.append_nil] at hlaid
  refine ⟨row ++ (Subtree.leaf token false false 0 0).leaves,
    ⟨quiet.pulled.trans hc.pulled, ?_, ?_⟩, ?_, ?_, fun h => absurd hpending h⟩
  · rw [hpending]
    exact fun t ht => absurd ht List.not_mem_nil
  · rw [quiet.position, hpending, Subtree.leavesOf, List.append_nil, ← hc.last]
    exact hlaid.leaf hc.lexed false false 0 0
  · rw [quiet.heads]
    intro h hh
    obtain ⟨x, hx, path, rfl⟩ := origin h hh
    exact (hs x hx).1.shifted hclosing (hs x hx).2
  · rw [quiet.heads]
    exact hkept

/-! ## The root -/

/-- The root has the row of leaves, unless extras around a placeholder displace it. -/
theorem Fits.leaves_rootOf {h : Head} (hfits : e.Fits row h)
    (ha : .accept ∈ e.table.actions h.state endSymbol) (lookaheadEnd : Nat) :
    let root := rootOf h.stack.subtrees lookaheadEnd
    root.leaves = row ∨ root.OnlyExtras ∧ Leaf.Displaced row root.leaves := by
  obtain ⟨hsound, rfl⟩ := hfits
  rw [Stack.leaves_eq]
  unfold rootOf
  split
  · next leading main trailing hsplit =>
    obtain ⟨whole, hmain, hleading, htrailing⟩ := Stack.of_splitMain hsplit
    rw [whole, Subtree.leavesOf_append, Subtree.leavesOf, ← List.append_assoc]
    -- Extras around the root come to stand in it. Only a placeholder, which has no children to stand
    -- between, gets them in the wrong place.
    by_cases hplain : main.Closed ∨ leading = [] ∧ trailing = []
    · exact .inl (Subtree.leaves_withExtras hplain)
    obtain ⟨hopen, haround⟩ := not_or.1 hplain
    have hchildren : main.children = [] :=
      Classical.byContradiction fun h => hopen (Subtree.closed_of_children h)
    have hplaceholder : main.Placeholder :=
      ((hsound.main whole hmain htrailing).resolve_left hopen).resolve_right fun h => h ha
    obtain ⟨hroot, hleaves⟩ := Subtree.withExtras_of_childless 0 lookaheadEnd hchildren haround
    rw [Subtree.leaves_placeholder hplaceholder hchildren]
    split
    · next hpadding =>
      refine .inr ⟨⟨Subtree.symbol_withExtras.trans hplaceholder.1, ?_, ?_⟩,
        _, _, _, List.append_assoc .., hpadding, hleaves⟩
      · rw [hroot]
        exact fun h => haround (List.append_eq_nil_iff.1 h)
      · rw [hroot]
        exact fun t ht => (List.mem_append.1 ht).elim (hleading t) (htrailing t)
    · exact .inl (hleaves.trans (by rw [List.append_nil]))
  · exact .inl (Subtree.leaves_error ..)

theorem Fits.sized_rootOf {h : Head} (hfits : e.Fits row h) (lookaheadEnd : Nat) :
    (rootOf h.stack.subtrees lookaheadEnd).Sized := by
  have sized := hfits.1.sized
  unfold rootOf
  split
  · next leading main trailing hsplit =>
    obtain ⟨whole, -⟩ := Stack.of_splitMain hsplit
    rw [whole] at sized
    exact Subtree.sized_withExtras (sized main (by simp)) (fun t ht => sized t (by simp [ht]))
      fun t ht => sized t (by simp [ht])
  · exact Subtree.sized_error _ _ _ _ sized

/-- A parse has come to an end with this root: a row of leaves lies in the text with every token
that was looked for, and behind it there is only padding. The root has that row, unless the text was
accepted for a placeholder among extras. -/
structure Complete (e : Engine) (c : Configuration) (root : Subtree) : Prop where
  sized : root.Sized
  row : ∃ row position, Laid e.lexer (Token.texts c.pulled) position row ∧
    e.lexer.Padding position e.lexer.size ∧
    (root.leaves = row ∨
      .accept errorSymbol ∈ c.trace ∧ root.OnlyExtras ∧ Leaf.Displaced row root.leaves)

theorem Facing.at_end (hc : e.Facing row texts tokens token c) (hend : token.symbol = endSymbol) :
    Laid e.lexer (Token.texts tokens) c.position (row ++ Subtree.leavesOf c.pending) ∧
      e.lexer.Padding c.position e.lexer.size := by
  have hlast := hc.last
  have hlaid := hc.laid
  have hpadding := hc.lexed.padding
  rw [Token.texts_of_end hend, List.append_nil] at hlast
  rw [hlast] at hlaid
  rw [(hc.lexed.end_of_text hend).1] at hpadding
  exact ⟨hlaid, hpadding⟩

theorem Facing.accept (hclosing : e.table.Closing) (hc : e.Facing row texts tokens token c)
    (hnone : c.pending = []) {head : Head} (hfits : e.Fits row head)
    (ha : .accept ∈ e.table.actions head.state token.symbol) {root : Subtree}
    (hr : Returns (accept head token) c root c') : e.Complete c' root := by
  have hend := hclosing.accept ha
  simp only [Engine.accept, returns_bind, returns_record, returns_pure] at hr
  obtain ⟨_, _, rfl, rfl, rfl⟩ := hr
  obtain ⟨hlaid, hpadding⟩ := hc.at_end hend
  rw [hnone, Subtree.leavesOf, List.append_nil] at hlaid
  rw [hend] at ha
  refine ⟨hfits.sized_rootOf _, row, c.position, ?_, hpadding, ?_⟩
  · rw [(quiet_record rfl).pulled, hc.pulled]
    exact hlaid
  · refine (hfits.leaves_rootOf ha _).imp_right ?_
    rintro ⟨honly, hdisplaced⟩
    refine ⟨?_, honly, hdisplaced⟩
    rw [← honly.1]
    exact Array.mem_push_self

theorem Facing.wrap (hc : e.Facing row texts tokens token c) (hend : token.symbol = endSymbol)
    {head : Head} (hfits : e.Fits row head) {root : Subtree}
    (hr : Returns (wrap head token) c root c') : e.Complete c' root := by
  simp only [Engine.wrap, returns_bind, returns_record, returns_get, returns_pure] at hr
  obtain ⟨_, _, rfl, _, _, ⟨rfl, rfl⟩, rfl, rfl⟩ := hr
  obtain ⟨hlaid, hpadding⟩ := hc.at_end hend
  refine ⟨Subtree.sized_error _ _ _ _ fun t ht => (List.mem_append.1 ht).elim ?_ ?_,
    _, c.position, ?_, hpadding, .inl rfl⟩
  · exact hfits.1.sized t
  · exact hc.pending t
  · rw [Subtree.leaves_error, Subtree.leavesOf_append, ← Stack.leaves_eq, hfits.2,
      (quiet_record rfl).pulled, hc.pulled]
    exact hlaid

/-! ## Trying a token -/

/-- What trying a token has led to. -/
def Dealt (e : Engine) (texts : List Piece) (tokens : List Token) (token : Token)
    (c : Configuration) : Progress → Prop
  | .finished root => e.Complete c root
  | .taken => ∃ row, e.Covering row (Token.texts tokens) tokens c ∧ e.Standing row c
  | .stuck head => ∃ row, e.Facing row texts tokens token c ∧ e.Fits row head

/-- A parse from scratch takes nothing over. -/
theorem returns_tryReuse_of_fresh (hfresh : e.reuse = none) {shifts : List (Head × Option StateId)}
    {reused : Bool} (hr : Returns (e.tryReuse shifts token) c reused c') :
    reused = false ∧ c' = c := by
  unfold tryReuse at hr
  split at hr
  · next hreuse =>
    rw [hfresh] at hreuse
    cases hreuse
  · exact returns_pure.1 hr

theorem Facing.advance (hclosing : e.table.Closing) (hfresh : e.reuse = none)
    (hc : e.Facing row texts tokens token c) (hs : e.Standing row c) (hnone : c.pending = [])
    {recovering : Bool} {progress : Progress}
    (hr : Returns (e.advance token recovering) c progress c') :
    e.Dealt texts tokens token c' progress := by
  obtain ⟨phase, d, hphase, h⟩ := returns_advance hr
  have holds := keeps_fits.reducePhase hphase hs.fits
  have quiet := (returns_reducePhase hphase).1
  have hd := hc.quiet quiet
  have hnone' : d.pending = [] := quiet.pending.trans hnone
  cases h with
  | finished hbest haccept =>
    obtain ⟨hfits, ha⟩ := holds.accepts _ (Head.mem_of_preferredBy hbest)
    exact hd.accept hclosing hnone' hfits ha haccept
  | stuck hbest hempty hc' =>
    obtain ⟨head, hdead⟩ := exists_dead (exists_of_reducePhase hphase hs.nonempty) hbest hempty
    subst hc'
    refine ⟨row, hd, ?_⟩
    rw [hdead]
    exact holds.dead head (Head.mem_of_preferredBy hdead)
  | reused _ _ hreuse => cases (returns_tryReuse_of_fresh hfresh hreuse).1
  | shifted _ hne hreuse hshift =>
    obtain ⟨-, rfl⟩ := returns_tryReuse_of_fresh hfresh hreuse
    exact hd.shift hclosing hnone' hne holds.shifts hshift

/-- Where the token is welcome, the tokens put aside become an error node. -/
theorem Facing.resume (hc : e.Facing row texts tokens token c) (hs : e.Standing row c)
    (hsome : c.pending ≠ []) {resumed : Bool} (hr : Returns (e.resume token) c resumed c') :
    if resumed then ∃ row, e.Facing row texts tokens token c' ∧ e.Standing row c' ∧ c'.pending = []
    else c' = c := by
  obtain ⟨head, hheads⟩ := hs.single hsome
  rw [Engine.resume, returns_get_bind] at hr
  rw [hheads] at hr
  dsimp only at hr
  split at hr
  · simp only [returns_bind, returns_set, returns_pure] at hr
    obtain ⟨_, _, rfl, rfl, rfl⟩ := hr
    obtain ⟨hsound, hrow⟩ := hs.fits head (hheads ▸ List.mem_cons_self)
    rw [if_pos rfl]
    refine ⟨row ++ Subtree.leavesOf c.pending, ⟨⟨hc.pulled, ?_, ?_⟩, hc.lexed, hc.last⟩,
      .of_single ⟨hsound.push (Subtree.sized_error _ _ _ _ hc.pending) (fun _ => rfl) ?_, ?_⟩ rfl, rfl⟩
    · exact fun t ht => absurd ht List.not_mem_nil
    · rw [Subtree.leavesOf, List.append_nil]
      exact hc.laid
    · intro h
      cases h
    · rw [Stack.leaves_push, Subtree.leaves_error, hrow]
  · obtain ⟨rfl, rfl⟩ := returns_pure.1 hr
    rw [if_neg Bool.false_ne_true]

theorem Facing.attempt (hclosing : e.table.Closing) (hfresh : e.reuse = none)
    (hc : e.Facing row texts tokens token c) (hs : e.Standing row c) {again : Bool}
    {progress : Progress} (hr : Returns (e.attempt token again) c progress c') :
    e.Dealt texts tokens token c' progress := by
  rw [Engine.attempt, returns_get_bind] at hr
  split at hr
  · next hnone => exact hc.advance hclosing hfresh hs (List.isEmpty_iff.1 hnone) hr
  · next hsome =>
    have hsome : c.pending ≠ [] := fun h => hsome (List.isEmpty_iff.2 h)
    simp only [returns_bind] at hr
    obtain ⟨resumed, d, hresume, hr⟩ := hr
    have hd := hc.resume hs hsome hresume
    cases resumed with
    | true =>
      obtain ⟨row, hd, hs, hnone⟩ := hd
      exact hd.advance hclosing hfresh hs hnone hr
    | false =>
      obtain rfl : d = c := hd
      obtain ⟨rfl, rfl⟩ := returns_pure.1 hr
      obtain ⟨head, hheads⟩ := hs.single hsome
      refine ⟨row, hc, ?_⟩
      rw [hheads]
      exact hs.fits head (hheads ▸ List.mem_cons_self)

/-! ## Making a token welcome -/

/-- What making a token welcome has led to. -/
def Repaired (e : Engine) (texts : List Piece) (tokens : List Token) (token : Token) (head : Head)
    (c : Configuration) : Option Token → Prop
  | some token' => ∃ row, e.Facing row texts tokens token' c ∧ e.Standing row c
  | none => ∃ row, e.Facing row texts tokens token c ∧ e.Fits row head

/-- What making up a symbol has led to. -/
def Inserted (e : Engine) (row : List Leaf) (texts : List Piece) (tokens : List Token)
    (token : Token) (c : Configuration) : Option (Head × Token) → Prop
  | some (head, token') => ∃ row, e.Facing row texts tokens token' c ∧ e.Fits row head
  | none => e.Facing row texts tokens token c ∧ c.pending = []

/-- With a placeholder that takes its padding, the token lies behind all that is covered. -/
theorem Facing.inserted {position : Nat} (hc : e.Facing row texts tokens token { c with position })
    (hnone : c.pending = []) {symbol : SymbolId} {token' : Token}
    (hr : Returns (inserted symbol token) c token' c') :
    e.Facing (row ++ (Subtree.missing symbol token).leaves) texts tokens token' c' := by
  simp only [Engine.inserted, returns_bind, returns_record, returns_modify, returns_pure] at hr
  obtain ⟨_, _, rfl, _, _, rfl, rfl, rfl⟩ := hr
  have hlaid := hc.laid
  rw [hnone, Subtree.leavesOf, List.append_nil] at hlaid
  refine ⟨⟨(quiet_record rfl).pulled.trans hc.pulled, hc.pending, ?_⟩, hc.lexed.unpadded, ?_⟩
  · rw [hnone, Subtree.leavesOf, List.append_nil]
    exact hlaid.missing hc.lexed symbol
  · rw [Token.texts_unpadded]
    exact hc.last

/-- A terminal that is not there is put on a stack that takes it. Only the place where the next token
is looked for has changed before. -/
theorem Facing.insertTerminal (hc : e.Facing row texts tokens token c) (hnone : c.pending = [])
    {head : Head} (hfits : e.Fits row head) {symbol : SymbolId} {result : Option Head}
    (hr : Returns (e.insertTerminal head token symbol) c result c') :
    c'.pending = [] ∧ e.Facing row texts tokens token { c' with position := c.position } ∧
      (result = none → c'.position = c.position) ∧
      ∀ head', result = some head' →
        e.Fits (row ++ (Subtree.missing symbol token).leaves) head' := by
  simp only [Engine.insertTerminal, returns_bind, returns_modify] at hr
  obtain ⟨_, _, rfl, phase, d, hphase, hr⟩ := hr
  have holds := keeps_fits.reducePhase (P := e.Fits row) hphase fun h hh =>
    List.mem_singleton.1 hh ▸ hfits
  have quiet := (returns_reducePhase hphase).1
  have hd := hc.quiet quiet
  have hnone' : d.pending = [] := quiet.pending.trans hnone
  split at hr
  · obtain ⟨rfl, rfl⟩ := returns_pure.1 hr
    refine ⟨hnone', hd.quiet ⟨rfl, quiet.position.symm, rfl, rfl, rfl, rfl, rfl, rfl⟩,
      fun _ => quiet.position, ?_⟩
    intro head' h
    cases h
  · next best hbest =>
    simp only [returns_bind, returns_get, returns_pure] at hr
    obtain ⟨_, d', hshift, _, _, ⟨rfl, rfl⟩, rfl, rfl⟩ := hr
    obtain ⟨kept, quiet', hkept, origin⟩ := returns_shift (List.cons_ne_nil _ _) hshift
    obtain ⟨first, rest, rfl⟩ := List.exists_cons_of_ne_nil hkept
    refine ⟨quiet'.pending.trans hnone', ?_, ?_, ?_⟩
    · exact hd.quiet ⟨quiet'.heads, quiet.position.symm, quiet'.lexState, quiet'.pending,
        quiet'.resync, quiet'.stats, quiet'.polls, quiet'.pulled⟩
    · rw [quiet'.heads]
      intro h
      cases h
    · rw [quiet'.heads]
      rintro _ ⟨⟩
      obtain ⟨x, hx, path, rfl⟩ := origin first List.mem_cons_self
      obtain rfl := List.mem_singleton.1 hx
      have best := (holds.shifts _ (List.mem_of_mem_filter (Head.mem_of_preferredBy hbest))).1
      exact best.push_missing symbol _

theorem Facing.insertFirst (hc : e.Facing row texts tokens token c) (hnone : c.pending = [])
    {head : Head} (hfits : e.Fits row head) {symbols : List SymbolId}
    {result : Option (Head × Token)}
    (hr : Returns (e.insertFirst head token symbols) c result c') :
    e.Inserted row texts tokens token c' result := by
  induction symbols generalizing c with
  | nil =>
    obtain ⟨rfl, rfl⟩ := returns_pure.1 hr
    exact ⟨hc, hnone⟩
  | cons symbol rest ih =>
    simp only [Engine.insertFirst, returns_bind] at hr
    obtain ⟨head', d, hterminal, hr⟩ := hr
    obtain ⟨hnone', hd, hback, hhead⟩ := hc.insertTerminal hnone hfits hterminal
    cases head' with
    | none =>
      refine ih ?_ hnone' hr
      rwa [← hback rfl] at hd
    | some head' =>
      simp only [returns_bind, returns_pure] at hr
      obtain ⟨token', _, hinserted, rfl, rfl⟩ := hr
      exact ⟨_, hd.inserted hnone' hinserted, hhead head' rfl⟩

/-- A symbol that is made up stands in front of the token. -/
theorem Facing.insert (hc : e.Facing row texts tokens token c) (hnone : c.pending = [])
    {head : Head} (hfits : e.Fits row head) {result : Option (Head × Token)}
    (hr : Returns (e.insert head token) c result c') :
    e.Inserted row texts tokens token c' result := by
  unfold Engine.insert at hr
  split at hr
  · next symbol next _ =>
    simp only [returns_bind, returns_pure] at hr
    obtain ⟨token', _, hinserted, rfl, rfl⟩ := hr
    exact ⟨_, Facing.inserted hc hnone hinserted, hfits.push_missing symbol next⟩
  · exact hc.insertFirst hnone hfits hr

theorem leaves_popUntil {terminal : SymbolId} {stack below : Stack} {popped popped' : List Subtree}
    (h : popUntil e.table terminal stack popped = some (popped', below))
    (hsound : stack.Sound e.table) (hpopped : ∀ t ∈ popped, t.Sized) :
    below.Sound e.table ∧ (∀ t ∈ popped', t.Sized) ∧
      below.leaves ++ Subtree.leavesOf popped' = stack.leaves ++ Subtree.leavesOf popped := by
  induction stack generalizing popped with
  | nil => cases h
  | cons entry rest ih =>
    have sized : ∀ t ∈ entry.subtree :: popped, t.Sized :=
      List.forall_mem_cons.2 ⟨hsound.1.sized, hpopped⟩
    have leaves : Stack.leaves rest ++ Subtree.leavesOf (entry.subtree :: popped) =
        Stack.leaves (entry :: rest) ++ Subtree.leavesOf popped := by
      rw [Subtree.leavesOf, Stack.leaves, List.append_assoc]
    rw [popUntil] at h
    split at h
    · cases h
      exact ⟨hsound.2, sized, leaves⟩
    · obtain ⟨hbelow, hsized, hleaves⟩ := ih h hsound.2 sized
      exact ⟨hbelow, hsized, hleaves.trans leaves⟩

/-- What is given up becomes an error node together with the tokens put aside. -/
theorem Facing.popToViable (hc : e.Facing row texts tokens token c) {head : Head}
    (hfits : e.Fits row head) {result : Option Head}
    (hr : Returns (e.popToViable head token) c result c') :
    (result = none → c' = c) ∧ ∀ head', result = some head' →
      ∃ row, e.Facing row texts tokens token c' ∧ e.Fits row head' := by
  unfold Engine.popToViable at hr
  split at hr
  · obtain ⟨rfl, rfl⟩ := returns_pure.1 hr
    refine ⟨fun _ => rfl, ?_⟩
    intro head' h
    cases h
  · next popped below hpop =>
    obtain ⟨hbelow, hsized, hleaves⟩ := leaves_popUntil hpop hfits.1 fun t ht =>
      absurd ht List.not_mem_nil
    rw [returns_get_bind] at hr
    simp only [returns_bind, returns_set, returns_record, returns_pure] at hr
    obtain ⟨_, _, rfl, _, _, rfl, rfl, rfl⟩ := hr
    refine ⟨fun h => absurd h (Option.some_ne_none _), ?_⟩
    rintro _ ⟨⟩
    refine ⟨row ++ Subtree.leavesOf c.pending, ⟨⟨(quiet_record rfl).pulled.trans hc.pulled, ?_, ?_⟩,
      hc.lexed, hc.last⟩, ⟨hbelow.push ?_ (fun _ => rfl) ?_, ?_⟩⟩
    · exact fun t ht => absurd ht List.not_mem_nil
    · rw [Subtree.leavesOf, List.append_nil]
      exact hc.laid
    · refine Subtree.sized_error _ _ _ _ fun t ht => (List.mem_append.1 ht).elim (hsized t) ?_
      exact hc.pending t
    · intro h
      cases h
    · rw [Stack.leaves_push, Subtree.leaves_error, Subtree.leavesOf_append, ← List.append_assoc,
        hleaves, Subtree.leavesOf, List.append_nil, hfits.2]

theorem Facing.repairByPopping (hc : e.Facing row texts tokens token c) {head : Head}
    (hfits : e.Fits row head) {result : Option Token}
    (hr : Returns (e.repairByPopping head token) c result c') :
    e.Repaired texts tokens token head c' result := by
  rw [Engine.repairByPopping, returns_get_bind] at hr
  split at hr
  · simp only [returns_bind] at hr
    obtain ⟨head', d, hpop, hr⟩ := hr
    obtain ⟨hback, hd⟩ := hc.popToViable hfits hpop
    cases head' with
    | none =>
      obtain rfl : d = c := hback rfl
      obtain ⟨rfl, rfl⟩ := returns_pure.1 hr
      exact ⟨row, hc, hfits⟩
    | some head' =>
      simp only [returns_bind, returns_modify, returns_pure] at hr
      obtain ⟨_, _, rfl, rfl, rfl⟩ := hr
      obtain ⟨row, hd, hfits⟩ := hd head' rfl
      exact ⟨row, hd.quiet (Quiet.refl _), .of_single hfits rfl⟩
  · obtain ⟨rfl, rfl⟩ := returns_pure.1 hr
    exact ⟨row, hc, hfits⟩

theorem Facing.repair (hc : e.Facing row texts tokens token c) {head : Head}
    (hfits : e.Fits row head) {result : Option Token}
    (hr : Returns (e.repair head token) c result c') :
    e.Repaired texts tokens token head c' result := by
  rw [Engine.repair, returns_get_bind] at hr
  split at hr
  · next htry =>
    have hnone : c.pending = [] := by
      simp only [Bool.and_eq_true, List.isEmpty_iff] at htry
      exact htry.1.1
    simp only [returns_bind] at hr
    obtain ⟨inserted, d, hinsert, hr⟩ := hr
    have hd := hc.insert hnone hfits hinsert
    cases inserted with
    | none => exact hd.1.repairByPopping hfits hr
    | some inserted =>
      simp only [returns_bind, returns_modify, returns_pure] at hr
      obtain ⟨_, _, rfl, rfl, rfl⟩ := hr
      obtain ⟨row, hd, hfits⟩ := hd
      exact ⟨row, hd.quiet (Quiet.refl _), .of_single hfits rfl⟩
  · exact hc.repairByPopping hfits hr

/-- What dealing with a token has led to. -/
def Passed (e : Engine) (tokens : List Token) (c : Configuration) : Option Subtree → Prop
  | some root => e.Complete c root
  | none => ∃ row, e.Covering row (Token.texts tokens) tokens c ∧ e.Standing row c

/-- A token that nothing takes ends the parse or is put aside. -/
theorem Facing.giveUp (hc : e.Facing row texts tokens token c) {head : Head}
    (hfits : e.Fits row head) {result : Option Subtree}
    (hr : Returns (e.giveUp head token) c result c') :
    e.Passed tokens c' result := by
  unfold Engine.giveUp at hr
  split at hr
  · next hend =>
    simp only [returns_bind, returns_pure] at hr
    obtain ⟨root, _, hwrap, rfl, rfl⟩ := hr
    exact hc.wrap hend hfits hwrap
  · simp only [returns_bind, Engine.skip, returns_record, returns_modify, returns_pure] at hr
    obtain ⟨_, _, ⟨_, _, rfl, rfl⟩, rfl, rfl⟩ := hr
    refine ⟨row, ⟨(quiet_record rfl).pulled.trans hc.pulled, fun t ht => ?_, ?_⟩,
      .of_single hfits rfl⟩
    · rcases List.mem_append.1 ht with ht | ht
      · exact hc.pending t ht
      · rw [List.mem_singleton.1 ht]
        exact trivial
    · rw [Subtree.leavesOf_append, ← List.append_assoc, ← hc.last]
      have := hc.laid.leaf hc.lexed false true head.state head.state
      simpa only [Subtree.leavesOf, List.append_nil] using this

/-! ## The whole parse -/

theorem Facing.consume (hclosing : e.table.Closing) (hfresh : e.reuse = none) {repairs : Nat}
    (hc : e.Facing row texts tokens token c) (hs : e.Standing row c) {result : Option Subtree}
    (hr : Returns (e.consume repairs token) c result c') :
    e.Passed tokens c' result := by
  induction returns_consume hr generalizing row with
  | finished hattempt => exact hc.attempt hclosing hfresh hs hattempt
  | taken hattempt => exact hc.attempt hclosing hfresh hs hattempt
  | last hattempt hspend hgiven =>
    obtain ⟨row, hd, hfits⟩ := hc.attempt hclosing hfresh hs hattempt
    exact (hd.quiet hspend.quiet_of_spend).giveUp hfits hgiven
  | beyond hattempt hspend hrepair hgiven =>
    obtain ⟨row, hd, hfits⟩ := hc.attempt hclosing hfresh hs hattempt
    obtain ⟨row, hd, hfits⟩ := (hd.quiet hspend.quiet_of_spend).repair hfits hrepair
    exact hd.giveUp hfits hgiven
  | repaired hattempt hspend hrepair hr' _ ih =>
    obtain ⟨row, hd, hfits⟩ := hc.attempt hclosing hfresh hs hattempt
    obtain ⟨row, hd, hs⟩ := (hd.quiet hspend.quiet_of_spend).repair hfits hrepair
    exact ih hd hs hr'

theorem Covering.nextToken (hapart : e.lexer.table.EndApart)
    (hc : e.Covering row (Token.texts tokens) tokens c) (hs : e.Standing row c)
    (hr : Returns e.nextToken c token c') :
    e.Facing row (Token.texts tokens) (tokens ++ [token]) token c' ∧ e.Standing row c' := by
  rw [Engine.nextToken, returns_get_bind] at hr
  simp only [returns_bind, returns_set, returns_record, returns_pure] at hr
  obtain ⟨_, _, rfl, _, _, rfl, rfl, rfl⟩ := hr
  refine ⟨⟨⟨?_, hc.pending, hc.laid⟩, ?_, (Token.texts_append _ _).symm⟩, ⟨hs.fits, hs.nonempty, hs.single⟩⟩
  · rw [pulled_push]
    exact congrArg (· ++ _) hc.pulled
  · exact Lexer.lexed_lex hapart hc.laid.position _

/-- A parse from scratch that comes to an end covers its text. -/
theorem Covering.runFrom (hclosing : e.table.Closing) (hapart : e.lexer.table.EndApart)
    (hfresh : e.reuse = none) {pulls : Nat}
    (hc : e.Covering row (Token.texts tokens) tokens c) (hs : e.Standing row c) {root : Subtree}
    (hr : Returns (e.runFrom pulls) c root c') : e.Complete c' root := by
  induction pulls generalizing c row tokens with
  | zero => exact absurd hr not_returns_throw
  | succ pulls ih =>
    simp only [Engine.runFrom, returns_bind] at hr
    obtain ⟨_, d, hpoll, token, d', hnext, result, _, hconsume, hr⟩ := hr
    obtain ⟨polls, rfl⟩ := returns_poll hpoll
    have hd : e.Covering row (Token.texts tokens) tokens { c with polls } :=
      ⟨hc.pulled, hc.pending, hc.laid⟩
    have hs : e.Standing row { c with polls } := ⟨hs.fits, hs.nonempty, hs.single⟩
    obtain ⟨hfacing, hs⟩ := hd.nextToken hapart hs hnext
    have dealt := hfacing.consume hclosing hfresh hs hconsume
    cases result with
    | some root =>
      obtain ⟨rfl, rfl⟩ := returns_pure.1 hr
      exact dealt
    | none =>
      obtain ⟨row, hc, hs⟩ := dealt
      exact ih hc hs hr

theorem complete_of_run (hclosing : e.table.Closing) (hapart : e.lexer.table.EndApart)
    (hfresh : e.reuse = none) {fuel : Option Nat} {root : Subtree}
    (hr : Returns e.run { fuel } root c) : e.Complete c root := by
  have hc : e.Covering [] (Token.texts []) [] { fuel } :=
    ⟨rfl, fun t ht => absurd ht List.not_mem_nil, .nil⟩
  have hfits : e.Fits [] {} := ⟨trivial, rfl⟩
  exact hc.runFrom hclosing hapart hfresh (.of_single hfits rfl) hr

end Engine

end IncrementalGlr
