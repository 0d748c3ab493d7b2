import IncrementalGlr.Proofs.Parse.Errors
import IncrementalGlr.Proofs.Parse.Lexer

/-!
How far a tree reaches. What is on the stack of a head, followed by the tokens put aside, is as long as
the text up to the place where the next token is looked for (`Head.Reaches`). Every step keeps this,
recovery and reuse included: an old subtree that the edit left alone fits the new text at its place
(`ReuseCursor.fits_candidate`). So no root is longer than the text (`Engine.reaches_of_run`).
-/
namespace IncrementalGlr

namespace Subtree

variable (children : List Subtree) (start least : Nat) (extra : Bool)

theorem total_error : (error children start least extra).total = totals children :=
  total_node errorSymbol none children start least 0 true none

theorem totals_children_le {t : Subtree} (h : t.Sized) : totals t.children ≤ t.total := by
  obtain ⟨info, _ | ⟨c, rest⟩⟩ := t
  · exact Nat.zero_le _
  · exact Nat.le_of_eq h.2.1.symm

theorem total_withExtras_le {t : Subtree} (ht : t.Sized) (leading trailing : List Subtree) :
    (t.withExtras leading trailing start least).total ≤ totals (leading ++ t :: trailing) := by
  have := totals_children_le ht
  rw [totals_append, totals]
  unfold withExtras
  split
  · omega
  · rw [total_node, totals_append, totals_append]
    omega

variable {children}

/-- The root is sized and no longer than what it is made of. -/
theorem sized_rootOf (h : ∀ t ∈ children, t.Sized) (lookaheadEnd : Nat) :
    (Engine.rootOf children lookaheadEnd).Sized ∧
      (Engine.rootOf children lookaheadEnd).total ≤ totals children := by
  unfold Engine.rootOf
  split
  · next leading main trailing hsplit =>
    obtain ⟨rfl, -⟩ := Stack.of_splitMain hsplit
    have hmain : main.Sized := h main (by simp)
    exact ⟨sized_withExtras hmain (fun t ht => h t (by simp [ht])) fun t ht => h t (by simp [ht]),
      total_withExtras_le _ _ hmain _ _⟩
  · exact ⟨sized_error _ _ _ _ h, Nat.le_of_eq (total_error ..)⟩

/-! ## Old subtrees -/

open ReuseCursor in
mutual

/-- What is found below a subtree begins at the target, lies in the subtree and is intact. -/
theorem of_mem_candidatesIn (edit : Edit) (target offset : Nat) :
    (t : Subtree) → t.Sized → ∀ c ∈ candidatesIn edit target offset t,
      c.Sized ∧ target + c.total ≤ offset + t.total ∧ intact edit c target = true
  | mk info children, h, c, hc => by
    rw [candidatesIn] at hc
    have sized : SizedAll children := sizedAll_iff.2 h.children
    have hle : totals children ≤ total (mk info children) := totals_children_le h
    obtain ⟨hsized, hin, hintact⟩ := of_mem_candidatesAmong edit target offset children sized c hc
    exact ⟨hsized, by omega, hintact⟩

theorem of_mem_candidatesAmong (edit : Edit) (target offset : Nat) :
    (ts : List Subtree) → SizedAll ts → ∀ c ∈ candidatesAmong edit target offset ts,
      c.Sized ∧ target + c.total ≤ offset + totals ts ∧ intact edit c target = true
  | [], _, c, hc => absurd hc (by simp [candidatesAmong])
  | t :: rest, h, c, hc => by
    obtain ⟨ht, hrest⟩ := h
    rw [totals, ← Nat.add_assoc]
    have below (hc : c ∈ candidatesIn edit target offset t) :
        c.Sized ∧ target + c.total ≤ offset + t.total + totals rest ∧
          intact edit c target = true := by
      obtain ⟨hsized, hin, hintact⟩ := of_mem_candidatesIn edit target offset t ht c hc
      exact ⟨hsized, by omega, hintact⟩
    rw [candidatesAmong] at hc
    split at hc
    · exact of_mem_candidatesAmong edit target _ rest hrest c hc
    · split at hc
      · cases hc
      · dsimp only at hc
        split at hc
        · next hhere =>
          rw [Bool.and_eq_true, beq_iff_eq] at hhere
          obtain ⟨rfl, hintact⟩ := hhere
          rcases List.mem_cons.1 hc with rfl | hc
          · exact ⟨ht, Nat.le_add_right _ _, hintact⟩
          · exact below hc
        · exact below hc

end

end Subtree

/-- An old subtree that the edit left alone fits the new text at its place. -/
theorem ReuseCursor.fits_candidate {r : ReuseCursor} {oldSize size position : Nat} {t : Subtree}
    (hsized : r.root.Sized) (hold : r.root.total ≤ oldSize)
    (hedit : r.edit.newTextLen oldSize = some size) (h : t ∈ r.candidates position) :
    t.Sized ∧ position + t.total ≤ size := by
  unfold Edit.newTextLen at hedit
  split at hedit
  · cases hedit
  next hwell =>
  simp only [Edit.isWellFormed, Bool.or_eq_true, Bool.not_eq_true', Bool.and_eq_false_iff,
    decide_eq_false_iff_not, decide_eq_true_eq, not_or, Decidable.not_not, Nat.not_lt] at hwell
  obtain ⟨⟨hstart, hnew⟩, hend⟩ := hwell
  obtain rfl := Option.some.inj hedit
  unfold candidates at h
  split at h
  · cases h
  next target htarget =>
  obtain ⟨ht, hin, hintact⟩ := Subtree.of_mem_candidatesIn _ _ _ _ hsized t h
  refine ⟨ht, ?_⟩
  -- Before the replaced part the old subtree ends before it, and behind it the text has only moved.
  have apart : r.edit.oldEnd < target ∨ target + t.total < r.edit.start := by
    simp only [intact, Edit.touches, Bool.not_eq_true', Bool.and_eq_false_iff,
      decide_eq_false_iff_not, Nat.not_le] at hintact
    omega
  unfold oldOffset at htarget
  simp only [Edit.oldLen, Edit.newLen, Edit.delta] at htarget ⊢
  split at htarget
  · cases htarget
    omega
  · split at htarget
    · have := Option.some.inj htarget
      omega
    · cases htarget

namespace Stack

variable {table : ParseTable} {s s' : Stack}

/-- A reduction puts a node over some subtrees in their place. -/
theorem subtrees_of_reduce {id : ProductionId} {lookaheadEnd : Nat} {fragile : Bool}
    {next : StateId} (h : Stack.reduce table s id lookaheadEnd fragile = some (s', next)) :
    ∃ (p : Production) (top below : Stack) (extras : List Subtree),
      subtrees s = subtrees below ++ subtrees top ++ extras ∧
      subtrees s' = subtrees below ++ nodeOver p id lookaheadEnd fragile top below :: extras := by
  obtain ⟨p, -, extras, top, below, rfl, -, -, -, rfl⟩ := exists_of_reduce h
  refine ⟨p, top, below, subtrees extras, ?_, ?_⟩
  · rw [subtrees_append, subtrees_append]
  · rw [← subtrees, subtrees_withExtras, push, subtrees_cons, List.append_assoc]
    rfl

end Stack

/-! ## Heads -/

/-- Subtrees one after another have sizes of their own and reach from the start of the text to
`position`. -/
structure Subtree.Reach (position : Nat) (row : List Subtree) : Prop where
  sized : ∀ t ∈ row, t.Sized
  totals : totals row = position

namespace Subtree.Reach

variable {position : Nat} {row row' children : List Subtree} {t : Subtree}

theorem snoc (h : Reach position row) (ht : t.Sized) : Reach (position + t.total) (row ++ [t]) where
  sized := List.forall_mem_append.2 ⟨h.sized, fun x hx => List.mem_singleton.1 hx ▸ ht⟩
  totals := by
    rw [totals_append, h.totals, Subtree.totals, Subtree.totals, Nat.add_zero]

/-- A subtree over some of the row takes their place. -/
theorem replace (h : Reach position (row ++ children ++ row'))
    (ht : (∀ c ∈ children, c.Sized) → t.Sized) (htotal : t.total = Subtree.totals children) :
    Reach position (row ++ t :: row') := by
  obtain ⟨hsized, htotals⟩ := h
  rw [List.forall_mem_append, List.forall_mem_append] at hsized
  refine ⟨List.forall_mem_append.2 ⟨hsized.1.1,
    List.forall_mem_cons.2 ⟨ht hsized.1.2, hsized.2⟩⟩, ?_⟩
  simp only [totals_append, Subtree.totals] at htotals ⊢
  omega

end Subtree.Reach

/-- What a head has on its stack and the tokens put aside reach up to a place in the text. -/
structure Head.Reaches (size position : Nat) (pending : List Subtree) (h : Head) : Prop where
  reach : Subtree.Reach position (h.stack.subtrees ++ pending)
  within : position ≤ size

namespace Engine

variable {e : Engine} {size position : Nat} {head : Head} {token : Token}

/-- Without tokens put aside a head has one more subtree on its stack. -/
theorem reaches_of_push (h : head.Reaches size position []) {next : Head} {q : StateId} {t : Subtree}
    {stop : Nat} (hstack : next.stack = head.stack.push q t) (ht : t.Sized)
    (hstop : position + t.total = stop) (hsize : stop ≤ size) : next.Reaches size stop [] where
  reach := by
    have row := h.reach.snoc ht
    rw [List.append_nil] at row ⊢
    rw [hstack, Stack.push, Stack.subtrees_cons, ← hstop]
    exact row
  within := hsize

/-- A token reaches up to its end from where it was looked for. -/
theorem total_leaf (ht : e.lexer.Within position token) {extra fragile : Bool} {q r : StateId} :
    position + (Subtree.leaf token extra fragile q r).total = token.stop := by
  have := ht.start_le
  have := ht.le_stop
  change position + (token.start - token.paddingStart + (token.stop - token.start)) = token.stop
  rw [ht.paddingStart]
  omega

/-- What stands for a missing symbol has the padding of the token. -/
theorem reaches_of_missing (ht : e.lexer.Within position token)
    (h : head.Reaches e.lexer.size position []) {next : Head} {q : StateId} {symbol : SymbolId}
    (hstack : next.stack = head.stack.push q (.missing symbol token)) :
    next.Reaches e.lexer.size token.start [] := by
  refine reaches_of_push h hstack trivial ?_ (Nat.le_trans ht.le_stop ht.stop_le)
  have := ht.start_le
  change position + (token.start - token.paddingStart + 0) = token.start
  rw [ht.paddingStart]
  omega

/-- Every step of an engine keeps how far its heads reach, if old subtrees fit the text. -/
theorem reaches (hreuse : ∀ r, e.reuse = some r → ∀ position t, t ∈ r.candidates position →
      t.Sized ∧ position + t.total ≤ e.lexer.size) :
    e.Invariant e.lexer.Within (Head.Reaches e.lexer.size)
      (fun root => root.Sized ∧ root.total ≤ e.lexer.size) where
  token states h := e.lexer.within_lex h.within states
  unpadded h := ⟨rfl, Nat.le_refl _, h.le_stop, h.stop_le⟩
  keeps position token := {
    path := fun _ _ h => ⟨h.reach, h.within⟩
    reduce := by
      rintro fragile id h next hh - ⟨p, stack, state, -, hreduce, rfl⟩
      obtain ⟨p', top, below, extras, hold, hnew⟩ := Stack.subtrees_of_reduce hreduce
      refine ⟨?_, hh.within⟩
      have row := hh.reach
      rw [List.append_nil] at row ⊢
      rw [hold] at row
      rw [hnew]
      exact row.replace (Subtree.sized_node _ _ _ _ _ _ _ _) (Subtree.total_node ..) }
  shift fragile head target ht h _ :=
    reaches_of_push h (t := leafFor _ fragile none (head, target)) rfl trivial (total_leaf ht)
      ht.stop_le
  reuse {r token head position t next} hr h hchoice := by
    obtain ⟨hmem, -⟩ := of_chooseReuse hchoice
    obtain ⟨hsized, hfits⟩ := hreuse r hr position t hmem
    exact reaches_of_push h (t := t) rfl hsized rfl hfits
  nonterminal ht h _ := reaches_of_missing ht h rfl
  terminal _ _ _ _ ht h _ := reaches_of_missing ht h rfl
  resume {position pending head} lookaheadEnd _ h := by
    refine ⟨?_, h.within⟩
    have row := h.reach
    rw [← List.append_nil (_ ++ _)] at row
    rw [resumed, Stack.push, Stack.subtrees_cons, List.append_assoc]
    exact row.replace (Subtree.sized_error _ _ _ _) (Subtree.total_error ..)
  pop {position pending given head below terminal} lookaheadEnd h hpop := by
    obtain ⟨top, hstack, hgiven⟩ := Stack.exists_of_popUntil hpop
    rw [List.append_nil, ← Stack.subtrees] at hgiven
    subst hgiven
    refine ⟨?_, h.within⟩
    have row := h.reach
    rw [hstack, Stack.subtrees_append, List.append_assoc, ← List.append_nil (_ ++ _)] at row
    rw [popped, Stack.push, Stack.subtrees_cons, List.append_assoc, List.append_nil]
    exact row.replace (Subtree.sized_error _ _ _ _) (Subtree.total_error ..)
  skip {position pending head token} ht h := by
    refine ⟨?_, ht.stop_le⟩
    have row := h.reach.snoc (t := .leaf token false true head.state head.state) trivial
    rw [List.append_assoc, total_leaf ht] at row
    exact row
  accept {position token head} h _ := by
    have row := h.reach
    rw [List.append_nil] at row
    obtain ⟨hsized, hle⟩ := Subtree.sized_rootOf row.sized token.lookaheadEnd
    exact ⟨hsized, Nat.le_trans hle (row.totals ▸ h.within)⟩
  wrap {position pending head} lookaheadEnd h := by
    refine ⟨Subtree.sized_error _ _ _ _ h.reach.sized, ?_⟩
    rw [Subtree.total_error, h.reach.totals]
    exact h.within

/-- No root is longer than the text, if the old tree was not longer than the old text. -/
theorem reaches_of_run {oldSize : Nat} (hreuse : ∀ r, e.reuse = some r → r.root.Sized ∧
      r.root.total ≤ oldSize ∧ r.edit.newTextLen oldSize = some e.lexer.size) {fuel : Option Nat}
    {root : Subtree} {c : Configuration} (hr : Parsing.Returns e.run { fuel } root c) :
    root.Sized ∧ root.total ≤ e.lexer.size := by
  have fits (r) (h : e.reuse = some r) (position t) (ht : t ∈ r.candidates position) :
      t.Sized ∧ position + t.total ≤ e.lexer.size := by
    obtain ⟨hsized, hold, hedit⟩ := hreuse r h
    exact ReuseCursor.fits_candidate hsized hold hedit ht
  exact (reaches fits).run ⟨⟨fun _ h => absurd h List.not_mem_nil, rfl⟩, Nat.zero_le _⟩ hr

end Engine

end IncrementalGlr
