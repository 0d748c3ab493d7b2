import IncrementalGlr.Parse.Subtree

/-!
What subtrees cover. A subtree knows only the sizes of its leaves, so what counts is the row of its
leaves that have padding or text, one after another (`Subtree.leaves`). Building nodes keeps that row
(`leaves_node`), and in subtrees whose sizes are those of their children (`Subtree.Sized`) the row
decides where every leaf stands (`tokensFrom_eq`, `leafSpans_eq`).
-/
namespace IncrementalGlr

/-- A leaf with padding or text. -/
structure Leaf where
  symbol : SymbolId
  padding : Nat
  size : Nat
  deriving DecidableEq, Repr

/-- A piece of text with its symbol, without the padding before it. -/
structure Piece where
  symbol : SymbolId
  start : Nat
  stop : Nat
  deriving DecidableEq, Repr

def Token.piece (t : Token) : Piece := ⟨t.symbol, t.start, t.stop⟩

namespace Leaf

/-- The number of bytes of several leaves. -/
def totals : List Leaf → Nat
  | [] => 0
  | l :: rest => l.padding + l.size + totals rest

/-- The text of several leaves that stand one after another from `start` on. -/
def pieces (start : Nat) : List Leaf → List Piece
  | [] => []
  | l :: rest =>
    let here := if 0 < l.size then
      [⟨l.symbol, start + l.padding, start + l.padding + l.size⟩] else []
    here ++ pieces (start + (l.padding + l.size)) rest

/-- The ranges of several leaves, with their padding, that stand one after another. -/
def spans (start : Nat) : List Leaf → List (Nat × Nat)
  | [] => []
  | l :: rest =>
    (start, start + (l.padding + l.size)) :: spans (start + (l.padding + l.size)) rest

theorem totals_append (a b : List Leaf) : totals (a ++ b) = totals a + totals b := by
  induction a with
  | nil => simp [totals]
  | cons l a ih => simp only [List.cons_append, totals, ih, Nat.add_assoc]

theorem pieces_append (start : Nat) (a b : List Leaf) :
    pieces start (a ++ b) = pieces start a ++ pieces (start + totals a) b := by
  induction a generalizing start with
  | nil => simp [pieces, totals]
  | cons l a ih => simp only [List.cons_append, pieces, totals, ih, List.append_assoc, Nat.add_assoc]

theorem spans_append (start : Nat) (a b : List Leaf) :
    spans start (a ++ b) = spans start a ++ spans (start + totals a) b := by
  induction a generalizing start with
  | nil => simp [spans, totals]
  | cons l a ih => simp only [List.cons_append, spans, totals, ih, Nat.add_assoc]

end Leaf

namespace Subtree

/-! ## Leaves -/

mutual

/-- The leaves of a subtree that have padding or text, in order. -/
def leaves : Subtree → List Leaf
  | mk info [] =>
    if 0 < info.padding + info.size then [⟨info.symbol, info.padding, info.size⟩] else []
  | mk _ (t :: rest) => leavesOf (t :: rest)

/-- The leaves of several subtrees. -/
def leavesOf : List Subtree → List Leaf
  | [] => []
  | t :: rest => leaves t ++ leavesOf rest

end

mutual

/-- The tokens with text in a subtree that begins at `start`, in order. -/
def tokensFrom (start : Nat) : Subtree → List Piece
  | mk info [] =>
    if 0 < info.size then
      [⟨info.symbol, start + info.padding, start + info.padding + info.size⟩] else []
  | mk _ (t :: rest) => tokensOf start (t :: rest)

/-- The tokens of subtrees one after another. -/
def tokensOf (start : Nat) : List Subtree → List Piece
  | [] => []
  | t :: rest => tokensFrom start t ++ tokensOf (start + t.total) rest

end

mutual

/-- A subtree begins with the padding of its first child and is as long as its children together, all
the way down. -/
def Sized : Subtree → Prop
  | mk _ [] => True
  | mk info (t :: rest) => info.padding = t.padding ∧
      info.padding + info.size = totals (t :: rest) ∧ SizedAll (t :: rest)

/-- The sizes of several subtrees are those of their children. -/
def SizedAll : List Subtree → Prop
  | [] => True
  | t :: rest => Sized t ∧ SizedAll rest

end

/-- A subtree that is nothing but its children. -/
def Closed (t : Subtree) : Prop := t.leaves = leavesOf t.children

/-- A subtree without text that stands for no symbol of the grammar. -/
def Placeholder (t : Subtree) : Prop := t.symbol = errorSymbol ∧ t.size = 0

@[simp] theorem leavesOf_append (a b : List Subtree) :
    leavesOf (a ++ b) = leavesOf a ++ leavesOf b := by
  induction a with
  | nil => rfl
  | cons t a ih => simp only [List.cons_append, leavesOf, ih, List.append_assoc]

@[simp] theorem totals_append (a b : List Subtree) : totals (a ++ b) = totals a + totals b := by
  induction a with
  | nil => simp [totals]
  | cons t a ih => simp only [List.cons_append, totals, ih, Nat.add_assoc]

theorem sizedAll_iff {ts : List Subtree} : SizedAll ts ↔ ∀ t ∈ ts, t.Sized := by
  induction ts with
  | nil => simp [SizedAll]
  | cons t ts ih => simp only [SizedAll, ih, List.forall_mem_cons]

mutual

theorem totals_leaves : (t : Subtree) → t.Sized → Leaf.totals t.leaves = t.total
  | mk info [], _ => by
    simp only [leaves, total, padding, size, Subtree.info]
    split
    · rfl
    · simp only [Leaf.totals]
      omega
  | mk info (t :: rest), h => by
    obtain ⟨-, hsize, hall⟩ := h
    rw [leaves, totals_leavesOf (t :: rest) hall]
    exact hsize.symm

theorem totals_leavesOf : (ts : List Subtree) → SizedAll ts → Leaf.totals (leavesOf ts) = totals ts
  | [], _ => rfl
  | t :: rest, h => by
    rw [leavesOf, Leaf.totals_append, totals_leaves t h.1, totals_leavesOf rest h.2, totals]

end

mutual

/-- Where the tokens of a subtree stand follows from the row of its leaves. -/
theorem tokensFrom_eq (start : Nat) :
    (t : Subtree) → t.Sized → tokensFrom start t = Leaf.pieces start t.leaves
  | mk info [], _ => by
    simp only [tokensFrom, leaves]
    by_cases h : 0 < info.padding + info.size
    · simp [h, Leaf.pieces]
    · have : ¬ 0 < info.size := by omega
      simp [h, this, Leaf.pieces]
  | mk _ (t :: rest), h => by rw [tokensFrom, leaves, tokensOf_eq start (t :: rest) h.2.2]

theorem tokensOf_eq (start : Nat) :
    (ts : List Subtree) → SizedAll ts → tokensOf start ts = Leaf.pieces start (leavesOf ts)
  | [], _ => rfl
  | t :: rest, h => by
    rw [tokensOf, leavesOf, Leaf.pieces_append, tokensFrom_eq start t h.1,
      tokensOf_eq (start + t.total) rest h.2, totals_leaves t h.1]

end

mutual

/-- The ranges of the leaves of a subtree follow from the row of its leaves. -/
theorem leafSpans_eq (start : Nat) :
    (t : Subtree) → t.Sized → leafSpans start t = Leaf.spans start t.leaves
  | mk info [], _ => by
    simp only [leafSpans, leaves]
    split <;> rfl
  | mk _ (t :: rest), h => by rw [leafSpans, leaves, leafSpansOf_eq start (t :: rest) h.2.2]

theorem leafSpansOf_eq (start : Nat) :
    (ts : List Subtree) → SizedAll ts → leafSpansOf start ts = Leaf.spans start (leavesOf ts)
  | [], _ => rfl
  | t :: rest, h => by
    rw [leafSpansOf, leavesOf, Leaf.spans_append, leafSpans_eq start t h.1,
      leafSpansOf_eq (start + t.total) rest h.2, totals_leaves t h.1]

end

/-! ## Building -/

section Node

variable (symbol : SymbolId) (production : Option ProductionId) (children : List Subtree)
  (start least : Nat) (dynamicPrecedence : Int) (fragile : Bool) (parseState : Option StateId)

theorem padding_le_totals : (children.head?.map Subtree.padding).getD 0 ≤ totals children := by
  cases children with
  | nil => exact Nat.le_refl 0
  | cons t rest =>
    simp only [List.head?_cons, Option.map_some, Option.getD_some, totals, total]
    omega

theorem total_node : (node symbol production children start least dynamicPrecedence fragile
    parseState).total = totals children := by
  have := padding_le_totals children
  simp only [node, total, padding, size, info]
  exact Nat.add_sub_cancel' this

theorem leaves_node : (node symbol production children start least dynamicPrecedence fragile
    parseState).leaves = leavesOf children := by
  cases children with
  | nil => rfl
  | cons t rest => simp only [node, leaves]

theorem closed_node : (node symbol production children start least dynamicPrecedence fragile
    parseState).Closed :=
  leaves_node ..

theorem sized_node (h : ∀ t ∈ children, t.Sized) :
    (node symbol production children start least dynamicPrecedence fragile parseState).Sized := by
  have htotal := total_node symbol production children start least dynamicPrecedence fragile
    parseState
  cases children with
  | nil => exact trivial
  | cons t rest => exact ⟨rfl, htotal, sizedAll_iff.2 h⟩

end Node

section Error

variable (children : List Subtree) (start least : Nat) (extra : Bool)

theorem leaves_error : (error children start least extra).leaves = leavesOf children := by
  cases children with
  | nil => rfl
  | cons t rest => simp only [error, node, leaves]

theorem sized_error (h : ∀ t ∈ children, t.Sized) : (error children start least extra).Sized := by
  have htotal := total_node errorSymbol none children start least 0 true none
  cases children with
  | nil => exact trivial
  | cons t rest => exact ⟨rfl, htotal, sizedAll_iff.2 h⟩

end Error

theorem Sized.children {t : Subtree} (h : t.Sized) : ∀ c ∈ t.children, c.Sized := by
  cases t with
  | mk info children =>
    cases children with
    | nil => intro c hc; simp [Subtree.children] at hc
    | cons c rest => exact sizedAll_iff.1 h.2.2

section WithExtras

variable {t : Subtree} {leading trailing : List Subtree} {start least : Nat}

theorem symbol_withExtras : (t.withExtras leading trailing start least).symbol = t.symbol := by
  unfold withExtras
  split <;> rfl

/-- Extras around a node add their leaves to its own. Around a single leaf they would replace it. -/
theorem leaves_withExtras (h : t.Closed ∨ leading = [] ∧ trailing = []) :
    (t.withExtras leading trailing start least).leaves =
      leavesOf leading ++ t.leaves ++ leavesOf trailing := by
  unfold withExtras
  split
  · next hempty =>
    simp only [Bool.and_eq_true, List.isEmpty_iff] at hempty
    simp [hempty.1, hempty.2, leavesOf]
  · next hne =>
    rcases h with h | ⟨rfl, rfl⟩
    · rw [leaves_node, leavesOf_append, leavesOf_append, h]
    · simp at hne

/-- Around a subtree without children there is nothing left but the extras. -/
theorem withExtras_of_childless (start least : Nat) (h : t.children = []) (hne : ¬ (leading = [] ∧ trailing = [])) :
    (t.withExtras leading trailing start least).children = leading ++ trailing ∧
      (t.withExtras leading trailing start least).leaves = leavesOf leading ++ leavesOf trailing := by
  unfold withExtras
  rw [if_neg (by simpa using hne), h, List.append_nil]
  exact ⟨rfl, by rw [leaves_node, leavesOf_append]⟩

theorem sized_withExtras (ht : t.Sized) (hl : ∀ c ∈ leading, c.Sized)
    (hr : ∀ c ∈ trailing, c.Sized) : (t.withExtras leading trailing start least).Sized := by
  unfold withExtras
  split
  · exact ht
  · refine sized_node _ _ _ _ _ _ _ _ fun c hc => ?_
    rcases List.mem_append.1 hc with hc | hc
    · exact (List.mem_append.1 hc).elim (hl c) (ht.children c)
    · exact hr c hc

end WithExtras

theorem leaves_leaf (token : Token) (extra fragile : Bool) (q r : StateId) :
    (leaf token extra fragile q r).leaves =
      if 0 < token.padding + token.length then
        [⟨token.symbol, token.padding, token.length⟩] else [] := by
  simp only [leaf, leaves]

theorem closed_of_children {t : Subtree} (h : t.children ≠ []) : t.Closed := by
  rcases t with ⟨info, _ | ⟨c, rest⟩⟩
  · exact absurd rfl h
  · simp only [Closed, leaves, Subtree.children]

theorem placeholder_missing (symbol : SymbolId) (token : Token) :
    (missing symbol token).Placeholder :=
  ⟨rfl, rfl⟩

theorem leaves_placeholder {t : Subtree} (h : t.Placeholder) (hc : t.children = []) :
    t.leaves = if 0 < t.padding then [⟨errorSymbol, t.padding, 0⟩] else [] := by
  obtain ⟨info, children⟩ := t
  obtain rfl : children = [] := hc
  obtain ⟨hsymbol, hsize⟩ := h
  simp only [symbol, size, Subtree.info] at hsymbol hsize
  simp only [leaves, hsymbol, hsize]
  rfl

theorem leaves_missing (symbol : SymbolId) (token : Token) : (missing symbol token).leaves =
    if 0 < token.padding then [⟨errorSymbol, token.padding, 0⟩] else [] := by
  simp only [missing, leaves, Nat.add_zero]

end Subtree

end IncrementalGlr
