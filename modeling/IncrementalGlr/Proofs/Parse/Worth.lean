import Mathlib
import IncrementalGlr.Proofs.Parse.Accounting

/-!
What heads and subtrees are worth. Every production adds its dynamic precedence to the node that it
makes and to the head that makes it. Both are kept in 32 bits, and every step of an engine keeps them
what the sum over all productions on the stack comes to there (`Engine.summed`). So they are that sum
as long as it stays in the range, and no operation on the way leaves the range while the precedences,
all taken without their signs, add up to a number in it (`Subtree.Summed.exact`,
`Engine.addsUp_of_summed`).
-/
namespace IncrementalGlr

/-- The dynamic precedence of a production. -/
def ParseTable.worthOf (t : ParseTable) (id : ProductionId) : Int :=
  ((t.production? id).map Production.dynamicPrecedence).getD 0

/-- How far the dynamic precedence of a production is from zero. -/
def ParseTable.swingOf (t : ParseTable) (id : ProductionId) : Int := |t.worthOf id|

theorem ParseTable.worthOf_of_production {t : ParseTable} {id : ProductionId} {p : Production}
    (h : t.production? id = some p) : t.worthOf id = p.dynamicPrecedence := by
  rw [worthOf, h]
  rfl

namespace Subtree

variable {value : ProductionId → Int} {t : ParseTable} {x : Subtree} {ts : List Subtree}

/-! ## Sums over productions -/

/-- What the production of a subtree adds; nothing, if it was not made by one. -/
def own (value : ProductionId → Int) (x : Subtree) : Int := (x.info.production.map value).getD 0

/-- What the productions of all that is in several subtrees add up to. -/
def sumOf (value : ProductionId → Int) (ts : List Subtree) : Int :=
  ((partsOf ts).map (own value)).sum

theorem sumOf_nil : sumOf value [] = 0 := rfl

theorem sumOf_append (a b : List Subtree) :
    sumOf value (a ++ b) = sumOf value a + sumOf value b := by
  rw [sumOf, partsOf_append, List.map_append, List.sum_append]
  rfl

theorem sumOf_cons (x : Subtree) (ts : List Subtree) :
    sumOf value (x :: ts) = sumOf value [x] + sumOf value ts := sumOf_append [x] ts

theorem sumOf_singleton (x : Subtree) : sumOf value [x] = own value x + sumOf value x.children := by
  rw [sumOf, partsOf, parts_eq, partsOf, List.append_nil, List.map_cons, List.sum_cons]
  rfl

theorem abs_own_worthOf (x : Subtree) : |own t.worthOf x| ≤ own t.swingOf x := by
  unfold own
  cases x.info.production <;> simp [ParseTable.swingOf]

theorem abs_sumOf_worthOf (ts : List Subtree) : |sumOf t.worthOf ts| ≤ sumOf t.swingOf ts := by
  unfold sumOf
  induction partsOf ts with
  | nil => exact Int.le_refl 0
  | cons x parts ih =>
    rw [List.map_cons, List.map_cons, List.sum_cons, List.sum_cons]
    exact (abs_add_le _ _).trans (Int.add_le_add (abs_own_worthOf x) ih)

theorem own_swingOf_nonneg (x : Subtree) : 0 ≤ own t.swingOf x := by
  unfold own
  cases x.info.production with
  | none => exact Int.le_refl 0
  | some id => exact abs_nonneg (t.worthOf id)

theorem sumOf_swingOf_nonneg (ts : List Subtree) : 0 ≤ sumOf t.swingOf ts :=
  List.sum_nonneg fun _ hn => by
    obtain ⟨x, -, rfl⟩ := List.mem_map.1 hn
    exact own_swingOf_nonneg x

theorem swingOf_prefix_le {row : List Subtree} (h : row <+: ts) :
    sumOf t.swingOf row ≤ sumOf t.swingOf ts := by
  obtain ⟨rest, rfl⟩ := h
  rw [sumOf_append]
  exact Int.le_add_of_nonneg_right (sumOf_swingOf_nonneg rest)

theorem swingOf_le_of_mem (h : x ∈ ts) : sumOf t.swingOf [x] ≤ sumOf t.swingOf ts := by
  obtain ⟨before, after, rfl⟩ := List.append_of_mem h
  have hbefore := sumOf_swingOf_nonneg (t := t) before
  have hafter := sumOf_swingOf_nonneg (t := t) after
  rw [sumOf_append, sumOf_cons x after]
  omega

mutual

/-- The productions in a part of a subtree swing no further than those in the subtree. -/
theorem swingOf_le_of_mem_parts {y : Subtree} : (x : Subtree) → y ∈ x.parts →
    sumOf t.swingOf [y] ≤ sumOf t.swingOf [x]
  | mk info children, hy => by
    rw [parts] at hy
    rcases List.mem_cons.1 hy with rfl | hy
    · exact Int.le_refl _
    · rw [sumOf_singleton (mk info children)]
      exact (swingOf_le_of_mem_partsOf children hy).trans
        (Int.le_add_of_nonneg_left (own_swingOf_nonneg _))

theorem swingOf_le_of_mem_partsOf {y : Subtree} : (ts : List Subtree) → y ∈ partsOf ts →
    sumOf t.swingOf [y] ≤ sumOf t.swingOf ts
  | [], hy => absurd hy List.not_mem_nil
  | x :: rest, hy => by
    rw [sumOf_cons x rest]
    have here := sumOf_swingOf_nonneg (t := t) [x]
    have there := sumOf_swingOf_nonneg (t := t) rest
    rw [partsOf] at hy
    rcases List.mem_append.1 hy with hy | hy
    · have := swingOf_le_of_mem_parts x hy
      omega
    · have := swingOf_le_of_mem_partsOf rest hy
      omega

end

/-- Where productions do not swing too far, what they add up to is in the range. -/
theorem isInt32_of_swing (h : sumOf t.swingOf ts < 0x80000000) : IsInt32 (sumOf t.worthOf ts) := by
  have := abs_le.1 (abs_sumOf_worthOf (t := t) ts)
  unfold IsInt32
  omega

/-! ## Subtrees that carry their sums -/

/-- A subtree and all in it carry what their productions add up to, as far as 32 bits hold it. -/
structure Summed (t : ParseTable) (x : Subtree) : Prop where
  parts : ∀ y ∈ x.parts, y.info.dynamicPrecedence = wrap32 (sumOf t.worthOf [y])

theorem summed_iff : x.Summed t ↔ x.info.dynamicPrecedence = wrap32 (sumOf t.worthOf [x]) ∧
    ∀ c ∈ x.children, c.Summed t := by
  constructor
  · rintro ⟨h⟩
    obtain ⟨hx, hchildren⟩ := forall_parts.1 h
    exact ⟨hx, fun c hc => ⟨hchildren c hc⟩⟩
  · rintro ⟨hx, hchildren⟩
    exact ⟨forall_parts.2 ⟨hx, fun c hc => (hchildren c hc).parts⟩⟩

theorem Summed.dynamicPrecedence_eq (h : x.Summed t) :
    x.info.dynamicPrecedence = wrap32 (sumOf t.worthOf [x]) := (summed_iff.1 h).1

theorem Summed.part (h : x.Summed t) {y : Subtree} (hy : y ∈ x.parts) : y.Summed t :=
  ⟨fun z hz => h.parts z (mem_parts_trans hz x hy)⟩

theorem dynamicPrecedences_eq (h : ∀ x ∈ ts, x.Summed t) :
    dynamicPrecedences ts = wrap32 (sumOf t.worthOf ts) := by
  -- Along the list the sum so far, as far as 32 bits hold it, is all that matters.
  have along (n : Int) : ts.foldl (fun sum x => wrap32 (sum + x.info.dynamicPrecedence)) (wrap32 n) =
      wrap32 (n + sumOf t.worthOf ts) := by
    induction ts generalizing n with
    | nil => rw [sumOf_nil, Int.add_zero, List.foldl_nil]
    | cons x rest ih =>
      obtain ⟨hx, hrest⟩ := List.forall_mem_cons.1 h
      rw [List.foldl_cons, hx.dynamicPrecedence_eq, wrap32_add_right, wrap32_add_left, ih hrest,
        sumOf_cons x rest, Int.add_assoc]
  rw [← Int.zero_add (sumOf _ _), ← along 0]
  rfl

theorem summed_of_bare (hproduction : x.info.production = none) (hchildren : x.children = [])
    (hnone : x.info.dynamicPrecedence = 0) : x.Summed t := by
  refine summed_iff.2 ⟨?_, by rw [hchildren]; nofun⟩
  rw [hnone, sumOf_singleton, own, hproduction, hchildren]
  rfl

/-- A node carries what its production and its children add up to, if it is given what its production
adds. -/
theorem summed_node {symbol : SymbolId} {production : Option ProductionId} {children : List Subtree}
    {start lookaheadEnd : Nat} {added : Int} {fragile : Bool} {parseState : Option StateId}
    (hadded : wrap32 added = wrap32 ((production.map t.worthOf).getD 0))
    (hchildren : ∀ c ∈ children, c.Summed t) :
    (node symbol production children start lookaheadEnd added fragile parseState).Summed t := by
  refine summed_iff.2 ⟨?_, hchildren⟩
  rw [sumOf_singleton]
  show wrap32 (added + dynamicPrecedences children) =
    wrap32 ((production.map t.worthOf).getD 0 + sumOf t.worthOf children)
  rw [dynamicPrecedences_eq hchildren, wrap32_add_right, ← wrap32_add_left, hadded,
    wrap32_add_left]

theorem summed_error {children : List Subtree} (h : ∀ c ∈ children, c.Summed t)
    (start lookaheadEnd : Nat) (extra : Bool) : (error children start lookaheadEnd extra).Summed t := by
  have made : (node errorSymbol none children start lookaheadEnd 0 true none).Summed t :=
    summed_node rfl h
  exact summed_iff.2 ⟨made.dynamicPrecedence_eq, h⟩

theorem sumOf_error (children : List Subtree) (start lookaheadEnd : Nat) (extra : Bool) :
    sumOf value [error children start lookaheadEnd extra] = sumOf value children := by
  rw [sumOf_singleton]
  exact Int.zero_add _

/-- With extras around it a subtree carries what they add as well. -/
theorem Summed.withExtras (h : x.Summed t) {leading trailing : List Subtree}
    (hleading : ∀ c ∈ leading, c.Summed t) (htrailing : ∀ c ∈ trailing, c.Summed t)
    (start lookaheadEnd : Nat) : (x.withExtras leading trailing start lookaheadEnd).Summed t := by
  unfold Subtree.withExtras
  split
  · exact h
  · obtain ⟨hx, hchildren⟩ := summed_iff.1 h
    refine summed_node ?_ (List.forall_mem_append.2
      ⟨List.forall_mem_append.2 ⟨hleading, hchildren⟩, htrailing⟩)
    rw [hx, dynamicPrecedences_eq hchildren, sumOf_singleton]
    show wrap32 (wrap32 (wrap32 (own t.worthOf x + _) - wrap32 _)) = wrap32 (own t.worthOf x)
    simp [wrap32]

theorem summed_rootOf (h : ∀ x ∈ ts, x.Summed t) (lookaheadEnd : Nat) :
    (Engine.rootOf ts lookaheadEnd).Summed t := by
  unfold Engine.rootOf
  split
  · next leading main trailing hsplit =>
    obtain ⟨rfl, -⟩ := Stack.of_splitMain hsplit
    rw [List.forall_mem_append, List.forall_mem_cons] at h
    exact h.2.1.withExtras h.1 h.2.2 ..
  · exact summed_error h ..

/-! ## Exact sums -/

/-- All that is computed for the dynamic precedence of a subtree comes out as it would without a bound
on numbers: every sum over the first of its children, what its production adds to that, and what is left
when the children are taken off again. -/
structure Exact (t : ParseTable) (x : Subtree) : Prop where
  sums : ∀ row, row <+: x.children →
    dynamicPrecedences row = (row.map fun c => c.info.dynamicPrecedence).sum
  whole : x.info.dynamicPrecedence = own t.worthOf x + dynamicPrecedences x.children
  left : wrap32 (x.info.dynamicPrecedence - dynamicPrecedences x.children) =
    x.info.dynamicPrecedence - dynamicPrecedences x.children

theorem dynamicPrecedences_of_swing (h : ∀ x ∈ ts, x.Summed t)
    (hswing : sumOf t.swingOf ts < 0x80000000) : dynamicPrecedences ts = sumOf t.worthOf ts := by
  rw [dynamicPrecedences_eq h, wrap32_of_isInt32 (isInt32_of_swing hswing)]

theorem Summed.dynamicPrecedence_of_swing (h : x.Summed t)
    (hswing : sumOf t.swingOf [x] < 0x80000000) :
    x.info.dynamicPrecedence = sumOf t.worthOf [x] := by
  rw [h.dynamicPrecedence_eq, wrap32_of_isInt32 (isInt32_of_swing hswing)]

/-- Where the productions in a subtree do not swing too far, everything in it is computed exactly. -/
theorem Summed.exact (h : x.Summed t) (hswing : sumOf t.swingOf [x] < 0x80000000) :
    ∀ y ∈ x.parts, y.Exact t := by
  intro y hy
  have hy' := swingOf_le_of_mem_parts (t := t) x hy
  obtain ⟨-, hchildren⟩ := summed_iff.1 (h.part hy)
  have hdp := (h.part hy).dynamicPrecedence_of_swing (Int.lt_of_le_of_lt hy' hswing)
  have hown := own_swingOf_nonneg (t := t) y
  have within : sumOf t.swingOf y.children < 0x80000000 := by
    rw [sumOf_singleton y] at hy'
    omega
  have hsum := dynamicPrecedences_of_swing hchildren within
  refine ⟨fun row hrow => ?_, ?_, ?_⟩
  · have each : ∀ c ∈ row, c.info.dynamicPrecedence = sumOf t.worthOf [c] := fun c hc =>
      (hchildren c (hrow.subset hc)).dynamicPrecedence_of_swing
        (Int.lt_of_le_of_lt (swingOf_le_of_mem (hrow.subset hc)) within)
    rw [dynamicPrecedences_of_swing (fun c hc => hchildren c (hrow.subset hc))
      (Int.lt_of_le_of_lt (swingOf_prefix_le hrow) within), List.map_congr_left each]
    clear each hrow
    induction row with
    | nil => rfl
    | cons c row ih => rw [sumOf_cons, ih, List.map_cons, List.sum_cons]
  · rw [hdp, hsum, sumOf_singleton]
  · refine wrap32_of_isInt32 ?_
    have := abs_le.1 (abs_own_worthOf (t := t) y)
    have := sumOf_swingOf_nonneg (t := t) y.children
    rw [sumOf_singleton y] at hy' hdp
    unfold IsInt32
    omega

end Subtree

open Subtree

/-! ## Stacks -/

namespace Stack

/-- What the productions of all that lies on a stack add up to. -/
def sumOf (value : ProductionId → Int) (s : Stack) : Int := Subtree.sumOf value s.subtrees

variable {value : ProductionId → Int} {t : ParseTable} {s s' : Stack}

theorem sumOf_append (a b : Stack) : sumOf value (a ++ b) = sumOf value b + sumOf value a := by
  rw [sumOf, subtrees_append, Subtree.sumOf_append]
  rfl

theorem sumOf_push (s : Stack) (q : StateId) (x : Subtree) :
    sumOf value (push s q x) = sumOf value s + Subtree.sumOf value [x] := by
  rw [sumOf, push, subtrees_cons, Subtree.sumOf_append]
  rfl

/-- A reduction adds what its production adds. -/
theorem sumOf_of_reduce {id : ProductionId} {lookaheadEnd : Nat} {fragile : Bool} {next : StateId}
    (h : Stack.reduce t s id lookaheadEnd fragile = some (s', next)) :
    sumOf value s' = sumOf value s + value id := by
  obtain ⟨p, -, extras, top, below, rfl, -, -, -, rfl⟩ := exists_of_reduce h
  have node : Subtree.sumOf value [nodeOver p id lookaheadEnd fragile top below] =
      value id + sumOf value top := Subtree.sumOf_singleton _
  rw [sumOf, subtrees_withExtras, Subtree.sumOf_append, ← sumOf, sumOf_push, node, sumOf_append,
    sumOf_append, show Subtree.sumOf value (extras.map Entry.subtree).reverse =
      sumOf value extras from rfl]
  omega

end Stack

/-! ## Heads -/

/-- A head carries what the productions of all on its stack add up to, and so does everything there. The
tokens put aside add nothing. -/
structure Head.Summed (t : ParseTable) (pending : List Subtree) (h : Head) : Prop where
  stack : ∀ x ∈ h.stack, x.subtree.Summed t
  dynamicPrecedence : h.dynamicPrecedence = wrap32 (h.stack.sumOf t.worthOf)
  pending : ∀ x ∈ pending, x.Summed t ∧ sumOf t.worthOf [x] = 0

namespace Head.Summed

variable {t : ParseTable} {h : Head} {pending : List Subtree}

theorem subtrees (hh : h.Summed t pending) : ∀ x ∈ h.stack.subtrees, x.Summed t := by
  intro x hx
  obtain ⟨e, he, rfl⟩ := List.mem_map.1 (List.mem_reverse.1 hx)
  exact hh.stack e he

theorem sumOf_pending (hh : h.Summed t pending) : sumOf t.worthOf pending = 0 := by
  have none := hh.pending
  clear hh
  induction pending with
  | nil => rfl
  | cons x rest ih =>
    obtain ⟨hx, hrest⟩ := List.forall_mem_cons.1 none
    rw [sumOf_cons, hx.2, ih hrest, Int.add_zero]

/-- A head carries the sum of both when something is put on a stack. -/
theorem push {below : Stack} (hbelow : ∀ x ∈ below, x.subtree.Summed t) {x : Subtree}
    (hx : x.Summed t) {q : StateId} {head : Head} (hstack : head.stack = below.push q x)
    (hdp : head.dynamicPrecedence = wrap32 (below.sumOf t.worthOf + sumOf t.worthOf [x])) :
    head.Summed t [] where
  stack := hstack ▸ List.forall_mem_cons.2 ⟨hx, hbelow⟩
  dynamicPrecedence := by
    rw [hdp, hstack]
    exact congrArg wrap32 (Stack.sumOf_push ..).symm
  pending := nofun

/-- What was made by no production adds nothing. -/
theorem push_bare (hh : h.Summed t pending) {x : Subtree} (hproduction : x.info.production = none)
    (hchildren : x.children = []) (hnone : x.info.dynamicPrecedence = 0) {q : StateId} {head : Head}
    (hstack : head.stack = h.stack.push q x)
    (hdp : head.dynamicPrecedence = h.dynamicPrecedence) : head.Summed t [] := by
  refine push hh.stack (summed_of_bare hproduction hchildren hnone) hstack ?_
  rw [hdp, hh.dynamicPrecedence, sumOf_singleton, own, hproduction, hchildren]
  exact congrArg wrap32 (Int.add_zero _).symm

end Head.Summed

namespace Engine

open Parsing

variable {e : Engine} {fuel : Option Nat} {h : Head}

/-- Every step of an engine keeps the sums. -/
theorem summed (hreuse : ∀ r, e.reuse = some r → r.root.Summed e.table) :
    e.Invariant (fun _ _ => True) (fun _ => Head.Summed e.table) (Subtree.Summed e.table) where
  token _ _ := trivial
  unpadded _ := trivial
  keeps _ token := {
    path := fun _ _ h => ⟨h.stack, h.dynamicPrecedence, h.pending⟩
    reduce := by
      rintro fragile id h next hh - ⟨p, stack, state, hp, hreduce, rfl⟩
      have hworth := ParseTable.worthOf_of_production hp
      refine ⟨?_, ?_, hh.pending⟩
      · refine Stack.forall_of_reduce hreduce hh.stack ?_
        intro p' extras top below hp' hstack _ _
        obtain rfl := Option.some.inj (hp.symm.trans hp')
        refine summed_node (congrArg wrap32 hworth.symm) fun c hc => ?_
        obtain ⟨x, hx, rfl⟩ := List.mem_map.1 (List.mem_reverse.1 hc)
        exact hh.stack x (hstack ▸ List.mem_append_right _ (List.mem_append_left _ hx))
      · show wrap32 (h.dynamicPrecedence + p.dynamicPrecedence) = _
        rw [Stack.sumOf_of_reduce hreduce, hworth, hh.dynamicPrecedence,
          wrap32_add_left] }
  shift {_ token} fragile {head target} _ hh _ := hh.push_bare rfl rfl rfl rfl rfl
  reuse {_ _ head _ _ _} hr hh hchoice := by
    obtain ⟨hmem, -⟩ := of_chooseReuse hchoice
    obtain ⟨c, hc, hpart⟩ := mem_partsOf.1 (mem_partsOf_of_mem_candidates hmem)
    have old := ((summed_iff.1 (hreuse _ hr)).2 c hc).part hpart
    refine .push hh.stack old rfl ?_
    show wrap32 (head.dynamicPrecedence + _) = _
    rw [hh.dynamicPrecedence, old.dynamicPrecedence_eq, wrap32_add_right, wrap32_add_left]
  nonterminal _ hh _ := hh.push_bare rfl rfl rfl rfl rfl
  terminal _ _ _ _ _ hh _ := hh.push_bare rfl rfl rfl rfl rfl
  resume lookaheadEnd _ hh := by
    refine .push hh.stack (summed_error (fun x hx => (hh.pending x hx).1) ..) rfl ?_
    rw [sumOf_error, hh.sumOf_pending, Int.add_zero]
    exact hh.dynamicPrecedence
  -- What is given up still counts: it lies below the error node that is put in its place.
  pop {_ pending given head below terminal} lookaheadEnd hh hpop := by
    obtain ⟨top, hstack, rfl⟩ := Stack.exists_of_popUntil hpop
    rw [List.append_nil]
    refine .push (fun x hx => hh.stack x (hstack ▸ List.mem_append_right _ hx))
      (summed_error (List.forall_mem_append.2 ⟨fun x hx => ?_, fun x hx => (hh.pending x hx).1⟩) ..)
      rfl ?_
    · obtain ⟨y, hy, rfl⟩ := List.mem_map.1 (List.mem_reverse.1 hx)
      exact hh.stack y (hstack ▸ List.mem_append_left _ hy)
    · rw [sumOf_error, Subtree.sumOf_append, hh.sumOf_pending, Int.add_zero]
      show head.dynamicPrecedence = _
      rw [hh.dynamicPrecedence, hstack, Stack.sumOf_append]
      rfl
  skip {_ pending head token} _ hh := by
    refine ⟨hh.stack, hh.dynamicPrecedence, List.forall_mem_append.2 ⟨hh.pending, fun x hx => ?_⟩⟩
    rw [List.mem_singleton.1 hx]
    exact ⟨summed_of_bare rfl rfl rfl, rfl⟩
  accept hh _ := summed_rootOf hh.subtrees _
  wrap _ hh := summed_error (List.forall_mem_append.2
    ⟨hh.subtrees, fun x hx => (hh.pending x hx).1⟩) ..

/-- The heads that a parse comes to deal with: its own, and those that reductions lead them to, whatever
choices they remember. -/
inductive Handles (e : Engine) (fuel : Option Nat) : Head → Prop where
  | live {h : Head} (hh : e.Live fuel h) : Handles e fuel h
  | path {h : Head} (hh : Handles e fuel h) (path : Choices) : Handles e fuel { h with path }
  | reduced {h next : Head} {token : Token} {fragile : Bool} {id : ProductionId}
      (hh : Handles e fuel h) (ha : .reduce id ∈ e.table.actions h.state token.symbol)
      (hr : Reduces e token fragile id h next) : Handles e fuel next

/-- A phase that begins with such heads deals with no others. -/
theorem keeps_handles (token : Token) : e.Keeps token (e.Handles fuel) where
  path _ path hh := hh.path path
  reduce _ _ _ _ hh ha hr := hh.reduced ha hr

/-- The sums of a parse come out: heads and all on their stacks carry what 32 bits hold of the sums of
their productions, which is the sum itself exactly if it is in the range. While the productions do not
swing too far, everything on the way is exact: each sum of a node, of a reduction, and of taking an old
subtree over. -/
structure AddsUp (e : Engine) (fuel : Option Nat) : Prop where
  heads : ∀ h, e.Handles fuel h → h.dynamicPrecedence = wrap32 (h.stack.sumOf e.table.worthOf)
  heads_iff : ∀ h, e.Handles fuel h → (h.dynamicPrecedence = h.stack.sumOf e.table.worthOf ↔
    IsInt32 (h.stack.sumOf e.table.worthOf))
  subtrees : ∀ h, e.Handles fuel h → ∀ x ∈ h.stack.subtrees, x.Summed e.table
  nodes : ∀ h, e.Handles fuel h → h.stack.sumOf e.table.swingOf < 0x80000000 →
    ∀ x ∈ h.stack.subtrees, ∀ y ∈ x.parts, y.Exact e.table
  reduce : ∀ h next token fragile id p, e.Handles fuel h →
    .reduce id ∈ e.table.actions h.state token.symbol → Reduces e token fragile id h next →
    e.table.production? id = some p → next.stack.sumOf e.table.swingOf < 0x80000000 →
    next.dynamicPrecedence = h.dynamicPrecedence + p.dynamicPrecedence
  reuse : ∀ r h token position t q, e.reuse = some r → e.Handles fuel h →
    e.chooseReuse h token (r.candidates position) = some (t, q) →
    (reusing h t q).stack.sumOf e.table.swingOf < 0x80000000 →
    (reusing h t q).dynamicPrecedence = h.dynamicPrecedence + t.info.dynamicPrecedence

theorem Handles.summed (hreuse : ∀ r, e.reuse = some r → r.root.Summed e.table)
    (hh : e.Handles fuel h) : ∃ pending, h.Summed e.table pending := by
  have inv := Engine.summed hreuse
  induction hh with
  | live hh =>
    obtain ⟨_, pending, hh⟩ := hh.holds inv ⟨nofun, rfl, nofun⟩
    exact ⟨pending, hh⟩
  | path _ path ih =>
    obtain ⟨pending, ih⟩ := ih
    exact ⟨pending, ih.stack, ih.dynamicPrecedence, ih.pending⟩
  | reduced _ ha hr ih =>
    obtain ⟨pending, ih⟩ := ih
    exact ⟨[], (inv.keeps 0 _).reduce _ _ _ _ ⟨ih.stack, ih.dynamicPrecedence, nofun⟩ ha hr⟩

theorem exact_of_summed {pending : List Subtree} (hh : h.Summed e.table pending)
    (hswing : h.stack.sumOf e.table.swingOf < 0x80000000) :
    h.dynamicPrecedence = h.stack.sumOf e.table.worthOf :=
  hh.dynamicPrecedence.trans (wrap32_of_isInt32 (isInt32_of_swing hswing))

/-- The sums of every parse come out, if those in the old tree do. -/
theorem addsUp_of_summed (hreuse : ∀ r, e.reuse = some r → r.root.Summed e.table) :
    e.AddsUp fuel where
  heads h hh :=
    have ⟨_, hh⟩ := hh.summed hreuse
    hh.dynamicPrecedence
  heads_iff h hh := by
    obtain ⟨_, hh⟩ := hh.summed hreuse
    rw [hh.dynamicPrecedence, wrap32_eq_iff]
  subtrees h hh :=
    have ⟨_, hh⟩ := hh.summed hreuse
    hh.subtrees
  nodes h hh hswing x hx :=
    have ⟨_, hh⟩ := hh.summed hreuse
    (hh.subtrees x hx).exact (Int.lt_of_le_of_lt (swingOf_le_of_mem hx) hswing)
  reduce h next token fragile id p hh ha hr hp hswing := by
    obtain ⟨_, hh'⟩ := hh.summed hreuse
    obtain ⟨_, hnext⟩ := (hh.reduced ha hr).summed hreuse
    obtain ⟨p', stack, state, hp', hreduce, rfl⟩ := hr
    have swings : stack.sumOf e.table.swingOf = h.stack.sumOf e.table.swingOf + |e.table.worthOf id| :=
      Stack.sumOf_of_reduce hreduce
    have before : h.stack.sumOf e.table.swingOf < 0x80000000 :=
      Int.lt_of_le_of_lt (swings ▸ Int.le_add_of_nonneg_right (abs_nonneg _)) hswing
    rw [exact_of_summed hnext hswing, exact_of_summed hh' before, ← ParseTable.worthOf_of_production hp]
    exact Stack.sumOf_of_reduce hreduce
  reuse r h token position t q hr hh hchoice hswing := by
    obtain ⟨_, hh⟩ := hh.summed hreuse
    have alone : h.Summed e.table [] := ⟨hh.stack, hh.dynamicPrecedence, nofun⟩
    have hnext : (reusing h t q).Summed e.table [] := (Engine.summed hreuse).reuse hr alone hchoice
    have swings : (reusing h t q).stack.sumOf e.table.swingOf =
        h.stack.sumOf e.table.swingOf + sumOf e.table.swingOf [t] := Stack.sumOf_push ..
    have below : h.stack.sumOf e.table.swingOf < 0x80000000 :=
      Int.lt_of_le_of_lt (swings ▸ Int.le_add_of_nonneg_right (sumOf_swingOf_nonneg _)) hswing
    have above : sumOf e.table.swingOf [t] < 0x80000000 :=
      Int.lt_of_le_of_lt (swings ▸ Int.le_add_of_nonneg_left (sumOf_swingOf_nonneg _)) hswing
    rw [exact_of_summed hnext hswing, exact_of_summed hh below,
      (hnext.stack _ List.mem_cons_self).dynamicPrecedence_of_swing above]
    exact Stack.sumOf_push ..

/-- A root carries what its productions add up to, if the old root does. -/
theorem summed_of_run (hreuse : ∀ r, e.reuse = some r → r.root.Summed e.table) {root : Subtree}
    {c : Configuration} (hr : Returns e.run { fuel } root c) : root.Summed e.table :=
  (summed hreuse).run ⟨nofun, rfl, nofun⟩ hr

end Engine

end IncrementalGlr
