import IncrementalGlr.Proofs.Parse.Guided

/-!
Errors are not lost. A node has the errors of its children, so reducing keeps how many there are on a
stack (`Stack.errors_of_reduce`), and a root has all of them (`Stack.Counted.errors_le`). Whatever is
done about a token that no head takes leaves an error on the stack, or puts the token aside, over
which there will be an error. So the root of a text has one when the first attempt at any of its
tokens fails (`Engine.exists_attempt_of_consume`).
-/
namespace IncrementalGlr

namespace Subtree

theorem errorCounts_append (a b : List Subtree) :
    errorCounts (a ++ b) = errorCounts a + errorCounts b := by
  induction a with
  | nil => rw [List.nil_append, errorCounts, Nat.zero_add]
  | cons t a ih => rw [List.cons_append, errorCounts, errorCounts, ih, Nat.add_assoc]

theorem errorCount_error (children : List Subtree) (start lookaheadEnd : Nat) (extra : Bool) :
    (error children start lookaheadEnd extra).errorCount = errorCounts children + 1 := rfl

/-- A subtree has no errors but its own and those of its children. -/
def Counted (t : Subtree) : Prop :=
  t.errorCount ≤ errorCounts t.children + (if t.symbol = errorSymbol then 1 else 0)

theorem counted_of_errorCount {t : Subtree} (h : t.errorCount = 0) : t.Counted := by
  rw [Counted, h]
  exact Nat.zero_le _

theorem counted_missing (symbol : SymbolId) (token : Token) : (missing symbol token).Counted :=
  Nat.le_refl 1

theorem counted_error (children : List Subtree) (start lookaheadEnd : Nat) (extra : Bool) :
    (error children start lookaheadEnd extra).Counted := Nat.le_refl _

/-- With extras around it a subtree has the errors of all of them. -/
theorem Counted.errorCounts_le {t : Subtree} (h : t.Counted) (leading trailing : List Subtree)
    (start lookaheadEnd : Nat) : errorCounts (leading ++ t :: trailing) ≤
      (t.withExtras leading trailing start lookaheadEnd).errorCount := by
  unfold withExtras
  split
  · next hnone =>
    simp only [Bool.and_eq_true, List.isEmpty_iff] at hnone
    obtain ⟨rfl, rfl⟩ := hnone
    exact Nat.le_refl _
  · unfold Counted at h
    show _ ≤ errorCounts (leading ++ t.children ++ trailing) + _
    rw [errorCounts_append, errorCounts_append, errorCounts_append, errorCounts]
    omega

end Subtree

open Subtree

namespace Stack

variable {s s' : Stack}

/-- The number of errors on a stack. -/
def errors (s : Stack) : Nat := errorCounts s.subtrees

/-- What lies on the stack has no errors but its own and those of its children. -/
def Counted (s : Stack) : Prop := ∀ e ∈ s, e.subtree.Counted

theorem subtrees_append (a b : Stack) : subtrees (a ++ b) = subtrees b ++ subtrees a := by
  rw [subtrees, List.map_append, List.reverse_append]
  rfl

theorem errors_append (a b : Stack) : errors (a ++ b) = errors b + errors a := by
  rw [errors, subtrees_append, errorCounts_append]
  rfl

theorem errors_push (s : Stack) (q : StateId) (t : Subtree) :
    errors (push s q t) = errors s + t.errorCount := by
  rw [errors, push, subtrees_cons, errorCounts_append]
  rfl

theorem Counted.push (h : s.Counted) (q : StateId) {t : Subtree} (ht : t.Counted) :
    (s.push q t).Counted := List.forall_mem_cons.2 ⟨ht, h⟩

theorem subtrees_withExtras (q : StateId) (s : Stack) (extras : List Subtree) :
    subtrees (withExtras q s extras) = subtrees s ++ extras := by
  rw [subtrees, map_subtree_withExtras, List.reverse_append, List.reverse_reverse]
  rfl

section Reduce

variable {table : ParseTable} {id : ProductionId} {lookaheadEnd : Nat} {fragile : Bool}
  {next : StateId} (h : Stack.reduce table s id lookaheadEnd fragile = some (s', next))
include h

/-- A reduction to a symbol that is not that of errors makes no errors and loses none. -/
theorem errors_of_reduce : ∃ p, table.production? id = some p ∧
    errors s' = errors s + (if p.lhs = errorSymbol then 1 else 0) := by
  obtain ⟨p, hp, extras, top, below, rfl, -, -, -, rfl⟩ := exists_of_reduce h
  refine ⟨p, hp, ?_⟩
  have node : (nodeOver p id lookaheadEnd fragile top below).errorCount =
      errors top + (if p.lhs = errorSymbol then 1 else 0) := rfl
  rw [errors, subtrees_withExtras, errorCounts_append, ← errors, errors_push, node, errors_append,
    errors_append, show errorCounts (extras.map Entry.subtree).reverse = errors extras from rfl]
  omega

theorem Counted.reduce (hs : s.Counted) : s'.Counted :=
  forall_of_reduce h hs fun _ _ _ _ _ _ _ _ => Nat.le_refl _

end Reduce

/-- A root has all the errors that are on the stack. -/
theorem Counted.errors_le (h : s.Counted) (lookaheadEnd : Nat) :
    s.errors ≤ (Engine.rootOf s.subtrees lookaheadEnd).errorCount := by
  unfold Engine.rootOf
  split
  · next leading main trailing hsplit =>
    obtain ⟨whole, -⟩ := of_splitMain hsplit
    have hmain : main ∈ s.subtrees := whole ▸ List.mem_append_right _ List.mem_cons_self
    obtain ⟨e, he, rfl⟩ := List.mem_map.1 (List.mem_reverse.1 hmain)
    rw [errors, whole]
    exact (h e he).errorCounts_le ..
  · rw [errorCount_error]
    exact Nat.le_succ _

end Stack

/-- There is an error on the stack of the head, or one is to come over the tokens put aside. -/
structure Head.Faulty (pending : List Subtree) (h : Head) : Prop where
  counted : h.stack.Counted
  errors : pending = [] → 0 < h.stack.errors

namespace Engine

open Parsing

variable {e : Engine} {token : Token} {c c' : Configuration}

/-- Nothing that is put on a stack has errors but its own and those of its children. -/
theorem counted (hfresh : e.reuse = none) :
    e.Invariant (fun _ _ => True) (fun _ _ h => h.stack.Counted) fun _ => True where
  token _ _ := trivial
  unpadded _ := trivial
  keeps _ token := {
    path := fun _ _ h => h
    reduce := by
      rintro fragile id h next hh - ⟨p, stack, state, -, hreduce, rfl⟩
      exact hh.reduce hreduce }
  shift _ _ _ _ h _ := h.push _ (counted_of_errorCount rfl)
  reuse hr := absurd (hfresh.symm.trans hr) nofun
  nonterminal {_ token head symbol next} _ h _ := h.push next (counted_missing symbol token)
  terminal {_ token} fragile {head symbol next} _ h _ :=
    h.push next (counted_missing symbol (standIn token symbol))
  resume lookaheadEnd _ h := h.push _ (counted_error ..)
  pop {_ pending given head below terminal} lookaheadEnd h hpop := by
    obtain ⟨top, hstack, -⟩ := Stack.exists_of_popUntil hpop
    have hbelow : below.Counted := fun x hx => h x (hstack ▸ List.mem_append_right _ hx)
    exact hbelow.push _ (counted_error ..)
  skip _ h := h
  accept _ _ := trivial
  wrap _ _ := trivial

/-- An error on top makes a head faulty. -/
theorem faulty_of_push {s : Stack} {q : StateId} {t : Subtree} {head : Head}
    (hcounted : head.stack.Counted) (hhead : head.stack = s.push q t) (ht : 0 < t.errorCount) :
    head.Faulty [] where
  counted := hcounted
  errors _ := by
    rw [hhead, Stack.errors_push]
    exact Nat.lt_of_lt_of_le ht (Nat.le_add_left _ _)

/-- A symbol that is made up is an error. -/
theorem faulty_of_missing {s : Stack} {head : Head} (hs : s.Counted) {symbol : SymbolId}
    {token : Token} {next : StateId} (hhead : head.stack = s.push next (.missing symbol token)) :
    head.Faulty [] :=
  faulty_of_push (hhead ▸ hs.push _ (counted_missing ..)) hhead Nat.one_pos

/-- Whatever is done about a token that no head takes leads to an error. -/
theorem mending_faulty (hfresh : e.reuse = none) :
    e.Mending (fun _ _ => True) (fun _ _ h => h.stack.Counted) (fun _ => Head.Faulty)
      fun root => 0 < root.errorCount where
  unpadded _ := trivial
  keeps position token := ((counted hfresh).keeps position token).keepsIn true
  path _ _ h := ⟨h.counted, h.errors⟩
  nonterminal _ h _ := faulty_of_missing h rfl
  terminal _ _ _ _ _ h _ := faulty_of_missing h rfl
  pop {position pending} _ _ _ _ lookaheadEnd h hpop :=
    faulty_of_push (@(counted hfresh).pop position pending _ _ _ _ lookaheadEnd h hpop) rfl
      (Nat.succ_pos _)
  skip _ h := ⟨h, fun hnone => by simp at hnone⟩
  wrap _ _ := Nat.succ_pos _

/-- Heads with errors stay such, and so do heads over which an error is to come. -/
theorem faulty (hfresh : e.reuse = none) :
    e.Invariant (fun _ _ => True) (fun _ => Head.Faulty) fun root => 0 < root.errorCount where
  token _ _ := trivial
  unpadded _ := trivial
  keeps position token := {
    path := fun _ _ h => ⟨h.counted, h.errors⟩
    reduce := by
      rintro fragile id h next hh - ⟨p, stack, state, -, hreduce, rfl⟩
      refine ⟨hh.counted.reduce hreduce, fun hnone => ?_⟩
      obtain ⟨_, -, herrors⟩ := Stack.errors_of_reduce hreduce
      exact Nat.lt_of_lt_of_le (hh.errors hnone) (herrors ▸ Nat.le_add_right _ _) }
  shift _ _ _ _ h _ :=
    ⟨h.counted.push _ (counted_of_errorCount rfl), fun hnone =>
      Nat.lt_of_lt_of_le (h.errors hnone) (Stack.errors_push .. ▸ Nat.le_add_right _ _)⟩
  reuse hr := absurd (hfresh.symm.trans hr) nofun
  nonterminal _ h _ := faulty_of_missing h.counted rfl
  terminal _ _ _ _ _ h _ := faulty_of_missing h.counted rfl
  resume _ _ h := faulty_of_push (h.counted.push _ (counted_error ..)) rfl (Nat.succ_pos _)
  pop {position pending} _ _ _ _ lookaheadEnd h hpop :=
    @(mending_faulty hfresh).pop position pending _ _ _ _ lookaheadEnd h.counted hpop
  skip _ h := ⟨h.counted, fun hnone => by simp at hnone⟩
  accept h _ := Nat.lt_of_lt_of_le (h.errors rfl) (h.counted.errors_le _)
  wrap _ _ := Nat.succ_pos _

/-- A token is taken or accepted at the first attempt, or it leads to an error. -/
theorem exists_attempt_of_consume (hfresh : e.reuse = none)
    (hc : Fair (fun _ _ h => h.stack.Counted) c) {repairs : Nat} {result : Option Subtree}
    (hr : Returns (e.consume (repairs + 1) token) c result c') :
    ∃ again progress d, Returns (e.attempt token again) c progress d ∧ match progress with
      | .finished root => result = some root ∧ c' = d
      | .taken => result = none ∧ c' = d
      | .stuck _ =>
        Mending.Passed (fun _ => Head.Faulty) (fun root => 0 < root.errorCount) c' result := by
  have attempted {again : Bool} {head : Head} {d : Configuration}
      (h : Returns (e.attempt token again) c (.stuck head) d) : head.stack.Counted :=
    ((counted hfresh).attempt trivial hc h).1
  -- After a token that no head takes there is an error, however the token is dealt with.
  cases returns_consume hr with
  | finished hattempt => exact ⟨_, _, c', hattempt, rfl, rfl⟩
  | taken hattempt => exact ⟨_, _, c', hattempt, rfl, rfl⟩
  | @beyond _ _ _ d _ _ _ _ _ _ hattempt hspend hrepair hgiven =>
    refine ⟨_, _, d, hattempt, ?_⟩
    obtain ⟨fuel, rfl⟩ := hspend.spend
    have mended := (mending_faulty hfresh).repair (c := { d with fuel }) trivial
      (attempted hattempt) hrepair
    exact (mending_faulty hfresh).giveUp mended hgiven
  | @repaired _ _ _ _ d _ _ _ _ _ _ hattempt hspend hrepair hr' _ =>
    refine ⟨_, _, d, hattempt, ?_⟩
    obtain ⟨fuel, rfl⟩ := hspend.spend
    have mended := (mending_faulty hfresh).repair (c := { d with fuel }) trivial
      (attempted hattempt) hrepair
    exact (faulty hfresh).consume trivial mended.1 hr'

end Engine

end IncrementalGlr
