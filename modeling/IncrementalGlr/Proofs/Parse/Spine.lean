import IncrementalGlr.Parse.Stack
import IncrementalGlr.Parse.Engine

/-!
What counts on a stack. Extras stand between the symbols of productions without belonging to them,
so a table goes by the states and symbols of the other entries alone (`Stack.states`,
`Stack.symbols`). A reduction takes as many of them off as its production is long and puts one on
(`Stack.exists_of_reduce`), and it is possible wherever there are so many and the table leads on
(`Stack.exists_reduce`).
-/
namespace IncrementalGlr

namespace Subtree

/-- The symbol that a subtree counts as: the one that it stands for, or else its own. -/
def role (t : Subtree) : SymbolId := t.info.missing.getD t.symbol

/-- What the subtrees count as; extras do not count. -/
def roles (ts : List Subtree) : List SymbolId := (ts.filter fun t => !t.extra).map role

@[simp] theorem roles_append (a b : List Subtree) : roles (a ++ b) = roles a ++ roles b := by
  rw [roles, List.filter_append, List.map_append]
  rfl

@[simp] theorem roles_reverse (ts : List Subtree) : roles ts.reverse = (roles ts).reverse := by
  rw [roles, List.filter_reverse, List.map_reverse]
  rfl

theorem roles_of_extras {ts : List Subtree} (h : ∀ t ∈ ts, t.extra = true) : roles ts = [] := by
  rw [roles, List.filter_eq_nil_iff.2 fun t ht => by simp [h t ht], List.map_nil]

end Subtree

namespace Stack

open Subtree

/-- The entries that are no extras. -/
def mains (s : Stack) : Stack := s.filter fun e => !e.subtree.extra

/-- The states of a stack down to the first one, those of extras left out. -/
def states (s : Stack) : List StateId := s.mains.map Entry.state ++ [0]

/-- The symbols on a stack, the topmost first, extras left out. -/
def symbols (s : Stack) : List SymbolId := s.mains.map fun e => e.subtree.role

/-- Extras do not change the state. -/
def Steady : Stack → Prop
  | [] => True
  | e :: below => (e.subtree.extra = true → e.state = state below) ∧ Steady below

/-- Extras lie on top of a stack. -/
def withExtras (q : StateId) (s : Stack) (extras : List Subtree) : Stack :=
  extras.foldl (fun s extra => push s q extra) s

variable {s s' : Stack} {q : StateId} {t : Subtree}

theorem mains_append (a b : Stack) : mains (a ++ b) = mains a ++ mains b := List.filter_append ..

theorem states_append (a b : Stack) : states (a ++ b) = (mains a).map Entry.state ++ states b := by
  rw [states, mains_append, List.map_append, List.append_assoc]
  rfl

theorem symbols_append (a b : Stack) : symbols (a ++ b) = symbols a ++ symbols b := by
  rw [symbols, mains_append, List.map_append]
  rfl

theorem symbols_eq_roles (s : Stack) : symbols s = roles (s.map Entry.subtree) := by
  rw [symbols, roles, List.filter_map, List.map_map]
  rfl

theorem length_symbols (s : Stack) : (symbols s).length = (mains s).length := List.length_map ..

theorem mains_of_extras {a : Stack} (h : ∀ e ∈ a, e.subtree.extra = true) : mains a = [] :=
  List.filter_eq_nil_iff.2 fun e he => by simp [h e he]

@[simp] theorem states_nil : states [] = [0] := rfl

@[simp] theorem symbols_nil : symbols [] = [] := rfl

theorem states_push_extra (h : t.extra = true) : states (push s q t) = states s := by
  simp [push, states, mains, h]

theorem symbols_push_extra (h : t.extra = true) : symbols (push s q t) = symbols s := by
  simp [push, symbols, mains, h]

theorem states_push (h : t.extra = false) : states (push s q t) = q :: states s := by
  simp [push, states, mains, h]

theorem symbols_push (h : t.extra = false) : symbols (push s q t) = t.role :: symbols s := by
  simp [push, symbols, mains, h]

theorem Steady.push (h : s.Steady) (ht : t.extra = true → q = state s) : (push s q t).Steady :=
  ⟨ht, h⟩

/-- The state of a stack is the first of its states. -/
theorem Steady.states_eq (h : s.Steady) : ∃ below, states s = state s :: below := by
  induction s with
  | nil => exact ⟨[], rfl⟩
  | cons e below ih =>
    cases hextra : e.subtree.extra with
    | true =>
      obtain ⟨rest, hrest⟩ := ih h.2
      refine ⟨rest, ?_⟩
      rw [states, mains, List.filter_cons_of_neg (by simp [hextra])]
      exact hrest.trans (by rw [state, h.1 hextra])
    | false =>
      refine ⟨states below, ?_⟩
      rw [states, mains, List.filter_cons_of_pos (by simp [hextra])]
      rfl

theorem Steady.of_append {a : Stack} (h : (a ++ s).Steady) : s.Steady := by
  induction a with
  | nil => exact h
  | cons e a ih => exact ih h.2

/-! ## Taking entries off -/

/-- The extras on top are taken off, in the order of the text. -/
theorem exists_of_popExtras {extras extras' : List Subtree}
    (h : popExtras s extras = (extras', s')) :
    ∃ top : Stack, s = top ++ s' ∧ (∀ e ∈ top, e.subtree.extra = true) ∧
      extras' = (top.map Entry.subtree).reverse ++ extras := by
  induction s generalizing extras with
  | nil =>
    cases h
    exact ⟨[], rfl, fun _ h => absurd h List.not_mem_nil, rfl⟩
  | cons e below ih =>
    rw [popExtras] at h
    split at h
    · next hextra =>
      obtain ⟨top, rfl, hall, rfl⟩ := ih h
      exact ⟨e :: top, rfl, List.forall_mem_cons.2 ⟨hextra, hall⟩, by simp⟩
    · cases h
      exact ⟨[], rfl, fun _ h => absurd h List.not_mem_nil, rfl⟩

/-- As many entries that are no extras are taken off as asked for, with the extras between them. -/
theorem exists_of_popChildren {count : Nat} {children children' : List Subtree}
    (h : popChildren s count children = some (children', s')) :
    ∃ top : Stack, s = top ++ s' ∧ (mains top).length = count ∧
      children' = (top.map Entry.subtree).reverse ++ children := by
  induction s generalizing count children with
  | nil =>
    cases count with
    | zero =>
      cases h
      exact ⟨[], rfl, rfl, rfl⟩
    | succ count => cases h
  | cons e below ih =>
    cases count with
    | zero =>
      cases h
      exact ⟨[], rfl, rfl, rfl⟩
    | succ count =>
      obtain ⟨top, rfl, hcount, rfl⟩ := ih h
      refine ⟨e :: top, rfl, ?_, by simp⟩
      cases hextra : e.subtree.extra <;> simpa [mains, hextra] using hcount

theorem exists_popChildren {count : Nat} (h : count ≤ (mains s).length)
    (children : List Subtree) : ∃ r, popChildren s count children = some r := by
  induction s generalizing count children with
  | nil =>
    obtain rfl : count = 0 := Nat.le_zero.1 h
    exact ⟨_, rfl⟩
  | cons e below ih =>
    cases count with
    | zero => exact ⟨_, rfl⟩
    | succ count =>
      refine ih ?_ _
      cases hextra : e.subtree.extra <;> simpa [mains, hextra] using h

/-! ## Extras on top -/

theorem mains_withExtras {extras : List Subtree} (h : ∀ x ∈ extras, x.extra = true) (s : Stack) :
    mains (withExtras q s extras) = mains s := by
  induction extras generalizing s with
  | nil => rfl
  | cons x rest ih =>
    obtain ⟨hx, hrest⟩ := List.forall_mem_cons.1 h
    refine (ih hrest _).trans ?_
    simp [push, mains, hx]

theorem Steady.withExtras (extras : List Subtree) (hs : s.Steady) (hq : state s = q) :
    (withExtras q s extras).Steady ∧ state (withExtras q s extras) = q := by
  induction extras generalizing s with
  | nil => exact ⟨hs, hq⟩
  | cons x rest ih => exact ih (hs.push fun _ => hq.symm) rfl

theorem map_subtree_withExtras (extras : List Subtree) (s : Stack) :
    (withExtras q s extras).map Entry.subtree = extras.reverse ++ s.map Entry.subtree := by
  induction extras generalizing s with
  | nil => rfl
  | cons x rest ih =>
    refine (ih _).trans ?_
    simp [push]

/-! ## Reducing -/

section Reduce

variable {table : ParseTable} {id : ProductionId} {lookaheadEnd : Nat} {fragile : Bool}
  {next : StateId}

/-- The node that a reduction puts in the place of the entries on top of `below`. -/
def nodeOver (p : Production) (id : ProductionId) (lookaheadEnd : Nat) (fragile : Bool)
    (top below : Stack) : Subtree :=
  .node p.lhs (some id) (top.map Entry.subtree).reverse (stop below) lookaheadEnd
    p.dynamicPrecedence fragile (some (state below))

/-- What a reduction does: under the extras on top, entries give way to a node over them. -/
theorem exists_of_reduce
    (h : Stack.reduce table s id lookaheadEnd fragile = some (s', next)) :
    ∃ p, table.production? id = some p ∧ ∃ extras top below : Stack,
      s = extras ++ (top ++ below) ∧ (∀ e ∈ extras, e.subtree.extra = true) ∧
      (mains top).length = p.length ∧ table.goto (state below) p.lhs = some next ∧
      s' = withExtras next (push below next (nodeOver p id lookaheadEnd fragile top below))
        (extras.map Entry.subtree).reverse := by
  simp only [Stack.reduce, Option.bind_eq_bind, Option.bind_eq_some_iff, Option.pure_def,
    Option.some.injEq, Prod.mk.injEq] at h
  obtain ⟨p, hp, ⟨children, below⟩, hchildren, next', hgoto, rfl, rfl⟩ := h
  generalize hextras : popExtras s [] = popped at hchildren
  obtain ⟨trailing, rest⟩ := popped
  obtain ⟨extras, rfl, hall, rfl⟩ := exists_of_popExtras hextras
  obtain ⟨top, rfl, hcount, rfl⟩ := exists_of_popChildren hchildren
  refine ⟨p, hp, extras, top, below, rfl, hall, hcount, hgoto, ?_⟩
  simp only [List.append_nil]
  rfl

/-- After a reduction there are only the subtrees from before and the new node on the stack. -/
theorem forall_of_reduce {P : Subtree → Prop}
    (h : Stack.reduce table s id lookaheadEnd fragile = some (s', next))
    (hs : ∀ e ∈ s, P e.subtree)
    (hnode : ∀ (p : Production) (extras top below : Stack), table.production? id = some p →
      s = extras ++ (top ++ below) → (∀ e ∈ extras, e.subtree.extra = true) →
      (mains top).length = p.length → P (nodeOver p id lookaheadEnd fragile top below)) :
    ∀ e ∈ s', P e.subtree := by
  obtain ⟨p, hp, extras, top, below, hstack, hextras, hcount, -, rfl⟩ := exists_of_reduce h
  have made := hnode p extras top below hp hstack hextras hcount
  intro e he
  have found := List.mem_map_of_mem (f := Entry.subtree) he
  rw [map_subtree_withExtras, List.reverse_reverse] at found
  have old {part : Stack} (hpart : ∀ x ∈ part, x ∈ s) :
      e.subtree ∈ part.map Entry.subtree → P e.subtree := by
    intro hmem
    obtain ⟨x, hx, hsame⟩ := List.mem_map.1 hmem
    exact hsame ▸ hs x (hpart x hx)
  subst hstack
  rcases List.mem_append.1 found with found | found
  · exact old (fun x hx => List.mem_append_left _ hx) found
  · rcases List.mem_cons.1 found with hsame | found
    · exact hsame ▸ made
    · exact old (fun x hx => List.mem_append_right _ (List.mem_append_right _ hx)) found

theorem role_nodeOver (p : Production) (id : ProductionId) (lookaheadEnd : Nat) (fragile : Bool)
    (top below : Stack) : (nodeOver p id lookaheadEnd fragile top below).role = p.lhs :=
  rfl

/-- A reduction takes as many states and symbols off as its production is long. -/
theorem Steady.reduce (hs : s.Steady)
    (h : Stack.reduce table s id lookaheadEnd fragile = some (s', next)) :
    ∃ p q rest, table.production? id = some p ∧ p.length ≤ (symbols s).length ∧
      (states s).drop p.length = q :: rest ∧ table.goto q p.lhs = some next ∧
      states s' = next :: q :: rest ∧
      symbols s' = p.lhs :: (symbols s).drop p.length ∧ s'.Steady ∧ state s' = next := by
  obtain ⟨p, hp, extras, top, below, rfl, hextras, hcount, hgoto, rfl⟩ := exists_of_reduce h
  have hbelow : below.Steady := hs.of_append.of_append
  obtain ⟨rest, hrest⟩ := hbelow.states_eq
  have hx : ∀ x ∈ (extras.map Entry.subtree).reverse, x.extra = true := by
    intro x hx
    obtain ⟨e, he, rfl⟩ := List.mem_map.1 (List.mem_reverse.1 hx)
    exact hextras e he
  have hmains := mains_withExtras (q := next) hx
    (Stack.push below next (nodeOver p id lookaheadEnd fragile top below))
  obtain ⟨hsteady, hstate⟩ := Steady.withExtras (extras.map Entry.subtree).reverse
    (hbelow.push (q := next) (t := nodeOver p id lookaheadEnd fragile top below)
      fun h => by cases h) rfl
  have hsymbols : symbols (extras ++ (top ++ below)) = symbols top ++ symbols below := by
    rw [symbols_append, symbols_append, symbols, mains_of_extras hextras]
    rfl
  refine ⟨p, state below, rest, hp, ?_, ?_, hgoto, ?_, ?_, hsteady, hstate⟩
  · rw [hsymbols, List.length_append, length_symbols top, hcount]
    exact Nat.le_add_right _ _
  · rw [states_append, mains_of_extras hextras, List.map_nil, List.nil_append, states_append,
      List.drop_left' (by rw [List.length_map, hcount]), hrest]
  · rw [states, hmains, ← states, states_push rfl, hrest]
  · rw [symbols, hmains, ← symbols, symbols_push rfl, role_nodeOver, hsymbols,
      List.drop_left' (by rw [length_symbols, hcount])]

/-- A reduction is possible where the stack is deep enough and the table leads on. -/
theorem Steady.exists_reduce (hs : s.Steady) {p : Production} {q : StateId} {rest : List StateId}
    (hp : table.production? id = some p) (hdrop : (states s).drop p.length = q :: rest)
    (hgoto : table.goto q p.lhs = some next) :
    ∃ s', Stack.reduce table s id lookaheadEnd fragile = some (s', next) := by
  generalize hextras : popExtras s [] = popped
  obtain ⟨trailing, rest'⟩ := popped
  obtain ⟨extras, rfl, hall, -⟩ := exists_of_popExtras hextras
  have hstates : states (extras ++ rest') = states rest' := by
    rw [states_append, mains_of_extras hall]
    rfl
  rw [hstates] at hdrop
  have hdeep : p.length ≤ (mains rest').length := by
    have := congrArg List.length hdrop
    simp only [List.length_drop, states, List.length_append, List.length_map, List.length_cons,
      List.length_nil] at this
    omega
  obtain ⟨⟨children, below⟩, hchildren⟩ := exists_popChildren hdeep []
  obtain ⟨top, rfl, hcount, -⟩ := exists_of_popChildren hchildren
  obtain ⟨rest'', hbelow⟩ := hs.of_append.of_append.states_eq
  rw [states_append, List.drop_left' (by rw [List.length_map, hcount]), hbelow] at hdrop
  obtain ⟨rfl, rfl⟩ := List.cons.inj hdrop
  exact ⟨_, by simp only [Stack.reduce, hp, hextras, hchildren, hgoto, Option.bind_eq_bind,
    Option.bind_some, Option.pure_def]; rfl⟩

end Reduce

end Stack

end IncrementalGlr
