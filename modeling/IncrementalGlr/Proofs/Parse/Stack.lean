import IncrementalGlr.Parse.Engine
import IncrementalGlr.Proofs.Parse.Subtree

/-!
What lies on a stack. The leaves on a stack, from the bottom to the top, are a row (`Stack.leaves`)
that reducing leaves as it is (`Sound.reduce`). Extras stand in the state that they came in, and what
is no extra is a node, a placeholder, or a token after which no text can be complete
(`Stack.Sound`).
-/
namespace IncrementalGlr.Stack

open Subtree

/-- The leaves on a stack, from the bottom to the top. -/
def leaves : Stack → List Leaf
  | [] => []
  | e :: below => leaves below ++ e.subtree.leaves

/-- What holds of an entry and the stack below it. -/
structure EntrySound (table : ParseTable) (below : Stack) (e : Entry) : Prop where
  sized : e.subtree.Sized
  extra : e.subtree.extra = true → e.state = state below
  main : e.subtree.extra = false → e.subtree.Closed ∨ e.subtree.Placeholder ∨
    .accept ∉ table.actions e.state endSymbol

/-- What holds of every entry of a stack. -/
def Sound (table : ParseTable) : Stack → Prop
  | [] => True
  | e :: below => EntrySound table below e ∧ Sound table below

variable {table : ParseTable}

theorem leaves_eq (s : Stack) : leaves s = leavesOf (subtrees s) := by
  induction s with
  | nil => rfl
  | cons e below ih =>
    rw [leaves, ih, subtrees, subtrees, List.map_cons, List.reverse_cons, leavesOf_append]
    simp [leavesOf]

theorem Sound.sized {s : Stack} (h : Sound table s) : ∀ t ∈ subtrees s, t.Sized := by
  induction s with
  | nil => intro t ht; simp [subtrees] at ht
  | cons e below ih =>
    intro t ht
    rw [subtrees, List.map_cons, List.reverse_cons] at ht
    rcases List.mem_append.1 ht with ht | ht
    · exact ih h.2 t ht
    · rw [List.mem_singleton.1 ht]
      exact h.1.sized

theorem Sound.push {s : Stack} (h : Sound table s) {q : StateId} {t : Subtree} (hs : t.Sized)
    (he : t.extra = true → q = state s)
    (hm : t.extra = false → t.Closed ∨ t.Placeholder ∨
      .accept ∉ table.actions q endSymbol) : Sound table (push s q t) :=
  ⟨⟨hs, he, hm⟩, h⟩

theorem leaves_push (s : Stack) (q : StateId) (t : Subtree) :
    leaves (push s q t) = leaves s ++ t.leaves :=
  rfl

/-! ## Reducing -/

/-- Extras are taken off the top in the order of the text. -/
theorem Sound.popExtras {s : Stack} (h : Sound table s) {extras extras' : List Subtree}
    {s' : Stack} (hp : popExtras s extras = (extras', s')) :
    Sound table s' ∧ leaves s' ++ leavesOf extras' = leaves s ++ leavesOf extras ∧
      ((∀ t ∈ extras, t.Sized ∧ t.extra = true) → ∀ t ∈ extras', t.Sized ∧ t.extra = true) := by
  induction s generalizing extras with
  | nil =>
    cases hp
    exact ⟨h, rfl, id⟩
  | cons e below ih =>
    rw [Stack.popExtras] at hp
    split at hp
    · next hextra =>
      obtain ⟨hsound, hleaves, hall⟩ := ih h.2 hp
      refine ⟨hsound, ?_, fun hx => hall fun t ht => ?_⟩
      · rw [hleaves, leavesOf, leaves, List.append_assoc]
      · rcases List.mem_cons.1 ht with rfl | ht
        · exact ⟨h.1.sized, hextra⟩
        · exact hx t ht
    · cases hp
      exact ⟨h, rfl, id⟩

theorem Sound.popChildren {s : Stack} (h : Sound table s) {count : Nat}
    {children children' : List Subtree} {s' : Stack}
    (hp : popChildren s count children = some (children', s')) :
    Sound table s' ∧ leaves s' ++ leavesOf children' = leaves s ++ leavesOf children ∧
      ((∀ t ∈ children, t.Sized) → ∀ t ∈ children', t.Sized) := by
  induction s generalizing count children with
  | nil =>
    cases count with
    | zero =>
      obtain ⟨rfl, rfl⟩ := Prod.mk.inj (Option.some.inj hp)
      exact ⟨h, rfl, id⟩
    | succ count => cases hp
  | cons e below ih =>
    cases count with
    | zero =>
      obtain ⟨rfl, rfl⟩ := Prod.mk.inj (Option.some.inj hp)
      exact ⟨h, rfl, id⟩
    | succ count =>
      obtain ⟨hsound, hleaves, hall⟩ := ih h.2 hp
      refine ⟨hsound, ?_, fun hx => hall fun t ht => ?_⟩
      · rw [hleaves, leavesOf, leaves, List.append_assoc]
      · rcases List.mem_cons.1 ht with rfl | ht
        · exact h.1.sized
        · exact hx t ht

/-- Extras that are put on a stack stand in the state below them. -/
theorem Sound.pushAll {q : StateId} {extras : List Subtree}
    (hx : ∀ t ∈ extras, t.Sized ∧ t.extra = true) {s : Stack} (h : Sound table s)
    (hq : state s = q) :
    Sound table (extras.foldl (fun s extra => Stack.push s q extra) s) ∧
      leaves (extras.foldl (fun s extra => Stack.push s q extra) s) = leaves s ++ leavesOf extras ∧
      state (extras.foldl (fun s extra => Stack.push s q extra) s) = q := by
  induction extras generalizing s with
  | nil => exact ⟨h, (List.append_nil _).symm, hq⟩
  | cons t rest ih =>
    obtain ⟨hsized, hextra⟩ := hx t List.mem_cons_self
    have pushed : Sound table (Stack.push s q t) :=
      h.push hsized (fun _ => hq.symm) fun hno => by rw [hextra] at hno; cases hno
    obtain ⟨hsound, hleaves, hstate⟩ :=
      ih (fun t ht => hx t (List.mem_cons_of_mem _ ht)) pushed rfl
    refine ⟨hsound, ?_, hstate⟩
    rw [List.foldl_cons, hleaves, leaves_push, leavesOf, List.append_assoc]

/-- Reducing keeps the row of leaves, and leads to the state that it says. -/
theorem Sound.reduce {s s' : Stack} (h : Sound table s) {id : ProductionId} {lookaheadEnd : Nat}
    {fragile : Bool} {next : StateId}
    (hr : Stack.reduce table s id lookaheadEnd fragile = some (s', next)) :
    Sound table s' ∧ leaves s' = leaves s ∧ state s' = next := by
  simp only [Stack.reduce, Option.bind_eq_bind, Option.bind_eq_some_iff, Option.pure_def,
    Option.some.injEq, Prod.mk.injEq] at hr
  obtain ⟨p, -, ⟨children, below⟩, hchildren, next', -, rfl, rfl⟩ := hr
  generalize hextras : Stack.popExtras s [] = popped at hchildren
  obtain ⟨trailing, rest⟩ := popped
  obtain ⟨hrest, hleaves, htrailing⟩ := h.popExtras hextras
  obtain ⟨hbelow, hleaves', hall⟩ := hrest.popChildren hchildren
  have sized := hall (fun t ht => absurd ht List.not_mem_nil)
  have pushed : Sound table (Stack.push below next'
      (node p.lhs (some id) children (stop below) lookaheadEnd p.dynamicPrecedence fragile
        (some (state below)))) :=
    hbelow.push (sized_node _ _ _ _ _ _ _ _ sized) (fun hx => by cases hx)
      fun _ => .inl (closed_node ..)
  obtain ⟨hsound, hall, hstate⟩ :=
    pushed.pushAll (q := next') (htrailing fun t ht => absurd ht List.not_mem_nil) rfl
  refine ⟨hsound, hall.trans ?_, hstate⟩
  rw [leaves_push, leaves_node]
  simp only [leavesOf, List.append_nil] at hleaves hleaves'
  rw [hleaves', hleaves]

/-! ## The main subtree -/

theorem subtrees_cons (e : Entry) (below : Stack) :
    subtrees (e :: below) = subtrees below ++ [e.subtree] := by
  rw [subtrees, List.map_cons, List.reverse_cons]
  rfl

/-- Below extras the last subtree that is none stands in the state of the stack. -/
theorem Sound.main {s : Stack} (h : Sound table s) {leading trailing : List Subtree}
    {t : Subtree} (hs : subtrees s = leading ++ t :: trailing) (ht : t.extra = false)
    (hx : ∀ x ∈ trailing, x.extra = true) :
    t.Closed ∨ t.Placeholder ∨ .accept ∉ table.actions (state s) endSymbol := by
  induction s generalizing trailing with
  | nil => simp [subtrees] at hs
  | cons e below ih =>
    rw [subtrees_cons] at hs
    rcases List.eq_nil_or_concat trailing with rfl | ⟨trailing, x, rfl⟩
    · obtain ⟨-, htop⟩ := List.append_inj' hs rfl
      obtain rfl : e.subtree = t := (List.cons.inj htop).1
      exact h.1.main ht
    · have split : subtrees below ++ [e.subtree] = (leading ++ t :: trailing) ++ [x] := by
        simpa using hs
      obtain ⟨hbelow, htop⟩ := List.append_inj' split rfl
      obtain rfl : e.subtree = x := (List.cons.inj htop).1
      have same : e.state = state below := h.1.extra (hx _ (by simp))
      have := ih h.2 hbelow fun y hy => hx y (by simp [hy])
      rwa [← same] at this

/-- The subtrees are split around one that is no extra, and there are only extras around it. -/
theorem of_splitMain {ts leading trailing : List Subtree} {main : Subtree}
    (h : Engine.splitMain ts = some (leading, main, trailing)) :
    ts = leading ++ main :: trailing ∧ main.extra = false ∧
      (∀ t ∈ leading, t.extra = true) ∧ ∀ t ∈ trailing, t.extra = true := by
  unfold Engine.splitMain at h
  split at h
  · next main' trailing' hdrop =>
    split at h
    · next hextras =>
      simp only [Option.some.injEq, Prod.mk.injEq] at h
      obtain ⟨rfl, rfl, rfl⟩ := h
      refine ⟨by rw [← hdrop, List.takeWhile_append_dropWhile], ?_,
        List.all_eq_true.1 List.all_takeWhile, List.all_eq_true.1 hextras⟩
      have := List.head?_dropWhile_not Subtree.extra ts
      rw [hdrop] at this
      simpa using this
    · cases h
  · cases h

end IncrementalGlr.Stack
