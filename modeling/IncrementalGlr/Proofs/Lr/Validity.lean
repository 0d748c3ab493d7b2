import IncrementalGlr.Lr.Item
import IncrementalGlr.Proofs.Flat.Rightmost

/-!
Which items are valid, said of the grammar alone. A derivation from the right comes to a row of
symbols with a nonterminal that only terminals follow; an item of one of its productions is then
valid for what stands before the mark, together with the first terminal behind (`Valid`). The same
items arise step by step: one begins, marks move on, and a nonterminal after a mark brings in its
productions with whatever terminal can come after it (`Arises`). That both are the same
(`valid_iff_arises`) is what the proofs about a parser's states go by.
-/
namespace IncrementalGlr.FlatGrammar

variable {g : FlatGrammar}

/-- The item is valid for a row of symbols that have been read, before a terminal. The end of the
text stands behind all terminals. -/
inductive Valid (g : FlatGrammar) : List SymbolId → Item → SymbolId → Prop where
  /-- A whole text is to be read, or has been. -/
  | whole {n : Nat} (hn : n ≤ 1) : Valid g ([g.start].take n) ⟨g.augmented, n⟩ endSymbol
  | production {before w : List SymbolId} {i : ProductionId} {p : Production} {n : Nat} {t : SymbolId}
      (hp : g.productions[i]? = some p) (hn : n ≤ p.rhs.length)
      (hw : ∀ t ∈ w, t < g.terminalCount)
      (derived : g.DerivesLast [g.start] (before ++ p.lhs :: w))
      (ht : (w ++ [endSymbol]).head? = some t) :
      Valid g (before ++ p.rhs.take n) ⟨i, n⟩ t

/-- The item is come to by reading the symbols, and the terminal can come after its production. -/
inductive Arises (g : FlatGrammar) : List SymbolId → Item → SymbolId → Prop where
  | start : Arises g [] g.startItem endSymbol
  | advance {row : List SymbolId} {i : Item} {x t : SymbolId} (h : Arises g row i t)
      (hx : i.next g = some x) : Arises g (row ++ [x]) i.advance t
  | bring {row w : List SymbolId} {i : Item} {x t t' : SymbolId} {p : ProductionId}
      (h : Arises g row i t) (hx : i.next g = some x) (hp : p ∈ g.productionsOf x)
      (hw : g.Yields (i.rest g) w) (ht : (w ++ [t]).head? = some t') : Arises g row ⟨p, 0⟩ t'

/-! ## What arises is valid -/

theorem head?_append_of_head? {u v v' : List SymbolId} (h : v.head? = v'.head?) :
    (u ++ v).head? = (u ++ v').head? := by
  cases u with
  | nil => exact h
  | cons x u => rfl

/-- The symbols of a production around the one after the mark. -/
theorem take_next_rest {i : Item} {x : SymbolId} (h : i.next g = some x) :
    (g.rhs i.production).take i.dot ++ x :: i.rest g = g.rhs i.production := by
  obtain ⟨hlt, rfl⟩ := List.getElem?_eq_some_iff.1 h
  rw [Item.rest, ← List.drop_eq_getElem_cons hlt, List.take_append_drop]

theorem take_advance {i : Item} {x : SymbolId} (h : i.next g = some x) :
    (g.rhs i.production).take (i.dot + 1) = (g.rhs i.production).take i.dot ++ [x] := by
  rw [List.take_add_one, show (g.rhs i.production)[i.dot]? = some x from h, Option.toList_some]

/-- The item of the whole text can only be followed by the start symbol. -/
theorem eq_start_of_next {n : Nat} {x : SymbolId} (h : (⟨g.augmented, n⟩ : Item).next g = some x) :
    n = 0 ∧ x = g.start := by
  rw [Item.next, augmented, rhs_augmented] at h
  cases n with
  | zero => exact ⟨rfl, (Option.some.inj h).symm⟩
  | succ n => simp at h

theorem Valid.advance {row : List SymbolId} {i : Item} {x t : SymbolId} (h : g.Valid row i t)
    (hx : i.next g = some x) : g.Valid (row ++ [x]) i.advance t := by
  cases h with
  | whole hn =>
    obtain ⟨rfl, rfl⟩ := eq_start_of_next hx
    exact .whole (Nat.le_refl 1)
  | @production before w i p n _ hp hn hw derived ht =>
    have hrhs := rhs_of_getElem? hp
    have hx' : p.rhs[n]? = some x := by
      rw [← hrhs]
      exact hx
    have taken : p.rhs.take (n + 1) = p.rhs.take n ++ [x] := by
      rw [List.take_add_one, hx', Option.toList_some]
    rw [List.append_assoc, ← taken]
    exact .production hp (List.getElem?_eq_some_iff.1 hx').1 hw derived ht

/-- Behind the symbol after the mark of a valid item the derivation goes on to terminals. -/
theorem Valid.bring {row w : List SymbolId} {i : Item} {x t t' : SymbolId} {q : ProductionId}
    (h : g.Valid row i t) (hx : i.next g = some x) (hq : q ∈ g.productionsOf x)
    (hw : g.Yields (i.rest g) w) (ht : (w ++ [t]).head? = some t') : g.Valid row ⟨q, 0⟩ t' := by
  obtain ⟨q', hq', rfl⟩ := mem_productionsOf.1 hq
  have reached {before after : List SymbolId} {s : SymbolId}
      (derived : g.DerivesLast [g.start] (before ++ q'.lhs :: after))
      (hafter : ∀ t ∈ after, t < g.terminalCount)
      (hs : (after ++ [endSymbol]).head? = some s) : g.Valid before ⟨q, 0⟩ s := by
    have := Valid.production hq' (Nat.zero_le _) hafter derived hs
    rwa [List.take_zero, List.append_nil] at this
  cases h with
  | whole hn =>
    obtain ⟨rfl, hstart⟩ := eq_start_of_next hx
    have nothing : (⟨g.augmented, 0⟩ : Item).rest g = [] := by
      rw [Item.rest, augmented, rhs_augmented]
      rfl
    rw [nothing] at hw
    cases hw
    exact @reached [] [] _ (hstart ▸ .refl) nofun ht
  | @production before after i p n _ hp hn hafter derived ht' =>
    have hrhs := rhs_of_getElem? hp
    have split : p.rhs = p.rhs.take n ++ q'.lhs :: (⟨i, n⟩ : Item).rest g := by
      have := take_next_rest hx
      rw [hrhs] at this
      exact this.symm
    -- The production is written out, and then what stands behind the symbol derives `w`.
    have step : g.DerivesLast [g.start] (before ++ (p.rhs ++ after)) :=
      derived.tail ⟨p, mem_productions_iff.2 ⟨i, hp⟩, before, after, hafter, rfl, rfl⟩
    have row : before ++ (p.rhs ++ after) =
        (before ++ p.rhs.take n ++ [q'.lhs]) ++ ((⟨i, n⟩ : Item).rest g ++ after) := by
      rw [show p.rhs ++ after = _ from congrArg (· ++ after) split]
      simp
    have later : g.DerivesLast (before ++ (p.rhs ++ after))
        ((before ++ p.rhs.take n) ++ q'.lhs :: (w ++ after)) := by
      have := (hw.derivesLast.append_terminals hafter).append_left
        (before ++ p.rhs.take n ++ [q'.lhs])
      rw [row]
      simpa using this
    refine reached (step.trans later) (fun s hs => ?_) ?_
    · exact (List.mem_append.1 hs).elim (hw.lt_terminalCount s) (hafter s)
    · rw [List.append_assoc, ← ht]
      exact head?_append_of_head? ht'

theorem Arises.valid {row : List SymbolId} {i : Item} {t : SymbolId} (h : g.Arises row i t) :
    g.Valid row i t := by
  induction h with
  | start => exact .whole (Nat.zero_le 1)
  | advance _ hx ih => exact ih.advance hx
  | bring _ hx hp hw ht ih => exact ih.bring hx hp hw ht

/-! ## What is valid arises -/

/-- The mark of an item moves on over any number of symbols. -/
theorem Arises.take {row : List SymbolId} {i : ProductionId} {t : SymbolId}
    (h : g.Arises row ⟨i, 0⟩ t) {n : Nat} (hn : n ≤ (g.rhs i).length) :
    g.Arises (row ++ (g.rhs i).take n) ⟨i, n⟩ t := by
  induction n with
  | zero =>
    rw [List.take_zero, List.append_nil]
    exact h
  | succ n ih =>
    have hx : (⟨i, n⟩ : Item).next g = some (g.rhs i)[n] := List.getElem?_eq_getElem hn
    have := (ih (Nat.le_of_succ_le hn)).advance hx
    rw [List.append_assoc, ← take_advance hx] at this
    exact this

/-- Before a nonterminal that a derivation comes to, and that goes on with these terminals, an item
has arisen that expects the nonterminal and goes on with them. -/
def Awaited (g : FlatGrammar) (before : List SymbolId) (x : SymbolId) (after : List SymbolId) : Prop :=
  ∀ u t, g.Yields after u → (u ++ [endSymbol]).head? = some t →
    ∃ i s w, g.Arises before i s ∧ i.next g = some x ∧ g.Yields (i.rest g) w ∧
      (w ++ [s]).head? = some t

/-- The production of an awaited nonterminal arises, and awaits its own symbols. -/
theorem Awaited.rhs (hg : g.InRange) {before after inside behind : List SymbolId} {p : Production}
    {x : SymbolId} (h : g.Awaited before p.lhs after) (hp : p ∈ g.productions)
    (hafter : ∀ t ∈ after, t < g.terminalCount) (hrhs : p.rhs = inside ++ x :: behind) :
    g.Awaited (before ++ inside) x (behind ++ after) := by
  intro u t hu ht
  -- Behind `x` the rest of the production derives `v`; the terminals after it derive themselves.
  obtain ⟨v, v', rfl, hv, hv'⟩ := hu.of_append
  obtain rfl := hv'.eq_of_terminals hg hafter
  obtain ⟨n, hn⟩ := mem_productions_iff.1 hp
  cases hs : (v' ++ [endSymbol]).head? with
  | none => simp at hs
  | some s =>
    obtain ⟨i, s', w, hi, hnext, hw, hhead⟩ := h v' s (.terminals hafter) hs
    have brought : g.Arises before ⟨n, 0⟩ s :=
      hi.bring hnext (mem_productionsOf.2 ⟨p, hn, rfl⟩) hw hhead
    have hsymbols : g.rhs n = inside ++ x :: behind := (rhs_of_getElem? hn).trans hrhs
    have moved : g.Arises (before ++ inside) ⟨n, inside.length⟩ s := by
      have := brought.take (n := inside.length) (by simp [hsymbols])
      rwa [hsymbols, List.take_left'] at this
      rfl
    refine ⟨⟨n, inside.length⟩, s, v, moved, ?_, ?_, ?_⟩
    · simp [Item.next, hsymbols]
    · have : (⟨n, inside.length⟩ : Item).rest g = behind := by
        rw [Item.rest, hsymbols]
        simp
      rw [this]
      exact hv
    · rw [← ht, List.append_assoc]
      exact head?_append_of_head? hs.symm

/-- A nonterminal that stands before terminals only stands in the row before these. -/
theorem exists_behind_of_terminals {inside after rhs back : List SymbolId} {x : SymbolId}
    (hback : ∀ t ∈ back, t < g.terminalCount) (hx : g.terminalCount ≤ x)
    (h : rhs ++ back = inside ++ x :: after) :
    ∃ behind, rhs = inside ++ x :: behind ∧ after = behind ++ back := by
  have terminal : x ∉ back := fun hmem => absurd (hback x hmem) (Nat.not_lt.2 hx)
  rcases List.append_eq_append_iff.1 h with ⟨c, rfl, rfl⟩ | ⟨c, rfl, hc⟩
  · exact absurd (List.mem_append_right c List.mem_cons_self) terminal
  · cases c with
    | nil =>
      rw [List.nil_append] at hc
      exact absurd (hc ▸ List.mem_cons_self) terminal
    | cons y c =>
      obtain ⟨rfl, rfl⟩ := List.cons.inj hc
      exact ⟨c, rfl, rfl⟩

/-- Every nonterminal of a row that is derived from the right is awaited. The replacement of a
nonterminal further right leaves those before it awaited, for they go on with the same texts. -/
theorem DerivesLast.awaited (hg : g.InRange) {row : List SymbolId}
    (h : g.DerivesLast [g.start] row) : ∀ {before after : List SymbolId} {x : SymbolId},
      row = before ++ x :: after → g.terminalCount ≤ x → g.Awaited before x after := by
  induction h with
  | refl =>
    intro before after x hrow hx u t hu ht
    obtain ⟨rfl, hcons⟩ | ⟨y, rest, rfl, hcons⟩ : before = [] ∧ x :: after = [g.start] ∨
        ∃ y rest, before = y :: rest ∧ [] = rest ++ x :: after := by
      cases before with
      | nil => exact .inl ⟨rfl, hrow.symm⟩
      | cons y rest => exact .inr ⟨y, rest, rfl, (List.cons.inj hrow).2⟩
    · obtain ⟨rfl, rfl⟩ := List.cons.inj hcons
      cases hu
      refine ⟨g.startItem, endSymbol, [], .start, ?_, ?_, ht⟩
      · rw [Item.next, startItem, augmented, rhs_augmented]
        rfl
      · rw [Item.rest, startItem, augmented, rhs_augmented]
        exact .nil
    · simp at hcons
  | tail _ step ih =>
    obtain ⟨p, hp, front, back, hback, rfl, rfl⟩ := step
    intro before after x hrow hx
    have replaced : g.Awaited front p.lhs back := ih rfl (hg.lhs p hp).1
    rcases List.append_eq_append_iff.1 hrow with ⟨c, rfl, hc⟩ | ⟨c, rfl, hc⟩
    · -- the nonterminal stands in what was put in the place of another
      obtain ⟨behind, hrhs, rfl⟩ := exists_behind_of_terminals hback hx hc
      exact replaced.rhs hg hp hback hrhs
    · cases c with
      | nil =>
        obtain ⟨behind, hrhs, rfl⟩ := @exists_behind_of_terminals _ [] _ _ _ _ hback hx hc.symm
        simpa using replaced.rhs hg hp hback hrhs
      | cons y c =>
        -- the nonterminal stood there before, and what follows it yields the same texts
        obtain ⟨rfl, rfl⟩ := List.cons.inj hc
        intro u t hu ht
        have old : g.Yields (c ++ p.lhs :: back) u := Rewrites.yields ⟨p, hp, c, back, rfl, rfl⟩ hu
        exact ih (by simp) hx u t old ht

theorem Valid.arises (hg : g.InRange) {row : List SymbolId} {i : Item} {t : SymbolId}
    (h : g.Valid row i t) : g.Arises row i t := by
  cases h with
  | @whole n hn =>
    have := Arises.start.take (g := g) (n := n) (by simpa [augmented] using hn)
    rwa [augmented, rhs_augmented] at this
  | @production before w i p n _ hp hn hw derived ht =>
    have awaited := derived.awaited hg rfl (hg.lhs p (mem_productions_iff.2 ⟨i, hp⟩)).1
    obtain ⟨j, s, v, hj, hnext, hv, hhead⟩ := awaited w t (.terminals hw) ht
    have brought := hj.bring hnext (mem_productionsOf.2 ⟨p, hp, rfl⟩) hv hhead
    have hrhs := rhs_of_getElem? hp
    rw [← hrhs] at hn ⊢
    exact brought.take hn

/-- The items that are valid for a row of symbols are those that arise when it is read. -/
theorem valid_iff_arises (hg : g.InRange) {row : List SymbolId} {i : Item} {t : SymbolId} :
    g.Valid row i t ↔ g.Arises row i t :=
  ⟨Valid.arises hg, Arises.valid⟩

end IncrementalGlr.FlatGrammar
