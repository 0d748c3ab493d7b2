import IncrementalGlr.Proofs.Lr.Kernels

/-!
Where lookaheads come from. A terminal gets into the lookahead of an item that is brought in because
it begins the rest of the item that brings it in, or because that rest can be empty and the terminal
was in that item's lookahead; along a transition lookaheads are handed on unchanged. What these steps
keep (`HandsOn`) holds of every terminal in every lookahead, whatever the order in which lookaheads are
handed on (`onKernels_lookaheads`).
-/
namespace IncrementalGlr.Lr

variable {g : FlatGrammar} {first : FirstSets}

/-- `E` holds of the items of a state, and `P` of the items and the terminals after them. -/
structure HandsOn (g : FlatGrammar) (first : FirstSets) (E : Item → Prop)
    (P : Item → SymbolId → Prop) : Prop where
  brings : ∀ i x p, E i → i.next g = some x → p ∈ g.productionsOf x → E ⟨p, 0⟩
  begins : ∀ i x p t, E i → i.next g = some x → p ∈ g.productionsOf x →
    (first.ofSymbols (i.rest g)).terminals.contains t = true → P ⟨p, 0⟩ t
  passes : ∀ i x p t, P i t → i.next g = some x → p ∈ g.productionsOf x →
    (first.ofSymbols (i.rest g)).nullable = true → P ⟨p, 0⟩ t

theorem contains_followOf {i : Item} {la : TerminalSet} {t : SymbolId}
    (h : (followOf g first i la).contains t = true) :
    (first.ofSymbols (i.rest g)).terminals.contains t = true ∨
      (first.ofSymbols (i.rest g)).nullable = true ∧ la.contains t = true := by
  unfold followOf at h
  dsimp only at h
  split at h
  · next hnull =>
    rw [TerminalSet.contains_union, Bool.or_eq_true] at h
    exact h.imp_right fun h => ⟨hnull, h⟩
  · exact .inl h

/-! ## Within a state -/

section State

variable {E : Item → Prop} {P : Item → SymbolId → Prop}

/-- `P` holds of what is known to follow the nonterminals of a state. -/
def OnFollow (g : FlatGrammar) (P : Item → SymbolId → Prop) (follow : Follow) : Prop :=
  ∀ s p t, p ∈ g.productionsOf s → (lookaheadOf g follow s).contains t = true → P ⟨p, 0⟩ t

theorem le_of_mem_productionsOf (hg : g.InRange) {x : SymbolId} {p : ProductionId}
    (hp : p ∈ g.productionsOf x) : g.terminalCount ≤ x := by
  obtain ⟨production, hprod, rfl⟩ := FlatGrammar.mem_productionsOf.1 hp
  exact (hg.lhs production (FlatGrammar.mem_productions_iff.2 ⟨p, hprod⟩)).1

theorem OnFollow.handOn (hg : g.InRange) (h : HandsOn g first E P) {follow : Follow}
    (hfollow : OnFollow g P follow) {i : Item} (hE : E i) {la : TerminalSet}
    (hla : ∀ t, la.contains t = true → P i t) : OnFollow g P (handOn g first follow i la) := by
  unfold Lr.handOn
  cases hx : i.next g with
  | none => exact hfollow
  | some x =>
    dsimp only
    split
    · exact hfollow
    · next hnonterminal =>
      intro s p t hp ht
      rw [lookaheadOf, Array.getElem?_modify] at ht
      split at ht
      · next hplace =>
        have hx' : g.terminalCount ≤ x := Nat.not_lt.1 fun hlt => hnonterminal (decide_eq_true hlt)
        have hs' : g.terminalCount ≤ s := le_of_mem_productionsOf hg hp
        obtain rfl : x = s := by
          rw [← Nat.sub_add_cancel hx', ← Nat.sub_add_cancel hs']
          exact congrArg (· + g.terminalCount) hplace
        cases he : follow[x - g.terminalCount]? with
        | none =>
          rw [he] at ht
          simp at ht
        | some set =>
          rw [he, Option.map_some, Option.getD_some, TerminalSet.contains_union,
            Bool.or_eq_true] at ht
          rcases ht with ht | ht
          · exact hfollow x p t hp (by rwa [lookaheadOf, he])
          -- What is handed on begins what stands behind the symbol, or that is empty and it follows the item.
          · rcases contains_followOf ht with ht | ⟨hnull, ht⟩
            · exact h.begins i x p t hE hx hp ht
            · exact h.passes i x p t (hla t ht) hx hp hnull
      · exact hfollow s p t hp ht

theorem OnFollow.foldl {β : Type} {f : Follow → β → Follow} {l : List β}
    (step : ∀ b ∈ l, ∀ follow, OnFollow g P follow → OnFollow g P (f follow b)) {follow : Follow}
    (h : OnFollow g P follow) : OnFollow g P (l.foldl f follow) := by
  induction l generalizing follow with
  | nil => exact h
  | cons b l ih =>
    exact ih (fun c hc => step c (List.mem_cons_of_mem b hc)) (step b List.mem_cons_self follow h)

/-- `P` holds of all lookaheads in a state if it does in the kernel. -/
theorem HandsOn.lookaheadClosure (hg : g.InRange) (h : HandsOn g first E P)
    {kernel : List (Item × TerminalSet)} (hE : ∀ e ∈ kernel, E e.1)
    (hP : ∀ e ∈ kernel, ∀ t, e.2.contains t = true → P e.1 t) :
    ∀ e ∈ lookaheadClosure g first kernel, ∀ t, e.2.contains t = true → P e.1 t := by
  have items : ∀ i ∈ closure g (kernel.map Prod.fst), E i :=
    closure_induction (fun i hi => by
      obtain ⟨e, he, rfl⟩ := List.mem_map.1 hi
      exact hE e he) h.brings
  have settled : OnFollow g P
      (settledFollow g first kernel (predicted g (kernel.map Prod.fst))) := by
    refine settle_induction (fun follow hfollow => ?_) _ ?_
    · refine OnFollow.foldl (fun s hs follow hfollow => ?_) (OnFollow.foldl
        (fun e he follow hfollow => hfollow.handOn hg h (hE e he) (hP e he)) hfollow)
      refine OnFollow.foldl (fun p hp follow hfollow => ?_) hfollow
      have brought : ⟨p, 0⟩ ∈ closure g (kernel.map Prod.fst) :=
        mem_closure.2 (.inr ⟨s, hs, p, hp, rfl⟩)
      exact hfollow.handOn hg h (items _ brought) fun t ht => hfollow s p t hp ht
    · intro s p t _ ht
      rw [lookaheadOf, Array.getElem?_replicate] at ht
      split at ht <;> simp at ht
  rintro ⟨i, la⟩ he t ht
  rcases mem_lookaheadClosure.1 he with he | ⟨s, -, p, hp, rfl, rfl⟩
  · exact hP _ he t ht
  · exact settled s p t hp ht

end State

/-! ## Between states -/

section States

variable {found : Found} {E : StateId → Item → Prop} {P : StateId → Item → SymbolId → Prop}

/-- `P` holds of all lookaheads of kernels. -/
def OnKernels (found : Found) (P : StateId → Item → SymbolId → Prop) (las : Lookaheads) : Prop :=
  ∀ q, ∀ e ∈ kernelWith found las q, ∀ t, e.2.contains t = true → P q e.1 t

/-- What is handed on along one transition keeps `P`. -/
theorem OnKernels.receive {las : Lookaheads} (h : OnKernels found P las)
    {items : List (Item × TerminalSet)} {s : SymbolId} {r : StateId}
    (moves : ∀ e ∈ items, ∀ t, e.2.contains t = true → e.1.next g = some s → P r e.1.advance t) :
    OnKernels found P
      (las.modify r (Lr.receive g items s ((found.kernels[r]?).getD []))) := by
  rintro q ⟨item, set⟩ he t ht
  rw [kernelWith, Array.getElem?_modify] at he
  split at he
  · next hplace =>
    subst hplace
    obtain ⟨j, hj⟩ := List.getElem?_of_mem he
    obtain ⟨hitem, hset⟩ := List.getElem?_zip_eq_some.1 hj
    cases hlas : las[r]? with
    | none =>
      rw [hlas] at hset
      simp at hset
    | some old =>
      rw [hlas, Option.map_some, Option.getD_some] at hset
      have hlt := (List.getElem?_eq_some_iff.1 hset).1
      rw [length_receive] at hlt
      obtain ⟨set', hold⟩ : ∃ set', old[j]? = some set' :=
        ⟨_, List.getElem?_eq_getElem (Nat.lt_of_lt_of_le hlt (Nat.min_le_right _ _))⟩
      have received := (@contains_receive g items s _ _ j item set' hitem hold t).1
        (by rw [hset]; exact ht)
      -- The terminal was in the set before, or an item has sent it.
      rcases received with ht | ⟨e, hitems, hnext, rfl, hte⟩
      · refine h r (item, set') ?_ t ht
        rw [kernelWith, hlas, Option.getD_some]
        exact List.mem_of_getElem? (List.getElem?_zip_eq_some.2 ⟨hitem, hold⟩)
      · exact moves e hitems t hte hnext
  · exact h q _ he t ht

variable (hg : g.InRange)
  (kernels : ∀ q kernel, found.kernels[q]? = some kernel → ∀ i ∈ kernel, E q i)
  (hands : ∀ q, q < found.kernels.size → HandsOn g first (E q) (P q))
  (moves : ∀ q r s i t transitions, found.transitions[q]? = some transitions →
    (s, r) ∈ transitions → P q i t → i.next g = some s → P r i.advance t)
include hg kernels hands

theorem OnKernels.itemsWith {las : Lookaheads} (h : OnKernels found P las) {q : StateId}
    (hq : q < found.kernels.size) :
    ∀ e ∈ itemsWith g first found las q, ∀ t, e.2.contains t = true → P q e.1 t := by
  refine (hands q hq).lookaheadClosure hg (fun e he => ?_) (h q)
  have hmem := (List.of_mem_zip he).1
  rw [Array.getElem?_eq_getElem hq, Option.getD_some] at hmem
  exact kernels q _ (Array.getElem?_eq_getElem hq) _ hmem

include moves

theorem OnKernels.propagate {las : Lookaheads} (h : OnKernels found P las) {q : StateId}
    (hq : q < found.kernels.size) : OnKernels found P (propagate g first found las q) := by
  rw [propagate_eq]
  have items := OnKernels.itemsWith hg kernels hands h hq
  cases hr : found.transitions[q]? with
  | none => exact h
  | some transitions =>
    rw [Option.getD_some]
    have step : ∀ ts : List (SymbolId × StateId), (∀ t ∈ ts, t ∈ transitions) →
        ∀ las', OnKernels found P las' → OnKernels found P (ts.foldl (fun las' e => las'.modify e.2
          (Lr.receive g (Lr.itemsWith g first found las q) e.1
            ((found.kernels[e.2]?).getD []))) las') := by
      intro ts
      induction ts with
      | nil => exact fun _ _ h => h
      | cons e ts ih =>
        intro hts las' h
        refine ih (fun t ht => hts t (List.mem_cons_of_mem e ht)) _ (h.receive fun d hd t ht hn => ?_)
        exact moves q e.2 e.1 d.1 t transitions hr (hts e List.mem_cons_self) (items d hd t ht) hn
    exact step transitions (fun _ h => h) las h

/-- `P` holds of all lookaheads of kernels, once it holds of the end of the text after the whole. -/
theorem onKernels_lookaheads (start : ∀ q kernel, found.kernels[q]? = some kernel →
      g.startItem ∈ kernel → P q g.startItem endSymbol) :
    OnKernels found P (lookaheads g first found) := by
  -- A round keeps the property, and before the first round only the start item has a lookahead.
  refine settle_induction (fun las h => ?_) _ ?_
  · have step : ∀ qs : List Nat, (∀ q ∈ qs, q < found.kernels.size) → ∀ las,
        OnKernels found P las → OnKernels found P (qs.foldl (Lr.propagate g first found) las) := by
      intro qs
      induction qs with
      | nil => exact fun _ _ h => h
      | cons q qs ih =>
        intro hqs las h
        exact ih (fun r hr => hqs r (List.mem_cons_of_mem q hr)) _
          (OnKernels.propagate hg kernels hands moves h (hqs q List.mem_cons_self))
    exact step _ (fun q hq => List.mem_range.1 hq) las h
  · rintro q ⟨item, set⟩ he t ht
    obtain ⟨j, hj⟩ := List.getElem?_of_mem he
    obtain ⟨hitem, hset⟩ := List.getElem?_zip_eq_some.1 hj
    cases hk : found.kernels[q]? with
    | none =>
      rw [hk] at hitem
      simp at hitem
    | some kernel =>
      rw [hk, Option.getD_some] at hitem
      rw [Array.getElem?_map, hk, Option.map_some, Option.getD_some, List.getElem?_map, hitem,
        Option.map_some] at hset
      have hset : _ = set := Option.some.inj hset
      rw [← hset] at ht
      split at ht
      · next hstart =>
        have hstart : item = g.startItem := hstart
        subst hstart
        rw [TerminalSet.contains_singleton, decide_eq_true_eq] at ht
        exact ht ▸ start q kernel hk (List.mem_of_getElem? hitem)
      · simp at ht

end States

end IncrementalGlr.Lr
