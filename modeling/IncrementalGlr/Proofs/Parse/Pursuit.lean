import IncrementalGlr.Proofs.Parse.Phase

/-!
What a phase that does not come to the limit of reductions achieves. Heads and what has come of them
stay (`PhaseState.Grows`), so it is enough to know of one action of each head that it brings the phase
nearer to its aim, be it by reaching it or by a reduction to a head that can go on: then the phase
reaches it (`Pursuit.reached`). A phase has one outcome (`Loops.unique`).
-/
namespace IncrementalGlr.Engine

variable {e : Engine} {token : Token} {fragile : Bool}

/-! ## Nothing is forgotten -/

/-- All heads are still there, and no reduction is undone. -/
structure PhaseState.Grows (s s' : PhaseState) : Prop where
  shifts : s.shifts ⊆ s'.shifts
  accepts : s.accepts ⊆ s'.accepts
  work : s.work ⊆ s'.work
  later : s.later ⊆ s'.later
  reductions : s.reductions ≤ s'.reductions

theorem PhaseState.Grows.refl (s : PhaseState) : s.Grows s :=
  ⟨List.Subset.refl _, List.Subset.refl _, List.Subset.refl _, List.Subset.refl _, Nat.le_refl _⟩

theorem PhaseState.Grows.trans {s s' s'' : PhaseState} (h : s.Grows s') (h' : s'.Grows s'') :
    s.Grows s'' where
  shifts := List.Subset.trans h.shifts h'.shifts
  accepts := List.Subset.trans h.accepts h'.accepts
  work := List.Subset.trans h.work h'.work
  later := List.Subset.trans h.later h'.later
  reductions := Nat.le_trans h.reductions h'.reductions

theorem Acted.grows {k : Circumstances} {head : Head} {s s' : PhaseState}
    {choice : Action × Nat} {events : List TraceEvent}
    (h : Acted e token k head s choice s' events) : s.Grows s' := by
  cases h with
  | shift => exact { PhaseState.Grows.refl s with shifts := List.subset_cons_self _ _ }
  | shiftExtra => exact { PhaseState.Grows.refl s with shifts := List.subset_cons_self _ _ }
  | accept => exact { PhaseState.Grows.refl s with accepts := List.subset_cons_self _ _ }
  | stop => exact { PhaseState.Grows.refl s with }
  | fail => exact { PhaseState.Grows.refl s with reductions := Nat.le_succ _ }
  | reduce =>
    exact { PhaseState.Grows.refl s with
      later := List.subset_cons_self _ _
      reductions := Nat.le_succ _ }

theorem ActedAll.grows {k : Circumstances} {head : Head} {s s' : PhaseState}
    {choices : List (Action × Nat)} {events : List TraceEvent}
    (h : ActedAll e token k head s choices s' events) : s.Grows s' := by
  induction h with
  | nil s => exact .refl s
  | cons hact _ ih => exact hact.grows.trans ih

theorem Handled.grows {fragile forked : Bool} {head : Head} {s s' : PhaseState}
    {events : List TraceEvent} (h : Handled e token fragile forked head s s' events) :
    s.Grows s' := by
  cases h with
  | dead _ => exact { PhaseState.Grows.refl s with }
  | acted _ _ hall => exact { hall.grows with }

theorem Loops.reductions_le {fragile : Bool} {fuel : Nat} {s s' : PhaseState}
    {events : List TraceEvent} (h : Loops e token fragile fuel s s' events) :
    s.reductions ≤ s'.reductions := by
  induction h with
  | out => exact Nat.le_refl _
  | done => exact Nat.le_refl _
  | step hnext hhandled _ ih =>
    rw [← PhaseState.reductions_of_next hnext]
    exact Nat.le_trans hhandled.grows.reductions ih

/-! ## Aims are reached -/

/-- Something that the heads which take the token and those which accept can achieve. -/
abbrev Aim := List (Head × Option StateId) → List Head → Prop

/-- The aim is reached, or a head that can help to reach it is still to be dealt with. -/
inductive PhaseState.Pursues (P : Head → Prop) (aim : Aim) (s : PhaseState) : Prop where
  | work (x : Head × Bool) (hmem : x ∈ s.work) (h : P x.1)
  | later (x : Head × Bool) (hmem : x ∈ s.later) (h : P x.1)
  | reached (h : aim s.shifts s.accepts)

/-- More heads do not spoil the aim. All heads have the property `H`, and each that can help has an
action at the token by which the aim is reached, unless it leads to another one that can help. -/
structure Pursuit (e : Engine) (token : Token) (H P : Head → Prop) (aim : Aim) : Prop where
  keeps : e.Keeps token H
  mono : ∀ {shifts shifts' : List (Head × Option StateId)} {accepts accepts' : List Head},
    shifts ⊆ shifts' → accepts ⊆ accepts' → aim shifts accepts → aim shifts' accepts'
  acts : ∀ h, H h → P h → ∃ action ∈ e.table.actions h.state token.symbol,
    ∀ {k : Circumstances} {s s' : PhaseState} {i : Nat} {events : List TraceEvent},
      Acted e token k h s (action, i) s' events → s'.reductions < maxReductions →
        s'.Pursues P aim

variable {H P : Head → Prop} {aim : Aim}

theorem PhaseState.Pursues.next {s s' : PhaseState} {head : Head} {forked : Bool}
    (h : s.next? = some ((head, forked), s')) (hp : s.Pursues P aim) :
    P head ∨ s'.Pursues P aim := by
  unfold PhaseState.next? at h
  split at h
  · next first work hwork =>
    cases h
    cases hp with
    | work x hmem hx =>
      rw [hwork] at hmem
      rcases List.mem_cons.1 hmem with rfl | hmem
      · exact .inl hx
      · exact .inr (.work x hmem hx)
    | later x hmem hx => exact .inr (.later x hmem hx)
    | reached h => exact .inr (.reached h)
  · next hwork =>
    split at h
    · next first work hlater =>
      cases h
      cases hp with
      | work x hmem _ => exact absurd (hwork ▸ hmem) List.not_mem_nil
      | later x hmem hx =>
        rcases List.mem_cons.1 (hlater ▸ List.mem_reverse.2 hmem) with rfl | hmem
        · exact .inl hx
        · exact .inr (.work x hmem hx)
      | reached h => exact .inr (.reached h)
    · cases h

section Pursuit

variable (hP : e.Pursuit token H P aim)
include hP

theorem Pursuit.grows {s s' : PhaseState} (hs : s.Pursues P aim) (h : s.Grows s') :
    s'.Pursues P aim := by
  cases hs with
  | work x hmem hx => exact .work x (h.work hmem) hx
  | later x hmem hx => exact .later x (h.later hmem) hx
  | reached haim => exact .reached (hP.mono h.shifts h.accepts haim)

theorem Pursuit.actedAll {k : Circumstances} {head : Head} {s s' : PhaseState}
    {choices : List (Action × Nat)} {events : List TraceEvent}
    (h : ActedAll e token k head s choices s' events) {action : Action} {i : Nat}
    (hmem : (action, i) ∈ choices)
    (ha : ∀ {s s' : PhaseState} {events : List TraceEvent},
      Acted e token k head s (action, i) s' events → s'.reductions < maxReductions →
        s'.Pursues P aim)
    (hlimit : s'.reductions < maxReductions) : s'.Pursues P aim := by
  induction h with
  | nil => cases hmem
  | cons hact hrest ih =>
    rcases List.mem_cons.1 hmem with rfl | hmem
    · exact hP.grows (ha hact (Nat.lt_of_le_of_lt hrest.grows.reductions hlimit)) hrest.grows
    · exact ih hmem hlimit

theorem Pursuit.handled {fragile forked : Bool} {head : Head} {s s' : PhaseState}
    {events : List TraceEvent} (h : Handled e token fragile forked head s s' events)
    (hh : H head) (hhead : P head) (hlimit : s'.reductions < maxReductions) :
    s'.Pursues P aim := by
  obtain ⟨action, hmem, acts⟩ := hP.acts head hh hhead
  cases h with
  | dead hnone =>
    rw [hnone] at hmem
    cases hmem
  | acted ha _ hall =>
    rw [ha] at hmem
    obtain ⟨i, hi⟩ := List.mem_iff_getElem?.1 hmem
    exact hP.actedAll hall (List.mem_zipIdx_iff_getElem?.2 hi) acts hlimit

theorem Pursuit.loops {fuel : Nat} {s s' : PhaseState} {events : List TraceEvent}
    (h : Loops e token fragile fuel s s' events) (hs : s.Holds e token H) (hp : s.Pursues P aim)
    (hlimit : s'.reductions < maxReductions) : s'.Pursues P aim := by
  induction h with
  | out => exact hp
  | done => exact hp
  | step hnext hhandled hloops ih =>
    obtain ⟨hhead, hs₁⟩ := hs.next hnext
    refine ih (hP.keeps.handled hhandled hhead hs₁) ?_ hlimit
    rcases hp.next hnext with hhelps | hp
    · exact hP.handled hhandled hhead hhelps (Nat.lt_of_le_of_lt hloops.reductions_le hlimit)
    · exact hP.grows hp hhandled.grows

/-- A phase that begins with a head that can help reaches the aim. -/
theorem Pursuit.reached {heads : List Head} {s' : PhaseState} {events : List TraceEvent}
    (h : Loops e token fragile (heads.length + maxReductions) (.begin heads) s' events)
    (hheads : ∀ head ∈ heads, H head) (hhelps : ∃ head ∈ heads, P head)
    (hlimit : s'.reductions < maxReductions) : aim s'.phase.shifts s'.phase.accepts := by
  obtain ⟨head, hmem, hhead⟩ := hhelps
  have pursues := hP.loops h (.begin hheads)
    (.work (head, false) (List.mem_map_of_mem hmem) hhead) hlimit
  obtain ⟨hwork, hlater, -⟩ := h.finished (by simp [PhaseState.open, PhaseState.begin])
  cases pursues with
  | work x hmem _ => exact absurd (hwork ▸ hmem) List.not_mem_nil
  | later x hmem _ => exact absurd (hlater ▸ hmem) List.not_mem_nil
  | reached haim =>
    exact hP.mono (fun _ hx => List.mem_reverse.2 hx) (fun _ hx => List.mem_reverse.2 hx) haim

end Pursuit

/-! ## One outcome -/

theorem Reduces.unique {id : ProductionId} {h next next' : Head}
    (hr : Reduces e token fragile id h next) (hr' : Reduces e token fragile id h next') :
    next = next' := by
  obtain ⟨p, stack, state, hp, hstack, rfl⟩ := hr
  obtain ⟨p', stack', state', hp', hstack', rfl⟩ := hr'
  obtain rfl := Option.some.inj (hp.symm.trans hp')
  obtain ⟨rfl, -⟩ := Prod.mk.inj (Option.some.inj (hstack.symm.trans hstack'))
  rfl

theorem Acted.unique {k : Circumstances} {head : Head} {s s₁ s₂ : PhaseState}
    {choice : Action × Nat} {events events' : List TraceEvent}
    (h : Acted e token k head s choice s₁ events) (h' : Acted e token k head s choice s₂ events') :
    s₁ = s₂ := by
  cases h with
  | shift => cases h'; rfl
  | shiftExtra => cases h'; rfl
  | accept => cases h'; rfl
  | stop id i hlimit =>
    cases h' with
    | stop => rfl
    | fail _ _ h => exact absurd h (Nat.not_lt.2 hlimit)
    | reduce _ _ _ _ _ h => exact absurd h (Nat.not_lt.2 hlimit)
  | fail id i hlimit hnone =>
    cases h' with
    | stop _ _ h => exact absurd hlimit (Nat.not_lt.2 h)
    | fail => rfl
    | reduce _ _ next _ _ _ hr => exact absurd hr (hnone next)
  | reduce id i next _ _ hlimit hr =>
    cases h' with
    | stop _ _ h => exact absurd hlimit (Nat.not_lt.2 h)
    | fail _ _ _ hnone => exact absurd hr (hnone next)
    | reduce _ _ next' _ _ _ hr' => rw [hr.unique hr']

theorem ActedAll.unique {k : Circumstances} {head : Head} {s s₁ s₂ : PhaseState}
    {choices : List (Action × Nat)} {events events' : List TraceEvent}
    (h : ActedAll e token k head s choices s₁ events)
    (h' : ActedAll e token k head s choices s₂ events') : s₁ = s₂ := by
  induction h generalizing events' with
  | nil => cases h'; rfl
  | cons hact _ ih =>
    cases h' with
    | cons hact' hrest' =>
      obtain rfl := hact.unique hact'
      exact ih hrest'

theorem Handled.unique {forked : Bool} {head : Head} {s s₁ s₂ : PhaseState}
    {events events' : List TraceEvent} (h : Handled e token fragile forked head s s₁ events)
    (h' : Handled e token fragile forked head s s₂ events') : s₁ = s₂ := by
  cases h with
  | dead hnone =>
    cases h' with
    | dead => rfl
    | acted ha hne _ => exact absurd (ha.symm.trans hnone) hne
  | acted ha hne hall =>
    cases h' with
    | dead hnone => exact absurd (ha.symm.trans hnone) hne
    | acted ha' _ hall' =>
      obtain rfl := ha.symm.trans ha'
      exact hall.unique hall'

/-- A phase has one outcome. -/
theorem Loops.unique {fuel : Nat} {s s₁ s₂ : PhaseState} {events events' : List TraceEvent}
    (h : Loops e token fragile fuel s s₁ events) (h' : Loops e token fragile fuel s s₂ events') :
    s₁ = s₂ := by
  induction h generalizing events' with
  | out => cases h'; rfl
  | done hnone =>
    cases h' with
    | done => rfl
    | step hnext => cases hnone.symm.trans hnext
  | step hnext hhandled _ ih =>
    cases h' with
    | done hnone => cases hnone.symm.trans hnext
    | step hnext' hhandled' hrest' =>
      obtain ⟨⟨rfl, rfl⟩, rfl⟩ := Prod.mk.inj (Option.some.inj (hnext.symm.trans hnext'))
      obtain rfl := hhandled.unique hhandled'
      exact ih hrest'

end IncrementalGlr.Engine
