import Mathlib
import IncrementalGlr.Proofs.Parse.Driving
import IncrementalGlr.Proofs.Parse.Forks
import IncrementalGlr.Proofs.Parse.Resynchronising

/-!
The heads of a parse are ranked. There is always one; their choices are apart, so of any two one is
better; and they stand in that order, no more of them than the parse may keep, each with states of its
own (`Head.Ranked`). Every head that takes a token and is dropped is worse than all that are left, of
which there are as many as there may be, or worse than one with the same states (`Head.Selects`). In
whatever order the heads are merged, the same are left. `Engine.heads_ranked` puts this together for
every parse with a table whose choices can all be told apart.
-/
namespace IncrementalGlr

namespace Head

variable {heads heads' taken left : List Head} {limit : Nat}

/-- Of any two of these heads one is better, and better heads come before worse ones. -/
structure StrictlyOrdered (heads : List Head) : Prop where
  asymm : ∀ a b : Head, a.preference b = .lt → b.preference a ≠ .lt
  trans : ∀ a b c : Head, a.preference b = .lt → b.preference c = .lt → a.preference c = .lt
  total : heads.Pairwise fun a b => a.preference b = .lt ∨ b.preference a = .lt

theorem Spread.strictlyOrdered (h : Spread heads) : StrictlyOrdered heads where
  asymm a b hab := by
    rw [(Std.OrientedCmp.eq_swap : b.preference a = _), hab]
    decide
  trans _ _ _ := Std.TransCmp.lt_trans
  total := h.strict.imp fun {a b} hne => by
    rw [(Std.OrientedCmp.eq_swap : b.preference a = _)]
    revert hne
    cases a.preference b <;> decide

/-- Heads as they stand between two tokens. -/
structure Ranked (limit : Nat) (heads : List Head) : Prop where
  nonempty : heads ≠ []
  length_le : heads.length ≤ limit
  sorted : heads.Pairwise fun a b => a.preference b = .lt
  states : heads.Pairwise fun a b => a.stack.sameStates b.stack = false
  spread : Spread heads

theorem ranked_singleton (h : Head) (hlimit : 0 < limit) : Ranked limit [h] where
  nonempty := List.cons_ne_nil _ _
  length_le := hlimit
  sorted := List.pairwise_singleton _ _
  states := List.pairwise_singleton _ _
  spread := spread_singleton h

/-- What is left of heads that have taken a token. A head that is left alone forgets its choices. -/
structure Selects (limit : Nat) (taken left : List Head) : Prop where
  length_le : left.length ≤ limit
  sorted : left.Pairwise fun a b => a.preference b = .lt
  states : left.Pairwise fun a b => a.stack.sameStates b.stack = false
  /-- No head is left that has not taken the token. -/
  stays : ∀ k ∈ left, k ∈ taken ∨ ∃ h ∈ taken, left = [{ h with path := [] }]
  /-- A head that is not left is worse than all that are, or than one with the same states. -/
  drops : ∀ h ∈ taken, h ∈ left ∨ left = [{ h with path := [] }] ∨
    (left.length = limit ∧ ∀ k ∈ left, k.preference h = .lt) ∨
      ∃ k ∈ left, k.stack.sameStates h.stack = true ∧ k.preference h = .lt

/-! ## Merging -/

theorem Spread.ordered (h : Spread heads) :
    (ordered heads).Pairwise fun a b => a.preference b = .lt := by
  have spread := h.of_perm (perm_ordered heads).symm
  refine ((pairwise_ordered heads).and spread.strict).imp fun {a b} hab => ?_
  revert hab
  cases a.preference b <;> decide

/-- Heads whose choices are apart come into the same order from any other. -/
theorem Spread.ordered_eq (h : Spread heads) (hperm : heads'.Perm heads) :
    Head.ordered heads' = Head.ordered heads := by
  have hperm' := (perm_ordered heads').trans (hperm.trans (perm_ordered heads).symm)
  refine hperm'.eq_of_pairwise (fun a b _ _ hab hba => ?_) (h.of_perm hperm.symm).ordered h.ordered
  exact absurd hba (h.strictlyOrdered.asymm a b hab)

/-- A head that forgets its choices is still better than those that it was better than. -/
theorem preference_forget {k h : Head} (hlt : k.preference h = .lt) (hapart : k.path.Apart h.path) :
    ({ k with path := [] } : Head).preference h = .lt := by
  have hpath : h.path ≠ [] := fun hnil => hapart.2 (hnil ▸ List.nil_suffix)
  have first : Choices.compare [] h.path = .lt := by
    rw [Choices.compare_eq, List.reverse_nil, Choices.compareLex_nil]
    exact Nat.compare_eq_lt.2 (by simpa [List.length_pos_iff] using hpath)
  unfold preference at hlt ⊢
  dsimp only
  rw [first]
  generalize k.path.compare h.path = parting at hlt
  revert hlt
  cases Ord.compare k.errorCost h.errorCost <;>
    cases Ord.compare h.dynamicPrecedence k.dynamicPrecedence <;> cases parting <;> decide

/-- Of heads in order, among which every head has one at least as good with its states, the first ones
are better than those that are not among them. -/
theorem drops_take (limit : Nat) {merged : List Head} (hspread : Spread taken)
    (hmem : ∀ k ∈ merged, k ∈ taken) (hsorted : merged.Pairwise fun a b => a.preference b = .lt)
    {h : Head} (hh : h ∈ taken)
    (hbetter : ∃ k ∈ merged, k.stack.sameStates h.stack = true ∧ k.preference h ≠ .gt) :
    h ∈ merged.take limit ∨
      ((merged.take limit).length = limit ∧ ∀ k ∈ merged.take limit, k.preference h = .lt) ∨
        ∃ k ∈ merged.take limit, k.stack.sameStates h.stack = true ∧ k.preference h = .lt := by
  obtain ⟨k, hk, hsame, hnot⟩ := hbetter
  rw [← List.take_append_drop limit merged] at hk hsorted
  rcases List.mem_append.1 hk with hk | hk
  · by_cases heq : k = h
    · exact .inl (heq ▸ hk)
    · have apart := List.Pairwise.forall hspread (hmem k (List.mem_of_mem_take hk)) hh heq
      refine .inr (.inr ⟨k, hk, hsame, ?_⟩)
      have hne := preference_ne_eq apart
      revert hnot hne
      cases k.preference h <;> decide
  -- The head is worse than one that was dropped itself, for being one too many.
  · refine .inr (.inl ⟨?_, fun k' hk' => ?_⟩)
    · have hdrop := List.length_pos_of_mem hk
      rw [List.length_drop] at hdrop
      rw [List.length_take]
      omega
    · have hlt := (List.pairwise_append.1 hsorted).2.2 k' hk' k hk
      refine Std.TransCmp.lt_of_lt_of_isLE hlt ?_
      revert hnot
      cases k.preference h <;> decide

end Head

namespace Engine

open Head Parsing

variable {e : Engine} {token : Token} {c c' d : Configuration} {heads : List Head}

/-- Merging keeps heads in their order, each with states of its own. -/
theorem sublist_of_mergeInto {kept merged : List Head} (hr : Returns (mergeInto kept heads) c merged c')
    (hkept : kept.Pairwise fun a b => a.stack.sameStates b.stack = false) :
    ∃ new, merged = kept ++ new ∧ new.Sublist heads ∧
      merged.Pairwise fun a b => a.stack.sameStates b.stack = false := by
  induction heads generalizing kept c with
  | nil =>
    obtain ⟨rfl, rfl⟩ := returns_pure.1 hr
    exact ⟨[], (List.append_nil _).symm, .slnil, hkept⟩
  | cons head rest ih =>
    rw [mergeInto] at hr
    split at hr
    · simp only [returns_bind] at hr
      obtain ⟨_, _, -, hr⟩ := hr
      obtain ⟨new, rfl, hsub, hstates⟩ := ih hr hkept
      exact ⟨new, rfl, hsub.cons _, hstates⟩
    · next hnone =>
      have differ : ∀ k ∈ kept, k.stack.sameStates head.stack = false := fun k hk =>
        Bool.eq_false_iff.2 fun hsame => hnone (List.any_eq_true.2 ⟨k, hk, hsame⟩)
      obtain ⟨new, rfl, hsub, hstates⟩ := ih hr (List.pairwise_append.2
        ⟨hkept, List.pairwise_singleton _ _, fun k hk h hh => List.mem_singleton.1 hh ▸ differ k hk⟩)
      exact ⟨head :: new, List.append_assoc .., hsub.cons_cons _, hstates⟩

/-- Where the choices of heads are apart, merging selects from them. -/
theorem selects_of_mergeHeads (hspread : Spread heads) {u : Unit}
    (hr : Returns (e.mergeHeads heads) c u c') :
    Selects e.options.maxHeads heads c'.heads ∧ Spread c'.heads := by
  obtain ⟨merged, d, hmerge, left, -⟩ := heads_of_mergeHeads hr
  obtain ⟨new, hmerged, hsub, hstates⟩ := sublist_of_mergeInto hmerge .nil
  obtain rfl : merged = new := hmerged
  have better := exists_kept_of_mergeInto hmerge nofun (pairwise_ordered heads)
  have mem : ∀ k ∈ merged, k ∈ heads := fun k hk =>
    (perm_ordered heads).mem_iff.1 (hsub.subset hk)
  have sorted := hspread.ordered.sublist hsub
  have drops (h : Head) (hh : h ∈ heads) := drops_take e.options.maxHeads hspread mem sorted hh
    (better h ((perm_ordered heads).mem_iff.2 hh))
  have first : (merged.take e.options.maxHeads).Sublist merged := List.take_sublist _ _
  have length_le : (merged.take e.options.maxHeads).length ≤ e.options.maxHeads :=
    List.length_take_le _ _
  rw [left]
  unfold withoutChoices
  split
  -- The head that is left alone has no choices any more, which makes it no worse.
  · next only honly =>
    have honly' : only ∈ heads := mem only (first.subset (honly ▸ List.mem_cons_self))
    refine ⟨⟨?_, List.pairwise_singleton _ _, List.pairwise_singleton _ _, ?_, ?_⟩,
      spread_singleton _⟩
    · rwa [honly] at length_le
    · exact fun k _ => .inr ⟨only, honly', rfl⟩
    · intro h hh
      have forget (hlt : only.preference h = .lt) :
          ({ only with path := [] } : Head).preference h = .lt := by
        refine preference_forget hlt (List.Pairwise.forall hspread honly' hh ?_)
        rintro rfl
        rw [preference_self] at hlt
        cases hlt
      rw [honly] at drops
      rcases drops h hh with hmem | ⟨hlength, hworse⟩ | ⟨k, hk, hsame, hlt⟩
      · rw [List.mem_singleton.1 hmem]
        exact .inr (.inl rfl)
      · refine .inr (.inr (.inl ⟨hlength, fun k hk => ?_⟩))
        rw [List.mem_singleton.1 hk]
        exact forget (hworse only List.mem_cons_self)
      · obtain rfl := List.mem_singleton.1 hk
        exact .inr (.inr (.inr ⟨_, List.mem_singleton_self _, hsame, forget hlt⟩))
  · exact ⟨⟨length_le, sorted.sublist first, hstates.sublist first,
      fun k hk => .inl (mem k (first.subset hk)),
      fun h hh => (drops h hh).imp_right .inr⟩,
      ((hspread.of_perm (perm_ordered heads).symm).sublist hsub).sublist first⟩

/-! ## Steps -/

/-- Taking a token changes no choices. -/
theorem spread_shifted {shifts : List (Head × Option StateId)} (h : Spread (shifts.map Prod.fst))
    (fragile : Bool) (missing : Option SymbolId) :
    Spread (shifts.map (shifted token fragile missing)) := by
  have path (x : Head × Option StateId) : (shifted token fragile missing x).path = x.1.path := by
    cases missing <;> rfl
  refine List.pairwise_map.2 ((List.pairwise_map.1 h).imp fun {x y} hxy => ?_)
  rwa [path, path]

/-- What is left of heads whose choices are apart when they have taken a token. -/
theorem selects_of_shift {shifts : List (Head × Option StateId)} {fragile : Bool} {u : Unit}
    {missing : Option SymbolId} (hspread : Spread (shifts.map Prod.fst))
    (hr : Returns (e.shift shifts token fragile missing) c u c') :
    Selects e.options.maxHeads
      (shifts.map (shifted token (fragile || decide (1 < shifts.length)) missing)) c'.heads ∧
        Spread c'.heads := by
  simp only [shift, returns_bind, returns_modify] at hr
  obtain ⟨heads, d, hmap, _, _, rfl, hmerge⟩ := hr
  obtain ⟨-, rfl⟩ := returns_mapM_shiftHead hmap
  exact selects_of_mergeHeads (spread_shifted hspread _ _) hmerge

theorem ranked_of_shift {shifts : List (Head × Option StateId)} {fragile : Bool} {u : Unit}
    {missing : Option SymbolId} (hne : shifts ≠ []) (hspread : Spread (shifts.map Prod.fst))
    (hr : Returns (e.shift shifts token fragile missing) c u c') :
    Ranked e.options.maxHeads c'.heads := by
  obtain ⟨selects, spread⟩ := selects_of_shift hspread hr
  obtain ⟨kept, quiet, hkept, -⟩ := returns_shift hne hr
  exact ⟨quiet.heads ▸ hkept, selects.length_le, selects.sorted, selects.states, spread⟩

theorem heads_of_tryReuse {shifts : List (Head × Option StateId)}
    (hr : Returns (e.tryReuse shifts token) c true c') : ∃ h, c'.heads = [h] := by
  unfold Engine.tryReuse at hr
  split at hr
  · rw [returns_get_bind] at hr
    dsimp only at hr
    split at hr
    · cases (returns_pure.1 hr).1
    · simp only [returns_bind, returns_record, returns_modify, returns_pure] at hr
      obtain ⟨_, _, -, _, _, rfl, _, _, rfl, -, rfl⟩ := hr
      exact ⟨_, rfl⟩
  · cases (returns_pure.1 hr).1

/-- A token that was made welcome is tried by one head. -/
theorem heads_of_repair {head : Head} {token' : Token}
    (hr : Returns (e.repair head token) c (some token') c') : ∃ h, c'.heads = [h] := by
  have popping {d : Configuration} (hr : Returns (e.repairByPopping head token) d (some token') c') :
      ∃ h, c'.heads = [h] := by
    rw [Engine.repairByPopping, returns_get_bind] at hr
    split at hr
    · simp only [returns_bind] at hr
      obtain ⟨head', _, -, hr⟩ := hr
      cases head' with
      | none => cases (returns_pure.1 hr).1
      | some head' =>
        simp only [returns_bind, returns_modify, returns_pure] at hr
        obtain ⟨_, _, rfl, -, rfl⟩ := hr
        exact ⟨head', rfl⟩
    · cases (returns_pure.1 hr).1
  rw [Engine.repair, returns_get_bind] at hr
  split at hr
  · simp only [returns_bind] at hr
    obtain ⟨inserted, _, -, hr⟩ := hr
    cases inserted with
    | none => exact popping hr
    | some inserted =>
      simp only [returns_bind, returns_modify, returns_pure] at hr
      obtain ⟨_, _, rfl, -, rfl⟩ := hr
      exact ⟨inserted.1, rfl⟩
  · exact popping hr

theorem heads_of_giveUp {head : Head} (hr : Returns (e.giveUp head token) c none c') :
    c'.heads = [head] := by
  unfold Engine.giveUp at hr
  split at hr
  · simp only [returns_bind, returns_pure] at hr
    obtain ⟨_, _, -, hr, -⟩ := hr
    cases hr
  · simp only [returns_bind, Engine.skip, returns_record, returns_modify, returns_pure] at hr
    obtain ⟨_, _, ⟨_, _, rfl, rfl⟩, -, rfl⟩ := hr
    rfl

/-- Closing an error node changes no choices. -/
theorem spread_resume (hc : Spread c.heads) {resumed : Bool}
    (hr : Returns (e.resume token) c resumed c') : Spread c'.heads := by
  rw [Engine.resume, returns_get_bind] at hr
  split at hr
  · exact (returns_pure.1 hr).2 ▸ hc
  · next head rest hheads =>
    dsimp only at hr
    split at hr
    · simp only [returns_bind, returns_set, returns_pure] at hr
      obtain ⟨_, _, rfl, -, rfl⟩ := hr
      rw [hheads] at hc
      exact List.pairwise_cons.2 (List.pairwise_cons.1 hc)
    · exact (returns_pure.1 hr).2 ▸ hc

/-! ## Whole parses -/

variable (hfew : ∀ q s, (e.table.actions q s).length ≤ choiceLimit)
include hfew

theorem ranked_of_advance (hc : Spread c.heads) {recovering : Bool}
    (hr : Returns (e.advance token recovering) c .taken c') :
    Ranked e.options.maxHeads c'.heads := by
  obtain ⟨phase, d, hphase, h⟩ := returns_advance hr
  have spread := spread_reducePhase hfew hphase hc
  cases h with
  | reused _ _ hreuse =>
    obtain ⟨h, hheads⟩ := heads_of_tryReuse hreuse
    exact hheads ▸ ranked_singleton h e.options.maxHeads_pos
  | shifted _ hne _ hshift =>
    exact ranked_of_shift hne (spread.sublist (List.sublist_append_left _ _)) hshift

theorem ranked_of_attempt (hc : Spread c.heads) {again : Bool}
    (hr : Returns (e.attempt token again) c .taken c') : Ranked e.options.maxHeads c'.heads := by
  rw [Engine.attempt, returns_get_bind] at hr
  split at hr
  · exact ranked_of_advance hfew hc hr
  · simp only [returns_bind] at hr
    obtain ⟨resumed, d, hresume, hr⟩ := hr
    cases resumed with
    | true => exact ranked_of_advance hfew (spread_resume hc hresume) hr
    | false => cases (returns_pure.1 hr).1

theorem ranked_of_consume {repairs : Nat} (hc : Spread c.heads) {result : Option Subtree}
    (hr : Returns (e.consume repairs token) c result c') :
    result = none → Ranked e.options.maxHeads c'.heads := by
  have alone {head : Head} (h : c'.heads = [head]) : Ranked e.options.maxHeads c'.heads :=
    h ▸ ranked_singleton head e.options.maxHeads_pos
  induction returns_consume hr with
  | finished _ => exact nofun
  | taken hattempt => exact fun _ => ranked_of_attempt hfew hc hattempt
  | last _ _ hgiven =>
    rintro rfl
    exact alone (heads_of_giveUp hgiven)
  | beyond _ _ _ hgiven =>
    rintro rfl
    exact alone (heads_of_giveUp hgiven)
  | repaired _ _ hrepair hr' _ ih =>
    obtain ⟨h, hheads⟩ := heads_of_repair hrepair
    exact ih (hheads ▸ spread_singleton h) hr' alone

variable {fuel : Option Nat}

theorem Between.ranked (hc : e.Between fuel c) : Ranked e.options.maxHeads c.heads := by
  induction hc with
  | start => exact ranked_singleton _ e.options.maxHeads_pos
  | next _ hr ih =>
    simp only [returns_bind] at hr
    obtain ⟨_, _, hpoll, _, _, hnext, hconsume⟩ := hr
    have hheads := (returns_pull (returns_bind.2 ⟨_, _, hpoll, hnext⟩)).2
    exact ranked_of_consume hfew (hheads ▸ ih.spread) hconsume rfl

theorem Tries.ranked {repairs : Nat} (hc : e.Tries fuel repairs token c) :
    Ranked e.options.maxHeads c.heads := by
  cases hc with
  | pulled hc hr =>
    rw [(returns_pull hr).2]
    exact hc.ranked hfew
  | repaired _ _ hr =>
    simp only [returns_bind] at hr
    obtain ⟨_, _, -, hrepair⟩ := hr
    obtain ⟨h, hheads⟩ := heads_of_repair hrepair
    exact hheads ▸ ranked_singleton h e.options.maxHeads_pos

theorem Faces.spread (hc : e.Faces fuel token c) : Spread c.heads := by
  cases hc with
  | tried hc _ => exact (hc.ranked hfew).spread
  | resumed hc _ hresume => exact spread_resume (hc.ranked hfew).spread hresume

omit hfew in
/-- What comes of the heads at a token does not hang on how they are stored. -/
structure Ranks (e : Engine) (token : Token) (phase : Phase) : Prop where
  spread : Spread phase.heads
  order : StrictlyOrdered phase.heads
  /-- Where no head accepts and none takes the token, there is one with which nothing can be done. -/
  stuck : Head.preferred phase.accepts = none → phase.shifts = [] →
    ∃ h, Head.preferred phase.dead = some h
  accepts : ∀ heads, heads.Perm phase.accepts → Head.preferred heads = Head.preferred phase.accepts
  dead : ∀ heads, heads.Perm phase.dead → Head.preferred heads = Head.preferred phase.dead
  merge : ∀ heads, heads.Perm (phase.taken token) →
    e.mergeHeads heads = e.mergeHeads (phase.taken token)
  shift : ∀ c u c', Returns (e.shift phase.shifts token phase.fragile none) c u c' →
    Selects e.options.maxHeads (phase.taken token) c'.heads

/-- The heads of every parse are ranked, if the table has no more actions for a state and a token than
can be told apart: those that a token finds, and those that it leads to. -/
theorem heads_ranked (fuel : Option Nat) :
    (∀ c, e.Between fuel c → Ranked e.options.maxHeads c.heads) ∧
    (∀ repairs token c, e.Tries fuel repairs token c → Ranked e.options.maxHeads c.heads) ∧
    ∀ token c recovering phase c', e.Faces fuel token c →
      Returns (e.reducePhase token recovering) c phase c' → e.Ranks token phase := by
  refine ⟨fun c hc => hc.ranked hfew, fun repairs token c hc => hc.ranked hfew, ?_⟩
  intro token c recovering phase c' hc hphase
  have spread := spread_reducePhase hfew hphase (hc.spread hfew)
  have shifts : Spread (phase.shifts.map Prod.fst) :=
    spread.sublist (List.sublist_append_left _ _)
  have rest := spread.sublist (List.sublist_append_right _ (phase.accepts ++ phase.dead))
  have taken : Spread (phase.taken token) := spread_shifted shifts _ _
  have nonempty : c.heads ≠ [] := by
    cases hc with
    | tried hc _ => exact (hc.ranked hfew).nonempty
    | resumed hc hsome hresume =>
      have fair := (hc.fair (steady e) trivial).1
      exact ((steady e).resume_of_returns fair hsome hresume).2.1.nonempty
  exact {
    spread
    order := spread.strictlyOrdered
    stuck := exists_dead (exists_of_reducePhase hphase nonempty)
    accepts := fun heads hperm =>
      (preferred_of_perm (rest.sublist (List.sublist_append_left _ _)) hperm.symm).symm
    dead := fun heads hperm =>
      (preferred_of_perm (rest.sublist (List.sublist_append_right _ _)) hperm.symm).symm
    merge := fun heads hperm => by
      have same := taken.ordered_eq hperm
      unfold Head.ordered at same
      rw [mergeHeads, mergeHeads, same]
    shift := fun c u c' hr => (selects_of_shift shifts hr).1 }

end Engine

theorem ParseTable.length_actions_le {t : ParseTable} {n : Nat}
    (h : ∀ actions ∈ t.data.actionLists, actions.length ≤ n) (q : StateId) (s : SymbolId) :
    (t.actions q s).length ≤ n := by
  unfold ParseTable.actions
  split
  · split
    · next i _ =>
      cases hlist : t.data.actionLists[i]? with
      | none => exact Nat.zero_le _
      | some actions => exact h actions (Array.mem_of_getElem? hlist)
    · exact Nat.zero_le _
  · exact Nat.zero_le _

namespace Noted

/-- Two readings of a letter take the next one, and the heads of both are ranked. -/
theorem ranked_readings : (∀ q s, (engine.table.actions q s).length ≤ choiceLimit) ∧
    ∃ phase c', Parsing.Returns (engine.reducePhase ⟨2, 2, 2, 3, 3⟩ false) resumed phase c' ∧
      phase.shifts.length = 2 ∧ engine.Ranks ⟨2, 2, 2, 3, 3⟩ phase := by
  have lists : (engine.table.data.actionLists.all fun actions =>
      decide (actions.length ≤ choiceLimit)) = true := by
    cbv
  have few : ∀ q s, (engine.table.actions q s).length ≤ choiceLimit :=
    ParseTable.length_actions_le fun actions hactions =>
      of_decide_eq_true (Array.all_eq_true_iff_forall_mem.1 lists actions hactions)
  have shifted : ((engine.reducePhase ⟨2, 2, 2, 3, 3⟩ false).run.run resumed).1.toOption.map
      (fun phase => phase.shifts.length) = some 2 := by
    cbv
  cases hrun : (engine.reducePhase ⟨2, 2, 2, 3, 3⟩ false).run.run resumed with
  | mk result c' =>
    rw [hrun] at shifted
    cases result with
    | error e => cases shifted
    | ok phase =>
      exact ⟨few, phase, c', hrun, Option.some.inj shifted,
        (Engine.heads_ranked few none).2.2 _ _ _ _ _ faces_resumed hrun⟩

end Noted

end IncrementalGlr
