import IncrementalGlr.Proofs.Parse.Steps

/-!
No step is forgotten, no step hangs, and limits only cut work short. Whatever an engine does only adds
to the trace. Each part of dealing with a token comes to an end where the number of actions is not
limited; it then has a cost, and where the number is limited the same comes of it if the cost can be
paid, and nothing but `fuelExhausted` if it cannot (`Metered`, `Tame`). Only asking whether to stop and
looking for one token after another can end a parse otherwise.

Programs read the whole configuration, the number of actions that are left included, and write it back.
A program that goes on from what it has read is therefore compared with itself begun with another
number, as a function of that number.
-/
namespace IncrementalGlr

namespace Parsing

variable {α β : Type} {c : Configuration} {m : Option Nat → Parsing α}

/-- The work only adds to the trace, also if it ends the parse. -/
def Grows (m : Parsing α) (c : Configuration) : Prop :=
  c.trace.toList <+: (m.run.run c).2.trace.toList

/-- The work has this cost: it ends so if the actions are not limited or there are enough of them, and
ends the parse if there are not. -/
structure Metered (m : Option Nat → Parsing α) (c : Configuration) (result : Except ParseError α)
    (c' : Configuration) (cost : Nat) : Prop where
  free : (m none).run.run { c with fuel := none } = (result, { c' with fuel := none })
  enough : ∀ {n : Nat}, cost ≤ n →
    (m (some n)).run.run { c with fuel := some n } = (result, { c' with fuel := some (n - cost) })
  short : ∀ {n : Nat}, n < cost →
    ((m (some n)).run.run { c with fuel := some n }).1 = .error .fuelExhausted

/-- The work only adds to the trace, looks for no token, does not ask whether to stop, and has a cost. -/
structure TameAt (m : Option Nat → Parsing α) (c : Configuration) : Prop where
  grows : ∀ fuel, Grows (m fuel) { c with fuel }
  metered : ∃ a c' cost, Metered m c (.ok a) c' cost ∧ c'.polls = c.polls ∧ c'.pulled = c.pulled

/-- Work that is tame wherever it begins. -/
structure Tame (m : Parsing α) : Prop where
  tameAt : ∀ c, TameAt (fun _ => m) c

theorem Grows.of_returns {m : Parsing α} {a : α} {c' : Configuration} (h : Grows m c)
    (hr : Returns m c a c') : c.trace.toList <+: c'.trace.toList := by
  rw [Grows, hr] at h
  exact h

theorem Grows.bind {m : Parsing α} {f : α → Parsing β} (hm : Grows m c)
    (hf : ∀ a c', Returns m c a c' → Grows (f a) c') : Grows (m >>= f) c := by
  unfold Grows at hm ⊢
  rw [run_bind]
  generalize hrun : m.run.run c = outcome at hm
  obtain ⟨_ | a, d⟩ := outcome
  · exact hm
  · exact hm.trans (hf a d hrun)

/-- Costs add up. -/
theorem Metered.bind {f : α → Parsing β} {a : α} {result : Except ParseError β} {d c' : Configuration}
    {n k : Nat} (hm : Metered m c (.ok a) d n) (hf : Metered (fun _ => f a) d result c' k) :
    Metered (fun fuel => m fuel >>= f) c result c' (n + k) where
  free := by
    rw [run_bind, hm.free]
    exact hf.free
  enough {x} hx := by
    rw [run_bind, hm.enough (by omega), ← Nat.sub_sub]
    exact hf.enough (by omega)
  short {x} hx := by
    rw [run_bind]
    by_cases hn : x < n
    · have stopped := hm.short hn
      generalize (m (some x)).run.run { c with fuel := some x } = outcome at stopped ⊢
      obtain ⟨e | _, d'⟩ := outcome
      · exact congrArg Except.error (Except.error.inj stopped)
      · cases stopped
    · rw [hm.enough (by omega)]
      exact hf.short (by omega)

/-- What reads and writes no limit costs nothing. -/
theorem Metered.of_free {m : Parsing α} {result : Except ParseError α} {c' : Configuration}
    (h : ∀ fuel, m.run.run { c with fuel } = (result, { c' with fuel })) :
    Metered (fun _ => m) c result c' 0 where
  free := h none
  enough _ := h _
  short hn := absurd hn (Nat.not_lt_zero _)

theorem TameAt.bind {f : α → Parsing β} (hm : TameAt m c) (hf : ∀ a, Tame (f a)) :
    TameAt (fun fuel => m fuel >>= f) c where
  grows fuel := (hm.grows fuel).bind fun a c' _ => ((hf a).tameAt c').grows c'.fuel
  metered := by
    obtain ⟨a, d, n, first, hpolls, hpulled⟩ := hm.metered
    obtain ⟨b, c', k, second, hpolls', hpulled'⟩ := ((hf a).tameAt d).metered
    exact ⟨b, c', n + k, first.bind second, hpolls'.trans hpolls, hpulled'.trans hpulled⟩

theorem Tame.bind {m : Parsing α} {f : α → Parsing β} (hm : Tame m) (hf : ∀ a, Tame (f a)) :
    Tame (m >>= f) :=
  ⟨fun c => (hm.tameAt c).bind hf⟩

theorem Tame.grows {m : Parsing α} (h : Tame m) (c : Configuration) : Grows m c :=
  (h.tameAt c).grows c.fuel

/-- Tame work comes to an end where the number of actions is not limited. -/
theorem Tame.returns {m : Parsing α} (h : Tame m) (hfuel : c.fuel = none) :
    ∃ a c', Returns m c a c' ∧ c'.fuel = none := by
  obtain ⟨a, c', _, metered, -⟩ := (h.tameAt c).metered
  have free := metered.free
  rw [← hfuel] at free
  exact ⟨a, _, free, hfuel⟩

theorem tame_pure (a : α) : Tame (pure a : Parsing α) where
  tameAt c := ⟨fun _ => List.prefix_refl _, a, c, 0, .of_free fun _ => rfl, rfl, rfl⟩

theorem tameAt_get_bind {f : Configuration → Parsing β}
    (h : TameAt (fun fuel => f { c with fuel }) c) : TameAt (fun _ => get >>= f) c where
  grows := h.grows
  metered := by
    obtain ⟨b, c', cost, metered, unasked⟩ := h.metered
    exact ⟨b, c', cost, ⟨metered.free, metered.enough, metered.short⟩, unasked⟩

/-- What is done with what was read does not depend on the number of actions that are left. -/
theorem tame_get_bind {f : Configuration → Parsing β} (hf : ∀ c fuel, f { c with fuel } = f c)
    (h : ∀ c, Tame (f c)) : Tame (get >>= f) where
  tameAt c := by
    have same : (fun fuel => f { c with fuel }) = fun _ => f c := funext (hf c)
    apply tameAt_get_bind
    rw [same]
    exact (h c).tameAt c

theorem tameAt_set {d : Option Nat → Configuration} (hd : ∀ fuel, d fuel = { d none with fuel })
    (htrace : (d none).trace = c.trace) (hpolls : (d none).polls = c.polls) :
    TameAt (fun fuel => (set (d fuel) : Parsing PUnit)) c where
  grows fuel := by
    show c.trace.toList <+: (d fuel).trace.toList
    rw [hd fuel]
    exact htrace ▸ List.prefix_refl _
  metered := by
    have written (fuel : Option Nat) : (set (d fuel) : Parsing PUnit).run.run { c with fuel } =
        (.ok ⟨⟩, { d none with fuel }) := congrArg (Prod.mk _) (hd fuel)
    refine ⟨⟨⟩, d none, 0, ⟨written _, fun _ => written _, fun h => absurd h (Nat.not_lt_zero _)⟩,
      hpolls, ?_⟩
    exact congrArg (fun trace : Array TraceEvent => trace.toList.filterMap (·.token?)) htrace

/-- What was read is written back with some of it changed, but nothing of the limits. -/
theorem tame_get_set {g : Configuration → Configuration} {f : Configuration → PUnit → Parsing β}
    (hg : ∀ c, (g c).trace = c.trace ∧ (g c).polls = c.polls ∧
      ∀ fuel, g { c with fuel } = { g c with fuel })
    (hf : ∀ c fuel, f { c with fuel } = f c) (h : ∀ c u, Tame (f c u)) :
    Tame (get >>= fun c => set (g c) >>= f c) where
  tameAt c := by
    obtain ⟨htrace, hpolls, hfuel⟩ := hg c
    have same : (fun fuel => set (g { c with fuel }) >>= f { c with fuel }) =
        fun fuel => set { g c with fuel } >>= f c := funext fun fuel => by rw [hf c fuel, hfuel fuel]
    apply tameAt_get_bind
    rw [same]
    exact (tameAt_set (fun _ => rfl) htrace hpolls).bind (h c)

theorem tame_modify {f : Configuration → Configuration}
    (h : ∀ c, (f c).trace = c.trace ∧ (f c).polls = c.polls ∧
      ∀ fuel, f { c with fuel } = { f c with fuel }) : Tame (modify f : Parsing PUnit) := by
  have all : Tame (get >>= fun c => set (f c) >>= fun u => pure u) :=
    tame_get_set h (fun _ _ => rfl) fun _ u => tame_pure u
  exact all

theorem grows_record (event : TraceEvent) (c : Configuration) : Grows (record event) c := by
  show c.trace.toList <+: (c.trace.push event).toList
  rw [Array.toList_push]
  exact List.prefix_append _ _

theorem tame_record {event : TraceEvent} (h : event.token? = none) : Tame (record event) where
  tameAt c := ⟨fun _ => grows_record event _, (), { c with trace := c.trace.push event }, 0,
    .of_free fun _ => rfl, rfl, (quiet_record h).pulled⟩

theorem tame_spend : Tame spend where
  tameAt c := {
    grows := fun fuel => by
      cases fuel with
      | none => exact List.prefix_refl _
      | some n => cases n <;> exact List.prefix_refl _
    metered := by
      refine ⟨(), c, 1, ⟨rfl, fun {n} hn => ?_, fun {n} hn => ?_⟩, rfl, rfl⟩
      · obtain ⟨n, rfl⟩ := Nat.exists_eq_add_of_le' hn
        rfl
      · obtain rfl := Nat.lt_one_iff.1 hn
        rfl }

theorem tame_foldlM {f : β → α → Parsing β} (hf : ∀ b a, Tame (f b a)) (xs : List α) (b : β) :
    Tame (xs.foldlM f b) := by
  induction xs generalizing b with
  | nil => exact tame_pure b
  | cons x xs ih =>
    rw [List.foldlM_cons]
    exact (hf b x).bind ih

theorem tame_mapM {f : α → Parsing β} (hf : ∀ a, Tame (f a)) (xs : List α) : Tame (xs.mapM f) := by
  induction xs with
  | nil => exact tame_pure []
  | cons x xs ih =>
    rw [List.mapM_cons]
    exact (hf x).bind fun _ => ih.bind fun _ => tame_pure _

end Parsing

namespace Engine

open Parsing

variable (e : Engine)

/-! ## Dealing with heads -/

theorem tame_reduce (head : Head) (id : ProductionId) (token : Token) (fragile : Bool) :
    Tame (e.reduce head id token fragile) := by
  unfold Engine.reduce
  split
  · exact (tame_record rfl).bind fun _ => tame_pure _
  · exact tame_pure _

theorem tame_act (token : Token) (k : Circumstances) (head : Head) (s : PhaseState)
    (choice : Action × Nat) : Tame (e.act token k head s choice) := by
  refine tame_spend.bind fun _ => ?_
  obtain ⟨_ | _ | _ | _, i⟩ := choice
  · exact tame_pure _
  · exact tame_pure _
  · dsimp only
    split
    · exact tame_pure _
    · refine (e.tame_reduce ..).bind fun next => ?_
      cases next <;> exact tame_pure _
  · exact tame_pure _

theorem tame_actAll (token : Token) (fragile : Bool) (head : Head) (forked : Bool)
    (s : PhaseState) : Tame (e.actAll token fragile head forked s) := by
  unfold Engine.actAll
  dsimp only
  split
  · exact tame_pure _
  · split
    · exact (tame_record rfl).bind fun _ => tame_foldlM (fun _ _ => e.tame_act ..) _ _
    · exact tame_foldlM (fun _ _ => e.tame_act ..) _ _

theorem tame_phaseLoop (token : Token) (fragile : Bool) (fuel : Nat) (s : PhaseState) :
    Tame (e.phaseLoop token fragile fuel s) := by
  induction fuel generalizing s with
  | zero => exact tame_pure _
  | succ fuel ih =>
    unfold Engine.phaseLoop
    split
    · exact tame_pure _
    · exact (e.tame_actAll ..).bind fun s => ih s

theorem tame_reducePhase (token : Token) (recovering : Bool) :
    Tame (e.reducePhase token recovering) := by
  refine tame_get_bind (fun _ _ => rfl) fun c => ?_
  exact Tame.bind (tame_modify fun _ => ⟨rfl, rfl, fun _ => rfl⟩) fun _ => e.tame_phaseLoop ..

theorem tame_mergeInto (kept heads : List Head) : Tame (mergeInto kept heads) := by
  induction heads generalizing kept with
  | nil => exact tame_pure _
  | cons head rest ih =>
    unfold mergeInto
    split
    · exact (tame_record rfl).bind fun _ => ih kept
    · exact ih _

theorem tame_mergeHeads (heads : List Head) : Tame (e.mergeHeads heads) := by
  refine (tame_mergeInto ..).bind fun kept => ?_
  dsimp only
  split
  · exact (tame_record rfl).bind fun _ => tame_modify fun _ => ⟨rfl, rfl, fun _ => rfl⟩
  · exact tame_modify fun _ => ⟨rfl, rfl, fun _ => rfl⟩

theorem tame_shiftHead (token : Token) (fragile : Bool) (missing : Option SymbolId)
    (x : Head × Option StateId) : Tame (shiftHead token fragile missing x) := by
  refine (tame_record rfl).bind fun _ => ?_
  cases missing <;> exact tame_pure _

theorem tame_shift (shifts : List (Head × Option StateId)) (token : Token) (fragile : Bool)
    (missing : Option SymbolId) : Tame (e.shift shifts token fragile missing) :=
  (tame_mapM (tame_shiftHead token _ missing) _).bind fun _ =>
    Tame.bind (tame_modify fun _ => ⟨rfl, rfl, fun _ => rfl⟩) fun _ => e.tame_mergeHeads _

theorem tame_tryReuse (shifts : List (Head × Option StateId)) (token : Token) :
    Tame (e.tryReuse shifts token) := by
  unfold Engine.tryReuse
  split
  · refine tame_get_bind (fun _ _ => rfl) fun c => ?_
    dsimp only
    split
    · exact tame_pure _
    · exact tame_spend.bind fun _ => (tame_record rfl).bind fun _ =>
        Tame.bind (tame_modify fun _ => ⟨rfl, rfl, fun _ => rfl⟩) fun _ => tame_pure _
  · exact tame_pure _

theorem tame_advance (token : Token) (recovering : Bool) : Tame (e.advance token recovering) := by
  refine (e.tame_reducePhase ..).bind fun phase => ?_
  split
  · exact ((tame_record rfl).bind fun _ => tame_pure _).bind fun _ => tame_pure _
  · split
    · exact tame_pure _
    · refine (e.tame_tryReuse ..).bind fun reused => ?_
      cases reused
      · exact (e.tame_shift ..).bind fun _ => tame_pure _
      · exact tame_pure _

/-! ## Making a token welcome -/

theorem tame_resume (token : Token) : Tame (e.resume token) where
  tameAt c := by
    apply tameAt_get_bind
    obtain ⟨heads, position, lexState, pending, resync, stats, fuel, polls, trace⟩ := c
    dsimp only
    cases heads with
    | nil => exact (tame_pure _).tameAt _
    | cons head rest =>
      by_cases hwelcome : (e.table.isExtra token.symbol ||
        head.stack.viable e.table [] token.symbol) = true
      · simp only [hwelcome, if_true]
        refine TameAt.bind (tameAt_set (fun _ => ?_) ?_ ?_) fun _ => tame_pure _ <;> rfl
      · simp only [hwelcome]
        exact (tame_pure _).tameAt _

theorem tame_attempt (token : Token) (again : Bool) : Tame (e.attempt token again) := by
  refine tame_get_bind (fun _ _ => rfl) fun c => ?_
  split
  · exact e.tame_advance ..
  · refine (e.tame_resume token).bind fun resumed => ?_
    cases resumed
    · exact tame_pure _
    · exact e.tame_advance ..

theorem tame_inserted (symbol : SymbolId) (token : Token) : Tame (inserted symbol token) :=
  (tame_record rfl).bind fun _ => Tame.bind (tame_modify fun _ => ⟨rfl, rfl, fun _ => rfl⟩) fun _ => tame_pure _

theorem tame_insertTerminal (head : Head) (token : Token) (symbol : SymbolId) :
    Tame (e.insertTerminal head token symbol) := by
  refine Tame.bind (tame_modify fun _ => ⟨rfl, rfl, fun _ => rfl⟩) fun _ =>
    (e.tame_reducePhase ..).bind fun phase => ?_
  split
  · exact tame_pure _
  · exact (e.tame_shift ..).bind fun _ => tame_get_bind (fun _ _ => rfl) fun _ => tame_pure _

theorem tame_insertFirst (head : Head) (token : Token) (symbols : List SymbolId) :
    Tame (e.insertFirst head token symbols) := by
  induction symbols with
  | nil => exact tame_pure _
  | cons symbol rest ih =>
    refine (e.tame_insertTerminal ..).bind fun head' => ?_
    cases head' with
    | none => exact ih
    | some head' => exact (tame_inserted symbol token).bind fun _ => tame_pure _

theorem tame_insert (head : Head) (token : Token) : Tame (e.insert head token) := by
  unfold Engine.insert
  split
  · exact (tame_inserted _ token).bind fun _ => tame_pure _
  · exact e.tame_insertFirst ..

theorem tame_popToViable (head : Head) (token : Token) : Tame (e.popToViable head token) := by
  unfold Engine.popToViable
  split
  · exact tame_pure _
  · exact tame_get_set (fun _ => ⟨rfl, rfl, fun _ => rfl⟩) (fun _ _ => rfl) fun c _ =>
      (tame_record rfl).bind fun _ => tame_pure _

theorem tame_repairByPopping (head : Head) (token : Token) :
    Tame (e.repairByPopping head token) := by
  refine tame_get_bind (fun _ _ => rfl) fun c => ?_
  split
  · refine (e.tame_popToViable head token).bind fun popped => ?_
    cases popped with
    | none => exact tame_pure _
    | some head => exact Tame.bind (tame_modify fun _ => ⟨rfl, rfl, fun _ => rfl⟩) fun _ => tame_pure _
  · exact tame_pure _

theorem tame_repair (head : Head) (token : Token) : Tame (e.repair head token) := by
  refine tame_get_bind (fun _ _ => rfl) fun c => ?_
  split
  · refine (e.tame_insert head token).bind fun inserted => ?_
    cases inserted with
    | none => exact e.tame_repairByPopping head token
    | some x => exact Tame.bind (tame_modify fun _ => ⟨rfl, rfl, fun _ => rfl⟩) fun _ => tame_pure _
  · exact e.tame_repairByPopping head token

theorem tame_giveUp (head : Head) (token : Token) : Tame (e.giveUp head token) := by
  unfold Engine.giveUp
  split
  · exact ((tame_record rfl).bind fun _ => tame_get_bind (fun _ _ => rfl) fun _ => tame_pure _).bind
      fun _ => tame_pure _
  · have skipped : Tame (e.skip head token) :=
      (tame_record rfl).bind fun _ => tame_modify fun _ => ⟨rfl, rfl, fun _ => rfl⟩
    exact skipped.bind fun _ => tame_pure _

/-! ## One token after another -/

theorem tame_consume (repairs : Nat) (token : Token) : Tame (e.consume repairs token) := by
  induction repairs generalizing token with
  | zero =>
    refine (e.tame_attempt ..).bind fun progress => ?_
    cases progress with
    | finished root => exact tame_pure _
    | taken => exact tame_pure _
    | stuck head => exact tame_spend.bind fun _ => e.tame_giveUp head token
  | succ repairs ih =>
    refine (e.tame_attempt ..).bind fun progress => ?_
    cases progress with
    | finished root => exact tame_pure _
    | taken => exact tame_pure _
    | stuck head =>
      refine tame_spend.bind fun _ => (e.tame_repair head token).bind fun repaired => ?_
      cases repaired with
      | none => exact e.tame_giveUp head token
      | some token => exact ih token

/-- The token that is looked for next. -/
def following (e : Engine) (c : Configuration) : Token :=
  e.lexer.lex c.position (match c.lexState with
    | some state => [state]
    | none => c.heads.map Head.state)

/-- Looking for a token always finds one. -/
theorem run_nextToken (c : Configuration) : e.nextToken.run.run c =
    (.ok (e.following c), { c with lexState := none, trace := c.trace.push (.lex (e.following c)) }) :=
  rfl

theorem run_poll (c : Configuration) : e.poll.run.run c =
    (if e.cancelled c.polls then .error .cancelled else .ok (), { c with polls := c.polls + 1 }) := by
  change ((if e.cancelled c.polls then throw .cancelled else pure () : Parsing Unit).run.run _) = _
  split <;> rfl

theorem grows_nextToken (c : Configuration) : Grows e.nextToken c := by
  rw [Grows, run_nextToken, Array.toList_push]
  exact List.prefix_append _ _

theorem grows_poll (c : Configuration) : Grows e.poll c := by
  simp [Grows, run_poll]

theorem grows_runFrom (pulls : Nat) (c : Configuration) : Grows (e.runFrom pulls) c := by
  induction pulls generalizing c with
  | zero => exact List.prefix_refl _
  | succ pulls ih =>
    refine (e.grows_poll c).bind fun _ c _ => (e.grows_nextToken c).bind fun token c _ =>
      ((e.tame_consume maxAttempts token).grows c).bind fun result c _ => ?_
    cases result with
    | some root => exact (tame_pure root).grows c
    | none => exact ih c

/-! ## Looking for a token and trying it -/

variable {e} {c d c' : Configuration} {token : Token}

/-- Dealing with a token while none are put aside begins with trying it. Only if no head can take it
something else is done. -/
theorem advance_of_consume {repairs : Nat} {result : Option Subtree}
    (hr : Returns (e.consume repairs token) c result c') (hnone : c.pending = []) :
    ∃ recovering progress d, Returns (e.advance token recovering) c progress d ∧
      d.trace.toList <+: c'.trace.toList ∧ match progress with
        | .finished root => result = some root ∧ c' = d
        | .taken => result = none ∧ c' = d
        | .stuck _ => True := by
  have tried {again : Bool} {progress : Progress} {d : Configuration}
      (h : Returns (e.attempt token again) c progress d) :
      Returns (e.advance token again) c progress d := by
    rw [Engine.attempt, returns_get_bind, hnone] at h
    exact h
  cases returns_consume hr with
  | finished hattempt => exact ⟨_, _, c', tried hattempt, List.prefix_refl _, rfl, rfl⟩
  | taken hattempt => exact ⟨_, _, c', tried hattempt, List.prefix_refl _, rfl, rfl⟩
  | @last _ _ d d' _ _ head _ hattempt hspend hgiven =>
    have spent := (tame_spend.grows d).of_returns hspend
    have given := ((e.tame_giveUp head token).grows d').of_returns hgiven
    exact ⟨_, _, d, tried hattempt, spent.trans given, trivial⟩
  | @beyond _ _ _ d d' d₁ _ _ head _ hattempt hspend hrepair hgiven =>
    have spent := (tame_spend.grows d).of_returns hspend
    have mended := ((e.tame_repair head token).grows d').of_returns hrepair
    have given := ((e.tame_giveUp head token).grows d₁).of_returns hgiven
    exact ⟨_, _, d, tried hattempt, (spent.trans mended).trans given, trivial⟩
  | @repaired repairs _ token' _ d d' d₁ _ _ head _ hattempt hspend hrepair hr' _ =>
    have spent := (tame_spend.grows d).of_returns hspend
    have mended := ((e.tame_repair head token).grows d').of_returns hrepair
    have further := ((e.tame_consume repairs token').grows d₁).of_returns hr'
    exact ⟨_, _, d, tried hattempt, (spent.trans mended).trans further, trivial⟩

end Engine

end IncrementalGlr
