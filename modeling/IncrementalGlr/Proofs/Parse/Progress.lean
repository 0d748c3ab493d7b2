import IncrementalGlr.Proofs.Parse.Growth
import IncrementalGlr.Proofs.Parse.Guided

/-!
Parses come to an end. Dealing with a token repairs something a bounded number of times, and unless
that ends the parse it leads to a place further on in the text (`Engine.progress_of_consume`). For no
token is looked for at the end of the text but the end itself, and a table that closes texts has
nothing to do with that but to reduce and to accept (`ParseTable.Ends`). So a parse that is not told
to stop looks for at most one token more than there are bytes and then has a root
(`Engine.exists_course`), and what it did is told by its `Engine.Course`.
-/
namespace IncrementalGlr

/-- Something was made up or given up to go on after an error. -/
def TraceEvent.isRepair : TraceEvent → Bool
  | .insert _ _ | .skip _ _ _ | .pop _ | .wrap => true
  | _ => false

/-- The end of the text is never put on a stack. -/
structure ParseTable.Ends (t : ParseTable) : Prop extends t.EndApart where
  shift : ∀ {q : StateId} (target : Option StateId),
    Engine.taking target ∉ t.actions q endSymbol

/-- The same token, but for the padding before it. -/
structure Token.Agrees (t t' : Token) : Prop where
  symbol : t'.symbol = t.symbol
  start : t'.start = t.start
  stop : t'.stop = t.stop

namespace Engine

open Parsing Text

variable {e : Engine} {token : Token} {c c' c'' : Configuration} {n m : Nat}

/-! ## What is added to the trace -/

/-- What was done since added to the trace, without looking for a token, and no more than `n` times
was something repaired. -/
def Adds (n : Nat) (c c' : Configuration) : Prop :=
  ∃ events, c'.trace.toList = c.trace.toList ++ events ∧
    (∀ event ∈ events, event.token? = none) ∧ events.countP TraceEvent.isRepair ≤ n

theorem Adds.refl (c : Configuration) : Adds n c c :=
  ⟨[], (List.append_nil _).symm, fun _ h => absurd h List.not_mem_nil, Nat.zero_le _⟩

theorem Adds.trans (h : Adds n c c') (h' : Adds m c' c'') : Adds (n + m) c c'' := by
  obtain ⟨events, htrace, hnone, hcount⟩ := h
  obtain ⟨events', htrace', hnone', hcount'⟩ := h'
  refine ⟨events ++ events', ?_, ?_, ?_⟩
  · rw [htrace', htrace, List.append_assoc]
  · exact List.forall_mem_append.2 ⟨hnone, hnone'⟩
  · rw [List.countP_append]
    exact Nat.add_le_add hcount hcount'

theorem Adds.mono (h : Adds n c c') (hle : n ≤ m) : Adds m c c' := by
  obtain ⟨events, htrace, hnone, hcount⟩ := h
  exact ⟨events, htrace, hnone, Nat.le_trans hcount hle⟩

theorem adds_of_trace (h : c'.trace = c.trace) : Adds 0 c c' :=
  ⟨[], by rw [h, List.append_nil], fun _ h => absurd h List.not_mem_nil, Nat.zero_le _⟩

/-- A step of another kind than looking for a token is recorded. -/
theorem adds_record {event : TraceEvent} (h : event.token? = none) {u : Unit}
    (hr : Returns (record event) c u c') : Adds (if event.isRepair then 1 else 0) c c' := by
  rw [returns_record.1 hr]
  refine ⟨[event], Array.toList_push, fun x hx => List.mem_singleton.1 hx ▸ h, ?_⟩
  rw [List.countP_singleton]

theorem adds_spend {u : Unit} (hr : Returns Parsing.spend c u c') : Adds 0 c c' := by
  obtain ⟨fuel, rfl⟩ := hr.spend
  exact adds_of_trace rfl

/-! ## Reducing and taking tokens repairs nothing -/

theorem Acted.plain {k : Circumstances} {head : Head} {s s' : PhaseState} {choice : Action × Nat}
    {events : List TraceEvent} (h : Acted e token k head s choice s' events) :
    ∀ event ∈ events, event.token? = none ∧ event.isRepair = false := by
  cases h with
  | reduce =>
    intro event hevent
    rw [List.mem_singleton.1 hevent]
    exact ⟨rfl, rfl⟩
  | _ => exact fun _ h => absurd h List.not_mem_nil

theorem ActedAll.plain {k : Circumstances} {head : Head} {s s' : PhaseState}
    {choices : List (Action × Nat)} {events : List TraceEvent}
    (h : ActedAll e token k head s choices s' events) :
    ∀ event ∈ events, event.token? = none ∧ event.isRepair = false := by
  induction h with
  | nil => exact fun _ h => absurd h List.not_mem_nil
  | cons hact _ ih => exact List.forall_mem_append.2 ⟨hact.plain, ih⟩

theorem Handled.plain {fragile forked : Bool} {head : Head} {s s' : PhaseState}
    {events : List TraceEvent} (h : Handled e token fragile forked head s s' events) :
    ∀ event ∈ events, event.token? = none ∧ event.isRepair = false := by
  cases h with
  | dead => exact fun _ h => absurd h List.not_mem_nil
  | acted _ _ hall =>
    refine List.forall_mem_append.2 ⟨fun event hevent => ?_, hall.plain⟩
    split at hevent
    · rw [List.mem_singleton.1 hevent]
      exact ⟨rfl, rfl⟩
    · cases hevent

theorem Loops.plain {fragile : Bool} {fuel : Nat} {s s' : PhaseState} {events : List TraceEvent}
    (h : Loops e token fragile fuel s s' events) :
    ∀ event ∈ events, event.token? = none ∧ event.isRepair = false := by
  induction h with
  | out => exact fun _ h => absurd h List.not_mem_nil
  | done => exact fun _ h => absurd h List.not_mem_nil
  | step _ hhandled _ ih => exact List.forall_mem_append.2 ⟨hhandled.plain, ih⟩

theorem adds_reducePhase {recovering : Bool} {phase : Phase}
    (hr : Returns (e.reducePhase token recovering) c phase c') : Adds 0 c c' := by
  obtain ⟨-, _, events, -, htrace, loops⟩ := returns_reducePhase hr
  refine ⟨events, htrace, fun event h => (loops.plain event h).1, Nat.le_of_eq ?_⟩
  exact List.countP_eq_zero.2 fun event h => by rw [(loops.plain event h).2]; decide

theorem adds_mapM_shiftHead {fragile : Bool} {missing : Option SymbolId}
    {xs : List (Head × Option StateId)} {hs : List Head}
    (hr : Returns (xs.mapM (shiftHead token fragile missing)) c hs c') : Adds 0 c c' := by
  induction xs generalizing c hs with
  | nil =>
    obtain ⟨-, rfl⟩ := returns_pure.1 hr
    exact .refl _
  | cons x xs ih =>
    simp only [List.mapM_cons, returns_bind, returns_pure] at hr
    obtain ⟨h, d, hx, rest, _, hxs, -, rfl⟩ := hr
    have one : Adds 0 c d := by
      simp only [shiftHead, returns_bind] at hx
      obtain ⟨_, _, hrecord, hx⟩ := hx
      cases missing <;>
      · obtain ⟨-, rfl⟩ := returns_pure.1 hx
        exact adds_record rfl hrecord
    exact one.trans (ih hxs)

theorem adds_mergeInto {kept heads merged : List Head}
    (hr : Returns (mergeInto kept heads) c merged c') : Adds 0 c c' := by
  induction heads generalizing kept c with
  | nil =>
    obtain ⟨-, rfl⟩ := returns_pure.1 hr
    exact .refl _
  | cons head rest ih =>
    rw [mergeInto] at hr
    split at hr
    · simp only [returns_bind] at hr
      obtain ⟨_, _, hrecord, hr⟩ := hr
      exact (adds_record rfl hrecord).trans (ih hr)
    · exact ih hr

theorem adds_mergeHeads {heads : List Head} {u : Unit}
    (hr : Returns (e.mergeHeads heads) c u c') : Adds 0 c c' := by
  simp only [mergeHeads, returns_bind] at hr
  obtain ⟨merged, d, hmerge, hr⟩ := hr
  have merging := adds_mergeInto hmerge
  split at hr
  · simp only [returns_bind, returns_modify] at hr
    obtain ⟨_, _, hrecord, rfl⟩ := hr
    exact merging.trans ((adds_record rfl hrecord).trans (adds_of_trace rfl))
  · obtain rfl := returns_modify.1 hr
    exact merging.trans (adds_of_trace rfl)

theorem adds_shift {shifts : List (Head × Option StateId)} {fragile : Bool}
    {missing : Option SymbolId} {u : Unit}
    (hr : Returns (e.shift shifts token fragile missing) c u c') : Adds 0 c c' := by
  simp only [shift, returns_bind, returns_modify] at hr
  obtain ⟨heads, d, hmap, _, _, rfl, hr⟩ := hr
  have moved : Adds 0 d { d with position := token.stop } := adds_of_trace rfl
  exact (adds_mapM_shiftHead hmap).trans (moved.trans (adds_mergeHeads hr))

/-! ## Trying a token -/

/-- The place in the text is as it was, or it is where the token begins. -/
def Stays (token : Token) (c c' : Configuration) : Prop :=
  c'.position = c.position ∨ c'.position = token.start

/-- The token is taken, or an old subtree with text in its stead. -/
inductive Takes (e : Engine) (token : Token) (c c' : Configuration) : Prop where
  | token (h : c'.position = token.stop)
  | subtree (t : Subtree) (old : e.reuse.isSome = true) (hsize : 0 < t.size)
      (h : c'.position = c.position + t.total)

theorem Stays.trans (h : Stays token c c') (h' : Stays token c' c'') : Stays token c c'' := by
  rcases h' with h' | h'
  · exact h.imp h'.trans h'.trans
  · exact .inr h'

theorem position_of_shift {shifts : List (Head × Option StateId)} {fragile : Bool}
    {missing : Option SymbolId} {u : Unit} (hne : shifts ≠ [])
    (hr : Returns (e.shift shifts token fragile missing) c u c') : c'.position = token.stop :=
  have ⟨_, quiet, _⟩ := returns_shift hne hr
  quiet.position

theorem takes_of_tryReuse {shifts : List (Head × Option StateId)} {reused : Bool}
    (hr : Returns (e.tryReuse shifts token) c reused c') :
    Adds 0 c c' ∧ if reused then Takes e token c c' else c' = c := by
  unfold Engine.tryReuse at hr
  split at hr
  · next head r reuse hreuse =>
    rw [returns_get_bind] at hr
    dsimp only at hr
    split at hr
    · obtain ⟨rfl, rfl⟩ := returns_pure.1 hr
      exact ⟨.refl _, rfl⟩
    · next t next hchoice =>
      simp only [returns_bind, returns_modify, returns_pure] at hr
      obtain ⟨_, d, hspend, _, d', hrecord, _, _, rfl, rfl, rfl⟩ := hr
      refine ⟨((adds_spend hspend).trans (adds_record rfl hrecord)).trans (adds_of_trace rfl),
        .subtree t (by rw [hreuse]; rfl) ?_ rfl⟩
      obtain ⟨x, -, hchosen⟩ := List.exists_of_findSome?_eq_some hchoice
      split at hchosen
      · next hreusable =>
        obtain ⟨_, -, hsame⟩ := Option.map_eq_some_iff.1 hchosen
        obtain ⟨rfl, -⟩ := Prod.mk.inj hsame
        simp only [ReuseCursor.reusable, Bool.and_eq_true, bne_iff_ne] at hreusable
        exact Nat.pos_of_ne_zero hreusable.1.1.1.1.1.2
      · cases hchosen
  · obtain ⟨rfl, rfl⟩ := returns_pure.1 hr
    exact ⟨.refl _, rfl⟩

/-- Where trying a token leads: it may be taken, but never the end of the text. -/
def Leads (e : Engine) (token : Token) (c c' : Configuration) : Progress → Prop
  | .taken => token.symbol ≠ endSymbol ∧ Takes e token c c'
  | _ => c'.position = c.position

theorem Leads.of_position {d : Configuration} {progress : Progress}
    (h : Leads e token d c' progress) (hp : d.position = c.position) :
    Leads e token c c' progress := by
  cases progress with
  | taken =>
    refine ⟨h.1, ?_⟩
    cases h.2 with
    | token h => exact .token h
    | subtree t old hsize h => exact .subtree t old hsize (hp ▸ h)
  | finished root => exact Eq.trans h hp
  | stuck head => exact Eq.trans h hp

theorem leads_of_advance (hends : e.table.Ends) {recovering : Bool} {progress : Progress}
    (hr : Returns (e.advance token recovering) c progress c') :
    Adds 0 c c' ∧ Leads e token c c' progress := by
  obtain ⟨phase, d, hphase, h⟩ := returns_advance hr
  have adds := adds_reducePhase hphase
  have position : d.position = c.position := (returns_reducePhase hphase).1.position
  have always : e.Keeps token fun _ => True := ⟨fun _ _ h => h, fun _ _ _ _ _ _ _ => trivial⟩
  have holds := always.reducePhase hphase fun _ _ => trivial
  -- A table of this kind takes the end of the text nowhere, so what is taken is a token with text.
  have text (hne : phase.shifts ≠ []) : token.symbol ≠ endSymbol := by
    intro hend
    obtain ⟨x, hx⟩ := List.exists_mem_of_ne_nil _ hne
    exact hends.shift x.2 (hend ▸ (holds.shifts x hx).2)
  cases h with
  | finished _ haccept =>
    simp only [returns_bind, returns_pure, Engine.accept] at haccept
    obtain ⟨_, _, hrecord, rfl, rfl⟩ := haccept
    exact ⟨adds.trans (adds_record rfl hrecord),
      (hrecord.quiet_of_record rfl).position.trans position⟩
  | stuck _ _ hc =>
    subst hc
    exact ⟨adds, position⟩
  | reused _ hne hreuse =>
    obtain ⟨adds', reuse⟩ := takes_of_tryReuse hreuse
    exact ⟨adds.trans adds', Leads.of_position ⟨text hne, reuse⟩ position⟩
  | shifted _ hne hreuse hshift =>
    obtain ⟨adds', -⟩ := takes_of_tryReuse hreuse
    exact ⟨adds.trans (adds'.trans (adds_shift hshift)), text hne,
      .token (position_of_shift hne hshift)⟩

theorem leads_of_attempt (hends : e.table.Ends) {again : Bool} {progress : Progress}
    (hr : Returns (e.attempt token again) c progress c') :
    Adds 0 c c' ∧ Leads e token c c' progress := by
  rw [Engine.attempt, returns_get_bind] at hr
  split at hr
  · exact leads_of_advance hends hr
  · simp only [returns_bind] at hr
    obtain ⟨resumed, d, hresume, hr⟩ := hr
    have quiet : d.trace = c.trace ∧ d.position = c.position := by
      rw [Engine.resume, returns_get_bind] at hresume
      split at hresume
      · rw [(returns_pure.1 hresume).2]
        exact ⟨rfl, rfl⟩
      · split at hresume
        · simp only [returns_bind, returns_set, returns_pure] at hresume
          obtain ⟨_, _, rfl, -, rfl⟩ := hresume
          exact ⟨rfl, rfl⟩
        · rw [(returns_pure.1 hresume).2]
          exact ⟨rfl, rfl⟩
    cases resumed with
    | true =>
      obtain ⟨adds, leads⟩ := leads_of_advance hends hr
      exact ⟨(adds_of_trace quiet.1).trans adds, leads.of_position quiet.2⟩
    | false =>
      obtain ⟨rfl, rfl⟩ := returns_pure.1 hr
      exact ⟨adds_of_trace quiet.1, quiet.2⟩

/-! ## Repairing -/

/-- One repair and a token that is still to be dealt with, or no repair at all. -/
def Mends (token : Token) (c c' : Configuration) : Option Token → Prop
  | some token' => Adds 1 c c' ∧ token.Agrees token'
  | none => Adds 0 c c'

theorem adds_insertTerminal {head : Head} {symbol : SymbolId} {result : Option Head}
    (hr : Returns (e.insertTerminal head token symbol) c result c') :
    Adds 0 c c' ∧ Stays token c c' := by
  simp only [Engine.insertTerminal, returns_bind, returns_modify] at hr
  obtain ⟨_, _, rfl, phase, d, hphase, hr⟩ := hr
  have adds : Adds 0 c d := Adds.trans (adds_of_trace rfl) (adds_reducePhase hphase)
  have position : d.position = c.position := (returns_reducePhase hphase).1.position
  split at hr
  · obtain ⟨-, rfl⟩ := returns_pure.1 hr
    exact ⟨adds, .inl position⟩
  · simp only [returns_bind, returns_get, returns_pure] at hr
    obtain ⟨_, d', hshift, _, _, ⟨rfl, rfl⟩, -, rfl⟩ := hr
    exact ⟨adds.trans (adds_shift hshift), .inr (position_of_shift (List.cons_ne_nil _ _) hshift)⟩

theorem mends_of_inserted {symbol : SymbolId} {token' : Token}
    (hr : Returns (inserted symbol token) c token' c') :
    Mends token c c' (some token') ∧ Stays token c c' := by
  simp only [Engine.inserted, returns_bind, returns_modify, returns_pure] at hr
  obtain ⟨_, _, hrecord, _, _, rfl, rfl, rfl⟩ := hr
  exact ⟨⟨(adds_record rfl hrecord).trans (adds_of_trace rfl), rfl, rfl, rfl⟩, .inr rfl⟩

theorem mends_of_insertFirst {head : Head} {symbols : List SymbolId}
    {result : Option (Head × Token)}
    (hr : Returns (e.insertFirst head token symbols) c result c') :
    Mends token c c' (result.map Prod.snd) ∧ Stays token c c' := by
  induction symbols generalizing c with
  | nil =>
    obtain ⟨rfl, rfl⟩ := returns_pure.1 hr
    exact ⟨.refl _, .inl rfl⟩
  | cons symbol rest ih =>
    simp only [Engine.insertFirst, returns_bind] at hr
    obtain ⟨head', d, hterminal, hr⟩ := hr
    obtain ⟨adds, stays⟩ := adds_insertTerminal hterminal
    cases head' with
    | none =>
      obtain ⟨mends, stays'⟩ := ih hr
      refine ⟨?_, stays.trans stays'⟩
      cases result with
      | none => exact adds.trans mends
      | some x => exact ⟨(adds.trans mends.1).mono (Nat.le_of_eq (Nat.zero_add 1)), mends.2⟩
    | some head' =>
      simp only [returns_bind, returns_pure] at hr
      obtain ⟨token', _, hinserted, rfl, rfl⟩ := hr
      obtain ⟨mends, stays'⟩ := mends_of_inserted hinserted
      exact ⟨⟨(adds.trans mends.1).mono (Nat.le_of_eq (Nat.zero_add 1)), mends.2⟩, stays.trans stays'⟩

theorem mends_of_insert {head : Head} {result : Option (Head × Token)}
    (hr : Returns (e.insert head token) c result c') :
    Mends token c c' (result.map Prod.snd) ∧ Stays token c c' := by
  unfold Engine.insert at hr
  split at hr
  · simp only [returns_bind, returns_pure] at hr
    obtain ⟨token', _, hinserted, rfl, rfl⟩ := hr
    exact mends_of_inserted hinserted
  · exact mends_of_insertFirst hr

theorem mends_of_repairByPopping {head : Head} {result : Option Token}
    (hr : Returns (e.repairByPopping head token) c result c') :
    Mends token c c' result ∧ c'.position = c.position := by
  rw [Engine.repairByPopping, returns_get_bind] at hr
  split at hr
  · simp only [returns_bind] at hr
    obtain ⟨head', d, hpop, hr⟩ := hr
    unfold Engine.popToViable at hpop
    split at hpop
    · obtain ⟨rfl, rfl⟩ := returns_pure.1 hpop
      obtain ⟨rfl, rfl⟩ := returns_pure.1 hr
      exact ⟨.refl _, rfl⟩
    · rw [returns_get_bind] at hpop
      simp only [returns_bind, returns_set, returns_pure] at hpop
      obtain ⟨_, _, rfl, _, _, hrecord, rfl, rfl⟩ := hpop
      simp only [returns_bind, returns_modify, returns_pure] at hr
      obtain ⟨_, _, rfl, rfl, rfl⟩ := hr
      have quiet := hrecord.quiet_of_record rfl
      have adds : Adds 1 c d := Adds.trans (n := 0) (adds_of_trace rfl) (adds_record rfl hrecord)
      exact ⟨⟨adds.trans (adds_of_trace rfl), rfl, rfl, rfl⟩, quiet.position⟩
  · obtain ⟨rfl, rfl⟩ := returns_pure.1 hr
    exact ⟨.refl _, rfl⟩

theorem mends_of_repair {head : Head} {result : Option Token}
    (hr : Returns (e.repair head token) c result c') :
    Mends token c c' result ∧ Stays token c c' := by
  rw [Engine.repair, returns_get_bind] at hr
  split at hr
  · simp only [returns_bind] at hr
    obtain ⟨inserted, d, hinsert, hr⟩ := hr
    obtain ⟨mends, stays⟩ := mends_of_insert hinsert
    cases inserted with
    | none =>
      obtain ⟨mends', position⟩ := mends_of_repairByPopping hr
      refine ⟨?_, stays.imp position.trans position.trans⟩
      cases result with
      | none => exact Adds.trans mends mends'
      | some token' =>
        exact ⟨(Adds.trans mends mends'.1).mono (Nat.le_of_eq (Nat.zero_add 1)), mends'.2⟩
    | some inserted =>
      simp only [returns_bind, returns_modify, returns_pure] at hr
      obtain ⟨_, _, rfl, rfl, rfl⟩ := hr
      exact ⟨⟨mends.1.trans (adds_of_trace rfl), mends.2⟩, stays⟩
  · obtain ⟨mends, position⟩ := mends_of_repairByPopping hr
    exact ⟨mends, .inl position⟩

/-! ## Dealing with a token -/

theorem adds_giveUp {head : Head} {result : Option Subtree}
    (hr : Returns (e.giveUp head token) c result c') : Adds 1 c c' ∧
      (result = none → token.symbol ≠ endSymbol ∧ Takes e token c c') := by
  unfold Engine.giveUp at hr
  split at hr
  · simp only [returns_bind, returns_pure, Engine.wrap, returns_get] at hr
    obtain ⟨root, _, ⟨_, _, hrecord, _, _, ⟨rfl, rfl⟩, rfl, rfl⟩, rfl, rfl⟩ := hr
    exact ⟨adds_record rfl hrecord, fun h => absurd h (Option.some_ne_none _)⟩
  · next htext =>
    simp only [returns_bind, Engine.skip, returns_modify, returns_pure] at hr
    obtain ⟨_, _, ⟨_, _, hrecord, rfl⟩, rfl, rfl⟩ := hr
    exact ⟨(adds_record rfl hrecord).trans (adds_of_trace rfl), fun _ => ⟨htext, .token rfl⟩⟩

/-- What dealing with a token leads to: where the parse goes on, the token or an old subtree with text
was taken, from where the token was looked for or where it begins. -/
theorem progress_of_consume (hends : e.table.Ends) {repairs : Nat} {result : Option Subtree}
    (hr : Returns (e.consume repairs token) c result c') : Adds (repairs + 1) c c' ∧
      (result = none → token.symbol ≠ endSymbol ∧ ∃ d, Stays token c d ∧ Takes e token d c') := by
  induction returns_consume hr with
  | finished hattempt =>
    obtain ⟨adds, -⟩ := leads_of_attempt hends hattempt
    exact ⟨adds.mono (Nat.zero_le _), fun h => absurd h (Option.some_ne_none _)⟩
  | @taken _ _ c _ _ hattempt =>
    obtain ⟨adds, leads⟩ := leads_of_attempt hends hattempt
    exact ⟨adds.mono (Nat.zero_le _), fun _ => ⟨leads.1, c, .inl rfl, leads.2⟩⟩
  | @last _ _ _ d' _ _ _ _ hattempt hspend hgiven =>
    obtain ⟨adds, leads⟩ := leads_of_attempt hends hattempt
    obtain ⟨adds', outcome⟩ := adds_giveUp hgiven
    have position := hspend.quiet_of_spend.position.trans leads
    exact ⟨(adds.trans (adds_spend hspend)).trans adds', fun h =>
      ⟨(outcome h).1, d', .inl position, (outcome h).2⟩⟩
  | @beyond _ _ _ _ _ d₁ _ _ _ _ hattempt hspend hrepair hgiven =>
    obtain ⟨adds, leads⟩ := leads_of_attempt hends hattempt
    obtain ⟨mends, stays⟩ := mends_of_repair hrepair
    obtain ⟨adds', outcome⟩ := adds_giveUp hgiven
    have position := hspend.quiet_of_spend.position.trans leads
    exact ⟨(((adds.trans (adds_spend hspend)).trans mends).trans adds').mono (by omega), fun h =>
      ⟨(outcome h).1, d₁, stays.imp (·.trans position) id, (outcome h).2⟩⟩
  | @repaired _ token _ c _ _ d₁ _ _ _ _ hattempt hspend hrepair hr' _ ih =>
    obtain ⟨adds, leads⟩ := leads_of_attempt hends hattempt
    obtain ⟨mends, stays⟩ := mends_of_repair hrepair
    obtain ⟨adds', outcome⟩ := ih hr'
    have position := hspend.quiet_of_spend.position.trans leads
    refine ⟨(((adds.trans (adds_spend hspend)).trans mends.1).trans adds').mono (by omega), fun h =>
      ?_⟩
    obtain ⟨htext, d₂, stays₂, takes⟩ := outcome h
    have stays₀ : Stays token c d₁ := stays.imp (·.trans position) id
    -- The repaired token begins and ends where the token does, so what is taken is the same.
    refine ⟨mends.2.symbol ▸ htext, d₂, stays₀.trans (stays₂.imp id (·.trans mends.2.start)), ?_⟩
    cases takes with
    | token h => exact .token (h.trans mends.2.stop)
    | subtree t old hsize h => exact .subtree t old hsize h

/-! ## One token after another -/

/-- The events of a parse from a place in the text on: tokens are looked for, each further on than the
one before, and at each of them no more is repaired than there are attempts. `T` is what is known of
the tokens. -/
inductive Course (T : Token → Prop) (size : Nat) : Nat → List TraceEvent → Prop where
  | last {position : Nat} {token : Token} {row : List TraceEvent} (ht : T token)
      (hp : token.paddingStart = position) (hnone : ∀ event ∈ row, event.token? = none)
      (hcount : row.countP TraceEvent.isRepair ≤ maxAttempts + 1) :
      Course T size position (.lex token :: row)
  | step {position next : Nat} {token : Token} {row rest : List TraceEvent} (ht : T token)
      (hp : token.paddingStart = position) (hnone : ∀ event ∈ row, event.token? = none)
      (hcount : row.countP TraceEvent.isRepair ≤ maxAttempts + 1) (hsize : position < size)
      (hlt : position < next) (hrest : Course T size next rest) :
      Course T size position (.lex token :: (row ++ rest))

/-- A row without an element that parts a list lies on one side of it. -/
theorem infix_of_infix_append_cons {α : Type} {row xs ys : List α} {x : α} (hx : x ∉ row)
    (h : row <:+: xs ++ x :: ys) : row <:+: xs ∨ row <:+: ys := by
  obtain ⟨before, after, heq⟩ := h
  rcases List.append_eq_append_iff.1 heq with ⟨more, rfl, -⟩ | ⟨more, hbefore, hafter⟩
  · exact .inl ⟨before, more, rfl⟩
  · cases more with
    | nil => exact .inl ⟨before, [], by rw [List.append_nil, hbefore, List.append_nil]⟩
    | cons y more =>
      obtain ⟨rfl, rfl⟩ := List.cons.inj hafter
      rcases List.append_eq_append_iff.1 hbefore with ⟨rest, -, rfl⟩ | ⟨rest, rfl, hrest⟩
      · exact absurd (List.mem_append_right rest List.mem_cons_self) hx
      · cases rest with
        | nil => exact absurd (List.mem_of_mem_head? (by rw [← List.nil_append row, ← hrest]; rfl)) hx
        | cons z rest =>
          obtain ⟨-, rfl⟩ := List.cons.inj hrest
          exact .inr ⟨rest, after, rfl⟩

namespace Course

variable {T : Token → Prop} {size position : Nat} {events : List TraceEvent}

theorem tokens_row {row : List TraceEvent} (hnone : ∀ event ∈ row, event.token? = none) :
    (TraceEvent.lex token :: row).filterMap (·.token?) = [token] := by
  rw [List.filterMap_cons, List.filterMap_eq_nil_iff.2 hnone]
  rfl

/-- The tokens are looked for further and further on, so there are at most as many of them as there
are bytes, and one more. -/
theorem tokens (h : Course T size position events) :
    (∀ t ∈ events.filterMap (·.token?), T t ∧ position ≤ t.paddingStart) ∧
      ((events.filterMap (·.token?)).map Token.paddingStart).Pairwise (· < ·) ∧
      (events.filterMap (·.token?)).length ≤ size - position + 1 := by
  induction h with
  | last ht hp hnone =>
    rw [tokens_row hnone]
    refine ⟨fun t h => ?_, List.pairwise_singleton _ _, Nat.le_add_left 1 _⟩
    rw [List.mem_singleton.1 h]
    exact ⟨ht, Nat.le_of_eq hp.symm⟩
  | step ht hp hnone _ hsize hlt _ ih =>
    obtain ⟨known, forward, few⟩ := ih
    rw [← List.cons_append, List.filterMap_append, tokens_row hnone, List.singleton_append]
    refine ⟨List.forall_mem_cons.2 ⟨⟨ht, Nat.le_of_eq hp.symm⟩, fun t h => ?_⟩, ?_, ?_⟩
    · exact ⟨(known t h).1, Nat.le_trans (Nat.le_of_lt hlt) (known t h).2⟩
    · refine List.pairwise_cons.2 ⟨fun n hn => ?_, forward⟩
      obtain ⟨t, ht', rfl⟩ := List.mem_map.1 hn
      exact hp ▸ Nat.lt_of_lt_of_le hlt (known t ht').2
    · rw [List.length_cons]
      omega

theorem exists_lex (h : Course T size position events) :
    ∃ token rest, events = .lex token :: rest := by
  cases h <;> exact ⟨_, _, rfl⟩

/-- At no token is more repaired than there are attempts. -/
theorem patient (h : Course T size position events) {row : List TraceEvent}
    (hrow : row <:+: events) (hnone : ∀ event ∈ row, event.token? = none) :
    row.countP TraceEvent.isRepair ≤ maxAttempts + 1 := by
  have apart : ∀ token, TraceEvent.lex token ∉ row := fun token h => by cases hnone _ h
  induction h with
  | last _ _ _ hcount =>
    rcases @infix_of_infix_append_cons _ _ [] _ _ (apart _) hrow with h | h
    · rw [List.infix_nil.1 h]
      exact Nat.zero_le _
    · exact Nat.le_trans h.sublist.countP_le hcount
  | step _ _ _ hcount _ _ hrest ih =>
    rcases @infix_of_infix_append_cons _ _ [] _ _ (apart _) hrow with h | h
    · rw [List.infix_nil.1 h]
      exact Nat.zero_le _
    -- What follows begins with a token, so the row is among the events at one token.
    · obtain ⟨next, rest, rfl⟩ := hrest.exists_lex
      rcases infix_of_infix_append_cons (apart _) h with h | h
      · exact Nat.le_trans h.sublist.countP_le hcount
      · exact ih (List.infix_cons h)

end Course

section Run

variable (hends : e.table.Ends) (hapart : e.lexer.table.EndApart)
include hapart

/-- What is known of a token where nothing is taken over: it begins at a character. -/
def Whole (e : Engine) (position : Nat) : Prop := e.reuse = none → IsBoundary e.lexer.text position

omit hapart in
theorem returns_nextToken (hr : Returns e.nextToken c token c') :
    (∃ states, token = e.lexer.lex c.position states) ∧ c'.position = c.position ∧
      c'.trace = c.trace.push (.lex token) := by
  rw [Engine.nextToken, returns_get_bind] at hr
  simp only [returns_bind, returns_set, returns_record, returns_pure] at hr
  obtain ⟨_, _, rfl, _, _, rfl, rfl, rfl⟩ := hr
  exact ⟨⟨_, rfl⟩, rfl, rfl⟩

/-- What is taken lies behind the place where the token was looked for, and ends at a character if the
token does. -/
theorem lt_of_takes {states : List StateId} {d : Configuration}
    (hwhole : e.Whole c.position) (hlex : token = e.lexer.lex c.position states)
    (htext : token.symbol ≠ endSymbol) (hstays : Stays token c d) (htakes : Takes e token d c') :
    c.position < c'.position ∧ e.Whole c'.position := by
  subst hlex
  have hstart := ((e.lexer.start_lex c.position states).2 htext).1
  have hstop := Lexer.nonempty_lex c.position states htext
  cases htakes with
  | token h =>
    refine ⟨by omega, fun hfresh => ?_⟩
    rw [h]
    exact (Lexer.lexed_lex hapart (hwhole hfresh) states).stop
  | subtree t old hsize h =>
    refine ⟨?_, fun hfresh => ?_⟩
    · have : t.total = t.padding + t.size := rfl
      rcases hstays with hd | hd <;> omega
    · rw [hfresh] at old
      cases old

include hends

/-- A parse that is not told to stop comes to an end. -/
theorem exists_course (hnever : ∀ n, e.cancelled n = false) {pulls : Nat} (hfuel : c.fuel = none)
    (hwhole : e.Whole c.position) (hpos : 0 < pulls) (hpulls : e.lexer.size < pulls + c.position) :
    ∃ root c' events, Returns (e.runFrom pulls) c root c' ∧
      c'.trace.toList = c.trace.toList ++ events ∧
      Course (fun t => e.Whole t.start) e.lexer.size c.position events := by
  induction pulls generalizing c with
  | zero => exact absurd hpos (Nat.lt_irrefl 0)
  | succ pulls ih =>
    have polled : Returns e.poll c () { c with polls := c.polls + 1 } := by
      rw [Engine.poll, returns_get_bind]
      refine returns_bind.2 ⟨⟨⟩, _, returns_set.2 rfl, ?_⟩
      rw [hnever]
      exact returns_pure.2 ⟨rfl, rfl⟩
    obtain ⟨token, c₁, hnext, hfuel₁⟩ : ∃ token c₁,
        Returns e.nextToken { c with polls := c.polls + 1 } token c₁ ∧ c₁.fuel = none :=
      ⟨_, _, e.run_nextToken _, hfuel⟩
    obtain ⟨result, c₂, hconsume, hfuel₂⟩ := (e.tame_consume maxAttempts token).returns hfuel₁
    obtain ⟨⟨states, hlex⟩, hposition, htrace⟩ := returns_nextToken hnext
    obtain ⟨⟨row, htrace', hnone, hcount⟩, goes⟩ := progress_of_consume hends hconsume
    have trace : c₂.trace.toList = c.trace.toList ++ .lex token :: row := by
      rw [htrace', htrace, Array.toList_push, List.append_assoc]
      rfl
    have whole : e.Whole token.start := fun hfresh => by
      rw [hlex]
      exact (Lexer.lexed_lex hapart (hwhole hfresh) states).start
    have place : token.paddingStart = c.position := by
      rw [hlex]
      exact (e.lexer.start_lex c.position states).1
    cases result with
    | some root =>
      refine ⟨root, c₂, _, ?_, trace, .last whole place hnone hcount⟩
      exact returns_bind.2 ⟨_, _, polled, returns_bind.2 ⟨_, _, hnext, returns_bind.2
        ⟨_, _, hconsume, returns_pure.2 ⟨rfl, rfl⟩⟩⟩⟩
    | none =>
      obtain ⟨htext, d, hstays, htakes⟩ := goes rfl
      have hstays' : Stays token c d := hstays.imp (·.trans hposition) id
      obtain ⟨hlt, whole₂⟩ := lt_of_takes hapart hwhole hlex htext hstays' htakes
      have hsize : c.position < e.lexer.size := by
        have := (e.lexer.start_lex c.position states).2 (hlex ▸ htext)
        omega
      obtain ⟨root, c', events, hrun, htrace'', course⟩ :=
        ih hfuel₂ whole₂ (by omega) (by omega)
      refine ⟨root, c', _, ?_, ?_, .step whole place hnone hcount hsize hlt course⟩
      · exact returns_bind.2 ⟨_, _, polled, returns_bind.2 ⟨_, _, hnext, returns_bind.2
          ⟨_, _, hconsume, hrun⟩⟩⟩
      · rw [htrace'', trace, List.append_assoc]
        rfl

end Run

end Engine

end IncrementalGlr
