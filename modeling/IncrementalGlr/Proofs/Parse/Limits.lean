import IncrementalGlr.Proofs.Parse.Growth

/-!
Whole runs under limits. An engine with other limits differs only where it asks whether to stop, so it
deals with a token in the same way (`under_consume`). A run without limits therefore decides all runs
with limits (`Engine.Settles`): it has a cost, and it asks once for every token that it looks for. By
induction on the number of tokens that may be looked for, every run settles (`Engine.exists_settles`).
-/
namespace IncrementalGlr.Engine

open Parsing

variable (e : Engine)

/-! ## Engines with other limits -/

/-- The engine with so many actions to do, which asks `ask` whether to stop. -/
def under (fuel : Option Nat) (ask : Nat → Bool) : Engine :=
  { e with options := { e.options with fuel }, cancelled := ask }

variable (fuel : Option Nat) (ask : Nat → Bool)

theorem under_phaseLoop (token : Token) (fragile : Bool) (steps : Nat) (s : PhaseState) :
    (e.under fuel ask).phaseLoop token fragile steps s = e.phaseLoop token fragile steps s := by
  induction steps generalizing s with
  | zero => rfl
  | succ steps ih =>
    simp only [phaseLoop, ih]
    rfl

theorem under_reducePhase (token : Token) (recovering : Bool) :
    (e.under fuel ask).reducePhase token recovering = e.reducePhase token recovering := by
  simp only [reducePhase, under_phaseLoop]

theorem under_attempt (token : Token) (again : Bool) :
    (e.under fuel ask).attempt token again = e.attempt token again := by
  simp only [attempt, advance, under_reducePhase]
  rfl

theorem under_insertFirst (head : Head) (token : Token) (symbols : List SymbolId) :
    (e.under fuel ask).insertFirst head token symbols = e.insertFirst head token symbols := by
  induction symbols with
  | nil => rfl
  | cons symbol rest ih =>
    simp only [insertFirst, insertTerminal, under_reducePhase, ih]
    rfl

theorem under_repair (head : Head) (token : Token) :
    (e.under fuel ask).repair head token = e.repair head token := by
  simp only [repair, insert, under_insertFirst]
  rfl

theorem under_consume (repairs : Nat) (token : Token) :
    (e.under fuel ask).consume repairs token = e.consume repairs token := by
  induction repairs generalizing token with
  | zero =>
    simp only [consume, under_attempt]
    rfl
  | succ repairs ih =>
    simp only [consume, under_attempt, under_repair, ih]
    rfl

/-- The limit of the options is not looked at, only what is left of it. -/
theorem under_runFrom (pulls : Nat) :
    (e.under fuel ask).runFrom pulls = (e.under none ask).runFrom pulls := by
  induction pulls with
  | zero => rfl
  | succ pulls ih =>
    simp only [runFrom, under_consume, ih]
    rfl

/-! ## Whole runs -/

/-- The run from `c` without limits ends so, and decides what comes of it under limits: it has a cost,
it asks once for every token that it looks for, and it ends otherwise only if it is told to stop at one
of these times. -/
structure Settles (pulls : Nat) (c : Configuration) (result : Except ParseError Subtree)
    (c' : Configuration) (cost : Nat) : Prop where
  metered : Metered (fun _ => (e.under none fun _ => false).runFrom pulls) c result c' cost
  asks : c'.polls + c.pulled.length = c.polls + c'.pulled.length
  further : c.polls ≤ c'.polls
  unheard : ∀ {ask : Nat → Bool}, (∀ n < c'.polls, c.polls ≤ n → ask n = false) →
    ((e.under none ask).runFrom pulls).run.run { c with fuel := none } =
      (result, { c' with fuel := none })
  heard : ∀ {ask : Nat → Bool} {n : Nat}, n < c'.polls → c.polls ≤ n → ask n = true →
    (((e.under none ask).runFrom pulls).run.run { c with fuel := none }).1 = .error .cancelled

variable {e ask}

/-- The rest of a run after a token: it is at its end, or looks for the next one. -/
def goOn (e : Engine) (pulls : Nat) : Option Subtree → Parsing Subtree
  | some root => pure root
  | none => e.runFrom pulls

/-- A run begins with asking, looking for a token and dealing with it. -/
theorem runFrom_succ (pulls : Nat) : e.runFrom (pulls + 1) =
    e.poll >>= fun _ => e.nextToken >>= fun token => e.consume maxAttempts token >>= e.goOn pulls := rfl

theorem metered_poll {c : Configuration} (h : e.cancelled c.polls = false) :
    Metered (fun _ => e.poll) c (.ok ()) { c with polls := c.polls + 1 } 0 :=
  .of_free fun fuel => by rw [run_poll, h]; rfl

theorem metered_nextToken (c : Configuration) : Metered (fun _ => e.nextToken) c
    (.ok (e.following c))
    { c with lexState := none, trace := c.trace.push (.lex (e.following c)) } 0 :=
  .of_free fun _ => rfl

/-- Every run settles, by induction on the number of tokens that may be looked for. -/
theorem exists_settles (pulls : Nat) (c : Configuration) :
    ∃ result c' cost, e.Settles pulls c result c' cost := by
  induction pulls generalizing c with
  | zero =>
    exact ⟨.error .endless, c, 0, .of_free fun _ => rfl, rfl, Nat.le_refl _, fun _ => rfl,
      fun h h' => absurd h (Nat.not_lt.2 h')⟩
  | succ pulls ih =>
    let asked : Configuration := { c with polls := c.polls + 1 }
    let token := e.following asked
    let looked : Configuration :=
      { asked with lexState := none, trace := asked.trace.push (.lex token) }
    obtain ⟨outcome, d, cost, consumed, hpolls, hpulled⟩ :=
      ((e.tame_consume maxAttempts token).tameAt looked).metered
    have hpolls : d.polls = c.polls + 1 := hpolls
    have hpulled : d.pulled.length = c.pulled.length + 1 := by
      rw [hpulled]
      have row : looked.pulled = c.pulled ++ [token] := pulled_push asked (.lex token)
      rw [row, List.length_append, List.length_singleton]
    -- However it is told to stop, a run asks first, and then goes on in the same way.
    have begins (ask : Nat → Bool) :
        ((e.under none ask).runFrom (pulls + 1)).run.run { c with fuel := none } =
          if ask c.polls then (.error .cancelled, { asked with fuel := none })
          else ((e.under none ask).goOn pulls outcome).run.run { d with fuel := none } := by
      rw [runFrom_succ, run_bind, run_poll]
      cases htold : ask c.polls with
      | true =>
        rw [show (e.under none ask).cancelled _ = true from htold]
        rfl
      | false =>
        rw [show (e.under none ask).cancelled _ = false from htold]
        have looks : (e.under none ask).nextToken.run.run { asked with fuel := none } =
            (.ok token, { looked with fuel := none }) := rfl
        have deals := consumed.free
        rw [← e.under_consume none ask] at deals
        change ((e.under none ask).nextToken >>= fun token =>
          (e.under none ask).consume maxAttempts token >>= (e.under none ask).goOn pulls).run.run
            { asked with fuel := none } = _
        rw [run_bind, looks]
        change ((e.under none ask).consume maxAttempts token >>= (e.under none ask).goOn pulls).run.run
            { looked with fuel := none } = _
        rw [run_bind, deals]
        rfl
    have costs {result : Except ParseError Subtree} {c' : Configuration} {rest : Nat}
        (h : Metered (fun _ => (e.under none fun _ => false).goOn pulls outcome) d result c' rest) :
        Metered (fun _ => (e.under none fun _ => false).runFrom (pulls + 1)) c result c'
          (0 + (0 + (cost + rest))) := by
      rw [← e.under_consume none fun _ => false] at consumed
      rw [runFrom_succ]
      exact (metered_poll rfl).bind ((metered_nextToken asked).bind (consumed.bind h))
    cases outcome with
    | some root =>
      refine ⟨.ok root, d, _, costs (.of_free fun _ => rfl), by omega, by omega, ?_, ?_⟩
      · intro ask hnever
        rw [begins, if_neg (by rw [hnever _ (by omega) (Nat.le_refl _)]; decide)]
        rfl
      · intro ask n hn hn' htold
        obtain rfl : n = c.polls := by omega
        rw [begins, if_pos htold]
    | none =>
      obtain ⟨result, c', rest, settled⟩ := ih d
      have hasks := settled.asks
      have hfurther := settled.further
      refine ⟨result, c', _, costs settled.metered, by omega, by omega, ?_, ?_⟩
      · intro ask hnever
        rw [begins, if_neg (by rw [hnever _ (by omega) (Nat.le_refl _)]; decide)]
        exact settled.unheard fun n hn hn' => hnever n hn (by omega)
      · intro ask n hn hn' htold
        rw [begins]
        split
        · rfl
        · next hfirst =>
          have hne : n ≠ c.polls := fun h => hfirst (h ▸ htold)
          exact settled.heard hn (by omega) htold

end IncrementalGlr.Engine
