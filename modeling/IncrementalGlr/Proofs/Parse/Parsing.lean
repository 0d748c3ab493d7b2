import IncrementalGlr.Parse.Engine

/-!
What work on a configuration does. `Returns m c a c'` says that `m`, begun in the configuration `c`,
comes to an end with the value `a` in the configuration `c'`. The rules below take such a statement
about a program apart into statements about its steps; a parse that ends in an error returns nothing.
-/
namespace IncrementalGlr.Parsing

variable {α β : Type}

/-- The work ends with this value in this configuration. -/
def Returns (m : Parsing α) (c : Configuration) (a : α) (c' : Configuration) : Prop :=
  m.run.run c = (.ok a, c')

variable {c c' : Configuration}

theorem run_bind (m : Parsing α) (f : α → Parsing β) (c : Configuration) :
    (m >>= f).run.run c = match m.run.run c with
      | (.ok a, d) => (f a).run.run d
      | (.error e, d) => (.error e, d) := by
  change (ExceptT.bindCont f (m.run.run c).1).run (m.run.run c).2 = _
  rcases m.run.run c with ⟨_ | _, d⟩ <;> rfl

@[simp] theorem returns_pure {a b : α} : Returns (pure a) c b c' ↔ b = a ∧ c' = c := by
  change (Except.ok a, c) = (Except.ok b, c') ↔ _
  rw [Prod.mk.injEq, Except.ok.injEq, eq_comm, eq_comm (a := c)]

@[simp] theorem returns_bind {m : Parsing α} {f : α → Parsing β} {b : β} :
    Returns (m >>= f) c b c' ↔ ∃ a d, Returns m c a d ∧ Returns (f a) d b c' := by
  simp only [Returns, run_bind]
  rcases m.run.run c with ⟨e | a, d⟩
  · constructor
    · intro h
      cases h
    · rintro ⟨_, _, h, _⟩
      cases h
  · constructor
    · exact fun h => ⟨a, d, rfl, h⟩
    · rintro ⟨_, _, h, h'⟩
      cases h
      exact h'

@[simp] theorem returns_get {d : Configuration} : Returns get c d c' ↔ d = c ∧ c' = c :=
  returns_pure

theorem returns_get_bind {f : Configuration → Parsing β} {b : β} :
    Returns (get >>= f) c b c' ↔ Returns (f c) c b c' := by
  simp only [returns_bind, returns_get]
  constructor
  · rintro ⟨_, _, ⟨rfl, rfl⟩, h⟩
    exact h
  · exact fun h => ⟨c, c, ⟨rfl, rfl⟩, h⟩

@[simp] theorem returns_set {d : Configuration} {u : PUnit} : Returns (set d) c u c' ↔ c' = d := by
  change (Except.ok PUnit.unit, d) = (Except.ok u, c') ↔ _
  rw [Prod.mk.injEq, eq_comm (a := d)]
  exact and_iff_right rfl

@[simp] theorem returns_modify {f : Configuration → Configuration} {u : PUnit} :
    Returns (modify f) c u c' ↔ c' = f c :=
  returns_set (c := c) (d := f c)

@[simp] theorem not_returns_throw {e : ParseError} {a : α} : ¬ Returns (throw e) c a c' := by
  intro h
  cases h

@[simp] theorem returns_record {event : TraceEvent} {u : Unit} :
    Returns (record event) c u c' ↔ c' = { c with trace := c.trace.push event } :=
  returns_modify

/-- Counting an action changes nothing but the fuel. -/
theorem Returns.spend {u : Unit} (h : Returns Parsing.spend c u c') :
    ∃ fuel, c' = { c with fuel } := by
  simp only [Parsing.spend, returns_bind, returns_get] at h
  obtain ⟨_, _, ⟨rfl, rfl⟩, h⟩ := h
  split at h
  · exact ⟨_, (returns_pure.1 h).2⟩
  · exact absurd h not_returns_throw
  · exact ⟨_, returns_modify.1 h⟩

end IncrementalGlr.Parsing
