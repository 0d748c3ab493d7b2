import IncrementalGlr.Proofs.Codec.Basic

/-!
Readers do not look at what follows. `Extends read wider` says that what `read` takes off an input,
`wider` takes off every input that goes on behind it, with the same value and with what goes on left
over. A reader of the format extends itself, and so no beginning of what was written can be read: what
it gave would have been given of the whole too, and something would have been left over
(`Extends.decode_error`). There are two readers in the relation because a reader of nested values is
given more room by a longer input.
-/
namespace IncrementalGlr.Codec

variable {α β : Type} {read wider : Decoder α} {x : α}

/-- What `read` takes off an input, `wider` takes off every input that goes on behind it. -/
def Extends (read wider : Decoder α) : Prop :=
  ∀ (input rest : List UInt8) (x : α), read.run input = .ok (x, rest) →
    ∀ more, wider.run (input ++ more) = .ok (x, rest ++ more)

theorem run_bind_eq_ok {next : α → Decoder β} {input rest : List UInt8} {y : β}
    (h : (read >>= next).run input = .ok (y, rest)) :
    ∃ x middle, read.run input = .ok (x, middle) ∧ (next x).run middle = .ok (y, rest) := by
  rw [StateT.run_bind] at h
  cases hfirst : read.run input with
  | error fault =>
    rw [hfirst] at h
    cases h
  | ok found =>
    rw [hfirst] at h
    exact ⟨found.1, found.2, rfl, h⟩

namespace Extends

/-! ## Readers put together -/

theorem pure (x : α) : Extends (pure x) (pure x) := by
  intro input rest y h more
  cases h
  rfl

theorem throw (fault : Fault) : Extends (throw fault : Decoder α) wider := by
  intro input rest y h
  cases h

theorem bind {next next' : α → Decoder β} (first : Extends read wider)
    (second : ∀ x, Extends (next x) (next' x)) : Extends (read >>= next) (wider >>= next') := by
  intro input rest y h more
  obtain ⟨x, middle, hfirst, hsecond⟩ := run_bind_eq_ok h
  rw [StateT.run_bind, first _ _ _ hfirst more]
  exact second x _ _ _ hsecond more

/-- What is read may be put in its place. -/
theorem map (h : Extends read wider) (f : α → β) : Extends (f <$> read) (f <$> wider) :=
  h.bind fun x => .pure (f x)

/-- A function that is read is applied to what is read behind it. -/
theorem seq {make make' : Decoder (α → β)} (hmake : Extends make make') (h : Extends read wider) :
    Extends (make <*> read) (make' <*> wider) :=
  hmake.bind fun f => h.map f

/-- Where a reader gives back what was written of the whole, it refuses every beginning of it. -/
theorem decode_error {front rest : List UInt8} (h : Extends read read) (hrest : rest ≠ [])
    (hwhole : Reads read (front ++ rest) x) (hcounted : (front ++ rest).length < 2 ^ 64) :
    ∃ fault, decode read front = .error fault := by
  rw [decode]
  cases hfront : read.run front with
  | error fault => exact ⟨fault, rfl⟩
  | ok found =>
    -- What follows would then be left over of the whole, but nothing is.
    have taken := h _ _ _ hfront rest
    have whole := hwhole hcounted []
    rw [List.append_nil, taken, Except.ok.injEq, Prod.mk.injEq] at whole
    exact absurd (List.append_eq_nil_iff.mp whole.2).2 hrest

/-! ## Numbers, texts, options and lists -/

theorem byte : Extends readByte readByte := by
  intro input rest b h more
  cases input with
  | nil => cases h
  | cons first input =>
    cases h
    rfl

theorem nat (bits : Nat) : Extends (readNat bits) (readNat bits) := by
  induction bits using Nat.strongRecOn with
  | ind bits ih =>
    rw [readNat]
    apply byte.bind
    intro b
    split
    · split
      · exact .pure _
      · exact .throw _
    · next hbits =>
      split
      · exact .pure _
      · exact (ih (bits - 7) (by omega)).bind fun n => .pure _

theorem int : Extends readInt readInt :=
  (nat 32).bind fun _ => .pure _

theorem bool : Extends readBool readBool := by
  apply byte.bind
  intro b
  split
  · exact .pure _
  · exact .pure _
  · exact .throw _

theorem exactly (n : Nat) : Extends (readExactly n) (readExactly n) := by
  intro input rest bytes h more
  change (if input.length < n then _ else _) = _ at h
  change (if (input ++ more).length < n then _ else _) = _
  split at h
  · cases h
  · next hlength =>
    have hlength : n ≤ input.length := Nat.not_lt.mp hlength
    cases h
    rw [if_neg (by rw [List.length_append]; omega), List.take_append_of_le_length hlength,
      List.drop_append_of_le_length hlength]

theorem bytes : Extends readBytes readBytes :=
  (nat 64).bind exactly

theorem text : Extends readText readText := by
  apply bytes.bind
  intro data
  split
  · exact .pure _
  · exact .throw _

theorem option (h : Extends read wider) : Extends (readOption read) (readOption wider) := by
  apply byte.bind
  intro b
  split
  · exact .pure _
  · exact h.map some
  · exact .throw _

theorem many (h : Extends read wider) (n : Nat) : Extends (readMany read n) (readMany wider n) := by
  induction n with
  | zero => exact .pure []
  | succ n ih => exact h.bind fun x => ih.map (x :: ·)

theorem list (h : Extends read wider) : Extends (readList read) (readList wider) :=
  (nat 64).bind h.many

end Extends

end IncrementalGlr.Codec
