import Mathlib
import IncrementalGlr.Regex.Parser

/-!
Reading an expression where more text stands behind it. An expression that is read to the end of a
text is read in the same way where a closing parenthesis and anything else follow, and where names
of groups were met before that it does not use itself (`Keeps`). There is one exception: with `x` a
comment at its end goes on to the end of the line, so that it swallows the parenthesis. That is why
both outcomes are carried along.

The rules follow the notation for work in sequence. A step that looks at the next character needs
one to be there, or must take a closing parenthesis for the end; a loop that is bounded by the
number of characters left may as well be bounded by more. What only asks for flags is `Idle`.
-/
namespace IncrementalGlr.Regex

variable {α β ι : Type} {s : Cursor}

/-- The same cursor where more text stands behind and where names were met before. -/
def Cursor.extend (s : Cursor) (names : List String) (more : List Char) : Cursor :=
  { s with text := s.text ++ more, names := s.names ++ names }

/-- Any of the ways `Q` to read on from `s` comes to `a` and `s'` where more text stands behind and
other names were met before. -/
structure Kept (s : Cursor) (Q : ι → Parser α) (a : α) (s' : Cursor) : Prop where
  names : s.names <:+ s'.names
  /-- Behind the end of the text nothing more is read. -/
  nothing : s.text = [] → s'.text = [] ∧ ∀ i ns, s'.names.Disjoint ns →
    Q i (s.extend ns []) = some (a, s'.extend ns [])
  /-- A closing parenthesis stays where it is, or a comment has swallowed it. -/
  more : (∀ i ns e, s'.names.Disjoint ns →
      Q i (s.extend ns (')' :: e)) = some (a, s'.extend ns (')' :: e))) ∨
    s'.text = [] ∧ ∀ i ns e, '\n' ∉ e → s'.names.Disjoint ns →
      Q i (s.extend ns (')' :: e)) = some (a, s'.extend ns [])

/-- Whatever comes of reading with `P` from `s` comes of reading with any of `Q` where more text
stands behind. -/
def Keeps (s : Cursor) (P : Parser α) (Q : ι → Parser α) : Prop :=
  ∀ a s', P s = some (a, s') → Kept s Q a s'

theorem bind_eq_some {P : Parser α} {F : α → Parser β} {b : β} {s'' : Cursor} :
    (P >>= F) s = some (b, s'') ↔ ∃ a s', P s = some (a, s') ∧ F a s' = some (b, s'') :=
  Option.bind_eq_some_iff.trans Prod.exists

theorem current_eq_some {c : Char} {s' : Cursor} :
    current s = some (c, s') ↔ s' = s ∧ ∃ more, s.text = c :: more := by
  obtain ⟨text, f, names⟩ := s
  cases text with
  | nil => exact ⟨nofun, fun ⟨_, _, h⟩ => nomatch h⟩
  | cons d more =>
    constructor
    · intro h
      obtain ⟨rfl, rfl⟩ := Prod.mk.inj (Option.some.inj h)
      exact ⟨rfl, more, rfl⟩
    · rintro ⟨rfl, more', h⟩
      obtain ⟨rfl, rfl⟩ := List.cons.inj h
      rfl

namespace Keeps

variable {P : Parser α} {Q : ι → Parser α} {F : α → Parser β} {G : ι → α → Parser β}

theorem bind (h : Keeps s P Q) (hF : ∀ a s', P s = some (a, s') → Keeps s' (F a) (fun i => G i a)) :
    Keeps s (P >>= F) (fun i => Q i >>= G i) := by
  intro b s'' hb
  obtain ⟨⟨a, s'⟩, ha, hb⟩ := Option.bind_eq_some_iff.1 hb
  have first := h a s' ha
  have second := hF a s' ha b s'' hb
  have disjoint {ns : List String} (hns : s''.names.Disjoint ns) : s'.names.Disjoint ns :=
    fun n hn => hns (second.names.subset hn)
  refine ⟨first.names.trans second.names, fun hs => ?_, ?_⟩
  · obtain ⟨hs', same⟩ := first.nothing hs
    obtain ⟨hs'', same'⟩ := second.nothing hs'
    refine ⟨hs'', fun i ns hns => ?_⟩
    exact Option.bind_eq_some_iff.2 ⟨_, same i ns (disjoint hns), same' i ns hns⟩
  · rcases first.more with stays | ⟨hs', swallowed⟩
    · rcases second.more with stays' | ⟨hs'', swallowed'⟩
      · exact .inl fun i ns e hns => Option.bind_eq_some_iff.2
          ⟨_, stays i ns e (disjoint hns), stays' i ns e hns⟩
      · exact .inr ⟨hs'', fun i ns e he hns => Option.bind_eq_some_iff.2
          ⟨_, stays i ns e (disjoint hns), swallowed' i ns e he hns⟩⟩
    · obtain ⟨hs'', same'⟩ := second.nothing hs'
      exact .inr ⟨hs'', fun i ns e he hns => Option.bind_eq_some_iff.2
        ⟨_, swallowed i ns e he (disjoint hns), same' i ns hns⟩⟩

/-- It is enough to know what comes of it. -/
theorem of_run {a : α} {s' : Cursor} (h : P s = some (a, s')) (kept : Kept s Q a s') :
    Keeps s P Q := by
  intro b s'' hb
  obtain ⟨rfl, rfl⟩ := Prod.mk.inj (Option.some.inj (h.symm.trans hb))
  exact kept

theorem pure (a : α) : Keeps s (Pure.pure a) fun _ : ι => Pure.pure a := by
  intro b s' h
  obtain ⟨rfl, rfl⟩ := Prod.mk.inj (Option.some.inj h)
  exact ⟨List.suffix_rfl, fun hs => ⟨hs, fun _ _ _ => rfl⟩, .inl fun _ _ _ _ => rfl⟩

theorem fail : Keeps s (Regex.fail : Parser α) Q := nofun

theorem flags : Keeps s Regex.flags fun _ : ι => Regex.flags := by
  intro b s' h
  obtain ⟨rfl, rfl⟩ := Prod.mk.inj (Option.some.inj h)
  exact ⟨List.suffix_rfl, fun hs => ⟨hs, fun _ _ _ => rfl⟩, .inl fun _ _ _ _ => rfl⟩

/-- Flags are set. -/
theorem setFlags (f : Flags) : Keeps s (modify fun s => { s with flags := f })
    fun _ : ι => (modify fun s => { s with flags := f } : Parser PUnit) := by
  intro b s' h
  obtain ⟨rfl, rfl⟩ := Prod.mk.inj (Option.some.inj h)
  exact ⟨List.suffix_rfl, fun hs => ⟨hs, fun _ _ _ => rfl⟩, .inl fun _ _ _ _ => rfl⟩

/-- Fewer ways of reading the longer text. -/
theorem comap {κ : Type} (r : κ → ι) (h : Keeps s P Q) : Keeps s P fun k => Q (r k) :=
  fun a s' hs =>
    let ⟨names, nothing, more⟩ := h a s' hs
    ⟨names, fun ht => ⟨(nothing ht).1, fun k => (nothing ht).2 (r k)⟩,
      more.imp (fun stays k => stays (r k)) fun ⟨hs', swallowed⟩ => ⟨hs', fun k => swallowed (r k)⟩⟩

theorem map (f : α → β) (h : Keeps s P Q) : Keeps s (f <$> P) fun i => f <$> Q i :=
  h.bind (F := fun a => Pure.pure (f a)) (G := fun _ a => Pure.pure (f a)) fun a _ _ => .pure (f a)

theorem ite {c : Prop} [Decidable c] {P' : Parser α} {Q' : ι → Parser α} (h : c → Keeps s P Q)
    (h' : ¬ c → Keeps s P' Q') :
    Keeps s (if c then P else P') fun i => if c then Q i else Q' i := by
  by_cases hc : c
  · simp only [if_pos hc]
    exact h hc
  · simp only [if_neg hc]
    exact h' hc

/-- Work that fails unless a condition holds. -/
theorem check {c : Prop} [Decidable c] {γ : Type} {F : γ → Parser α} {G : ι → γ → Parser α}
    (h : ¬ c → Keeps s P Q) : Keeps s (if c then Regex.fail >>= F else P)
      fun i => if c then Regex.fail >>= G i else Q i :=
  ite (fun _ => nofun) h

end Keeps

/-! ### Work that reads nothing -/

/-- What reads nothing: only the flags decide what comes of it. -/
def Idle (P : Parser α) : Prop :=
  ∀ f, ∃ v : Option α, ∀ t : Cursor, t.flags = f → P t = v.map (·, t)

namespace Idle

variable {P P' : Parser α} {F : α → Parser β}

theorem pure (a : α) : Idle (Pure.pure a) := fun _ => ⟨some a, fun _ _ => rfl⟩

theorem fail : Idle (Regex.fail : Parser α) := fun _ => ⟨none, fun _ _ => rfl⟩

theorem flags : Idle Regex.flags := fun f => ⟨some f, fun _ h => h ▸ rfl⟩

theorem bind (h : Idle P) (hF : ∀ a, Idle (F a)) : Idle (P >>= F) := by
  intro f
  obtain ⟨v, hv⟩ := h f
  cases v with
  | none => exact ⟨none, fun t ht => congrArg (Option.bind · _) (hv t ht)⟩
  | some a =>
    obtain ⟨w, hw⟩ := hF a f
    exact ⟨w, fun t ht => (congrArg (Option.bind · _) (hv t ht)).trans (hw t ht)⟩

theorem ite {c : Prop} [Decidable c] (h : Idle P) (h' : Idle P') : Idle (if c then P else P') := by
  split
  · exact h
  · exact h'

theorem state (h : Idle P) {a : α} {s' : Cursor} (hs : P s = some (a, s')) : s' = s := by
  obtain ⟨v, hv⟩ := h s.flags
  rw [hv s rfl] at hs
  obtain ⟨_, -, heq⟩ := Option.map_eq_some_iff.1 hs
  exact (Prod.mk.inj heq).2.symm

/-- The same comes of it wherever the flags are the same. -/
theorem run (h : Idle P) {a : α} {s' t : Cursor} (hs : P s = some (a, s'))
    (ht : t.flags = s.flags) : P t = some (a, t) := by
  obtain ⟨v, hv⟩ := h s.flags
  rw [hv s rfl] at hs
  obtain ⟨b, rfl, heq⟩ := Option.map_eq_some_iff.1 hs
  rw [hv t ht, ← (Prod.mk.inj heq).1]
  rfl

theorem keeps (h : Idle P) : Keeps s P fun _ : ι => P := by
  intro a s' hs
  obtain rfl := h.state hs
  exact ⟨List.suffix_rfl, fun hs' => ⟨hs', fun _ _ _ => h.run hs rfl⟩,
    .inl fun _ _ _ _ => h.run hs rfl⟩

theorem charOfCode (n : Nat) : Idle (Regex.charOfCode n) := by
  unfold Regex.charOfCode
  split
  · exact pure _
  · exact fail

theorem charOfHex (digits : List Char) : Idle (Regex.charOfHex digits) := by
  unfold Regex.charOfHex
  split
  · exact charOfCode _
  · exact fail

theorem folded (set : Unicode.CodeSet) : Idle (Regex.folded set) := flags.bind fun _ => pure _

theorem negated (negative : Bool) (set : Unicode.CodeSet) : Idle (Regex.negated negative set) :=
  ite (pure _) <| flags.bind fun _ => ite (pure _) <| ite fail (pure _)

theorem shorthand (letter : Char) (negative : Bool) : Idle (Regex.shorthand letter negative) :=
  flags.bind fun _ => ite (negated _ _) (negated _ _)

theorem checkByte (c : Char) (byte : Bool) : Idle (Regex.checkByte c byte) :=
  flags.bind fun _ => ite fail (pure _)

theorem classChar (c : Char) (byte : Bool) : Idle (Regex.classChar c byte) :=
  (checkByte c byte).bind fun _ => flags.bind fun _ => ite (fail.bind fun _ => pure _) (pure _)

theorem propertyNamed (negative : Bool) (name : List Char) : Idle (match propertySet name with
    | some (set, unequal) => do Regex.negated (negative != unequal) (← Regex.folded set)
    | none => Regex.fail) := by
  split
  · exact (folded _).bind fun _ => negated _ _
  · exact fail

theorem combine (waiting : Option (SetOp × Nested)) (right : Nested) :
    Idle (Regex.combine waiting right) := by
  cases waiting with
  | none => exact pure _
  | some w => exact (folded _).bind fun _ => (folded _).bind fun _ => pure _

end Idle

namespace Keeps

variable {P : Parser α} {Q : ι → Parser α} {F : α → Parser β} {G : ι → α → Parser β}

/-! ### Looking at the text -/

theorem current {F : Char → Parser β} {G : ι → Char → Parser β}
    (h : ∀ c more, s.text = c :: more → Keeps s (F c) fun i => G i c) :
    Keeps s (Regex.current >>= F) fun i => Regex.current >>= G i := by
  have look (t : Cursor) (c : Char) (more : List Char) (ht : t.text = c :: more)
      (F : Char → Parser β) : (Regex.current >>= F) t = F c t := by
    obtain ⟨text, flags, names⟩ := t
    obtain rfl : text = c :: more := ht
    rfl
  cases hs : s.text with
  | nil =>
    have nothing : (Regex.current >>= F) s = none := by
      obtain ⟨text, flags, names⟩ := s
      obtain rfl : text = [] := hs
      rfl
    intro b s' hb
    rw [nothing] at hb
    cases hb
  | cons c more =>
    intro b s' hb
    rw [look s c more hs] at hb
    obtain ⟨names, nothing, more'⟩ := h c more hs b s' hb
    refine ⟨names, fun h => absurd (hs.symm.trans h) (List.cons_ne_nil _ _), ?_⟩
    have look' (i : ι) (ns : List String) (e : List Char) :
        (Regex.current >>= G i) (s.extend ns e) = G i c (s.extend ns e) :=
      look _ c (more ++ e) (congrArg (· ++ e) hs) _
    simpa only [look'] using more'

/-- What looks at the next character, if there is one, takes a closing parenthesis for the end. -/
theorem peek {F : Option Char → Parser β} {G : ι → Option Char → Parser β}
    (hend : ∀ i, G i (some ')') = G i none)
    (h : Keeps s (F s.text.head?) fun i => G i s.text.head?) :
    Keeps s (peek? >>= F) fun i => peek? >>= G i := by
  intro b s' hb
  obtain ⟨names, nothing, more⟩ := h b s' hb
  have look (i : ι) (ns : List String) (e : List Char) :
      (peek? >>= G i) (s.extend ns (')' :: e)) = G i s.text.head? (s.extend ns (')' :: e)) := by
    show G i (s.text ++ ')' :: e).head? _ = _
    cases s.text with
    | nil => exact congrFun (hend i) _
    | cons => rfl
  refine ⟨names, fun hs => ?_, ?_⟩
  · obtain ⟨hs', same⟩ := nothing hs
    refine ⟨hs', fun i ns hns => ?_⟩
    rw [← same i ns hns]
    show G i (s.text ++ []).head? _ = _
    rw [List.append_nil]
  · simpa only [look] using more

/-- The number of characters left bounds what is read: more of them are no harm. -/
theorem remaining {F : Nat → Parser β} {G : ι → Nat → Parser β}
    (h : Keeps s (F s.text.length) fun i : ι × Nat => G i.1 (s.text.length + i.2)) :
    Keeps s (Regex.remaining >>= F) fun i => Regex.remaining >>= G i := by
  intro b s' hb
  obtain ⟨names, nothing, more⟩ := h b s' hb
  have count (i : ι) (ns : List String) (e : List Char) :
      (Regex.remaining >>= G i) (s.extend ns e) =
        G i (s.text.length + e.length) (s.extend ns e) := by
    show G i (s.text ++ e).length _ = _
    rw [List.length_append]
  refine ⟨names, fun hs => ?_, ?_⟩
  · obtain ⟨hs', same⟩ := nothing hs
    exact ⟨hs', fun i ns hns => (count i ns []).trans (same (i, 0) ns hns)⟩
  · refine more.imp (fun stays i ns e hns => ?_) fun ⟨hs', swallowed⟩ =>
      ⟨hs', fun i ns e he hns => ?_⟩
    · exact (count i ns _).trans (stays (i, _) ns e hns)
    · exact (count i ns _).trans (swallowed (i, _) ns e he hns)

/-! ### Moving on -/

theorem bump {c : Char} {more : List Char} (hs : s.text = c :: more) {F : PUnit → Parser β}
    {G : ι → PUnit → Parser β}
    (h : Keeps { s with text := more } (F ⟨⟩) fun i => G i ⟨⟩) :
    Keeps s (Regex.bump >>= F) fun i => Regex.bump >>= G i := by
  obtain ⟨text, f, names⟩ := s
  obtain rfl : text = c :: more := hs
  refine bind (fun a s' ha => ?_) fun a s' ha => ?_
  · obtain ⟨-, rfl⟩ := Prod.mk.inj (Option.some.inj ha)
    exact ⟨List.suffix_rfl, nofun, .inl fun _ _ _ _ => rfl⟩
  · obtain ⟨-, rfl⟩ := Prod.mk.inj (Option.some.inj ha)
    exact h

end Keeps

theorem isSpace_paren : isSpace ')' = false := by cbv

theorem dropComment_eq_nil {e : List Char} (he : '\n' ∉ e) : dropBlanks.dropComment e = [] := by
  induction e with
  | nil => rfl
  | cons c e ih =>
    obtain ⟨hc, he⟩ := not_or.1 (fun h => he (List.mem_cons.2 h))
    rw [dropBlanks.dropComment, if_neg (Ne.symm hc)]
    exact ih he

/-- What is left behind blanks and comments is the same with more behind, unless a comment goes on
to the end. -/
theorem dropBlanks_append (text : List Char) :
    ((∀ e, dropBlanks (text ++ ')' :: e) = dropBlanks text ++ ')' :: e) ∨
      dropBlanks text = [] ∧ ∀ e, '\n' ∉ e → dropBlanks (text ++ ')' :: e) = []) ∧
    ((∀ e, dropBlanks.dropComment (text ++ ')' :: e) = dropBlanks.dropComment text ++ ')' :: e) ∨
      dropBlanks.dropComment text = [] ∧
        ∀ e, '\n' ∉ e → dropBlanks.dropComment (text ++ ')' :: e) = []) := by
  induction text with
  | nil =>
    refine ⟨.inl fun e => ?_, .inr ⟨rfl, fun e he => ?_⟩⟩
    · simp [dropBlanks, isSpace_paren]
    · exact dropComment_eq_nil (List.not_mem_cons_of_ne_of_not_mem (by decide) he)
  | cons c text ih =>
    simp only [List.cons_append, dropBlanks, dropBlanks.dropComment]
    constructor
    · split
      · exact ih.1
      · split
        · exact ih.2
        · exact .inl fun _ => rfl
    · split
      · exact ih.1
      · exact ih.2

namespace Keeps

theorem skipBlanks : Keeps s Regex.skipBlanks fun _ : ι => Regex.skipBlanks := by
  obtain ⟨text, ⟨i, m, d, u, r, x⟩, names⟩ := s
  cases x with
  | false =>
    exact of_run rfl ⟨List.suffix_rfl, fun hs => ⟨hs, fun _ _ _ => rfl⟩, .inl fun _ _ _ _ => rfl⟩
  | true =>
    refine of_run rfl ⟨List.suffix_rfl, fun hs => ?_, ?_⟩
    · obtain rfl : text = [] := hs
      exact ⟨rfl, fun _ _ _ => rfl⟩
    · rcases (dropBlanks_append text).1 with stays | ⟨hnil, swallowed⟩
      · refine .inl fun _ ns e _ => congrArg some (congrArg (Prod.mk _) ?_)
        exact congrArg (Cursor.mk · _ _) (stays e)
      · refine .inr ⟨hnil, fun _ ns e he _ => congrArg some (congrArg (Prod.mk _) ?_)⟩
        exact congrArg (Cursor.mk · _ _) ((swallowed e he).trans (by rw [hnil]; rfl))

/-- Words that hold no closing parenthesis are found or not whatever stands behind. -/
theorem isPrefixOf_append {word : List Char} (hword : ')' ∉ word) (text e : List Char) :
    word.isPrefixOf (text ++ ')' :: e) = word.isPrefixOf text := by
  induction word generalizing text with
  | nil => simp
  | cons c word ih =>
    obtain ⟨hc, hword⟩ := not_or.1 (fun h => hword (List.mem_cons.2 h))
    cases text with
    | nil => simp [List.isPrefixOf, Ne.symm hc]
    | cons d text => simp [List.isPrefixOf, ih hword]

theorem run_accept (word : String) (s : Cursor) : Regex.accept word s =
    some (if word.toList.isPrefixOf s.text then (true, { s with text := s.text.drop word.length })
      else (false, s)) := by
  have look : Regex.accept word s = (if word.toList.isPrefixOf s.text then
      (do setText (s.text.drop word.length); return true : Parser Bool) else return false) s := rfl
  rw [look]
  split <;> rfl

theorem accept {word : String} (hword : ')' ∉ word.toList) :
    Keeps s (Regex.accept word) fun _ : ι => Regex.accept word := by
  by_cases hprefix : word.toList.isPrefixOf s.text = true
  · have long : word.length ≤ s.text.length := (List.isPrefixOf_iff_prefix.1 hprefix).length_le
    have run : Regex.accept word s = some (true, { s with text := s.text.drop word.length }) := by
      rw [run_accept, if_pos hprefix]
    refine of_run run ⟨List.suffix_rfl, fun hs => ?_, .inl ?_⟩
    · refine ⟨by rw [hs, List.drop_nil], fun _ ns _ => ?_⟩
      rw [run_accept]
      simp only [Cursor.extend, List.append_nil, if_pos hprefix]
    · intro _ ns e _
      rw [run_accept]
      simp only [Cursor.extend, isPrefixOf_append hword, if_pos hprefix,
        List.drop_append_of_le_length long]
  · refine of_run (by rw [run_accept, if_neg hprefix]) ⟨List.suffix_rfl, fun hs => ?_, .inl ?_⟩
    · refine ⟨hs, fun _ ns _ => ?_⟩
      rw [run_accept]
      simp only [Cursor.extend, List.append_nil, if_neg hprefix]
    · intro _ ns e _
      rw [run_accept]
      simp only [Cursor.extend, isPrefixOf_append hword, if_neg hprefix]

theorem bumpInside : Keeps s Regex.bumpInside fun _ : ι => Regex.bumpInside := by
  cases hs : s.text with
  | nil =>
    intro a s' h
    obtain ⟨text, ⟨i, m, d, u, r, x⟩, names⟩ := s
    obtain rfl : text = [] := hs
    cases x <;> cases h
  | cons c more =>
    refine bump hs (skipBlanks.bind fun _ s' _ => ?_)
    cases hs' : s'.text with
    | nil =>
      intro a s'' h
      obtain ⟨text, f, names⟩ := s'
      obtain rfl : text = [] := hs'
      cases h
    | cons c' more' =>
      obtain ⟨text, f, names⟩ := s'
      obtain rfl : text = c' :: more' := hs'
      exact of_run rfl ⟨List.suffix_rfl, nofun, .inl fun _ _ _ _ => rfl⟩

/-- What stands behind the next character, where `more` is what is left there. -/
def second (skip : Bool) (more : List Char) : Option Char :=
  if skip then
    match more.dropWhile isSpace with
    | '#' :: comment => (comment.dropWhile isSpace).head?
    | more => more.head?
  else more.head?

theorem run_peekSecond (s : Cursor) :
    Regex.peekSecond s = some (second s.flags.skipBlanks s.text.tail, s) := by
  obtain ⟨text, ⟨i, m, d, u, r, x⟩, names⟩ := s
  cases x with
  | false => rfl
  | true =>
    have look : Regex.peekSecond ⟨text, ⟨i, m, d, u, r, true⟩, names⟩ =
        (match text.tail.dropWhile isSpace with
          | '#' :: comment => Pure.pure (comment.dropWhile isSpace).head?
          | more => Pure.pure more.head? : Parser (Option Char))
          ⟨text, ⟨i, m, d, u, r, true⟩, names⟩ := rfl
    rw [look]
    simp only [second, if_true]
    generalize text.tail.dropWhile isSpace = seen
    cases seen with
    | nil => rfl
    | cons c rest =>
      by_cases hc : c = '#'
      · subst hc
        rfl
      · split
        · next heq => exact absurd (List.cons.inj heq).1 hc
        · rfl

theorem dropWhile_isSpace_append (text e : List Char) :
    (text ++ ')' :: e).dropWhile isSpace = text.dropWhile isSpace ++ ')' :: e := by
  induction text with
  | nil => simp [isSpace_paren]
  | cons c text ih =>
    simp only [List.cons_append, List.dropWhile_cons]
    split
    · exact ih
    · rfl

theorem head?_append_paren (text e : List Char) : (text ++ ')' :: e).head? = text.head? ∨
    text.head? = none ∧ (text ++ ')' :: e).head? = some ')' := by
  cases text with
  | nil => exact .inr ⟨rfl, rfl⟩
  | cons => exact .inl rfl

theorem second_append (skip : Bool) (more e : List Char) :
    second skip (more ++ ')' :: e) = second skip more ∨
      second skip more = none ∧ second skip (more ++ ')' :: e) = some ')' := by
  cases skip with
  | false => exact head?_append_paren more e
  | true =>
    simp only [second, if_true, dropWhile_isSpace_append]
    cases more.dropWhile isSpace with
    | nil => exact .inr ⟨rfl, rfl⟩
    | cons c rest =>
      by_cases hc : c = '#'
      · subst hc
        simp only [List.cons_append, dropWhile_isSpace_append]
        exact head?_append_paren _ e
      · left
        simp [hc]

/-- What looks at the character after the next takes a closing parenthesis for the end. -/
theorem peekSecond {F : Option Char → Parser β} {G : ι → Option Char → Parser β}
    (hend : ∀ i, G i (some ')') = G i none) {c : Char} {more : List Char} (hs : s.text = c :: more)
    (h : ∀ o, Keeps s (F o) fun i => G i o) :
    Keeps s (Regex.peekSecond >>= F) fun i => Regex.peekSecond >>= G i := by
  have run {γ : Type} (K : Option Char → Parser γ) (t : Cursor) :
      (Regex.peekSecond >>= K) t = K (second t.flags.skipBlanks t.text.tail) t :=
    congrArg (Option.bind · _) (run_peekSecond t)
  intro b s' hb
  rw [run] at hb
  obtain ⟨names, -, more'⟩ := h _ b s' hb
  have look (i : ι) (ns : List String) (e : List Char) :
      (Regex.peekSecond >>= G i) (s.extend ns (')' :: e)) =
        G i (second s.flags.skipBlanks s.text.tail) (s.extend ns (')' :: e)) := by
    rw [run]
    refine congrFun ?_ _
    simp only [Cursor.extend, hs, List.cons_append, List.tail_cons]
    rcases second_append s.flags.skipBlanks more e with same | ⟨hnone, hparen⟩
    · rw [same]
    · rw [hnone, hparen, hend]
  refine ⟨names, fun h => absurd (hs.symm.trans h) (List.cons_ne_nil _ _), ?_⟩
  simpa only [look] using more'

/-! ### Loops -/

theorem exists_succ {fuel : Nat} {more : ι → Nat} (h : ∀ i, fuel + 1 ≤ more i) :
    ∃ less : ι → Nat, (more = fun i => less i + 1) ∧ ∀ i, fuel ≤ less i :=
  ⟨fun i => more i - 1, funext fun i => (Nat.sub_add_cancel (Nat.le_of_add_left_le (h i))).symm,
    fun i => Nat.le_sub_of_add_le (h i)⟩

theorem upTo {closing : Char} {keep : Char → Bool} {fuel : Nat} {more : ι → Nat}
    (hfuel : ∀ i, fuel ≤ more i) :
    Keeps s (Regex.upTo closing keep fuel) fun i => Regex.upTo closing keep (more i) := by
  induction fuel generalizing s more with
  | zero => exact nofun
  | succ fuel ih =>
    obtain ⟨less, rfl, hless⟩ := exists_succ hfuel
    exact current fun c rest hs => ite (fun _ => pure []) fun _ => ite (fun _ => bump hs <|
      skipBlanks.bind fun _ _ _ => (ih hless).bind fun _ _ _ => pure _) fun _ => fail

/-! ### Numbers -/

theorem hexDigits (n : Nat) : Keeps s (Regex.hexDigits n) fun _ : ι => Regex.hexDigits n := by
  induction n generalizing s with
  | zero => exact pure []
  | succ n ih =>
    exact current fun c rest hs => check fun _ => bump hs <| skipBlanks.bind fun _ _ _ =>
      ih.bind fun _ _ _ => pure _

/-- Blanks are dropped whatever the flags. -/
theorem skipSpace {F : PUnit → Parser β} {G : ι → PUnit → Parser β}
    (h : ∀ s', Keeps s' (F ⟨⟩) fun i => G i ⟨⟩) :
    Keeps s (rest >>= fun text => setText (text.dropWhile isSpace) >>= F)
      fun i => rest >>= fun text => setText (text.dropWhile isSpace) >>= G i := by
  refine bind (P := rest >>= fun text => setText (text.dropWhile isSpace))
    (Q := fun _ => rest >>= fun text => setText (text.dropWhile isSpace)) ?_ fun _ s' _ => h s'
  refine of_run rfl ⟨List.suffix_rfl, fun hs => ⟨by rw [hs]; rfl, fun _ ns _ => ?_⟩,
    .inl fun _ ns e _ => ?_⟩
  · refine congrArg (fun text => some (PUnit.unit, Cursor.mk text _ _)) ?_
    show (s.text ++ []).dropWhile isSpace = s.text.dropWhile isSpace ++ []
    rw [List.append_nil, List.append_nil]
  · exact congrArg (fun text => some (PUnit.unit, Cursor.mk text _ _))
      (dropWhile_isSpace_append s.text e)

theorem length_of_skipBlanks {a : PUnit} {s' : Cursor} (h : Regex.skipBlanks s = some (a, s')) :
    s'.text.length ≤ s.text.length := by
  have shorter (text : List Char) : (dropBlanks text).length ≤ text.length ∧
      (dropBlanks.dropComment text).length ≤ text.length := by
    induction text with
    | nil => exact ⟨Nat.le_refl 0, Nat.le_refl 0⟩
    | cons c text ih =>
      simp only [dropBlanks, dropBlanks.dropComment, List.length_cons]
      constructor
      · split
        · exact Nat.le_succ_of_le ih.1
        · split
          · exact Nat.le_succ_of_le ih.2
          · exact Nat.le_refl _
      · split
        · exact Nat.le_succ_of_le ih.1
        · exact Nat.le_succ_of_le ih.2
  obtain ⟨text, ⟨i, m, d, u, r, x⟩, names⟩ := s
  cases x with
  | false =>
    obtain ⟨rfl, rfl⟩ := Prod.mk.inj (Option.some.inj h)
    exact Nat.le_refl _
  | true =>
    obtain ⟨rfl, rfl⟩ := Prod.mk.inj (Option.some.inj h)
    exact (shorter text).1

/-- Where there are no more characters than fuel, digits are taken until something else comes. -/
theorem takeDigits {fuel : Nat} {more : ι → Nat} (hlength : s.text.length ≤ fuel)
    (hfuel : ∀ i, fuel ≤ more i) :
    Keeps s (decimal.takeDigits fuel) fun i => decimal.takeDigits (more i) := by
  induction fuel generalizing s more with
  | zero =>
    obtain ⟨text, f, names⟩ := s
    obtain rfl : text = [] := List.eq_nil_of_length_eq_zero (Nat.le_zero.1 hlength)
    refine of_run rfl ⟨List.suffix_rfl, fun hs => ⟨rfl, fun i ns _ => ?_⟩, .inl fun i ns e _ => ?_⟩
    · cases more i <;> rfl
    · cases more i <;> rfl
  | succ fuel ih =>
    obtain ⟨less, rfl, hless⟩ := exists_succ hfuel
    refine peek (fun _ => rfl) ?_
    cases hs : s.text with
    | nil => exact pure []
    | cons c rest =>
      refine ite (fun _ => bump hs <| skipBlanks.bind fun _ _ h => ?_) fun _ => pure []
      rw [hs] at hlength
      have shorter : rest.length ≤ fuel := Nat.le_of_succ_le_succ hlength
      exact (ih (Nat.le_trans (length_of_skipBlanks h) shorter) hless).bind fun _ _ _ => pure _

theorem decimal : Keeps s Regex.decimal fun _ : ι => Regex.decimal :=
  skipSpace fun _ => remaining <| (takeDigits (Nat.le_refl _) fun _ => Nat.le_add_right _ _).bind
    fun _ _ _ => skipSpace fun _ => skipBlanks.bind fun _ _ _ =>
      ite (fun _ => pure none) fun _ => ite (fun _ => pure _) fun _ => fail

/-! ### Escapes -/

theorem upTo_text {closing : Char} {keep : Char → Bool} {fuel : Nat} {a : List Char} {s' : Cursor}
    (h : Regex.upTo closing keep fuel s = some (a, s')) : ∃ more, s'.text = closing :: more := by
  induction fuel generalizing s a with
  | zero => cases h
  | succ fuel ih =>
    rw [Regex.upTo] at h
    obtain ⟨c, t, hc, hrest⟩ := bind_eq_some.1 h
    obtain ⟨rfl, more, ht⟩ := current_eq_some.1 hc
    split at hrest
    · next heq =>
      obtain ⟨-, rfl⟩ := Prod.mk.inj (Option.some.inj hrest)
      exact ⟨more, heq ▸ ht⟩
    · split at hrest
      · obtain ⟨_, t₁, -, h₁⟩ := bind_eq_some.1 hrest
        obtain ⟨_, t₂, -, h₂⟩ := bind_eq_some.1 h₁
        obtain ⟨name, t₃, h₃, hend⟩ := bind_eq_some.1 h₂
        obtain ⟨-, rfl⟩ := Prod.mk.inj (Option.some.inj hend)
        exact ih h₃
      · cases hrest

theorem property (negative : Bool) :
    Keeps s (Regex.property negative) fun _ : ι => Regex.property negative := by
  refine bumpInside.bind fun _ s₁ _ => current fun c rest hs => ?_
  refine ite (fun _ => bumpInside.bind fun _ _ _ => remaining ?_) fun _ => ite (fun _ => nofun)
    fun _ => bump hs <| skipBlanks.bind fun _ _ _ => (pure [c]).bind fun _ _ _ =>
      flags.bind fun _ _ _ => check fun _ => (Idle.propertyNamed negative _).keeps
  refine (upTo fun _ => Nat.le_add_right _ _).bind fun name s₂ h₂ => ?_
  obtain ⟨more, hmore⟩ := upTo_text h₂
  exact bump hmore <| (pure name).bind fun _ _ _ =>
    flags.bind fun _ _ _ => check fun _ => (Idle.propertyNamed negative _).keeps

theorem codeEscape (digits : Nat) :
    Keeps s (Regex.codeEscape digits) fun _ : ι => Regex.codeEscape digits := by
  refine bumpInside.bind fun _ s₁ _ => current fun c rest hs => ite (fun _ => ?_) fun _ => ?_
  · refine bumpInside.bind fun _ _ _ => remaining <| (upTo fun _ => Nat.le_add_right _ _).bind
      fun code s₂ h₂ => check fun _ => (Idle.charOfHex code).keeps.bind fun _ s₃ h₃ => ?_
    obtain ⟨more, hmore⟩ := upTo_text h₂
    obtain rfl := (Idle.charOfHex code).state h₃
    exact bump hmore <| skipBlanks.bind fun _ _ _ => pure _
  · exact (hexDigits digits).bind fun _ _ _ => (Idle.charOfHex _).keeps.bind fun _ _ _ => pure _

end Keeps

/-- The name of a boundary, from its first character on. -/
def boundaryName : Parser (Option Look) := do
  let name ← upTo '\x7d' (fun c => c.isAlpha || decide (c = '-')) (← remaining)
  bump
  match String.ofList name with
  | "start" => return some .wordStart
  | "end" => return some .wordEnd
  | "start-half" => return some .wordStartHalf
  | "end-half" => return some .wordEndHalf
  | _ => fail

/-- What is read from the character `c` on, where the brace stands at the front of `start`. -/
def boundaryFrom (start : List Char) (c : Char) : Parser (Option Look) :=
  if !(c.isAlpha || c = '-') then do
    setText start
    return none
  else boundaryName

theorem namedBoundary_eq : namedBoundary =
    rest >>= fun start => bumpInside >>= fun _ => current >>= boundaryFrom start := rfl

namespace Keeps

theorem boundaryName : Keeps s Regex.boundaryName fun _ : ι => Regex.boundaryName := by
  refine remaining <| (upTo fun _ => Nat.le_add_right _ _).bind fun name s₁ h₁ => ?_
  obtain ⟨more, hmore⟩ := upTo_text h₁
  refine bump hmore ?_
  generalize String.ofList name = text
  intro b s' h
  split at h
  · exact pure _ b s' h
  · exact pure _ b s' h
  · exact pure _ b s' h
  · exact pure _ b s' h
  · cases h

/-- Braces that are a repetition are left as they were. -/
theorem namedBoundary : Keeps s Regex.namedBoundary fun _ : ι => Regex.namedBoundary := by
  intro b s' h
  rw [namedBoundary_eq] at h ⊢
  obtain ⟨start, t, hstart, h₁⟩ := bind_eq_some.1 h
  obtain ⟨rfl, rfl⟩ := Prod.mk.inj (Option.some.inj hstart)
  obtain ⟨_, _, hinside, h₂⟩ := bind_eq_some.1 h₁
  obtain ⟨c, s₁, hc, h₃⟩ := bind_eq_some.1 h₂
  obtain ⟨rfl, rest, hs₁⟩ := current_eq_some.1 hc
  have inside := @bumpInside ι s _ s₁ hinside
  have stays := inside.more.resolve_right fun h => by simp [hs₁] at h
  have hne : s.text ≠ [] := fun hs => by simp [(inside.nothing hs).1] at hs₁
  have begun (i : ι) (ns : List String) (e : List Char) (hns : s₁.names.Disjoint ns)
      {r : Option Look × Cursor}
      (hr : boundaryFrom (s.text ++ ')' :: e) c (s₁.extend ns (')' :: e)) = some r) :
      (Regex.rest >>= fun start => Regex.bumpInside >>= fun _ => Regex.current >>=
        boundaryFrom start) (s.extend ns (')' :: e)) = some r :=
    bind_eq_some.2 ⟨_, _, rfl, bind_eq_some.2 ⟨_, _, stays i ns e hns, bind_eq_some.2 ⟨_, _,
      current_eq_some.2 ⟨rfl, rest ++ ')' :: e, congrArg (· ++ ')' :: e) hs₁⟩, hr⟩⟩⟩
  unfold boundaryFrom at h₃ begun
  split at h₃
  · next hname =>
    obtain ⟨rfl, rfl⟩ := Prod.mk.inj (Option.some.inj h₃)
    refine ⟨inside.names, fun hs => absurd hs hne, .inl fun i ns e hns => begun i ns e hns ?_⟩
    rw [if_pos hname]
    rfl
  · next hname =>
    have named := @boundaryName ι s₁ b s' h₃
    have disjoint {ns : List String} (hns : s'.names.Disjoint ns) : s₁.names.Disjoint ns :=
      fun n hn => hns (named.names.subset hn)
    refine ⟨inside.names.trans named.names, fun hs => absurd hs hne, ?_⟩
    refine named.more.imp (fun stays' i ns e hns => begun i ns e (disjoint hns) ?_)
      fun ⟨hs', swallowed⟩ => ⟨hs', fun i ns e he hns => begun i ns e (disjoint hns) ?_⟩
    · rw [if_neg hname]
      exact stays' i ns e hns
    · rw [if_neg hname]
      exact swallowed i ns e he hns

theorem escape {c : Char} {more : List Char} (hs : s.text = c :: more) :
    Keeps s Regex.escape fun _ : ι => Regex.escape := by
  refine bump hs <| current fun c rest hs => check fun _ => ?_
  dsimp only
  split
  · exact codeEscape 2
  · exact codeEscape 4
  · exact codeEscape 8
  · exact (property false).map _
  · exact (property true).map _
  · exact bump hs ((Idle.shorthand 'd' false).keeps.map _)
  · exact bump hs ((Idle.shorthand 'd' true).keeps.map _)
  · exact bump hs ((Idle.shorthand 's' false).keeps.map _)
  · exact bump hs ((Idle.shorthand 's' true).keeps.map _)
  · exact bump hs ((Idle.shorthand 'w' false).keeps.map _)
  · exact bump hs ((Idle.shorthand 'w' true).keeps.map _)
  · refine bump hs <| ite (fun _ => pure _) fun _ => ?_
    dsimp only
    split
    · exact pure _
    · exact pure _
    · exact pure _
    · exact pure _
    · exact pure _
    · exact pure _
    · exact pure _
    · exact pure _
    · exact peek (fun _ => rfl) <| ite (fun _ => namedBoundary.bind fun _ _ _ => pure _)
        fun _ => pure _
    · exact pure _
    · exact pure _
    · exact pure _
    · exact fail

end Keeps

end IncrementalGlr.Regex
