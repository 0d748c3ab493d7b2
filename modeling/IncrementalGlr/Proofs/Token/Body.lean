import Mathlib.Algebra.Group.Basic
import Mathlib.Data.List.Nodup
import IncrementalGlr.Proofs.Regex.Grouping
import IncrementalGlr.Proofs.Regex.Language
import IncrementalGlr.Token.Body

/-!
Bodies of tokens as regular expressions. What is written for a body made of texts, patterns,
sequences, choices and repetitions matches just what the body describes (`toRegex_faithful`), unless
two patterns name a group alike or the expression is nested too deep.

A body writes a text that is read as parts of the sequence that it stands in, wherever that is
(`Writes`): what is before it and behind it is read as if it stood alone. Fixed text writes one part
for each character, everything else one group. The inside of a group is read up to its closing
parenthesis (`Inside`), that of a choice alternative by alternative (`Offers`). For a pattern this
is what `Keeps.grouped` says: more may stand behind it.
-/
namespace IncrementalGlr

namespace Regex

variable {k fuel : Nat} {done before : List Part} {rest : List Char} {ns : List String}

/-- What a text is read as, with the names of its groups, the last one first. -/
def reading? (text : String) : Option (Part × List String) :=
  match grouped (text.length + 1) { text := text.toList } with
  | some (part, ⟨[], _, names⟩) => some (part, names)
  | _ => none

theorem parse?_eq (text : String) : parse? text =
    (reading? text).bind fun p => if p.1.depth ≤ nestingLimit then some p.1.regex else none := by
  unfold parse? reading?
  show (Option.bind (grouped (text.length + 1) { text := text.toList }) _) = _
  cases h : grouped (text.length + 1) { text := text.toList } with
  | none => rfl
  | some p =>
    obtain ⟨part, ⟨rest, f, names⟩⟩ := p
    cases rest with
    | nil => simp
    | cons c rest => simp

theorem parse?_of_reading? {text : String} (h : (parse? text).isSome) :
    ∃ part names, reading? text = some (part, names) ∧ parse? text = some part.regex := by
  obtain ⟨regex, hregex⟩ := Option.isSome_iff_exists.1 h
  obtain ⟨⟨part, names⟩, hreading, hpart⟩ :=
    Option.bind_eq_some_iff.1 ((parse?_eq text).symm.trans hregex)
  split at hpart
  · obtain rfl := Option.some.inj hpart
    exact ⟨part, names, hreading, hregex⟩
  · cases hpart

/-- A part in parentheses. -/
def inGroup (part : Part) : Part := { regex := part.regex, depth := part.depth + 1 }

/-- A part that is repeated. -/
def manyTimes (part : Part) (least : Nat) : Part :=
  { regex := loop part.regex least none, depth := part.depth + 1 }

/-- What is read as the inside of a group, wherever the group stands. The names of groups met before
may not be used again. -/
def Inside (text : List Char) (part : Part) (names : List String) : Prop :=
  ∀ k ns rest, text.length < k → (names ++ ns).Nodup → ∃ f,
    grouped k ⟨text ++ ')' :: rest, {}, ns⟩ = some (part, ⟨')' :: rest, f, names ++ ns⟩)

/-- What is read as the given parts, one after another, wherever it stands. Nothing behind it may
make a repetition at its end lazy. -/
def Writes (text : List Char) (parts : List Part) (names : List String) : Prop :=
  ∀ k fuel done before ns rest, text.length ≤ k → (text ++ rest).length < fuel →
    rest.head? ≠ some '?' → (names ++ ns).Nodup → ∃ fuel', rest.length < fuel' ∧
      alternatives (grouped k) fuel done before ⟨text ++ rest, {}, ns⟩ =
        alternatives (grouped k) fuel' done (parts.reverse ++ before) ⟨rest, {}, names ++ ns⟩

theorem run_bind {α β : Type} {P : Parser α} {F : α → Parser β} {s t : Cursor} {a : α}
    (h : P s = some (a, t)) : (P >>= F) s = F a t := by
  show (P s).bind (fun p => F p.1 p.2) = F a t
  rw [h]
  rfl

/-- What is behind the opening of a group is read as its inside. -/
theorem alternatives_open {text : List Char} :
    alternatives (grouped k) (fuel + 1) done before ⟨'(' :: '?' :: ':' :: text, {}, ns⟩ =
      (grouped k >>= fun inner => do
        if (← current) ≠ ')' then fail
        modify fun s => { s with text := s.text.tail, flags := ({} : Flags) }
        alternatives (grouped k) fuel done (inGroup inner :: before)) ⟨text, {}, ns⟩ := rfl

theorem alternatives_group {text : List Char} {part : Part} {f : Flags} {ns' : List String}
    (h : grouped k ⟨text ++ ')' :: rest, {}, ns⟩ = some (part, ⟨')' :: rest, f, ns'⟩)) :
    alternatives (grouped k) (fuel + 1) done before
        ⟨'(' :: '?' :: ':' :: (text ++ ')' :: rest), {}, ns⟩ =
      alternatives (grouped k) fuel done (inGroup part :: before) ⟨rest, {}, ns'⟩ := by
  rw [alternatives_open, run_bind h]
  rfl

/-- A group that is not closed is no expression. -/
theorem alternatives_unclosed {text : List Char} {part : Part} {f : Flags} {ns' : List String}
    (h : grouped k ⟨text, {}, ns⟩ = some (part, ⟨[], f, ns'⟩)) :
    alternatives (grouped k) (fuel + 1) done before ⟨'(' :: '?' :: ':' :: text, {}, ns⟩ = none := by
  rw [alternatives_open, run_bind h]
  rfl

theorem laziness_absent (hrest : rest.head? ≠ some '?') :
    laziness ⟨rest, {}, ns⟩ = some (⟨⟩, ⟨rest, {}, ns⟩) := by
  have absent : ¬ ['?'] <+: rest := by
    rintro ⟨more, rfl⟩
    exact hrest rfl
  show (accept "?" >>= fun _ => pure ⟨⟩ : Parser Unit) ⟨rest, {}, ns⟩ = _
  rw [run_bind (t := ⟨rest, {}, ns⟩) (a := false)]
  · rfl
  · rw [Keeps.run_accept]
    simp [absent]

/-- The last part is repeated. -/
theorem alternatives_many {mark : Char} {least : Nat}
    (hmark : mark = '*' ∧ least = 0 ∨ mark = '+' ∧ least = 1) {last : Part}
    (hlast : last.repeatable = true) (hrest : rest.head? ≠ some '?') :
    alternatives (grouped k) (fuel + 1) done (last :: before) ⟨mark :: rest, {}, ns⟩ =
      alternatives (grouped k) fuel done (manyTimes last least :: before) ⟨rest, {}, ns⟩ := by
  have behind : alternatives (grouped k) (fuel + 1) done (last :: before) ⟨mark :: rest, {}, ns⟩ =
      (laziness >>= fun _ => repeated (last :: before) least none >>=
        alternatives (grouped k) fuel done) ⟨rest, {}, ns⟩ := by
    obtain ⟨rfl, rfl⟩ | ⟨rfl, rfl⟩ := hmark <;> rfl
  have again : repeated (last :: before) least none ⟨rest, {}, ns⟩ =
      some (manyTimes last least :: before, ⟨rest, {}, ns⟩) := by
    simp [repeated, hlast]
    rfl
  rw [behind, run_bind (laziness_absent hrest), run_bind again]

/-- A character of a plain text, with a backslash before it if it has a meaning otherwise. -/
theorem alternatives_character (c : Char) :
    alternatives (grouped k) (fuel + 1) done before
        ⟨(if isMeta c then ['\\', c] else [c]) ++ rest, {}, ns⟩ =
      alternatives (grouped k) fuel done ({ regex := chars (.singleton c.toNat) } :: before)
        ⟨rest, {}, ns⟩ := by
  split
  · next hmeta =>
    simp only [isMeta, List.contains_iff_mem] at hmeta
    simp at hmeta
    rcases hmeta with rfl | rfl | rfl | rfl | rfl | rfl | rfl | rfl | rfl | rfl | rfl | rfl | rfl |
      rfl | rfl | rfl | rfl | rfl <;> rfl
  · next hplain =>
    simp [isMeta] at hplain
    have single : primitive ⟨c :: rest, {}, ns⟩ =
        some (chars (.singleton c.toNat), ⟨rest, {}, ns⟩) := by
      rw [primitive, run_bind (t := ⟨c :: rest, {}, ns⟩) (a := c) rfl,
        run_bind (t := ⟨c :: rest, {}, ns⟩) (a := {}) rfl]
      refine (congrFun (g := bump *> literal c false) ?_ _).trans rfl
      split
      all_goals simp_all
      all_goals rfl
    rw [alternatives, run_bind (t := ⟨c :: rest, {}, ns⟩) (a := ⟨⟩) rfl,
      run_bind (t := ⟨c :: rest, {}, ns⟩) (a := some c) rfl]
    refine (congrFun (g := primitive >>= fun r =>
      alternatives (grouped k) fuel done ({ regex := r } :: before)) ?_ _).trans (run_bind single)
    split <;> simp_all

/-- The end of an alternative, at a closing parenthesis. -/
theorem alternatives_close : alternatives (grouped k) (fuel + 1) done before ⟨')' :: rest, {}, ns⟩ =
    some (inChoice (inSequence before :: done), ⟨')' :: rest, {}, ns⟩) := rfl

theorem alternatives_end : alternatives (grouped k) (fuel + 1) done before ⟨[], {}, ns⟩ =
    some (inChoice (inSequence before :: done), ⟨[], {}, ns⟩) := rfl

theorem alternatives_bar : alternatives (grouped k) (fuel + 1) done before ⟨'|' :: rest, {}, ns⟩ =
    alternatives (grouped k) fuel (inSequence before :: done) [] ⟨rest, {}, ns⟩ := rfl

/-! ## Texts and the parts that they are read as -/

section Writes

variable {text text' : List Char} {parts parts' : List Part} {part : Part}
  {names names' : List String}

theorem Writes.nil : Writes [] [] [] :=
  fun _ fuel _ _ _ _ _ hfuel _ _ => ⟨fuel, hfuel, rfl⟩

theorem Writes.append (h : Writes text parts names) (h' : Writes text' parts' names')
    (hfront : text'.head? ≠ some '?') :
    Writes (text ++ text') (parts ++ parts') (names' ++ names) := by
  intro k fuel done before ns rest hk hfuel hrest hnames
  have front : (text' ++ rest).head? ≠ some '?' := by
    cases text' with
    | nil => exact hrest
    | cons => exact hfront
  rw [List.append_assoc] at hnames
  rw [List.length_append] at hk
  rw [List.append_assoc] at hfuel ⊢
  obtain ⟨fuel₁, hfuel₁, run₁⟩ := h k fuel done before ns (text' ++ rest)
    (Nat.le_of_add_right_le hk) hfuel front (List.nodup_append.1 hnames).2.1
  obtain ⟨fuel₂, hfuel₂, run₂⟩ := h' k fuel₁ done (parts.reverse ++ before) (names ++ ns) rest
    (Nat.le_of_add_left_le hk) hfuel₁ hrest hnames
  refine ⟨fuel₂, hfuel₂, run₁.trans (run₂.trans ?_)⟩
  rw [List.reverse_append, List.append_assoc, List.append_assoc]

theorem Writes.character (c : Char) : Writes (if isMeta c then ['\\', c] else [c])
    [{ regex := chars (.singleton c.toNat) }] [] := by
  intro k fuel done before ns rest _ hfuel _ _
  obtain ⟨fuel, rfl⟩ := Nat.exists_eq_add_one.2 (Nat.zero_lt_of_lt hfuel)
  refine ⟨fuel, ?_, alternatives_character c⟩
  have : 1 ≤ (if isMeta c then ['\\', c] else [c]).length := by split <;> simp
  rw [List.length_append] at hfuel
  omega

/-- A group is one part of the sequence that it stands in. -/
theorem Inside.writes (h : Inside text part names) :
    Writes ('(' :: '?' :: ':' :: (text ++ [')'])) [inGroup part] names := by
  intro k fuel done before ns rest hk hfuel _ hnames
  obtain ⟨fuel, rfl⟩ := Nat.exists_eq_add_one.2 (Nat.zero_lt_of_lt hfuel)
  simp only [List.length_cons, List.length_append] at hk hfuel
  obtain ⟨f, inner⟩ := h k ns rest (by omega) hnames
  refine ⟨fuel, by omega, ?_⟩
  simpa using alternatives_group inner

/-- What is written behind a part repeats that part alone. -/
theorem Writes.many {mark : Char} {least : Nat}
    (hmark : mark = '*' ∧ least = 0 ∨ mark = '+' ∧ least = 1) (h : Writes text [part] names)
    (hpart : part.repeatable = true) :
    Writes (text ++ [mark]) [manyTimes part least] names := by
  intro k fuel done before ns rest hk hfuel hrest hnames
  have front : (mark :: rest).head? ≠ some '?' := by
    obtain ⟨rfl, -⟩ | ⟨rfl, -⟩ := hmark <;> simp
  rw [List.length_append] at hk
  rw [List.append_assoc] at hfuel ⊢
  obtain ⟨fuel₁, hfuel₁, run⟩ := h k fuel done before ns (mark :: rest)
    (Nat.le_of_add_right_le hk) hfuel front hnames
  obtain ⟨fuel₁, rfl⟩ := Nat.exists_eq_add_one.2 (Nat.zero_lt_of_lt hfuel₁)
  exact ⟨fuel₁, Nat.lt_of_succ_lt_succ hfuel₁, run.trans (alternatives_many hmark hpart hrest)⟩

/-- What is read as the given alternatives up to a closing parenthesis. -/
def Offers (text : List Char) (choices : List Part) (names : List String) : Prop :=
  ∀ k fuel done ns rest, text.length ≤ k → (text ++ ')' :: rest).length < fuel →
    (names ++ ns).Nodup → alternatives (grouped k) fuel done [] ⟨text ++ ')' :: rest, {}, ns⟩ =
      some (inChoice (choices.reverse ++ done), ⟨')' :: rest, {}, names ++ ns⟩)

theorem Writes.offers (h : Writes text parts names) :
    Offers text [inSequence parts.reverse] names := by
  intro k fuel done ns rest hk hfuel hnames
  obtain ⟨fuel₁, hfuel₁, run⟩ := h k fuel done [] ns (')' :: rest) hk hfuel (by simp) hnames
  obtain ⟨fuel₁, rfl⟩ := Nat.exists_eq_add_one.2 (Nat.zero_lt_of_lt hfuel₁)
  rw [run, alternatives_close, List.append_nil]
  rfl

/-- One alternative more, in front of a bar. -/
theorem Writes.offers_cons {choices : List Part} (h : Writes text parts names)
    (h' : Offers text' choices names') :
    Offers (text ++ '|' :: text') (inSequence parts.reverse :: choices) (names' ++ names) := by
  intro k fuel done ns rest hk hfuel hnames
  rw [List.append_assoc] at hnames
  rw [List.length_append, List.length_cons] at hk
  rw [List.append_assoc, List.cons_append] at hfuel ⊢
  obtain ⟨fuel₁, hfuel₁, run⟩ := h k fuel done [] ns ('|' :: (text' ++ ')' :: rest))
    (Nat.le_of_add_right_le hk) hfuel (by simp) (List.nodup_append.1 hnames).2.1
  obtain ⟨fuel₁, rfl⟩ := Nat.exists_eq_add_one.2 (Nat.zero_lt_of_lt hfuel₁)
  rw [run, alternatives_bar, List.append_nil, h' k fuel₁ _ (names ++ ns) rest
    (Nat.le_of_succ_le (Nat.le_of_add_left_le hk)) (Nat.lt_of_succ_lt_succ hfuel₁) hnames]
  simp

theorem Offers.inside {choices : List Part} (h : Offers text choices names) :
    Inside text (inChoice choices.reverse) names := by
  intro k ns rest hk hnames
  obtain ⟨k, rfl⟩ := Nat.exists_eq_add_one.2 (Nat.zero_lt_of_lt hk)
  have run := h k ((text ++ ')' :: rest).length + 1) [] ns rest (Nat.le_of_lt_succ hk)
    (Nat.lt_succ_self _) hnames
  rw [List.append_nil] at run
  exact ⟨{}, run⟩

theorem inChoice_inSequence (parts : List Part) :
    inChoice [inSequence parts] = inSequence parts := by
  simp [inChoice, inSequence, oneOf]

theorem Writes.inside (h : Writes text parts names) :
    Inside text (inSequence parts.reverse) names := by
  rw [← inChoice_inSequence]
  exact h.offers.inside

/-- A whole text. -/
theorem Writes.reading?_eq {text : String} (h : Writes text.toList parts names)
    (hnames : names.Nodup) : reading? text = some (inSequence parts.reverse, names) := by
  obtain ⟨fuel, hfuel, run⟩ := h text.length (text.toList.length + 1) [] [] [] []
    (Nat.le_of_eq String.length_toList) (by simp) (by simp) (by simpa using hnames)
  obtain ⟨fuel, rfl⟩ := Nat.exists_eq_add_one.2 (Nat.zero_lt_of_lt hfuel)
  rw [alternatives_end, List.append_nil, List.append_nil, inChoice_inSequence,
    List.append_nil] at run
  have whole : grouped (text.length + 1) { text := text.toList } =
      some (inSequence parts.reverse, ⟨[], {}, names⟩) := run
  rw [Regex.reading?, whole]

/-- A pattern that is an expression by itself, also in parentheses, so that no comment at its end
swallows the closing one. -/
theorem inside_of_reading? {text : String} (h : Regex.reading? text = some (part, names))
    (hgroup : (parse? ("(?:" ++ text ++ ")")).isSome) : Inside text.toList part names := by
  have whole : ∃ f, grouped (text.length + 1) { text := text.toList } =
      some (part, ⟨[], f, names⟩) := by
    unfold Regex.reading? at h
    split at h
    · next heq =>
      obtain ⟨rfl, rfl⟩ := Prod.mk.inj (Option.some.inj h)
      exact ⟨_, heq⟩
    · cases h
  obtain ⟨f, whole⟩ := whole
  have kept := @Keeps.grouped Nat _ (text.length + 1) (fun more => text.length + 1 + more)
    (fun _ => Nat.le_add_right _ _) _ _ whole
  rcases kept.more with stays | ⟨-, swallowed⟩
  · intro k ns rest hk hnames
    have hmore : text.length + 1 + (k - (text.length + 1)) = k :=
      Nat.add_sub_cancel' (String.length_toList ▸ hk)
    have run := stays (k - (text.length + 1)) ns rest (List.disjoint_of_nodup_append hnames)
    rw [hmore] at run
    exact ⟨f, run⟩
  · have unclosed := swallowed 3 [] [] List.not_mem_nil (List.disjoint_nil_right names)
    have hlength : ("(?:" ++ text ++ ")").length = text.length + 1 + 3 := by
      rw [String.length_append, String.length_append, Nat.add_comm "(?:".length, Nat.add_assoc,
        Nat.add_assoc]
      rfl
    have hchars : ("(?:" ++ text ++ ")").toList = '(' :: '?' :: ':' :: (text.toList ++ [')']) := by
      simp
    have nothing : grouped (("(?:" ++ text ++ ")").length + 1)
        { text := ("(?:" ++ text ++ ")").toList } = none := by
      rw [hlength, hchars]
      exact alternatives_unclosed unclosed
    rw [parse?_eq, Regex.reading?, nothing] at hgroup
    cases hgroup

end Writes

end Regex

namespace Rule

open Regex

mutual

/-- The names of groups in the patterns, the last one first. -/
def groupNames : Rule → List String
  | .pattern regex _ => ((reading? regex).map Prod.snd).getD []
  | .blank | .string _ | .symbol _ => []
  | .seq members | .choice members => groupNamesOf members
  | .zeroOrMore content | .oneOrMore content | .field _ content | .renamed content _ _
  | .token content | .immediateToken content | .prec _ content | .precLeft _ content
  | .precRight _ content | .precDynamic _ content | .reserved _ content => content.groupNames

def groupNamesOf : List Rule → List String
  | [] => []
  | rule :: rest => groupNamesOf rest ++ rule.groupNames

end

mutual

/-- What the regular expression of a token's body is in the sequence that it stands in. -/
def parts : Rule → List Part
  | .blank | .symbol _ => []
  | .string text => text.toList.map fun c => { regex := .chars (.singleton c.toNat) }
  | .pattern regex _ => (reading? regex).toList.map fun p => inGroup p.1
  | .seq members => [inGroup (inSequence (partsOf members).flatten.reverse)]
  | .choice members =>
    [inGroup (inChoice ((partsOf members).map fun ps => inSequence ps.reverse).reverse)]
  | .zeroOrMore content => [manyTimes (inGroup (inSequence content.parts.reverse)) 0]
  | .oneOrMore content => [manyTimes (inGroup (inSequence content.parts.reverse)) 1]
  | .field _ content | .renamed content _ _ | .token content | .immediateToken content
  | .prec _ content | .precLeft _ content | .precRight _ content | .precDynamic _ content
  | .reserved _ content => content.parts

def partsOf : List Rule → List (List Part)
  | [] => []
  | rule :: rest => rule.parts :: partsOf rest

end

/-- How deep the regular expression of a token's body is nested. -/
def nesting (rule : Rule) : Nat := (inSequence rule.parts.reverse).depth

mutual

/-- The rule is made of texts and of patterns without flags that are expressions by themselves, also
in parentheses; sequences and choices have members. -/
def DescribesText : Rule → Prop
  | .blank | .string _ => True
  | .pattern regex flags =>
    flags.getD "" = "" ∧ (parse? regex).isSome ∧ (parse? ("(?:" ++ regex ++ ")")).isSome
  | .symbol _ => False
  | .seq members | .choice members => members ≠ [] ∧ AllDescribeText members
  | .zeroOrMore content | .oneOrMore content | .field _ content | .renamed content _ _
  | .token content | .immediateToken content | .prec _ content | .precLeft _ content
  | .precRight _ content | .precDynamic _ content | .reserved _ content => content.DescribesText

def AllDescribeText : List Rule → Prop
  | [] => True
  | rule :: rest => rule.DescribesText ∧ AllDescribeText rest

end

section Language

-- What each assertion of a pattern asks of the text before the position and of the text after it.
variable (asserted : Look → Bool → List Char → List Char → Prop)

mutual

/-- The texts that a token's body describes. -/
def texts : Rule → TextLanguage
  | .blank => 1
  | .string text => .exactly text.toList
  | .pattern regex _ => .anyOf ((parse? regex).toList.map (Regex.language asserted))
  | .symbol _ => .anyOf []
  | .seq members => (textsOf members).prod
  | .choice members => .anyOf (textsOf members)
  | .zeroOrMore content => (texts content).repeated 0 none
  | .oneOrMore content => (texts content).repeated 1 none
  | .field _ content | .renamed content _ _ | .token content | .immediateToken content
  | .prec _ content | .precLeft _ content | .precRight _ content | .precDynamic _ content
  | .reserved _ content => texts content

def textsOf : List Rule → List TextLanguage
  | [] => []
  | rule :: rest => texts rule :: textsOf rest

end

/-! ## What is written is read as what is meant -/

theorem language_inSequence (parts : List Part) :
    (inSequence parts.reverse).regex.language asserted =
      (parts.map fun p => p.regex.language asserted).prod := by
  simp [inSequence, language_sequence, Function.comp_def]

theorem language_inChoice {choices : List Part} (h : choices ≠ []) :
    (inChoice choices.reverse).regex.language asserted =
      .anyOf (choices.map fun p => p.regex.language asserted) := by
  simp [inChoice, language_oneOf, h, Function.comp_def]

mutual

/-- The parts mean what the rule describes. -/
theorem language_parts : (rule : Rule) → rule.DescribesText →
    (rule.parts.map fun p => p.regex.language asserted).prod = rule.texts asserted
  | .blank, _ => rfl
  | .string text, _ => by
    rw [parts, texts, List.map_map, ← TextLanguage.prod_exactly]
    exact congrArg List.prod (List.map_congr_left fun c _ => language_singleton asserted c)
  | .pattern regex flags, h => by
    obtain ⟨part, names, hreading, hparse⟩ := parse?_of_reading? h.2.1
    rw [parts, texts, hreading, hparse]
    funext before text after
    simp [TextLanguage.anyOf, inGroup]
  | .symbol _, h => h.elim
  | .seq members, h => by
    rw [parts, texts, List.map_singleton, List.prod_singleton, ← language_partsOf members h.2]
    refine (language_inSequence asserted _).trans ?_
    rw [List.map_flatten, List.prod_flatten]
    simp only [List.map_map]
    rfl
  | .choice members, h => by
    rw [parts, texts, List.map_singleton, List.prod_singleton, ← language_partsOf members h.2]
    refine (language_inChoice asserted ?_).trans ?_
    · cases members with
      | nil => exact absurd rfl h.1
      | cons rule rest => exact List.cons_ne_nil _ _
    · rw [List.map_map]
      exact congrArg _ (List.map_congr_left fun ps _ => language_inSequence asserted ps)
  | .zeroOrMore content, h => by
    rw [parts, texts, ← language_parts content h, List.map_singleton, List.prod_singleton,
      ← language_inSequence]
    rfl
  | .oneOrMore content, h => by
    rw [parts, texts, ← language_parts content h, List.map_singleton, List.prod_singleton,
      ← language_inSequence]
    rfl
  | .field _ content, h | .renamed content _ _, h | .token content, h | .immediateToken content, h
  | .prec _ content, h | .precLeft _ content, h | .precRight _ content, h
  | .precDynamic _ content, h | .reserved _ content, h => language_parts content h

theorem language_partsOf : (rules : List Rule) → AllDescribeText rules →
    (partsOf rules).map (fun ps => (ps.map fun p => p.regex.language asserted).prod) =
      textsOf asserted rules
  | [], _ => rfl
  | rule :: rest, h => by
    rw [partsOf, textsOf, List.map_cons, language_parts rule h.1, language_partsOf rest h.2]

end

end Language

/-- The texts written for several rules are read as what is meant, side by side or with bars between
them. -/
structure Written (rules : List Rule) (regexes : List String) : Prop where
  length : regexes.length = rules.length
  front : (String.join regexes).toList.head? ≠ some '?'
  sequence : Writes (String.join regexes).toList (partsOf rules).flatten (groupNamesOf rules)
  choice : rules ≠ [] → Offers ("|".intercalate regexes).toList
    ((partsOf rules).map fun ps => inSequence ps.reverse) (groupNamesOf rules)

theorem writes_group {text : String} {part : Part} {names : List String}
    (h : Inside text.toList part names) :
    Writes ("(?:" ++ text ++ ")").toList [inGroup part] names := by
  have hchars : ("(?:" ++ text ++ ")").toList = '(' :: '?' :: ':' :: (text.toList ++ [')']) := by
    simp
  rw [hchars]
  exact h.writes

theorem patternRegex_eq (regex : String) {flags : Option String} (h : flags.getD "" = "") :
    patternRegex regex flags = "(?:" ++ regex ++ ")" := by
  unfold patternRegex
  rw [h]
  rfl

/-- A text with everything escaped that has a meaning. -/
theorem writes_escaped (chars : List Char) :
    (chars.flatMap fun c => if isMeta c then ['\\', c] else [c]).head? ≠ some '?' ∧
      Writes (chars.flatMap fun c => if isMeta c then ['\\', c] else [c])
        (chars.map fun c => { regex := .chars (.singleton c.toNat) }) [] := by
  induction chars with
  | nil => exact ⟨by simp, .nil⟩
  | cons c chars ih =>
    refine ⟨?_, (Writes.character c).append ih.2 ih.1⟩
    rw [List.flatMap_cons]
    split
    · simp
    · next hplain =>
      rintro ⟨⟩
      exact hplain rfl

mutual

/-- What is written for a body is read as its parts. -/
theorem writes : (rule : Rule) → rule.DescribesText → ∃ text, rule.toRegex = .ok text ∧
    text.toList.head? ≠ some '?' ∧ Writes text.toList rule.parts rule.groupNames
  | .blank, _ => ⟨"", rfl, by simp, .nil⟩
  | .string text, _ => by
    refine ⟨escapeText text, rfl, ?_⟩
    rw [escapeText, String.toList_ofList]
    exact writes_escaped text.toList
  | .pattern regex flags, h => by
    obtain ⟨hflags, hvalid, hgroup⟩ := h
    obtain ⟨part, names, hreading, -⟩ := parse?_of_reading? hvalid
    refine ⟨_, congrArg _ (patternRegex_eq regex hflags), by simp, ?_⟩
    rw [parts, groupNames, hreading]
    exact writes_group (inside_of_reading? hreading hgroup)
  | .symbol _, h => h.elim
  | .seq members, h => by
    obtain ⟨regexes, hregexes, written⟩ := writesEach members h.2
    refine ⟨"(?:" ++ String.join regexes ++ ")", ?_, by simp, writes_group written.sequence.inside⟩
    rw [toRegex, hregexes]
    rfl
  | .choice members, h => by
    obtain ⟨regexes, hregexes, written⟩ := writesEach members h.2
    refine ⟨"(?:" ++ "|".intercalate regexes ++ ")", ?_, by simp,
      writes_group (written.choice h.1).inside⟩
    rw [toRegex, hregexes]
    rfl
  | .zeroOrMore content, h => by
    obtain ⟨text, htext, -, hwrites⟩ := writes content h
    refine ⟨"(?:" ++ text ++ ")*", ?_, by simp, ?_⟩
    · rw [toRegex, htext]
      rfl
    · have marked : ("(?:" ++ text ++ ")*").toList = ("(?:" ++ text ++ ")").toList ++ ['*'] := by
        simp
      rw [marked]
      exact (writes_group hwrites.inside).many (.inl ⟨rfl, rfl⟩) rfl
  | .oneOrMore content, h => by
    obtain ⟨text, htext, -, hwrites⟩ := writes content h
    refine ⟨"(?:" ++ text ++ ")+", ?_, by simp, ?_⟩
    · rw [toRegex, htext]
      rfl
    · have marked : ("(?:" ++ text ++ ")+").toList = ("(?:" ++ text ++ ")").toList ++ ['+'] := by
        simp
      rw [marked]
      exact (writes_group hwrites.inside).many (.inr ⟨rfl, rfl⟩) rfl
  | .field _ content, h | .renamed content _ _, h | .token content, h | .immediateToken content, h
  | .prec _ content, h | .precLeft _ content, h | .precRight _ content, h
  | .precDynamic _ content, h | .reserved _ content, h => writes content h

theorem writesEach : (rules : List Rule) → AllDescribeText rules →
    ∃ regexes, toRegexes rules = .ok regexes ∧ Written rules regexes
  | [], _ => ⟨[], rfl, rfl, by simp, .nil, fun h => absurd rfl h⟩
  | rule :: rest, h => by
    obtain ⟨text, htext, hfront, hwrites⟩ := writes rule h.1
    obtain ⟨regexes, hregexes, written⟩ := writesEach rest h.2
    refine ⟨text :: regexes, ?_, congrArg (· + 1) written.length, ?_, ?_, fun _ => ?_⟩
    · rw [toRegexes, htext, hregexes]
      rfl
    · rw [String.join_cons, String.toList_append]
      cases hchars : text.toList with
      | nil => exact written.front
      | cons c chars =>
        rw [hchars] at hfront
        exact hfront
    · rw [String.join_cons, String.toList_append]
      exact hwrites.append written.sequence written.front
    · cases rest with
      | nil =>
        obtain rfl := Except.ok.inj hregexes
        rw [String.intercalate_singleton]
        exact hwrites.offers
      | cons next rest =>
        have more : regexes ≠ [] := by
          rintro rfl
          cases written.length
        have bar : ("|".intercalate (text :: regexes)).toList =
            text.toList ++ '|' :: ("|".intercalate regexes).toList := by
          rw [String.intercalate_cons_of_ne_nil more]
          simp
        rw [bar]
        exact hwrites.offers_cons (written.choice (List.cons_ne_nil _ _))

end

theorem language_written (asserted : Look → Bool → List Char → List Char → Prop) {rule : Rule}
    (h : rule.DescribesText) :
    (inSequence rule.parts.reverse).regex.language asserted = rule.texts asserted := by
  rw [language_inSequence, language_parts asserted rule h]

theorem parse?_written {rule : Rule} {text : String}
    (h : Writes text.toList rule.parts rule.groupNames) (hnames : rule.groupNames.Nodup) :
    parse? text = if rule.nesting ≤ nestingLimit then
      some (inSequence rule.parts.reverse).regex else none := by
  rw [parse?_eq, h.reading?_eq hnames]
  rfl

/-- Over the bytes of a text that stands alone, a run of the expression written for a token's body
accepts just the texts that the body describes. -/
theorem accepts_written {rule : Rule} (h : rule.DescribesText) (hnames : rule.groupNames.Nodup)
    (hdepth : rule.nesting ≤ nestingLimit) : ∃ text regex, rule.toRegex = .ok text ∧
      parse? text = some regex ∧ ∀ chars : List Char,
        ((bytesOf chars).foldl Pattern.State.next ⟨none, [regex], none⟩).accepts none = true ↔
          rule.texts decided [] chars [] := by
  obtain ⟨text, htext, -, hwrites⟩ := writes rule h
  have hparse := (parse?_written hwrites hnames).trans (if_pos hdepth)
  refine ⟨text, _, htext, hparse, fun chars => ?_⟩
  have ordered : ∀ r ∈ [(inSequence rule.parts.reverse).regex], r.Ordered :=
    List.forall_mem_singleton.2 (ordered_of_parse? hparse)
  rw [← language_written decided h]
  exact (Pattern.accepts_bytes_iff [] chars [] ordered).trans (by simp)

/-- The regular expression written for a token's body can always be written. If no two groups have
one name and it is not nested too deep it is well formed, and it matches just what the body
describes. -/
theorem toRegex_faithful (rule : Rule) (h : rule.DescribesText) : ∃ text, rule.toRegex = .ok text ∧
    (rule.groupNames.Nodup → ∃ regex, (∀ asserted, regex.language asserted = rule.texts asserted) ∧
      parse? text = if rule.nesting ≤ nestingLimit then some regex else none) := by
  obtain ⟨text, htext, -, hwrites⟩ := writes rule h
  exact ⟨text, htext, fun hnames => ⟨(inSequence rule.parts.reverse).regex,
    fun asserted => language_written asserted h, parse?_written hwrites hnames⟩⟩

/-- Fixed text, a pattern and a repetition side by side. -/
theorem toRegex_faithful_mixed :
    let rule : Rule := .token (.seq [.string "a*", .zeroOrMore (.choice [.pattern "(?<n>x)|y" none,
      .blank])])
    rule.DescribesText ∧ ∃ text regex, rule.toRegex = .ok text ∧ parse? text = some regex ∧
      ∀ asserted, regex.language asserted = rule.texts asserted := by
  intro rule
  have describes : rule.DescribesText := by
    have valid : (parse? "(?<n>x)|y").isSome ∧
        (parse? ("(?:" ++ "(?<n>x)|y" ++ ")")).isSome := by decide +kernel
    exact ⟨List.cons_ne_nil _ _, trivial, ⟨List.cons_ne_nil _ _, ⟨rfl, valid⟩, trivial, trivial⟩,
      trivial⟩
  obtain ⟨text, htext, read⟩ := toRegex_faithful rule describes
  obtain ⟨regex, hlanguage, hregex⟩ := read (by decide +kernel)
  rw [if_pos (by decide +kernel)] at hregex
  exact ⟨describes, text, regex, htext, hregex, hlanguage⟩

/-- Without these conditions what is written may be no expression: here two patterns name a group
alike, and repetitions are nested too deep. -/
theorem toRegex_refused :
    let twice : Rule := .seq [.pattern "(?<n>a)" none, .pattern "(?<n>a)" none]
    let deep : Rule := Nat.repeat .zeroOrMore 126 .blank
    (twice.DescribesText ∧ ∃ text, twice.toRegex = .ok text ∧ parse? text = none) ∧
      deep.DescribesText ∧ ∃ text, deep.toRegex = .ok text ∧ parse? text = none := by
  intro twice deep
  have valid : (parse? "(?<n>a)").isSome ∧ (parse? ("(?:" ++ "(?<n>a)" ++ ")")).isSome := by
    decide +kernel
  refine ⟨⟨⟨List.cons_ne_nil _ _, ⟨rfl, valid⟩, ⟨rfl, valid⟩, trivial⟩,
    "(?:(?:(?<n>a))(?:(?<n>a)))", rfl, ?_⟩, trivial, ?_⟩
  · decide +kernel
  · obtain ⟨text, htext, -, hwrites⟩ := writes deep trivial
    have names : deep.groupNames.Nodup := by decide +kernel
    have tooDeep : ¬ deep.nesting ≤ nestingLimit := by decide +kernel
    exact ⟨text, htext, (parse?_written hwrites names).trans (if_neg tooDeep)⟩

end Rule
end IncrementalGlr
