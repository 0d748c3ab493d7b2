import Mathlib.Algebra.Group.Defs
import Mathlib.Algebra.BigOperators.Group.List.Defs
import Mathlib.Data.List.Basic
import IncrementalGlr.Regex.Parser
import IncrementalGlr.Regex.Pattern

/-!
What regular expressions match. Whether a text belongs to a language of texts depends on what stands
around it as well, because assertions ask for it (`TextLanguage`). Under concatenation languages of
texts are a monoid, so that the rounds of a loop are powers. What the assertions ask is left open at
first.

Where they ask for the bytes next to the position (`decided`), the partial derivatives take a match
apart at its first character (`exists_rests_iff`), and a run over the bytes of a text accepts it if
and only if a thread matches it (`Pattern.accepts_bytes_iff`). That needs loops that may have as
many rounds as they must have, which every expression that is read has (`ordered_of_parse?`).
-/
namespace IncrementalGlr

/-- A language of texts, each with what stands before it and what stands after it. -/
def TextLanguage : Type := List Char → List Char → List Char → Prop

namespace TextLanguage

/-- One text after another, and the empty text. -/
instance : Monoid TextLanguage where
  mul K L before text after :=
    ∃ u v, u ++ v = text ∧ K before u (v ++ after) ∧ L (before ++ u) v after
  one _ text _ := text = []
  mul_assoc K L M := by
    funext before text after
    refine propext ⟨?_, ?_⟩
    · rintro ⟨_, w, rfl, ⟨u, v, rfl, hu, hv⟩, hw⟩
      refine ⟨u, v ++ w, (List.append_assoc u v w).symm, ?_, v, w, rfl, hv, ?_⟩
      · rwa [List.append_assoc]
      · rwa [List.append_assoc]
    · rintro ⟨u, _, rfl, hu, v, w, rfl, hv, hw⟩
      refine ⟨u ++ v, w, List.append_assoc u v w, ⟨u, v, rfl, ?_, hv⟩, ?_⟩
      · rwa [← List.append_assoc]
      · rwa [← List.append_assoc]
  one_mul K := by
    funext before text after
    refine propext ⟨?_, fun h => ⟨[], text, rfl, rfl, ?_⟩⟩
    · rintro ⟨_, v, rfl, rfl, hv⟩
      rwa [List.append_nil] at hv
    · rwa [List.append_nil]
  mul_one K := by
    funext before text after
    refine propext ⟨?_, fun h => ⟨text, [], List.append_nil text, h, rfl⟩⟩
    rintro ⟨u, _, rfl, hu, rfl⟩
    rwa [List.append_nil]

/-- Just the given text. -/
def exactly (chars : List Char) : TextLanguage := fun _ text _ => text = chars

/-- What any of the languages has. -/
def anyOf (languages : List TextLanguage) : TextLanguage := fun before text after =>
  ∃ K ∈ languages, K before text after

/-- At least `min` texts one after another, and at most `max` if there is a limit. -/
def repeated (K : TextLanguage) (min : Nat) (max : Option Nat) : TextLanguage :=
  fun before text after => ∃ n, min ≤ n ∧ (∀ m ∈ max, n ≤ m) ∧ (K ^ n) before text after

theorem exactly_append (u v : List Char) : exactly (u ++ v) = exactly u * exactly v := by
  funext before text after
  refine propext ⟨?_, ?_⟩
  · rintro rfl
    exact ⟨u, v, rfl, rfl, rfl⟩
  · rintro ⟨_, _, rfl, rfl, rfl⟩
    rfl

theorem prod_exactly (chars : List Char) :
    (chars.map fun c => exactly [c]).prod = exactly chars := by
  induction chars with
  | nil => rfl
  | cons c chars ih =>
    rw [List.map_cons, List.prod_cons, ih, ← exactly_append]
    rfl

variable {K L : TextLanguage} {before text after : List Char} {c : Char}

/-! ### The first character -/

/-- The first text begins with the character, the second follows. -/
def Takes (K L : TextLanguage) (before : List Char) (c : Char) (text after : List Char) : Prop :=
  ∃ u v, u ++ v = text ∧ K before (c :: u) (v ++ after) ∧ L (before ++ c :: u) v after

theorem mul_nil : (K * L) before [] after ↔ K before [] after ∧ L before [] after := by
  constructor
  · rintro ⟨u, v, huv, hu, hv⟩
    obtain ⟨rfl, rfl⟩ := List.append_eq_nil_iff.1 huv
    rw [List.append_nil] at hv
    exact ⟨hu, hv⟩
  · rintro ⟨hu, hv⟩
    refine ⟨[], [], rfl, hu, ?_⟩
    rwa [List.append_nil]

theorem mul_cons : (K * L) before (c :: text) after ↔
    K.Takes L before c text after ∨
      K before [] (c :: text ++ after) ∧ L before (c :: text) after := by
  constructor
  · rintro ⟨u, v, huv, hu, hv⟩
    cases u with
    | nil =>
      obtain rfl : v = c :: text := huv
      rw [List.append_nil] at hv
      exact .inr ⟨hu, hv⟩
    | cons d u =>
      obtain ⟨rfl, rfl⟩ := List.cons.inj huv
      exact .inl ⟨u, v, rfl, hu, hv⟩
  · rintro (⟨u, v, rfl, hu, hv⟩ | ⟨hu, hv⟩)
    · exact ⟨c :: u, v, rfl, hu, hv⟩
    · refine ⟨[], c :: text, rfl, hu, ?_⟩
      rwa [List.append_nil]

theorem Takes.mono {M : TextLanguage} (h : K.Takes L before c text after)
    (hLM : ∀ before text, L before text after → M before text after) :
    K.Takes M before c text after := by
  obtain ⟨u, v, huv, hu, hv⟩ := h
  exact ⟨u, v, huv, hu, hLM _ _ hv⟩

theorem pow_nil {n : Nat} (h : n ≠ 0) : (K ^ n) before [] after ↔ K before [] after := by
  induction n with
  | zero => exact absurd rfl h
  | succ n ih =>
    rw [pow_succ', mul_nil]
    refine ⟨And.left, fun hK => ⟨hK, ?_⟩⟩
    by_cases hn : n = 0
    · subst hn
      rfl
    · exact (ih hn).2 hK

/-- Of several rounds one is the first that is not empty. -/
theorem takes_of_pow {n : Nat} (h : (K ^ n) before (c :: text) after) :
    ∃ m < n, K.Takes (K ^ m) before c text after := by
  induction n with
  | zero => cases h
  | succ n ih =>
    rw [pow_succ', mul_cons] at h
    obtain h | ⟨-, h⟩ := h
    · exact ⟨n, Nat.lt_succ_self n, h⟩
    · obtain ⟨m, hm, h⟩ := ih h
      exact ⟨m, Nat.lt_succ_of_lt hm, h⟩

theorem repeated_nil {min : Nat} {max : Option Nat} (h : ∀ m ∈ max, min ≤ m) :
    K.repeated min max before [] after ↔ min = 0 ∨ K before [] after := by
  constructor
  · rintro ⟨n, hmin, -, hK⟩
    by_cases hn : n = 0
    · exact .inl (by omega)
    · exact .inr ((pow_nil hn).1 hK)
  · intro hK
    refine ⟨min, Nat.le_refl min, h, ?_⟩
    by_cases hmin : min = 0
    · subst hmin
      rfl
    · exact (pow_nil hmin).2 (hK.resolve_left hmin)

theorem repeated_succ {min : Nat} {max : Option Nat} (h : ∀ m ∈ max, min + 1 ≤ m) :
    K.repeated (min + 1) max = K * K.repeated min (Regex.oneLess max) := by
  funext before text after
  refine propext ⟨?_, ?_⟩
  · rintro ⟨n, hmin, hmax, hK⟩
    obtain ⟨n, rfl⟩ : ∃ k, n = k + 1 := ⟨n - 1, by omega⟩
    rw [pow_succ'] at hK
    obtain ⟨u, v, huv, hu, hv⟩ := hK
    refine ⟨u, v, huv, hu, n, Nat.le_of_succ_le_succ hmin, ?_, hv⟩
    intro m hm
    obtain ⟨k, hk, rfl⟩ := Option.map_eq_some_iff.1 hm
    exact Nat.le_sub_one_of_lt (hmax k hk)
  · rintro ⟨u, v, huv, hu, n, hmin, hmax, hv⟩
    refine ⟨n + 1, Nat.succ_le_succ hmin, fun m hm => ?_, ?_⟩
    · have := hmax (m - 1) (Option.map_eq_some_iff.2 ⟨m, hm, rfl⟩)
      have := h m hm
      omega
    · rw [pow_succ']
      exact ⟨u, v, huv, hu, hv⟩

theorem repeated_zero_cons {max : Option Nat} : K.repeated 0 max before (c :: text) after ↔
    max ≠ some 0 ∧ K.Takes (K.repeated 0 (Regex.oneLess max)) before c text after := by
  constructor
  · rintro ⟨n, -, hmax, hK⟩
    obtain ⟨j, hj, hK⟩ := takes_of_pow hK
    refine ⟨?_, hK.mono fun _ _ h => ⟨j, Nat.zero_le j, ?_, h⟩⟩
    · rintro rfl
      have := hmax 0 rfl
      omega
    · intro m hm
      obtain ⟨k, hk, rfl⟩ := Option.map_eq_some_iff.1 hm
      exact Nat.le_sub_one_of_lt (Nat.lt_of_lt_of_le hj (hmax k hk))
  · rintro ⟨hmax, u, v, rfl, hu, n, -, hn, hv⟩
    refine ⟨n + 1, Nat.zero_le _, fun m hm => ?_, ?_⟩
    · obtain rfl := Option.mem_def.1 hm
      have := hn (m - 1) rfl
      have : m ≠ 0 := by
        rintro rfl
        exact hmax rfl
      omega
    · rw [pow_succ']
      exact ⟨c :: u, v, rfl, hu, hv⟩

end TextLanguage

namespace Regex

open TextLanguage

section Language

-- What each assertion asks of the text before the position and of the text after it.
variable (asserted : Look → Bool → List Char → List Char → Prop)

/-- What an expression matches. -/
def language : Regex → TextLanguage
  | empty => 1
  | chars set => fun _ text _ => ∃ c : Char, text = [c] ∧ set.contains c.toNat
  | look what unicode => fun before text after => text = [] ∧ asserted what unicode before after
  | seq a b => language a * language b
  | alt a b => anyOf [language a, language b]
  | loop r min max => (language r).repeated min max

theorem language_singleton (c : Char) :
    (chars (.singleton c.toNat)).language asserted = exactly [c] := by
  funext before text after
  refine propext ⟨?_, ?_⟩
  · rintro ⟨d, rfl, hd⟩
    have same : d.toNat = c.toNat := by
      simp [Unicode.CodeSet.contains, Unicode.CodeSet.singleton] at hd
      omega
    rw [Char.toNat_inj.1 same]
    rfl
  · rintro rfl
    exact ⟨c, rfl, by simp [Unicode.CodeSet.contains, Unicode.CodeSet.singleton]⟩

theorem language_alt {a b : Regex} {before text after : List Char} :
    (alt a b).language asserted before text after ↔
      a.language asserted before text after ∨ b.language asserted before text after := by
  simp [language, anyOf]

theorem language_chars_cons {set : Unicode.CodeSet} {before text after : List Char} {c : Char} :
    (chars set).language asserted before (c :: text) after ↔
      text = [] ∧ set.contains c.toNat = true := by
  constructor
  · rintro ⟨d, hd, hset⟩
    obtain ⟨rfl, rfl⟩ := List.cons.inj hd
    exact ⟨rfl, hset⟩
  · rintro ⟨rfl, hset⟩
    exact ⟨c, rfl, hset⟩

theorem language_sequence : (rs : List Regex) →
    (sequence rs).language asserted = (rs.map (language asserted)).prod
  | [] => rfl
  | [r] => (mul_one (r.language asserted)).symm
  | r :: s :: rs => congrArg (r.language asserted * ·) (language_sequence (s :: rs))

theorem language_oneOf : {rs : List Regex} → rs ≠ [] →
    (oneOf rs).language asserted = anyOf (rs.map (language asserted))
  | [r], _ => by
    funext before text after
    simp [oneOf, anyOf]
  | r :: s :: rs, _ => by
    funext before text after
    refine propext ((language_alt asserted).trans ?_)
    rw [language_oneOf (List.cons_ne_nil s rs)]
    simp [anyOf]

end Language

/-! ### Partial derivatives -/

section Derivatives

/-- The bytes of several characters. -/
def bytesOf (chars : List Char) : List UInt8 := chars.flatMap String.utf8EncodeChar

theorem bytesOf_cons (c : Char) (text : List Char) :
    bytesOf (c :: text) = String.utf8EncodeChar c ++ bytesOf text := List.flatMap_cons

/-- What an assertion asks of the bytes next to the position. -/
def decided (what : Look) (_ : Bool) (before after : List Char) : Prop :=
  what.holds (bytesOf before).getLast? (bytesOf after).head?

/-- Every loop may have as many rounds as it must have. -/
def Ordered : Regex → Prop
  | empty | chars _ | look _ _ => True
  | seq a b | alt a b => a.Ordered ∧ b.Ordered
  | loop r min max => r.Ordered ∧ ∀ m ∈ max, min ≤ m

variable {before text after : List Char} {c : Char} {first : UInt8} {r : Regex}

theorem le_oneLess {min : Nat} {max : Option Nat} (h : ∀ m ∈ max, min + 1 ≤ m) :
    ∀ m ∈ oneLess max, min ≤ m := by
  intro m hm
  obtain ⟨k, hk, rfl⟩ := Option.map_eq_some_iff.1 hm
  exact Nat.le_sub_one_of_lt (h k hk)

theorem language_andThen (asserted : Look → Bool → List Char → List Char → Prop) (a b : Regex) :
    (a.andThen b).language asserted = a.language asserted * b.language asserted := by
  cases a with
  | empty => exact (one_mul _).symm
  | _ => rfl

theorem nullable_iff (h : r.Ordered) : r.language decided before [] after ↔
    r.nullable (bytesOf before).getLast? (bytesOf after).head? = true := by
  induction r with
  | empty => exact iff_of_true rfl rfl
  | chars set =>
    refine iff_of_false ?_ Bool.false_ne_true
    rintro ⟨c, hc, -⟩
    cases hc
  | look what unicode => exact and_iff_right rfl
  | seq a b iha ihb =>
    rw [language, mul_nil, iha h.1, ihb h.2, nullable, Bool.and_eq_true]
  | alt a b iha ihb =>
    rw [language_alt, iha h.1, ihb h.2, nullable, Bool.or_eq_true]
  | loop r min max ih =>
    rw [language, repeated_nil h.2, ih h.1, nullable, Bool.or_eq_true, decide_eq_true_iff]

/-- The character is taken by what some rests stem from. -/
theorem takes_iff_rests {L : TextLanguage} {rs : List Regex}
    (hrs : ∀ text after, r.language decided before (c :: text) after ↔
      ∃ s ∈ rs, s.language decided (before ++ [c]) text after) :
    (r.language decided).Takes L before c text after ↔
      ∃ s ∈ rs, (s.language decided * L) (before ++ [c]) text after := by
  constructor
  · rintro ⟨u, v, huv, hu, hv⟩
    obtain ⟨s, hs, hu⟩ := (hrs _ _).1 hu
    refine ⟨s, hs, u, v, huv, hu, ?_⟩
    rwa [List.append_assoc]
  · rintro ⟨s, hs, u, v, huv, hu, hv⟩
    refine ⟨u, v, huv, (hrs _ _).2 ⟨s, hs, hu⟩, ?_⟩
    rwa [List.append_assoc] at hv

theorem exists_map_andThen_iff {rs : List Regex} {b : Regex} :
    (∃ s ∈ rs.map (·.andThen b), s.language decided before text after) ↔
      ∃ s ∈ rs, (s.language decided * b.language decided) before text after := by
  constructor
  · rintro ⟨_, hmem, hmatch⟩
    obtain ⟨s, hs, rfl⟩ := List.mem_map.1 hmem
    rw [language_andThen] at hmatch
    exact ⟨s, hs, hmatch⟩
  · rintro ⟨s, hs, hmatch⟩
    rw [← language_andThen] at hmatch
    exact ⟨_, List.mem_map_of_mem hs, hmatch⟩

theorem exists_loopRests_iff {rs : List Regex} {skips : Bool}
    (hrs : ∀ text after, r.language decided before (c :: text) after ↔
      ∃ s ∈ rs, s.language decided (before ++ [c]) text after)
    (hskips : r.language decided before [] (c :: text ++ after) ↔ skips = true) (min : Nat)
    (max : Option Nat) (h : ∀ m ∈ max, min ≤ m) :
    (r.language decided).repeated min max before (c :: text) after ↔
      ∃ s ∈ loopRests rs skips r min max, s.language decided (before ++ [c]) text after := by
  induction min generalizing max with
  | zero =>
    rw [repeated_zero_cons, takes_iff_rests hrs]
    by_cases hmax : max = some 0
    · subst hmax
      simp [loopRests]
    · rw [loopRests, and_iff_right hmax]
      · exact (exists_map_andThen_iff (b := loop r 0 (oneLess max))).symm
      · exact hmax
  | succ min ih =>
    rw [repeated_succ h, mul_cons, takes_iff_rests hrs, hskips, ih _ (le_oneLess h), loopRests]
    simp only [List.mem_append, or_and_right, exists_or]
    refine or_congr (exists_map_andThen_iff (b := loop r min (oneLess max))).symm ?_
    cases skips <;> simp

/-- A text with a first character is matched if one of the rests matches what is behind it. -/
theorem exists_rests_iff (h : r.Ordered) (hfirst : (String.utf8EncodeChar c).head? = some first) :
    r.language decided before (c :: text) after ↔
      ∃ s ∈ r.rests (bytesOf before).getLast? first c.toNat,
        s.language decided (before ++ [c]) text after := by
  have skips {a : Regex} (ha : a.Ordered) (behind : List Char) :
      a.language decided before [] (c :: behind) ↔
        a.nullable (bytesOf before).getLast? (some first) = true := by
    rw [nullable_iff ha, bytesOf_cons, List.head?_append, hfirst, Option.some_or]
  induction r generalizing text after with
  | empty => simp [language, rests, OfNat.ofNat, One.one]
  | chars set =>
    rw [language_chars_cons, rests]
    by_cases hset : set.contains c.toNat = true
    · rw [if_pos hset, and_iff_left hset]
      refine ⟨fun htext => ⟨empty, List.mem_singleton_self empty, htext⟩, ?_⟩
      rintro ⟨s, hs, htext⟩
      obtain rfl := List.mem_singleton.1 hs
      exact htext
    · simp [hset]
  | look what unicode => simp [language, rests]
  | seq a b iha ihb =>
    refine mul_cons.trans ((or_congr (takes_iff_rests fun _ _ => iha h.1)
      (and_congr (skips h.1 _) (ihb h.2))).trans ?_)
    rw [rests]
    simp only [List.mem_append, or_and_right, exists_or]
    refine or_congr exists_map_andThen_iff.symm ?_
    cases a.nullable (bytesOf before).getLast? (some first) <;> simp
  | alt a b iha ihb =>
    refine (language_alt decided).trans ((or_congr (iha h.1) (ihb h.2)).trans ?_)
    rw [rests]
    simp only [List.mem_append, or_and_right, exists_or]
  | loop r min max ih =>
    exact exists_loopRests_iff (fun _ _ => ih h.1) (skips h.1 _) min max h.2

theorem Ordered.andThen {a b : Regex} (ha : a.Ordered) (hb : b.Ordered) :
    (a.andThen b).Ordered := by
  cases a with
  | empty => exact hb
  | _ => exact ⟨ha, hb⟩

theorem Ordered.loopRests {rs : List Regex} {skips : Bool} (hr : r.Ordered)
    (hrs : ∀ s ∈ rs, s.Ordered) (min : Nat) (max : Option Nat) (h : ∀ m ∈ max, min ≤ m) :
    ∀ s ∈ loopRests rs skips r min max, s.Ordered := by
  have round (min : Nat) (max : Option Nat) (h : ∀ m ∈ max, min ≤ m) :
      ∀ s ∈ rs.map fun s => s.andThen (loop r min max), s.Ordered := by
    intro _ hs
    obtain ⟨s, hmem, rfl⟩ := List.mem_map.1 hs
    exact (hrs s hmem).andThen ⟨hr, h⟩
  induction min generalizing max with
  | zero =>
    by_cases hmax : max = some 0
    · subst hmax
      intro s hs
      cases hs
    · rw [Regex.loopRests]
      · exact round 0 _ fun _ _ => Nat.zero_le _
      · exact hmax
  | succ min ih =>
    intro s hs
    rw [Regex.loopRests, List.mem_append] at hs
    obtain hs | hs := hs
    · exact round min _ (le_oneLess h) s hs
    · split at hs
      · exact ih _ (le_oneLess h) s hs
      · cases hs

theorem Ordered.rests {before : Option UInt8} {n : Nat} (h : r.Ordered) :
    ∀ s ∈ r.rests before first n, s.Ordered := by
  induction r with
  | empty | look =>
    intro s hs
    cases hs
  | chars set =>
    intro s hs
    rw [Regex.rests] at hs
    split at hs
    · obtain rfl := List.mem_singleton.1 hs
      trivial
    · cases hs
  | seq a b iha ihb =>
    intro s hs
    rw [Regex.rests, List.mem_append] at hs
    obtain hs | hs := hs
    · obtain ⟨s, hmem, rfl⟩ := List.mem_map.1 hs
      exact (iha h.1 s hmem).andThen h.2
    · split at hs
      · exact ihb h.2 s hs
      · cases hs
  | alt a b iha ihb =>
    intro s hs
    rw [Regex.rests, List.mem_append] at hs
    exact hs.elim (iha h.1 s) (ihb h.2 s)
  | loop r min max ih => exact Ordered.loopRests h.1 (ih h.1) min max h.2

end Derivatives

/-! ### What is read -/

/-- Whatever is read has the property. -/
def Gives {α : Type} (P : Parser α) (Q : α → Prop) : Prop := ∀ s a s', P s = some (a, s') → Q a

namespace Gives

variable {α β : Type} {P P' : Parser α} {F : α → Parser β} {Q : α → Prop} {R : β → Prop}

theorem pure {a : α} (h : Q a) : Gives (Pure.pure a) Q := by
  intro s b s' hb
  obtain ⟨rfl, -⟩ := Prod.mk.inj (Option.some.inj hb)
  exact h

theorem fail : Gives Regex.fail Q := nofun

theorem bind (h : Gives P Q) (hF : ∀ a, Q a → Gives (F a) R) : Gives (P >>= F) R := by
  intro s b s' hb
  obtain ⟨⟨a, t⟩, ha, hb⟩ := Option.bind_eq_some_iff.1 hb
  exact hF a (h s a t ha) t b s' hb

/-- Nothing has to be known of what is read first. -/
theorem after (hF : ∀ a, Gives (F a) R) : Gives (P >>= F) R :=
  bind (fun _ _ _ _ => trivial) fun a _ => hF a

theorem ite {c : Prop} [Decidable c] (h : c → Gives P Q) (h' : ¬ c → Gives P' Q) :
    Gives (if c then P else P') Q := by
  split
  · next hc => exact h hc
  · next hc => exact h' hc

theorem fail_bind : Gives (Regex.fail >>= F) R := nofun

/-- Work that fails unless a condition holds. -/
theorem check {c : Prop} [Decidable c] {F : α → Parser β} {P : Parser β} (h : ¬ c → Gives P R) :
    Gives (if c then Regex.fail >>= F else P) R :=
  ite (fun _ => fail_bind) h

/-- The least number of rounds is not above the greatest. -/
theorem counts : Gives Regex.counts fun range => ∀ m ∈ range.2, range.1 ≤ m := by
  have checked (range : Nat × Option Nat) : Gives (do
        if (← current) ≠ '\x7d' then Regex.fail
        bump
        skipBlanks
        if range.2.any (· < range.1) then Regex.fail else return range)
      fun range => ∀ m ∈ range.2, range.1 ≤ m := by
    refine after fun c => check fun _ => after fun _ => after fun _ => ?_
    refine ite (fun _ => fail) fun hrange => pure fun m hm => ?_
    rw [Option.mem_def.1 hm, Option.any_some, decide_eq_true_iff] at hrange
    exact Nat.not_lt.1 hrange
  refine after fun _ => after fun least => after fun c =>
    ite (fun _ => after fun _ => ?_) fun _ => ?_
  · cases least with
    | none => exact fail_bind
    | some n =>
      refine after fun c => ite (fun _ => after fun _ => checked _) fun _ =>
        after fun greatest => ?_
      cases greatest with
      | none => exact fail_bind
      | some m => exact after fun _ => checked _
  · cases least with
    | none => exact fail_bind
    | some n => exact after fun _ => checked _

theorem repeated {parts : List Part} {least : Nat} {greatest : Option Nat}
    (h : ∀ p ∈ parts, p.regex.Ordered) (hrange : ∀ m ∈ greatest, least ≤ m) :
    Gives (Regex.repeated parts least greatest) fun parts => ∀ p ∈ parts, p.regex.Ordered := by
  cases parts with
  | nil => exact fail
  | cons last more =>
    refine check fun _ => pure ?_
    refine List.forall_mem_cons.2 ⟨?_, fun p hp => h p (List.mem_cons_of_mem last hp)⟩
    dsimp only
    split
    · trivial
    · exact ⟨h last List.mem_cons_self, hrange⟩

theorem literal (c : Char) (byte : Bool) : Gives (Regex.literal c byte) Ordered :=
  after fun _ => after fun _ => pure trivial

theorem dot : Gives Regex.dot Ordered :=
  after fun _ => ite (fun _ => fail) fun _ => ite (fun _ => pure trivial) fun _ =>
    ite (fun _ => pure trivial) fun _ => pure trivial

theorem primitive : Gives Regex.primitive Ordered := by
  refine after fun c => after fun f => ?_
  split
  · refine after fun atom => ?_
    cases atom with
    | literal c byte => exact literal c byte
    | set s => exact pure trivial
    | assertion what => exact pure trivial
  · exact after fun _ => dot
  · exact after fun _ => pure trivial
  · exact after fun _ => pure trivial
  · exact after fun _ => literal c false

end Gives

theorem ordered_sequence {rs : List Regex} (h : ∀ r ∈ rs, r.Ordered) : (sequence rs).Ordered := by
  fun_induction sequence rs with
  | case1 => trivial
  | case2 r => exact h r List.mem_cons_self
  | case3 r rest _ ih =>
    exact ⟨h r List.mem_cons_self, ih fun s hs => h s (List.mem_cons_of_mem r hs)⟩

theorem ordered_oneOf {rs : List Regex} (h : ∀ r ∈ rs, r.Ordered) : (oneOf rs).Ordered := by
  fun_induction oneOf rs with
  | case1 => trivial
  | case2 r => exact h r List.mem_cons_self
  | case3 r rest _ ih =>
    exact ⟨h r List.mem_cons_self, ih fun s hs => h s (List.mem_cons_of_mem r hs)⟩

theorem ordered_inSequence {parts : List Part} (h : ∀ p ∈ parts, p.regex.Ordered) :
    (inSequence parts).regex.Ordered :=
  ordered_sequence (List.forall_mem_map.2 fun p hp => h p (List.mem_reverse.1 hp))

theorem ordered_inChoice {parts : List Part} (h : ∀ p ∈ parts, p.regex.Ordered) :
    (inChoice parts).regex.Ordered :=
  ordered_oneOf (List.forall_mem_map.2 fun p hp => h p (List.mem_reverse.1 hp))

namespace Gives

theorem alternatives {group : Parser Part} (hgroup : Gives group fun p => p.regex.Ordered)
    {fuel : Nat} {done parts : List Part} (hdone : ∀ p ∈ done, p.regex.Ordered)
    (hparts : ∀ p ∈ parts, p.regex.Ordered) :
    Gives (Regex.alternatives group fuel done parts) fun p => p.regex.Ordered := by
  induction fuel generalizing done parts with
  | zero => exact fail
  | succ fuel ih =>
    have finished : ∀ p ∈ inSequence parts :: done, p.regex.Ordered :=
      List.forall_mem_cons.2 ⟨ordered_inSequence hparts, hdone⟩
    have one {p : Part} (hp : p.regex.Ordered) : Gives
        (Regex.alternatives group fuel done (p :: parts)) fun p => p.regex.Ordered :=
      ih hdone (List.forall_mem_cons.2 ⟨hp, hparts⟩)
    have again {least : Nat} {greatest : Option Nat} (h : ∀ m ∈ greatest, least ≤ m) : Gives (do
          laziness
          Regex.alternatives group fuel done (← Regex.repeated parts least greatest))
        fun p => p.regex.Ordered :=
      after fun _ => (repeated hparts h).bind fun _ hagain => ih hdone hagain
    refine after fun _ => after fun o => ?_
    split
    · exact pure (ordered_inChoice finished)
    · exact pure (ordered_inChoice finished)
    · exact after fun _ => ih finished nofun
    · refine after fun o => ?_
      cases o with
      | setting f => exact after fun _ => one trivial
      | group f =>
        exact after fun _ => after fun _ => hgroup.bind fun inner hinner => after fun c =>
          check fun _ => after fun _ => one hinner
    · exact after fun _ => after fun _ => one trivial
    · exact after fun _ => again fun _ _ => Nat.zero_le _
    · exact after fun _ => again nofun
    · exact after fun _ => again nofun
    · exact counts.bind fun range hrange => again hrange
    · exact primitive.bind fun _ hr => one hr

theorem grouped (fuel : Nat) : Gives (Regex.grouped fuel) fun p => p.regex.Ordered := by
  induction fuel with
  | zero => exact fail
  | succ fuel ih => exact after fun _ => alternatives ih nofun nofun

end Gives

theorem ordered_of_parse? {text : String} {r : Regex} (h : parse? text = some r) : r.Ordered := by
  obtain ⟨⟨part, cursor⟩, hread, h⟩ := Option.bind_eq_some_iff.1 h
  dsimp only at h
  split at h
  · obtain rfl := Option.some.inj h
    exact Gives.grouped _ _ _ _ hread
  · cases h

end Regex

namespace Pattern

open Regex

section

variable {before : Option UInt8} {threads : List Regex}

/-- Its highest bits say how many bytes a character has that begins with a byte. -/
theorem begin_eq {b : Nat} (hb : b < 256) : Partial.begin (.ofNat b) =
    if b < 0xE0 then ⟨.ofNat b, b % 32, 1, 0x80⟩
    else if b < 0xF0 then ⟨.ofNat b, b % 16, 2, 0x800⟩
    else ⟨.ofNat b, b % 8, 3, 0x10000⟩ := by
  rw [Partial.begin, UInt8.toNat_ofNat_of_lt' hb]

theorem next_first {b : Nat} (hb : 0x80 ≤ b) (hb' : b < 256) :
    State.next ⟨before, threads, none⟩ (.ofNat b) =
      ⟨before, threads, some (Partial.begin (.ofNat b))⟩ := by
  have high : ¬ UInt8.ofNat b < 0x80 := by
    rw [UInt8.lt_iff_toNat_lt, UInt8.toNat_ofNat_of_lt' hb']
    exact Nat.not_lt.2 hb
  simp only [State.next, if_neg high]

theorem next_first_of_two {n : Nat} (hn : n < 32) :
    State.next ⟨before, threads, none⟩ (.ofNat (n + 0xC0)) =
      ⟨before, threads, some ⟨.ofNat (n + 0xC0), n, 1, 0x80⟩⟩ := by
  rw [next_first (by omega) (by omega), begin_eq (by omega), if_pos (by omega),
    show (n + 0xC0) % 32 = n by omega]

theorem next_first_of_three {n : Nat} (hn : n < 16) :
    State.next ⟨before, threads, none⟩ (.ofNat (n + 0xE0)) =
      ⟨before, threads, some ⟨.ofNat (n + 0xE0), n, 2, 0x800⟩⟩ := by
  rw [next_first (by omega) (by omega), begin_eq (by omega), if_neg (by omega), if_pos (by omega),
    show (n + 0xE0) % 16 = n by omega]

theorem next_first_of_four {n : Nat} (hn : n < 8) :
    State.next ⟨before, threads, none⟩ (.ofNat (n + 0xF0)) =
      ⟨before, threads, some ⟨.ofNat (n + 0xF0), n, 3, 0x10000⟩⟩ := by
  rw [next_first (by omega) (by omega), begin_eq (by omega), if_neg (by omega), if_neg (by omega),
    show (n + 0xF0) % 8 = n by omega]

/-- A byte inside a character brings six bits. -/
theorem low_bits {n : Nat} (hn : n < 64) : (UInt8.ofNat (n + 0x80)).toNat % 64 = n := by
  have whole : n + 0x80 < 256 := by omega
  rw [UInt8.toNat_ofNat_of_lt' whole]
  omega

theorem next_inside {first : UInt8} {bits missing least n : Nat} (hn : n < 64) :
    State.next ⟨before, threads, some ⟨first, bits, missing + 2, least⟩⟩ (.ofNat (n + 0x80)) =
      ⟨before, threads, some ⟨first, bits * 64 + n, missing + 1, least⟩⟩ := by
  have more : ¬ missing + 2 ≤ 1 := by omega
  simp only [State.next, low_bits hn, if_neg more]
  rfl

theorem next_last {first : UInt8} {bits least n : Nat} (hn : n < 64) :
    State.next ⟨before, threads, some ⟨first, bits, 1, least⟩⟩ (.ofNat (n + 0x80)) =
      ⟨some (.ofNat (n + 0x80)), advance before first (bits * 64 + n) threads, none⟩ := by
  simp only [State.next, low_bits hn, if_pos (Nat.le_refl 1)]

/-- The bytes of a character take every thread one character further. -/
theorem next_character (before : Option UInt8) (threads : List Regex) (c : Char) :
    ∃ first, (String.utf8EncodeChar c).head? = some first ∧
      (String.utf8EncodeChar c).foldl State.next ⟨before, threads, none⟩ =
        ⟨(String.utf8EncodeChar c).getLast?, advance before first c.toNat threads, none⟩ := by
  have bound : c.val.toNat < 0x110000 := by
    rcases c.valid with h | ⟨-, h⟩
    · exact Nat.lt_trans h (by decide)
    · exact h
  unfold String.utf8EncodeChar
  dsimp only
  rw [Char.toNat]
  generalize c.val.toNat = v at bound
  -- One case for each length of a character.
  split
  · next h =>
    have small : (UInt8.ofNat v).toNat = v :=
      UInt8.toNat_ofNat_of_lt' (Nat.lt_of_le_of_lt h (by decide))
    have ascii : UInt8.ofNat v < 0x80 := by
      rw [UInt8.lt_iff_toNat_lt, small]
      exact Nat.lt_succ_of_le h
    refine ⟨_, rfl, ?_⟩
    simp only [List.foldl_cons, List.foldl_nil, State.next, if_pos ascii, small]
    rfl
  split
  · have whole : v / 64 % 32 * 64 + v % 64 = v := by omega
    refine ⟨_, rfl, ?_⟩
    rw [List.foldl_cons, next_first_of_two (by omega), List.foldl_cons,
      next_last (by omega), whole]
    rfl
  split
  · have whole : (v / 4096 % 16 * 64 + v / 64 % 64) * 64 + v % 64 = v := by omega
    refine ⟨_, rfl, ?_⟩
    rw [List.foldl_cons, next_first_of_three (by omega), List.foldl_cons,
      next_inside (by omega), List.foldl_cons, next_last (by omega), whole]
    rfl
  · have whole : ((v / 262144 % 8 * 64 + v / 4096 % 64) * 64 + v / 64 % 64) * 64 + v % 64 = v := by
      omega
    refine ⟨_, rfl, ?_⟩
    rw [List.foldl_cons, next_first_of_four (by omega), List.foldl_cons,
      next_inside (by omega), List.foldl_cons, next_inside (by omega),
      List.foldl_cons, next_last (by omega), whole]
    rfl

end

theorem getLast?_bytesOf (before : List Char) (c : Char) :
    (bytesOf (before ++ [c])).getLast? = (String.utf8EncodeChar c).getLast? := by
  rw [bytesOf, List.flatMap_append, List.flatMap_singleton,
    List.getLast?_append_of_ne_nil _ (String.utf8EncodeChar_ne_nil)]

/-- A run over the bytes of a text ends where one of its threads matches it, if and only if one
does. -/
theorem accepts_bytes_iff (before text after : List Char) {threads : List Regex}
    (h : ∀ r ∈ threads, r.Ordered) :
    ((bytesOf text).foldl State.next ⟨(bytesOf before).getLast?, threads, none⟩).accepts
        (bytesOf after).head? = true ↔
      ∃ r ∈ threads, r.language decided before text after := by
  induction text generalizing before threads with
  | nil =>
    simp only [bytesOf, List.flatMap_nil, List.foldl_nil, State.accepts, Option.isNone_none,
      Bool.true_and, List.any_eq_true]
    exact exists_congr fun r => and_congr_right fun hr => (nullable_iff (h r hr)).symm
  | cons c text ih =>
    obtain ⟨first, hfirst, hnext⟩ := next_character (bytesOf before).getLast? threads c
    have taken : ∀ s, s ∈ advance (bytesOf before).getLast? first c.toNat threads ↔
        ∃ r ∈ threads, s ∈ r.rests (bytesOf before).getLast? first c.toNat := by
      intro s
      rw [advance, List.mem_eraseDups, List.mem_flatMap]
    have ordered : ∀ s ∈ advance (bytesOf before).getLast? first c.toNat threads, s.Ordered := by
      intro s hs
      obtain ⟨r, hr, hs⟩ := (taken s).1 hs
      exact (h r hr).rests s hs
    rw [bytesOf_cons, List.foldl_append, hnext, ← getLast?_bytesOf before c]
    refine (ih (before ++ [c]) ordered).trans ⟨?_, ?_⟩
    · rintro ⟨s, hs, hmatch⟩
      obtain ⟨r, hr, hs⟩ := (taken s).1 hs
      exact ⟨r, hr, (exists_rests_iff (h r hr) hfirst).2 ⟨s, hs, hmatch⟩⟩
    · rintro ⟨r, hr, hmatch⟩
      obtain ⟨s, hs, hmatch⟩ := (exists_rests_iff (h r hr) hfirst).1 hmatch
      exact ⟨s, (taken s).2 ⟨r, hr, hs⟩, hmatch⟩

end Pattern

end IncrementalGlr
