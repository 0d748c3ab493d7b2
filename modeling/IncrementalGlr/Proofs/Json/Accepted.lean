import Mathlib.Data.List.TakeWhile
import IncrementalGlr.Json.Tagged
import IncrementalGlr.Proofs.Json.Layout

/-!
What a reader accepts is JSON. `Lays read P` says that whatever a reader of values takes off the front
of a text is blanks and a layout, of which `P` holds together with what was read. The rules follow the
readers; for an object a state goes through its members, and what is known of the state is known
with the keys and values met so far (`LaysMember`). A whole text that is read is a document
(`exists_document`).
-/
namespace IncrementalGlr.Json

variable {α β σ : Type} {read : Reader α} {x : α} {y : β} {before after : List Char}

namespace Runs

/-- The blanks in front are skipped, and the reader goes on by the next character. -/
theorem of_peek {next : Option Char → Reader β} (h : Runs (Json.peek >>= next) before y after) :
    ∃ (gap : Gap) (between : List Char), before = gap.chars ++ between ∧
      Runs (next between.head?) between y after := by
  refine ⟨⟨before.takeWhile isBlank, fun c hc => List.all_eq_true.1 List.all_takeWhile c hc⟩,
    before.dropWhile isBlank, List.takeWhile_append_dropWhile.symm, ?_⟩
  obtain ⟨c, between, hpeek, hnext⟩ := h.of_bind
  obtain ⟨rfl, rfl⟩ := Prod.mk.inj (Except.ok.inj hpeek)
  exact hnext

/-- A character is taken, and the reader goes on by the next one that is no blank. -/
theorem of_drop_peek {c : Char} {next : Option Char → Reader β} (hc : before.head? = some c)
    (h : Runs (Json.drop >>= fun _ => Json.peek >>= next) before y after) :
    ∃ (gap : Gap) (between : List Char), before = c :: (gap.chars ++ between) ∧
      Runs (next between.head?) between y after := by
  obtain ⟨_, inside, hdrop, hinside⟩ := h.of_bind
  obtain ⟨gap, between, rfl, hnext⟩ := hinside.of_peek
  exact ⟨gap, between, hdrop.of_drop hc, hnext⟩

end Runs

/-! ## Strings -/

/-- A spelling up to its closing quote, whatever stands behind it. -/
def Spells (strict : Bool) (text cs rest : List Char) : Prop :=
  ∃ s : Spelling, text = s.chars ++ '"' :: rest ∧
    ∀ rest', stringBody strict (s.chars ++ '"' :: rest') = .ok (cs, rest')

theorem of_more {c : Char} {r : Except Problem (List Char × List Char)} {cs rest : List Char}
    (h : stringBody.more c r = .ok (cs, rest)) : ∃ cs', r = .ok (cs', rest) ∧ cs = c :: cs' := by
  cases r with
  | error p => cases h
  | ok p =>
    obtain ⟨rfl, rfl⟩ := Prod.mk.inj (Except.ok.inj h)
    exact ⟨p.1, rfl, rfl⟩

/-- One character more, written as `front`. -/
theorem Spells.more {strict : Bool} (front : List Char) {text cs rest : List Char} {c : Char}
    (h : stringBody.more c (stringBody strict text) = .ok (cs, rest))
    (ih : ∀ cs rest, stringBody strict text = .ok (cs, rest) → Spells strict text cs rest)
    (hread : ∀ text, stringBody strict (front ++ text) = stringBody.more c (stringBody strict text))
    (hescaped : ∀ text, Escaped text → Escaped (front ++ text)) :
    Spells strict (front ++ text) cs rest := by
  obtain ⟨cs, hcs, rfl⟩ := of_more h
  obtain ⟨s, rfl, hspell⟩ := ih cs rest hcs
  refine ⟨⟨front ++ s.chars, hescaped _ s.escaped⟩, by rw [List.append_assoc], fun rest' => ?_⟩
  rw [List.append_assoc, hread, hspell]
  rfl

theorem escaped_digits {a b c d : Char} {n : Nat} (h : hex4? a b c d = some n) {text : List Char}
    (htext : Escaped text) : Escaped ('\\' :: 'u' :: a :: b :: c :: d :: text) := by
  simp only [hex4?, Option.bind_eq_bind, Option.bind_eq_some_iff] at h
  obtain ⟨_, ha, _, hb, _, hc, _, hd, -⟩ := h
  -- Neither a quote nor a backslash is a digit.
  refine .escape 'u' (.plain ?a ?a' (.plain ?b ?b' (.plain ?c ?c' (.plain ?d ?d' htext))))
  case a | a' => rintro rfl; cases ha
  case b | b' => rintro rfl; cases hb
  case c | c' => rintro rfl; cases hc
  case d | d' => rintro rfl; cases hd

theorem spells_of_stringBody {strict : Bool} {text cs rest : List Char}
    (h : stringBody strict text = .ok (cs, rest)) : Spells strict text cs rest := by
  fun_induction stringBody strict text generalizing cs rest
  -- A string is read in five of the cases: at its closing quote, behind digits, behind two numbers in
  -- digits that are surrogates, behind a letter with a backslash, and behind a character as it is.
  case case2 rest' =>
    obtain ⟨rfl, rfl⟩ := Prod.mk.inj (Except.ok.inj h)
    exact ⟨⟨[], .nil⟩, rfl, fun rest' => by simp [stringBody]⟩
  case case5 a b c d text n hn hloose ih =>
    refine Spells.more ['\\', 'u', a, b, c, d] h (fun _ _ => ih) (fun text => ?_)
      (fun text => escaped_digits hn)
    simp [stringBody, hn, hloose]
  case case10 a b c d n hn hstrict hlow hhigh e f g i text m hm hlow' ih =>
    refine Spells.more ['\\', 'u', a, b, c, d, '\\', 'u', e, f, g, i] h (fun _ _ => ih)
      (fun text => ?_) (fun text htext => escaped_digits hn (escaped_digits hm htext))
    simp [stringBody, hn, hm, hstrict, hlow, hhigh, hlow']
  case case14 a b c d text n hn hstrict hlow hhigh ih =>
    refine Spells.more ['\\', 'u', a, b, c, d] h (fun _ _ => ih) (fun text => ?_)
      (fun text => escaped_digits hn)
    simp [stringBody, hn, hstrict, hlow, hhigh]
  case case16 letter text hdigits hletter c hc ih =>
    refine Spells.more ['\\', letter] h (fun _ _ => ih) (fun text => ?_)
      (fun text htext => .escape letter htext)
    exact stringBody_escape hletter hc text
  case case19 c text hquote hlast hdigits hshort hescape hcontrol ih =>
    have hslash : c ≠ '\\' := by
      rintro rfl
      cases text with
      | nil => exact hlast rfl rfl
      | cons c text => exact hescape c text rfl rfl
    refine Spells.more [c] h (fun _ _ => ih) (fun text => ?_)
      (fun text htext => .plain hquote hslash htext)
    exact stringBody_plain hquote hslash (Nat.not_lt.1 hcontrol) text
  all_goals cases h

/-- A string is a spelling between quotes; read strictly it stands for the text that was read. -/
theorem of_quoted {strict : Bool} {name : String} (hquote : before.head? = some '"')
    (h : Runs (quoted strict) before name after) :
    ∃ s : Spelling, before = s.quoted ++ after ∧ (strict = true → s.name? = some name) := by
  obtain ⟨text, rfl⟩ : ∃ text, before = '"' :: text := ⟨_, List.eq_cons_of_mem_head? hquote⟩
  change (stringBody strict text).map _ = _ at h
  cases hread : stringBody strict text with
  | error p =>
    rw [hread] at h
    cases h
  | ok p =>
    rw [hread] at h
    obtain ⟨rfl, rfl⟩ := Prod.mk.inj (Except.ok.inj h)
    obtain ⟨s, rfl, hspell⟩ := spells_of_stringBody hread
    refine ⟨s, by simp [Spelling.quoted], fun hstrict => ?_⟩
    subst hstrict
    rw [Spelling.name?, hspell]

theorem stringBody_of_control {strict : Bool} {c : Char} (h : c.toNat < 0x20) (rest : List Char) :
    stringBody strict (c :: rest) = .error .malformed := by
  rw [stringBody.eq_def]
  split
  case h_7 heq =>
    cases heq
    rw [if_pos h]
  case h_1 heq => cases heq
  all_goals
    rename_i heq
    cases heq
    exact absurd h (by decide)

/-- Without backslashes a string stands for what is written. -/
theorem Spelling.toList_of_name? {s : Spelling} {name : String} (h : s.name? = some name)
    (hbare : '\\' ∉ s.chars) : name.toList = s.chars := by
  have bare {cs : List Char} (hcs : Escaped cs) (hbare : '\\' ∉ cs) {read rest : List Char}
      (h : stringBody true (cs ++ ['"']) = .ok (read, rest)) : read = cs := by
    induction hcs generalizing read with
    | nil =>
      rw [List.nil_append, stringBody] at h
      exact (Prod.mk.inj (Except.ok.inj h)).1.symm
    | @plain c cs hquote hslash _ ih =>
      rcases Nat.lt_or_ge c.toNat 0x20 with hcontrol | hprint
      · rw [List.cons_append, stringBody_of_control hcontrol] at h
        cases h
      · rw [List.cons_append, stringBody_plain hquote hslash hprint] at h
        obtain ⟨read, hread, rfl⟩ := of_more h
        rw [ih (fun hmem => hbare (List.mem_cons_of_mem c hmem)) hread]
    | escape c _ _ => exact absurd List.mem_cons_self hbare
  rw [name?] at h
  split at h
  next cs _ hread =>
    obtain rfl := Option.some.inj h
    rw [String.toList_ofList]
    exact bare s.escaped hbare hread
  next => cases h

/-! ## Numbers and words -/

/-- Neither blanks nor characters that structure a text are taken. -/
def Plainly (text rest : List Char) : Prop :=
  ∃ cs, text = cs ++ rest ∧ ∀ c ∈ cs, isBlank c = false ∧ isMark c = false

namespace Plainly

variable {text between rest : List Char}

theorem refl (text : List Char) : Plainly text text :=
  ⟨[], rfl, nofun⟩

theorem trans (h : Plainly text between) (h' : Plainly between rest) : Plainly text rest := by
  obtain ⟨cs, rfl, hcs⟩ := h
  obtain ⟨cs', rfl, hcs'⟩ := h'
  exact ⟨cs ++ cs', (List.append_assoc ..).symm, fun c hc => (List.mem_append.1 hc).elim (hcs c) (hcs' c)⟩

theorem cons {c : Char} (hc : isBlank c = false ∧ isMark c = false) (h : Plainly text rest) :
    Plainly (c :: text) rest :=
  trans ⟨[c], rfl, fun _ h => List.mem_singleton.1 h ▸ hc⟩ h

theorem isMark_of_isDigit {c : Char} (h : isDigit c = true) : isMark c = false := by
  by_contra hmark
  simp only [isMark, List.contains_eq_mem, List.mem_cons, List.not_mem_nil, or_false,
    Bool.not_eq_false, decide_eq_true_eq] at hmark
  rcases hmark with rfl | rfl | rfl | rfl | rfl | rfl | rfl <;> cases h

theorem length_le (h : Plainly text rest) : rest.length ≤ text.length := by
  obtain ⟨cs, rfl, -⟩ := h
  rw [List.length_append]
  exact Nat.le_add_left _ _

theorem digits (text : List Char) : Plainly text (text.dropWhile isDigit) := by
  refine ⟨text.takeWhile isDigit, List.takeWhile_append_dropWhile.symm, fun c hc => ?_⟩
  have hdigit := List.all_eq_true.1 List.all_takeWhile c hc
  exact ⟨(apart_of_isDigit hdigit).1, isMark_of_isDigit hdigit⟩

end Plainly

section Numbers

open readNumber

variable {strict : Bool} {n : Nat} {scale : Int} {text rest : List Char} {v : Value}

theorem eq_of_real (h : real strict n scale text = .ok (v, rest)) : text = rest := by
  unfold real at h
  split at h
  · cases h
  · exact (Prod.mk.inj (Except.ok.inj h)).2

theorem plainly_of_power {sign : Int} (h : power strict n scale sign text = .ok (v, rest)) :
    Plainly text rest := by
  unfold power at h
  dsimp only at h
  split at h
  · cases h
  · exact eq_of_real h ▸ .digits text

theorem plainly_of_exponent (h : exponent strict n scale text = .ok (v, rest)) :
    Plainly text rest := by
  unfold exponent at h
  split at h
  · exact .cons (by decide) (plainly_of_power h)
  · exact .cons (by decide) (plainly_of_power h)
  · exact plainly_of_power h

theorem plainly_of_fraction (h : fraction strict n scale text = .ok (v, rest)) :
    Plainly text rest := by
  unfold fraction at h
  dsimp only at h
  split at h
  · cases h
  · refine .trans (.digits text) ?_
    split at h
    next heq => exact heq ▸ .cons (by decide) (plainly_of_exponent h)
    next heq => exact heq ▸ .cons (by decide) (plainly_of_exponent h)
    next => exact eq_of_real h ▸ .refl _

theorem plainly_of_unsigned {negative : Bool} (h : unsigned strict negative text = .ok (v, rest)) :
    Plainly text rest ∧ rest.length < text.length := by
  unfold unsigned at h
  dsimp only at h
  split at h
  next => cases h
  next => cases h
  next hdigits _ =>
    have behind : Plainly (text.dropWhile isDigit) rest := by
      split at h
      next heq => exact heq ▸ .cons (by decide) (plainly_of_fraction h)
      next heq => exact heq ▸ .cons (by decide) (plainly_of_exponent h)
      next heq => exact heq ▸ .cons (by decide) (plainly_of_exponent h)
      next =>
        split at h
        · exact eq_of_real h ▸ .refl _
        · split at h
          · exact (Prod.mk.inj (Except.ok.inj h)).2 ▸ .refl _
          · split at h
            · exact (Prod.mk.inj (Except.ok.inj h)).2 ▸ .refl _
            · exact (Prod.mk.inj (Except.ok.inj h)).2 ▸ .refl _
    refine ⟨.trans (.digits text) behind, ?_⟩
    have hsplit : (text.takeWhile isDigit).length + (text.dropWhile isDigit).length = text.length := by
      rw [← List.length_append, List.takeWhile_append_dropWhile]
    have := List.length_pos_iff.2 hdigits
    have := behind.length_le
    omega

/-- A number is written in plain characters. -/
theorem exists_atom_of_readNumber (h : readNumber strict text = .ok (v, rest)) :
    ∃ a : Atom, text = a.chars ++ rest := by
  have plainly : Plainly text rest ∧ rest.length < text.length := by
    unfold readNumber at h
    split at h
    · obtain ⟨hplain, hlt⟩ := plainly_of_unsigned h
      exact ⟨.cons (by decide) hplain, Nat.lt_succ_of_lt hlt⟩
    · exact plainly_of_unsigned h
  obtain ⟨⟨cs, rfl, hcs⟩, hlt⟩ := plainly
  refine ⟨⟨cs, ?_, hcs⟩, rfl⟩
  rintro rfl
  exact absurd hlt (Nat.lt_irrefl _)

end Numbers

theorem eq_of_word {w : List Char} {u : Unit} (h : Runs (word w) before u after) :
    before = w ++ after := by
  induction w generalizing before with
  | nil =>
    rw [word] at h
    exact h.of_pure.2.symm
  | cons c more ih =>
    rw [word] at h
    have hnext := h.of_get
    split at hnext
    next => exact absurd hnext Runs.not_throw
    next x hhead =>
      split at hnext
      next heq =>
        obtain ⟨_, rest, hdrop, hmore⟩ := hnext.of_seqRight
        rw [Runs.of_drop (heq ▸ hhead) hdrop, ih hmore]
        rfl
      next => exact absurd hnext Runs.not_throw

/-! ## Blanks and a value -/

namespace Gap

/-- No blanks. -/
def none : Gap := ⟨[], blank_nil⟩

def append (a b : Gap) : Gap :=
  ⟨a.chars ++ b.chars, fun c hc => (List.mem_append.1 hc).elim (a.blank c) (b.blank c)⟩

end Gap

/-- What the reader takes is blanks and a value as it is written, of which `P` holds together with
what was read. -/
def Lays (read : Reader α) (P : Layout → α → Prop) : Prop :=
  ∀ before x after, Runs read before x after →
    ∃ (gap : Gap) (v : Layout), before = gap.chars ++ (v.text ++ after) ∧ P v x

/-- What the reader takes is blanks and any value. -/
abbrev LaysAny (read : Reader α) : Prop := Lays read fun _ _ => True

/-- Blanks that were skipped before belong to what is read. -/
theorem Gap.lead {P : Layout → Prop} (gap : Gap)
    (h : ∃ (gap' : Gap) (v : Layout), before = gap'.chars ++ (v.text ++ after) ∧ P v) :
    ∃ (gap' : Gap) (v : Layout), gap.chars ++ before = gap'.chars ++ (v.text ++ after) ∧ P v := by
  obtain ⟨gap', v, rfl, hv⟩ := h
  exact ⟨gap.append gap', v, (List.append_assoc ..).symm, hv⟩

/-- Where the value begins at once. -/
theorem Gap.lead_of_text {P : Layout → Prop} {v : Layout} (gap : Gap) (h : before = v.text ++ after)
    (hv : P v) :
    ∃ (gap' : Gap) (v : Layout), gap.chars ++ before = gap'.chars ++ (v.text ++ after) ∧ P v :=
  ⟨gap, v, by rw [h], hv⟩

/-- What is neither an array nor an object. -/
theorem laysAny_scalar (strict : Bool) : LaysAny (scalar strict) := by
  intro before x after h
  rw [scalar] at h
  obtain ⟨gap, between, rfl, hnext⟩ := h.of_peek
  have word (w : Atom) {v : Value} (h : Runs (word w.chars *> pure v) between x after) :
      between = (Layout.atom w).text ++ after := by
    obtain ⟨_, rest, hword, hpure⟩ := h.of_seqRight
    obtain ⟨-, rfl⟩ := hpure.of_pure
    exact eq_of_word hword
  split at hnext
  next => exact absurd hnext Runs.not_throw
  next => exact gap.lead_of_text (word (.ofWord "null".toList (by decide) rfl) hnext) trivial
  next => exact gap.lead_of_text (word (.ofWord "true".toList (by decide) rfl) hnext) trivial
  next => exact gap.lead_of_text (word (.ofWord "false".toList (by decide) rfl) hnext) trivial
  next hquote =>
    obtain ⟨name, hquoted, -⟩ := hnext.of_map
    obtain ⟨s, hs, -⟩ := of_quoted hquote hquoted
    exact gap.lead_of_text (v := .string s) hs trivial
  next =>
    split at hnext
    · obtain ⟨a, ha⟩ := exists_atom_of_readNumber hnext
      exact gap.lead_of_text (v := .atom a) ha trivial
    · exact absurd hnext Runs.not_throw

/-! ## Arrays -/

/-- The items with the closing bracket. -/
theorem exists_items {item : Reader α} (hitem : LaysAny item) {fuel : Nat} {xs : List α}
    (h : Runs (items item fuel) before xs after) :
    ∃ (gap : Gap) (its : Items), before = gap.chars ++ (its.text ++ after) := by
  induction fuel generalizing before xs with
  | zero => exact absurd h Runs.not_throw
  | succ fuel ih =>
    rw [items] at h
    obtain ⟨x, behind, hfirst, hbehind⟩ := h.of_bind
    obtain ⟨front, v, rfl, -⟩ := hitem _ _ _ hfirst
    obtain ⟨gap, rest, rfl, hnext⟩ := hbehind.of_peek
    split at hnext
    next => exact absurd hnext Runs.not_throw
    next hclose =>
      obtain ⟨-, rfl⟩ := hnext.of_drop_pure hclose
      refine ⟨front, .last v gap, ?_⟩
      simp only [Items.text, List.append_assoc, List.singleton_append]
    next hcomma =>
      obtain ⟨gap', rest', rfl, hitems⟩ := hnext.of_drop_peek hcomma
      split at hitems
      next => exact absurd hitems Runs.not_throw
      next => exact absurd hitems Runs.not_throw
      next =>
        obtain ⟨xs', between, hothers, hpure⟩ := hitems.of_bind
        obtain ⟨-, rfl⟩ := hpure.of_pure
        obtain ⟨gap'', others, rfl⟩ := ih hothers
        refine ⟨front, .more v gap (gap'.append gap'') others, ?_⟩
        simp only [Items.text, Gap.append, List.append_assoc, List.cons_append]
    next => exact absurd hnext Runs.not_throw

theorem exists_of_array {item : Reader α} (hitem : LaysAny item) {xs : List α}
    (hbracket : before.head? = some '[') (h : Runs (array item) before xs after) :
    ∃ v : Layout, before = v.text ++ after := by
  rw [array] at h
  obtain ⟨gap, rest, rfl, hnext⟩ := h.of_drop_peek hbracket
  split at hnext
  next => exact absurd hnext Runs.not_throw
  next hclose =>
    obtain ⟨-, rfl⟩ := hnext.of_drop_pure hclose
    refine ⟨.emptyArray gap, ?_⟩
    simp only [Layout.text, List.append_assoc, List.cons_append, List.nil_append]
  next =>
    obtain ⟨gap', its, rfl⟩ := exists_items hitem hnext.of_get
    refine ⟨.array (gap.append gap') its, ?_⟩
    simp only [Layout.text, Gap.append, List.append_assoc, List.cons_append]

/-! ## Objects -/

theorem exists_of_colon {u : Unit} (h : Runs colon before u after) :
    ∃ gap : Gap, before = gap.chars ++ ':' :: after := by
  rw [colon] at h
  obtain ⟨gap, rest, rfl, hnext⟩ := h.of_peek
  split at hnext
  next => exact absurd hnext Runs.not_throw
  next hcolon => exact ⟨gap, by rw [hnext.of_drop hcolon]⟩
  next => exact absurd hnext Runs.not_throw

/-- A colon and a value of which `P` holds. -/
def BehindKey (P : Layout → Prop) (before after : List Char) : Prop :=
  ∃ (gap gap' : Gap) (v : Layout),
    before = gap.chars ++ ':' :: (gap'.chars ++ (v.text ++ after)) ∧ P v

theorem Lays.behindKey {P : Layout → α → Prop} (hread : Lays read P)
    (h : Runs (colon >>= fun _ => read) before x after) : BehindKey (P · x) before after := by
  obtain ⟨_, between, hcolon, hvalue⟩ := h.of_bind
  obtain ⟨gap, rfl⟩ := exists_of_colon hcolon
  obtain ⟨gap', v, rfl, hv⟩ := hread _ _ _ hvalue
  exact ⟨gap, gap', v, rfl, hv⟩

/-- Behind a key the reader of a member takes a colon and a value; when `I` is known of the members
so far and the state, it is known with that member too. -/
def LaysMember (member : σ → String → Reader σ) (I : List (Spelling × Layout) → σ → Prop) : Prop :=
  ∀ seen s k key, Spelling.name? k = some key → I seen s →
    ∀ before s' after, Runs (member s key) before s' after →
      BehindKey (fun v => I (seen ++ [(k, v)]) s') before after

section Objects

variable {member : σ → String → Reader σ} {I : List (Spelling × Layout) → σ → Prop}
  {seen : List (Spelling × Layout)} {s s' : σ}

/-- The members, of which the first is next. -/
theorem exists_members (hmember : LaysMember member I) {fuel : Nat}
    (hquote : before.head? = some '"') (hseen : I seen s)
    (h : Runs (members member fuel s) before s' after) :
    ∃ ms : Members, before = ms.text ++ after ∧ I (seen ++ ms.list) s' := by
  -- What is known goes along with the members seen, so each step hands it to the rest of the object.
  induction fuel generalizing before seen s with
  | zero => exact absurd h Runs.not_throw
  | succ fuel ih =>
    rw [members] at h
    obtain ⟨key, behind, hkey, hbehind⟩ := h.of_bind
    obtain ⟨k, rfl, hname⟩ := of_quoted hquote hkey
    obtain ⟨t, rest, hvalue, hrest⟩ := hbehind.of_bind
    obtain ⟨before, behind, v, rfl, ht⟩ := hmember _ _ _ _ (hname rfl) hseen _ _ _ hvalue
    obtain ⟨gap, rest', rfl, hnext⟩ := hrest.of_peek
    split at hnext
    next => exact absurd hnext Runs.not_throw
    next hclose =>
      obtain ⟨rfl, rfl⟩ := hnext.of_drop_pure hclose
      refine ⟨.last ⟨k, before, behind⟩ v gap, ?_, ht⟩
      simp only [Members.text, Label.text, List.append_assoc, List.cons_append, List.nil_append]
    next hcomma =>
      obtain ⟨gap', others, rfl, hothers⟩ := hnext.of_drop_peek hcomma
      split at hothers
      next => exact absurd hothers Runs.not_throw
      next hquote' =>
        obtain ⟨ms, rfl, hms⟩ := ih hquote' ht hothers
        refine ⟨.more ⟨k, before, behind⟩ v gap gap' ms, ?_, ?_⟩
        · simp only [Members.text, Label.text, List.append_assoc, List.cons_append]
        · rwa [List.append_assoc] at hms
      next => exact absurd hothers Runs.not_throw
    next => exact absurd hnext Runs.not_throw

theorem exists_of_object (hmember : LaysMember member I) (hempty : I [] s)
    (hbrace : before.head? = some '{') (h : Runs (object member s) before s' after) :
    ∃ v : Layout, before = v.text ++ after ∧ I v.members s' := by
  rw [object] at h
  obtain ⟨gap, rest, rfl, hnext⟩ := h.of_drop_peek hbrace
  split at hnext
  next => exact absurd hnext Runs.not_throw
  next hclose =>
    obtain ⟨rfl, rfl⟩ := hnext.of_drop_pure hclose
    refine ⟨.emptyObject gap, ?_, hempty⟩
    simp only [Layout.text, List.append_assoc, List.cons_append, List.nil_append]
  next hquote =>
    obtain ⟨ms, rfl, hms⟩ := exists_members hmember hquote hempty hnext.of_get
    refine ⟨.object gap ms, ?_, hms⟩
    simp only [Layout.text, List.append_assoc, List.cons_append]
  next => exact absurd hnext Runs.not_throw

end Objects

theorem Lays.imp {P Q : Layout → α → Prop} (h : Lays read P) (himp : ∀ v x, P v x → Q v x) :
    Lays read Q := by
  intro before x after hrun
  obtain ⟨gap, v, htext, hv⟩ := h _ _ _ hrun
  exact ⟨gap, v, htext, himp v x hv⟩

theorem Lays.map {P : Layout → α → Prop} {Q : Layout → β → Prop} {f : α → β} (h : Lays read P)
    (hf : ∀ v x, P v x → Q v (f x)) : Lays (read >>= fun x => pure (f x)) Q := by
  intro before y after hrun
  obtain ⟨x, between, hread, hpure⟩ := hrun.of_bind
  obtain ⟨rfl, rfl⟩ := hpure.of_pure
  obtain ⟨gap, v, htext, hv⟩ := h _ _ _ hread
  exact ⟨gap, v, htext, hf v x hv⟩

theorem LaysAny.map (f : α → β) (h : LaysAny read) : LaysAny (read >>= fun x => pure (f x)) :=
  Lays.map h fun _ _ _ => trivial

/-- What is read is looked at, and nothing more is taken. -/
theorem LaysAny.check {next : α → Reader β} (h : LaysAny read)
    (hnext : ∀ x before y after, Runs (next x) before y after → after = before) :
    LaysAny (read >>= next) := by
  intro before y after hrun
  obtain ⟨x, between, hread, hcheck⟩ := hrun.of_bind
  obtain rfl := hnext _ _ _ _ hcheck
  exact h _ _ _ hread

/-! ## Values of all kinds -/

theorem laysAny_value (strict : Bool) (depth : Nat) : LaysAny (value strict depth) := by
  induction depth with
  | zero =>
    intro before x after h
    rw [value] at h
    obtain ⟨gap, between, rfl, hnext⟩ := h.of_peek
    split at hnext
    next => exact absurd hnext Runs.not_throw
    next => exact absurd hnext Runs.not_throw
    next => exact gap.lead (laysAny_scalar strict _ _ _ hnext)
  | succ depth ih =>
    intro before x after h
    rw [value] at h
    obtain ⟨gap, between, rfl, hnext⟩ := h.of_peek
    split at hnext
    next hbracket =>
      obtain ⟨xs, harray, -⟩ := hnext.of_map
      obtain ⟨v, hv⟩ := exists_of_array ih hbracket harray
      exact gap.lead_of_text hv trivial
    next hbrace =>
      obtain ⟨fields, hmap, -⟩ := hnext.of_map
      obtain ⟨fields', hobject, -⟩ := hmap.of_map
      have member : LaysMember (fun s key => do colon; return (key, ← value strict depth) :: s)
          fun _ _ => True :=
        fun _ s _ key _ _ _ _ _ h => (ih.map fun v => (key, v) :: s).behindKey h
      obtain ⟨v, hv, -⟩ := exists_of_object member trivial hbrace hobject
      exact gap.lead_of_text hv trivial
    next => exact gap.lead (laysAny_scalar strict _ _ _ hnext)

/-- Keys that are checked by form only are still spelled. -/
theorem exists_looseMembers {item : Reader Unit} (hitem : LaysAny item) {fuel : Nat} {u : Unit}
    (h : Runs (skipValue.looseMembers item fuel) before u after) :
    ∃ (gap : Gap) (ms : Members), before = gap.chars ++ (ms.text ++ after) := by
  induction fuel generalizing before with
  | zero => exact absurd h Runs.not_throw
  | succ fuel ih =>
    rw [skipValue.looseMembers] at h
    obtain ⟨front, between, rfl, hnext⟩ := h.of_peek
    split at hnext
    next => exact absurd hnext Runs.not_throw_bind
    next hquote =>
      obtain ⟨_, behind, hdiscard, hbehind⟩ := Runs.of_bind hnext
      obtain ⟨key, hkey⟩ := hdiscard.of_discard
      obtain ⟨k, rfl, -⟩ := of_quoted hquote hkey
      obtain ⟨_, inside, hcolon, hinside⟩ := hbehind.of_bind
      obtain ⟨front', rfl⟩ := exists_of_colon hcolon
      obtain ⟨x, rest, hvalue, hrest⟩ := hinside.of_bind
      obtain ⟨back, v, rfl, -⟩ := hitem _ _ _ hvalue
      obtain ⟨gap, rest', rfl, hlast⟩ := hrest.of_peek
      split at hlast
      next => exact absurd hlast Runs.not_throw
      next hclose =>
        refine ⟨front, .last ⟨k, front', back⟩ v gap, ?_⟩
        rw [hlast.of_drop hclose]
        simp only [Members.text, Label.text, List.append_assoc, List.cons_append, List.nil_append]
      next hcomma =>
        obtain ⟨_, rest'', hdrop, hmore⟩ := hlast.of_seqRight
        rw [hdrop.of_drop hcomma]
        obtain ⟨gap', ms, rfl⟩ := ih hmore
        refine ⟨front, .more ⟨k, front', back⟩ v gap gap' ms, ?_⟩
        simp only [Members.text, Label.text, List.append_assoc, List.cons_append]
      next => exact absurd hlast Runs.not_throw
    next => exact absurd hnext Runs.not_throw_bind

theorem laysAny_skip (depth : Nat) : LaysAny (skipValue.skip depth) := by
  induction depth with
  | zero => exact fun _ _ _ h => absurd h Runs.not_throw
  | succ depth ih =>
    intro before u after h
    rw [skipValue.skip] at h
    obtain ⟨gap, between, rfl, hnext⟩ := h.of_peek
    split at hnext
    next hbracket =>
      obtain ⟨xs, harray⟩ := hnext.of_discard
      obtain ⟨v, hv⟩ := exists_of_array ih hbracket harray
      exact gap.lead_of_text hv trivial
    next hbrace =>
      rw [skipValue.looseObject] at hnext
      obtain ⟨gap', rest, rfl, hlast⟩ := hnext.of_drop_peek hbrace
      split at hlast
      next => exact absurd hlast Runs.not_throw
      next hclose =>
        refine gap.lead_of_text (v := .emptyObject gap') ?_ trivial
        rw [hlast.of_drop hclose]
        simp only [Layout.text, List.append_assoc, List.cons_append, List.nil_append]
      next =>
        obtain ⟨gap'', ms, rfl⟩ := exists_looseMembers ih hlast.of_get
        refine gap.lead_of_text (v := .object (gap'.append gap'') ms) ?_ trivial
        simp only [Layout.text, Gap.append, List.append_assoc, List.cons_append]
    next =>
      obtain ⟨x, hscalar⟩ := hnext.of_discard
      exact gap.lead (laysAny_scalar false _ _ _ hscalar)

theorem laysAny_skipValue : LaysAny skipValue := by
  intro before u after h
  obtain ⟨_, hskip⟩ := Runs.of_discard (Runs.of_get h)
  exact laysAny_skip _ _ _ _ hskip

/-! ## Values of a wanted kind -/

theorem Runs.not_refuse : ¬ Runs (refuse : Reader α) before x after := by
  intro h
  rw [refuse] at h
  obtain ⟨gap, between, rfl, hnext⟩ := h.of_peek
  split at hnext
  next => exact not_throw hnext
  next => exact not_throw hnext
  next =>
    obtain ⟨_, _, -, hthrow⟩ := hnext.of_bind
    exact not_throw hthrow

theorem laysAny_text : LaysAny text := by
  intro before name after h
  rw [text] at h
  obtain ⟨gap, between, rfl, hnext⟩ := h.of_peek
  split at hnext
  next hquote =>
    obtain ⟨s, hs, -⟩ := of_quoted hquote hnext
    exact gap.lead_of_text (v := .string s) hs trivial
  next => exact absurd hnext Runs.not_refuse

theorem laysAny_optionalText : LaysAny optionalText := by
  intro before name after h
  rw [optionalText] at h
  obtain ⟨gap, between, rfl, hnext⟩ := h.of_peek
  split at hnext
  next =>
    obtain ⟨_, rest, hword, hpure⟩ := hnext.of_seqRight
    obtain ⟨-, rfl⟩ := hpure.of_pure
    exact gap.lead_of_text (v := .atom (.ofWord "null".toList (by decide) rfl)) (eq_of_word hword) trivial
  next =>
    obtain ⟨s, htext, -⟩ := hnext.of_map
    exact gap.lead (laysAny_text _ _ _ htext)

theorem LaysAny.listOf {item : Reader α} (hitem : LaysAny item) : LaysAny (listOf item) := by
  intro before xs after h
  rw [Json.listOf] at h
  obtain ⟨gap, between, rfl, hnext⟩ := h.of_peek
  split at hnext
  next hbracket =>
    obtain ⟨v, hv⟩ := exists_of_array hitem hbracket hnext
    exact gap.lead_of_text hv trivial
  next => exact absurd hnext Runs.not_refuse

theorem LaysMember.objectOf {member : σ → String → Reader σ}
    {I : List (Spelling × Layout) → σ → Prop} {s : σ} (hmember : LaysMember member I)
    (hempty : I [] s) : Lays (objectOf member s) fun v s' => I v.members s' := by
  intro before s' after h
  rw [Json.objectOf] at h
  obtain ⟨gap, between, rfl, hnext⟩ := h.of_peek
  split at hnext
  next hbrace =>
    obtain ⟨v, hv, hs⟩ := exists_of_object hmember hempty hbrace hnext
    exact gap.lead_of_text hv hs
  next => exact absurd hnext Runs.not_refuse

/-! ## Tagged values -/

namespace Variants

variable {κ : Type} {variants : Variants κ} {depth : Nat}

theorem laysAny_tag : LaysAny (Variants.read.tag variants) :=
  laysAny_text.check fun _ _ _ _ h => h.of_ofExcept.2

theorem laysMember_member : LaysMember (Variants.read.member variants depth) fun _ _ => True := by
  intro seen draft k key _ _ before draft' after h
  rw [Variants.read.member] at h
  split at h
  next =>
    split at h
    next => exact absurd h Runs.not_throw_bind
    next => exact (laysAny_tag.map fun kind => (some kind, draft.2)).behindKey h
  next => exact ((laysAny_value true depth).map fun v => (draft.1, (key, v) :: draft.2)).behindKey h

theorem exists_of_sequence {x : κ × Body} (hbracket : before.head? = some '[')
    (h : Runs (Variants.read.sequence variants depth) before x after) :
    ∃ v : Layout, before = v.text ++ after := by
  rw [Variants.read.sequence] at h
  obtain ⟨gap, rest, rfl, hnext⟩ := h.of_drop_peek hbracket
  split at hnext
  next => exact absurd hnext Runs.not_throw
  next => exact absurd hnext Runs.not_throw
  next =>
    obtain ⟨kind, behind, htag, hbehind⟩ := hnext.of_bind
    obtain ⟨front, v, rfl, -⟩ := laysAny_tag _ _ _ htag
    obtain ⟨gap', rest', rfl, hlast⟩ := hbehind.of_peek
    split at hlast
    next => exact absurd hlast Runs.not_throw
    next hclose =>
      obtain ⟨-, rfl⟩ := hlast.of_drop_pure hclose
      refine ⟨.array (gap.append front) (.last v gap'), ?_⟩
      simp only [Layout.text, Items.text, Gap.append, List.append_assoc, List.cons_append,
        List.nil_append]
    next hcomma =>
      obtain ⟨back, others, rfl, hitems⟩ := hlast.of_drop_peek hcomma
      split at hitems
      next => exact absurd hitems Runs.not_throw
      next => exact absurd hitems Runs.not_throw
      next =>
        obtain ⟨values, _, hvalues, hpure⟩ := hitems.of_get.of_bind
        obtain ⟨-, rfl⟩ := hpure.of_pure
        obtain ⟨back', its, rfl⟩ := exists_items (laysAny_value true depth) hvalues
        refine ⟨.array (gap.append front) (.more v gap' (back.append back') its), ?_⟩
        simp only [Layout.text, Items.text, Gap.append, List.append_assoc, List.cons_append]
    next => exact absurd hlast Runs.not_throw

/-- A tagged value. -/
theorem laysAny_read : LaysAny (variants.read depth) := by
  intro before x after h
  cases depth with
  | zero =>
    rw [Variants.read] at h
    obtain ⟨gap, between, rfl, hnext⟩ := h.of_peek
    split at hnext
    next => exact absurd hnext Runs.not_throw
    next => exact absurd hnext Runs.not_throw
    next => exact absurd hnext Runs.not_refuse
  | succ depth =>
    rw [Variants.read] at h
    obtain ⟨gap, between, rfl, hnext⟩ := h.of_peek
    split at hnext
    next hbrace =>
      obtain ⟨draft, rest, hobject, hfinish⟩ := hnext.of_bind
      obtain ⟨-, rfl⟩ := hfinish.of_ofExcept
      obtain ⟨v, hv, -⟩ := exists_of_object laysMember_member trivial hbrace hobject
      exact gap.lead_of_text hv trivial
    next hbracket =>
      obtain ⟨v, hv⟩ := exists_of_sequence hbracket hnext
      exact gap.lead_of_text hv trivial
    next => exact absurd hnext Runs.not_refuse

end Variants

/-! ## Documents -/

/-- A text that is read is a document. -/
theorem exists_document {P : Layout → α → Prop} (hread : Lays read P) {source : String}
    (h : document read source = .ok x) : ∃ doc : Document, doc.text = source.toList ∧ P doc.value x := by
  unfold document at h
  cases hrun : read.run source.toList with
  | error p =>
    rw [hrun] at h
    cases h
  | ok p =>
    rw [hrun] at h
    change (if (p.2.dropWhile isBlank).isEmpty then _ else _) = _ at h
    split at h
    next hback =>
      obtain rfl := Except.ok.inj h
      obtain ⟨front, v, htext, hv⟩ := hread _ _ _ hrun
      have blank : Blank p.2 := fun c hc => by
        have hall := List.dropWhile_eq_nil_iff.1 (List.isEmpty_iff.1 hback)
        exact hall c hc
      exact ⟨⟨front, v, ⟨p.2, blank⟩⟩, htext.symm, hv⟩
    next => cases h

end IncrementalGlr.Json
