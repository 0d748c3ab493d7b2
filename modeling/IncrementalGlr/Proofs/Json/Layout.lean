import IncrementalGlr.Proofs.Json.Reader

/-!
JSON as it is written. A layout is a value with all that was written for it, the blanks between its
parts and its strings with their escapes, so it has one text (`Layout.text`). A text, in turn, is the
text of one document at most (`Document.text_injective`): where a part of it ends can be told from the
first character that it cannot have.
-/
namespace IncrementalGlr.Json

/-! ## Parts -/

/-- Blanks between the parts of a text. -/
structure Gap where
  chars : List Char
  blank : Blank chars

/-- The characters that structure a text. -/
def isMark (c : Char) : Bool := ['"', '[', ']', '{', '}', ',', ':'].contains c

/-- A number, or one of the words. -/
structure Atom where
  chars : List Char
  ne_nil : chars ≠ []
  plain : ∀ c ∈ chars, isBlank c = false ∧ isMark c = false

/-- A word, by a check of its characters. -/
def Atom.ofWord (word : List Char) (ne_nil : word ≠ [])
    (h : (word.all fun c => !isBlank c && !isMark c) = true) : Atom where
  chars := word
  ne_nil := ne_nil
  plain c hc := by simpa using List.all_eq_true.1 h c hc

/-- Every quote has a backslash in front that belongs to no other character. -/
inductive Escaped : List Char → Prop
  | nil : Escaped []
  | plain {c : Char} {rest : List Char} (hquote : c ≠ '"') (hslash : c ≠ '\\') (h : Escaped rest) :
      Escaped (c :: rest)
  | escape (c : Char) {rest : List Char} (h : Escaped rest) : Escaped ('\\' :: c :: rest)

theorem Escaped.of_all {cs : List Char} (h : (cs.all fun c => c != '"' && c != '\\') = true) :
    Escaped cs := by
  induction cs with
  | nil => exact .nil
  | cons c cs ih =>
    rw [List.all_cons, Bool.and_eq_true, Bool.and_eq_true, bne_iff_ne, bne_iff_ne] at h
    exact .plain h.1.1 h.1.2 (ih h.2)

theorem Escaped.quote_not_mem {cs : List Char} (h : Escaped cs) (hbare : '\\' ∉ cs) : '"' ∉ cs := by
  induction h with
  | nil => exact List.not_mem_nil
  | plain hquote _ _ ih =>
    rw [List.mem_cons, not_or] at hbare ⊢
    exact ⟨hquote.symm, ih hbare.2⟩
  | escape => exact absurd List.mem_cons_self hbare

/-- What is written between the quotes of a string. -/
structure Spelling where
  chars : List Char
  escaped : Escaped chars

namespace Spelling

def quoted (s : Spelling) : List Char := '"' :: (s.chars ++ ['"'])

/-- The text that is spelled, if all escapes are in order. -/
def name? (s : Spelling) : Option String :=
  match stringBody true (s.chars ++ ['"']) with
  | .ok (cs, _) => some (String.ofList cs)
  | .error _ => none

end Spelling

/-- A key up to its value. -/
structure Label where
  key : Spelling
  before : Gap
  behind : Gap

namespace Label

def text (l : Label) : List Char := l.key.quoted ++ (l.before.chars ++ ':' :: l.behind.chars)

end Label

/-! ## Values -/

mutual

/-- A value as it is written. -/
inductive Layout where
  | atom (a : Atom)
  | string (s : Spelling)
  | emptyArray (gap : Gap)
  | array (gap : Gap) (items : Items)
  | emptyObject (gap : Gap)
  | object (gap : Gap) (members : Members)

/-- The items of an array, at least one. -/
inductive Items where
  | last (v : Layout) (gap : Gap)
  | more (v : Layout) (gap gap' : Gap) (others : Items)

/-- The members of an object, at least one. -/
inductive Members where
  | last (label : Label) (v : Layout) (gap : Gap)
  | more (label : Label) (v : Layout) (gap gap' : Gap) (others : Members)

end

mutual

/-- What is written. -/
def Layout.text : Layout → List Char
  | .atom a => a.chars
  | .string s => s.quoted
  | .emptyArray gap => '[' :: (gap.chars ++ [']'])
  | .array gap items => '[' :: (gap.chars ++ items.text)
  | .emptyObject gap => '{' :: (gap.chars ++ ['}'])
  | .object gap members => '{' :: (gap.chars ++ members.text)

/-- The items with the closing bracket. -/
def Items.text : Items → List Char
  | .last v gap => v.text ++ (gap.chars ++ [']'])
  | .more v gap gap' others => v.text ++ (gap.chars ++ ',' :: (gap'.chars ++ others.text))

/-- The members with the closing brace. -/
def Members.text : Members → List Char
  | .last label v gap => label.text ++ (v.text ++ (gap.chars ++ ['}']))
  | .more label v gap gap' others =>
    label.text ++ (v.text ++ (gap.chars ++ ',' :: (gap'.chars ++ others.text)))

end

/-- A whole text. -/
structure Document where
  front : Gap
  value : Layout
  back : Gap

def Document.text (doc : Document) : List Char :=
  doc.front.chars ++ (doc.value.text ++ doc.back.chars)

/-- The members without their places. -/
def Members.list : Members → List (Spelling × Layout)
  | .last label v _ => [(label.key, v)]
  | .more label v _ _ others => (label.key, v) :: others.list

/-- The items without their places. -/
def Items.list : Items → List Layout
  | .last v _ => [v]
  | .more v _ _ others => v :: others.list

/-- The members of an object. -/
def Layout.members : Layout → List (Spelling × Layout)
  | .object _ members => members.list
  | _ => []

/-! ## One text, one layout -/

theorem append_inj_of_maximal {p : Char → Bool} {xs ys a b : List Char} (hxs : ∀ c ∈ xs, p c = true)
    (hys : ∀ c ∈ ys, p c = true) (ha : ∀ c ∈ a.head?, p c = false) (hb : ∀ c ∈ b.head?, p c = false)
    (h : xs ++ a = ys ++ b) : xs = ys ∧ a = b := by
  have taken {zs c : List Char} (hzs : ∀ x ∈ zs, p x = true) (hc : ∀ x ∈ c.head?, p x = false) :
      (zs ++ c).takeWhile p = zs := by
    rw [List.takeWhile_append_of_pos hzs]
    cases c with
    | nil => exact List.append_nil zs
    | cons x c =>
      rw [List.takeWhile_cons_of_neg (by simp [hc x rfl]), List.append_nil]
  obtain rfl : xs = ys := by rw [← taken hxs ha, h, taken hys hb]
  exact ⟨rfl, List.append_cancel_left h⟩

/-- The text does not begin with a blank. -/
def Solid (text : List Char) : Prop := ∀ c ∈ text.head?, isBlank c = false

/-- The text does not go on with what a number or a word is written in. -/
def Delimited (text : List Char) : Prop := ∀ c ∈ text.head?, (!isBlank c && !isMark c) = false

theorem solid_cons {c : Char} (hc : isBlank c = false) (rest : List Char) : Solid (c :: rest) :=
  fun _ h => Option.mem_some.1 h ▸ hc

theorem solid_mark {c : Char} (hc : isMark c = true) (rest : List Char) : Solid (c :: rest) := by
  refine solid_cons ?_ rest
  simp only [isMark, List.contains_eq_mem, List.mem_cons, List.not_mem_nil, or_false,
    decide_eq_true_eq] at hc
  rcases hc with rfl | rfl | rfl | rfl | rfl | rfl | rfl <;> rfl

theorem Gap.append_inj {g g' : Gap} {a b : List Char} (ha : Solid a) (hb : Solid b)
    (h : g.chars ++ a = g'.chars ++ b) : g = g' ∧ a = b := by
  obtain ⟨cs, hcs⟩ := g
  obtain ⟨cs', hcs'⟩ := g'
  obtain ⟨rfl, rfl⟩ := append_inj_of_maximal hcs hcs' ha hb h
  exact ⟨rfl, rfl⟩

theorem Gap.delimited (g : Gap) {c : Char} (hc : isMark c = true) (rest : List Char) :
    Delimited (g.chars ++ c :: rest) := by
  obtain ⟨_ | ⟨b, cs⟩, hblank⟩ := g
  · intro c' h
    obtain rfl := Option.mem_some.1 h
    rw [hc, Bool.not_true, Bool.and_false]
  · intro c' h
    obtain rfl := Option.mem_some.1 h
    rw [hblank b List.mem_cons_self]
    rfl

theorem Gap.delimited_end (g : Gap) : Delimited g.chars := by
  intro c h
  rw [g.blank c (List.mem_of_mem_head? h)]
  rfl

theorem Atom.append_inj {a b : Atom} {rest rest' : List Char} (hrest : Delimited rest)
    (hrest' : Delimited rest') (h : a.chars ++ rest = b.chars ++ rest') : a = b ∧ rest = rest' := by
  have plain (a : Atom) : ∀ c ∈ a.chars, (!isBlank c && !isMark c) = true := fun c hc => by
    rw [(a.plain c hc).1, (a.plain c hc).2]
    rfl
  obtain ⟨hchars, hrest⟩ := append_inj_of_maximal (plain a) (plain b) hrest hrest' h
  obtain ⟨cs, _, _⟩ := a
  subst hchars
  exact ⟨rfl, hrest⟩

theorem Escaped.append_inj {b b' rest rest' : List Char} (hb : Escaped b) (hb' : Escaped b')
    (h : b ++ '"' :: rest = b' ++ '"' :: rest') : b = b' ∧ rest = rest' := by
  induction hb generalizing b' with
  | nil =>
    cases hb' with
    | nil => exact ⟨rfl, (List.cons.inj h).2⟩
    | plain hquote => exact absurd (List.cons.inj h).1.symm hquote
    | escape => cases (List.cons.inj h).1
  | plain hquote hslash _ ih =>
    cases hb' with
    | nil => exact absurd (List.cons.inj h).1 hquote
    | plain _ _ hb' =>
      obtain ⟨rfl, htail⟩ := List.cons.inj h
      obtain ⟨rfl, hrest⟩ := ih hb' htail
      exact ⟨rfl, hrest⟩
    | escape => exact absurd (List.cons.inj h).1 hslash
  | escape c _ ih =>
    cases hb' with
    | nil => cases (List.cons.inj h).1
    | plain _ hslash => exact absurd (List.cons.inj h).1.symm hslash
    | escape c' hb' =>
      obtain ⟨rfl, htail⟩ := List.cons.inj (List.cons.inj h).2
      obtain ⟨rfl, hrest⟩ := ih hb' htail
      exact ⟨rfl, hrest⟩

theorem Spelling.append_inj {s t : Spelling} {rest rest' : List Char}
    (h : s.quoted ++ rest = t.quoted ++ rest') : s = t ∧ rest = rest' := by
  simp only [quoted, List.cons_append, List.append_assoc, List.nil_append, List.cons.injEq,
    true_and] at h
  obtain ⟨cs, hcs⟩ := s
  obtain ⟨cs', hcs'⟩ := t
  obtain ⟨rfl, hrest⟩ := hcs.append_inj hcs' h
  exact ⟨rfl, hrest⟩

theorem Label.append_inj {l l' : Label} {a b : List Char} (ha : Solid a) (hb : Solid b)
    (h : l.text ++ a = l'.text ++ b) : l = l' ∧ a = b := by
  obtain ⟨key, gap, gap'⟩ := l
  obtain ⟨key', behind, behind'⟩ := l'
  simp only [text, List.append_assoc, List.cons_append] at h
  obtain ⟨rfl, hcolon⟩ := Spelling.append_inj h
  obtain ⟨rfl, hvalue⟩ := Gap.append_inj (solid_mark rfl _) (solid_mark rfl _) hcolon
  obtain ⟨rfl, hrest⟩ := Gap.append_inj ha hb (List.cons.inj hvalue).2
  exact ⟨rfl, hrest⟩

/-- By what a value begins with. -/
inductive Kind where
  | atom | string | array | object

/-- The kind of values that begin with a character. -/
def Kind.ofLead (c : Char) : Kind :=
  if c = '"' then .string else if c = '[' then .array else if c = '{' then .object else .atom

def Layout.kind : Layout → Kind
  | .atom _ => .atom
  | .string _ => .string
  | .emptyArray _ | .array _ _ => .array
  | .emptyObject _ | .object _ _ => .object

theorem Layout.exists_text (v : Layout) :
    ∃ c more, v.text = c :: more ∧ isBlank c = false ∧ c ≠ ']' ∧ Kind.ofLead c = v.kind := by
  cases v with
  | atom a =>
    obtain ⟨c, more, hchars⟩ := List.exists_cons_of_ne_nil a.ne_nil
    obtain ⟨hblank, hmark⟩ := a.plain c (hchars ▸ List.mem_cons_self)
    simp only [isMark, List.contains_eq_mem, List.mem_cons, List.not_mem_nil, or_false,
      decide_eq_false_iff_not, not_or] at hmark
    refine ⟨c, more, hchars, hblank, hmark.2.2.1, ?_⟩
    rw [Kind.ofLead, if_neg hmark.1, if_neg hmark.2.1, if_neg hmark.2.2.2.1, kind]
  | string s => exact ⟨_, _, rfl, rfl, by decide, rfl⟩
  | emptyArray | array => exact ⟨_, _, rfl, rfl, by decide, rfl⟩
  | emptyObject | object => exact ⟨_, _, rfl, rfl, by decide, rfl⟩

theorem Layout.solid (v : Layout) (rest : List Char) : Solid (v.text ++ rest) := by
  obtain ⟨c, more, htext, hblank, -⟩ := v.exists_text
  rw [htext]
  exact solid_cons hblank _

theorem Layout.kind_eq {v w : Layout} {rest rest' : List Char} (h : v.text ++ rest = w.text ++ rest') :
    v.kind = w.kind := by
  obtain ⟨c, more, hv, -, -, hkind⟩ := v.exists_text
  obtain ⟨c', more', hw, -, -, hkind'⟩ := w.exists_text
  rw [hv, hw] at h
  rw [← hkind, ← hkind', (List.cons.inj h).1]

theorem Items.exists_text (its : Items) :
    ∃ c more, its.text = c :: more ∧ isBlank c = false ∧ c ≠ ']' := by
  cases its with
  | last v | more v =>
    obtain ⟨c, more, htext, hblank, hclose, -⟩ := v.exists_text
    exact ⟨c, _, congrArg (· ++ _) htext, hblank, hclose⟩

theorem Items.solid (its : Items) (rest : List Char) : Solid (its.text ++ rest) := by
  obtain ⟨c, more, htext, hblank, -⟩ := its.exists_text
  rw [htext]
  exact solid_cons hblank _

theorem Items.ne_bracket (its : Items) {rest rest' : List Char} : its.text ++ rest ≠ ']' :: rest' := by
  obtain ⟨c, more, htext, -, hclose⟩ := its.exists_text
  rw [htext]
  exact fun h => hclose (List.cons.inj h).1

theorem Members.exists_text (ms : Members) : ∃ more, ms.text = '"' :: more := by
  cases ms with
  | last | more => exact ⟨_, rfl⟩

theorem Members.solid (ms : Members) (rest : List Char) : Solid (ms.text ++ rest) := by
  obtain ⟨more, htext⟩ := ms.exists_text
  rw [htext]
  exact solid_cons rfl _

theorem Members.ne_brace (ms : Members) {rest rest' : List Char} : ms.text ++ rest ≠ '}' :: rest' := by
  obtain ⟨more, htext⟩ := ms.exists_text
  rw [htext]
  exact nofun

/-- Where the text of the value ends can be told, whatever stands behind it. -/
def Layout.Told (v : Layout) : Prop :=
  ∀ (w : Layout) {rest rest' : List Char}, Delimited rest → Delimited rest' →
    v.text ++ rest = w.text ++ rest' → v = w ∧ rest = rest'

/-- Up to the next mark behind the value. -/
theorem Layout.Told.mark {v w : Layout} {gap gap' : Gap} {c c' : Char} {a b : List Char} (hv : v.Told)
    (hc : isMark c = true) (hc' : isMark c' = true)
    (h : v.text ++ (gap.chars ++ c :: a) = w.text ++ (gap'.chars ++ c' :: b)) :
    v = w ∧ gap = gap' ∧ c = c' ∧ a = b := by
  obtain ⟨rfl, hgap⟩ := hv w (gap.delimited hc a) (gap'.delimited hc' b) h
  obtain ⟨rfl, htail⟩ := Gap.append_inj (solid_mark hc a) (solid_mark hc' b) hgap
  obtain ⟨rfl, rfl⟩ := List.cons.inj htail
  exact ⟨rfl, rfl, rfl, rfl⟩

mutual

theorem Layout.told : (v : Layout) → v.Told
  | .atom a, w, _, _, hrest, hrest', h => by
    cases w with
    | atom b =>
      obtain ⟨rfl, htail⟩ := Atom.append_inj hrest hrest' h
      exact ⟨rfl, htail⟩
    | string | emptyArray | array | emptyObject | object => cases Layout.kind_eq h
  | .string s, w, _, _, _, _, h => by
    cases w with
    | string t =>
      obtain ⟨rfl, htail⟩ := Spelling.append_inj h
      exact ⟨rfl, htail⟩
    | atom | emptyArray | array | emptyObject | object => cases Layout.kind_eq h
  | .emptyArray gap, w, _, _, _, _, h => by
    cases w with
    | emptyArray gap' =>
      simp only [Layout.text, List.cons_append, List.append_assoc, List.cons.injEq, true_and] at h
      obtain ⟨rfl, htail⟩ := Gap.append_inj (solid_mark rfl _) (solid_mark rfl _) h
      exact ⟨rfl, (List.cons.inj htail).2⟩
    | array gap' its =>
      simp only [Layout.text, List.cons_append, List.append_assoc, List.cons.injEq, true_and] at h
      exact (its.ne_bracket (Gap.append_inj (its.solid _) (solid_mark rfl _) h.symm).2).elim
    | atom | string | emptyObject | object => cases Layout.kind_eq h
  | .array gap its, w, _, _, _, _, h => by
    cases w with
    | emptyArray gap' =>
      simp only [Layout.text, List.cons_append, List.append_assoc, List.cons.injEq, true_and] at h
      exact (its.ne_bracket (Gap.append_inj (its.solid _) (solid_mark rfl _) h).2).elim
    | array gap' its' =>
      simp only [Layout.text, List.cons_append, List.append_assoc, List.cons.injEq, true_and] at h
      obtain ⟨rfl, hits⟩ := Gap.append_inj (its.solid _) (its'.solid _) h
      obtain ⟨rfl, htail⟩ := its.append_inj its' hits
      exact ⟨rfl, htail⟩
    | atom | string | emptyObject | object => cases Layout.kind_eq h
  | .emptyObject gap, w, _, _, _, _, h => by
    cases w with
    | emptyObject gap' =>
      simp only [Layout.text, List.cons_append, List.append_assoc, List.cons.injEq, true_and] at h
      obtain ⟨rfl, htail⟩ := Gap.append_inj (solid_mark rfl _) (solid_mark rfl _) h
      exact ⟨rfl, (List.cons.inj htail).2⟩
    | object gap' ms =>
      simp only [Layout.text, List.cons_append, List.append_assoc, List.cons.injEq, true_and] at h
      exact (ms.ne_brace (Gap.append_inj (ms.solid _) (solid_mark rfl _) h.symm).2).elim
    | atom | string | emptyArray | array => cases Layout.kind_eq h
  | .object gap ms, w, _, _, _, _, h => by
    cases w with
    | emptyObject gap' =>
      simp only [Layout.text, List.cons_append, List.append_assoc, List.cons.injEq, true_and] at h
      exact (ms.ne_brace (Gap.append_inj (ms.solid _) (solid_mark rfl _) h).2).elim
    | object gap' ms' =>
      simp only [Layout.text, List.cons_append, List.append_assoc, List.cons.injEq, true_and] at h
      obtain ⟨rfl, hms⟩ := Gap.append_inj (ms.solid _) (ms'.solid _) h
      obtain ⟨rfl, htail⟩ := ms.append_inj ms' hms
      exact ⟨rfl, htail⟩
    | atom | string | emptyArray | array => cases Layout.kind_eq h

theorem Items.append_inj {rest rest' : List Char} :
    (its its' : Items) → its.text ++ rest = its'.text ++ rest' → its = its' ∧ rest = rest'
  | .last v gap, its', h => by
    cases its' with
    | last =>
      simp only [Items.text, List.append_assoc, List.singleton_append] at h
      obtain ⟨rfl, rfl, -, htail⟩ := v.told.mark rfl rfl h
      exact ⟨rfl, htail⟩
    | more =>
      simp only [Items.text, List.append_assoc, List.cons_append] at h
      obtain ⟨-, -, hmark, -⟩ := v.told.mark rfl rfl h
      cases hmark
  | .more v gap behind others, its', h => by
    cases its' with
    | last =>
      simp only [Items.text, List.append_assoc, List.cons_append] at h
      obtain ⟨-, -, hmark, -⟩ := v.told.mark rfl rfl h
      cases hmark
    | more _ _ behind' others' =>
      simp only [Items.text, List.append_assoc, List.cons_append] at h
      obtain ⟨rfl, rfl, -, htail⟩ := v.told.mark rfl rfl h
      obtain ⟨rfl, hothers⟩ := Gap.append_inj (others.solid _) (others'.solid _) htail
      obtain ⟨rfl, hrest⟩ := others.append_inj others' hothers
      exact ⟨rfl, hrest⟩

theorem Members.append_inj {rest rest' : List Char} :
    (ms ms' : Members) → ms.text ++ rest = ms'.text ++ rest' → ms = ms' ∧ rest = rest'
  | .last label v gap, ms', h => by
    cases ms' with
    | last _ w =>
      simp only [Members.text, List.append_assoc, List.singleton_append] at h
      obtain ⟨rfl, hvalue⟩ := Label.append_inj (v.solid _) (w.solid _) h
      obtain ⟨rfl, rfl, -, htail⟩ := v.told.mark rfl rfl hvalue
      exact ⟨rfl, htail⟩
    | more _ w =>
      simp only [Members.text, List.append_assoc, List.cons_append] at h
      obtain ⟨-, hvalue⟩ := Label.append_inj (v.solid _) (w.solid _) h
      obtain ⟨-, -, hmark, -⟩ := v.told.mark rfl rfl hvalue
      cases hmark
  | .more label v gap behind others, ms', h => by
    cases ms' with
    | last _ w =>
      simp only [Members.text, List.append_assoc, List.cons_append] at h
      obtain ⟨-, hvalue⟩ := Label.append_inj (v.solid _) (w.solid _) h
      obtain ⟨-, -, hmark, -⟩ := v.told.mark rfl rfl hvalue
      cases hmark
    | more _ w _ behind' others' =>
      simp only [Members.text, List.append_assoc, List.cons_append] at h
      obtain ⟨rfl, hvalue⟩ := Label.append_inj (v.solid _) (w.solid _) h
      obtain ⟨rfl, rfl, -, htail⟩ := v.told.mark rfl rfl hvalue
      obtain ⟨rfl, hothers⟩ := Gap.append_inj (others.solid _) (others'.solid _) htail
      obtain ⟨rfl, hrest⟩ := others.append_inj others' hothers
      exact ⟨rfl, hrest⟩

end

/-- A text is the text of one document at most. -/
theorem Document.text_injective : Function.Injective Document.text := by
  rintro ⟨front, v, back⟩ ⟨front', w, back'⟩ h
  obtain ⟨rfl, hvalue⟩ := Gap.append_inj (v.solid _) (w.solid _) h
  obtain ⟨rfl, hback⟩ := v.told w back.delimited_end back'.delimited_end hvalue
  obtain ⟨cs, _⟩ := back
  subst hback
  rfl

end IncrementalGlr.Json
