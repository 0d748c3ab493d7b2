import Mathlib.Data.List.Permutation
import IncrementalGlr.Diagnostic.Printer
import IncrementalGlr.Proofs.Grammar.Document

/-!
Where diagnostics about a rule point. Every key in the text of a grammar has a place, the bytes from its
opening quote to its closing one (`Document.stands`), and keys stand one behind the other
(`Document.apart_keys`).

The place of a rule is found by a search through the text, which does not know what is a key: it takes
the first quoted name that a colon follows. Along a layout that is the end of the first key that ends in
a quote and the name (`KeySearch.findKey_layout`). What stands between two strings has a comma or a colon
in it, so there only names with one of these can be met, and the quotes inside of a string are escaped,
so in it a name is met at its end only. Hence a diagnostic points at the key of its rule unless a key
further in front, wherever it stands, ends like that (`Grammar.spans_of_ofJson`).
-/
namespace IncrementalGlr.Json

open Text (byteLength)

/-! ## Keys -/

/-- A key in a text, with the byte at which its opening quote stands. -/
structure Key where
  start : Nat
  spelling : Spelling

namespace Key

/-- The end of the closing quote. -/
def stop (k : Key) : Nat := k.start + byteLength k.spelling.quoted

def name? (k : Key) : Option String := k.spelling.name?

/-- Whether the key is written as the name, or ends in an escaped quote and the name. -/
def endsIn (name : List Char) (k : Key) : Bool := ('"' :: name).isSuffixOf ('"' :: k.spelling.chars)

/-- The quoted name at the end of a key. -/
def lastPlace (name : List Char) (k : Key) : Nat × Nat :=
  (k.stop - (byteLength name + 2), k.stop)

end Key

mutual

/-- All keys in a value that begins at `offset`, its own and those further inside, in their order. -/
def Layout.keys (offset : Nat) : Layout → List Key
  | .atom _ | .string _ | .emptyArray _ | .emptyObject _ => []
  | .array gap items => items.keys (offset + 1 + byteLength gap.chars)
  | .object gap members => members.keys (offset + 1 + byteLength gap.chars)

def Items.keys (offset : Nat) : Items → List Key
  | .last v _ => v.keys offset
  | .more v gap gap' others =>
    v.keys offset ++ others.keys
      (offset + byteLength v.text + byteLength gap.chars + 1 + byteLength gap'.chars)

def Members.keys (offset : Nat) : Members → List Key
  | .last label v _ => ⟨offset, label.key⟩ :: v.keys (offset + byteLength label.text)
  | .more label v gap gap' others =>
    ⟨offset, label.key⟩ :: (v.keys (offset + byteLength label.text) ++ others.keys
      (offset + byteLength label.text + byteLength v.text + byteLength gap.chars + 1 +
        byteLength gap'.chars))

end

/-- The items of an array, each with the offset at which it begins. -/
def Items.places (offset : Nat) : Items → List (Nat × Layout)
  | .last v _ => [(offset, v)]
  | .more v gap gap' others =>
    (offset, v) :: others.places
      (offset + byteLength v.text + byteLength gap.chars + 1 + byteLength gap'.chars)

/-- The members of an object: each key, and the value with the offset at which it begins. -/
def Members.places (offset : Nat) : Members → List (Key × Nat × Layout)
  | .last label v _ => [(⟨offset, label.key⟩, offset + byteLength label.text, v)]
  | .more label v gap gap' others =>
    (⟨offset, label.key⟩, offset + byteLength label.text, v) :: others.places
      (offset + byteLength label.text + byteLength v.text + byteLength gap.chars + 1 +
        byteLength gap'.chars)

/-- The keys of an object itself, without those further inside. -/
def Layout.ownKeys (offset : Nat) : Layout → List Key
  | .object gap members =>
    (members.places (offset + 1 + byteLength gap.chars)).map Prod.fst
  | _ => []

def Document.keys (doc : Document) : List Key := doc.value.keys (byteLength doc.front.chars)

/-! ## Where keys stand -/

theorem byteLength_append (a b : List Char) : byteLength (a ++ b) = byteLength a + byteLength b := by
  induction a with
  | nil => simp [byteLength]
  | cons c a ih => simp only [List.cons_append, byteLength, ih, Nat.add_assoc]

theorem byteLength_mark (c : Char) (rest : List Char) (h : isMark c = true) :
    byteLength (c :: rest) = 1 + byteLength rest := by
  have hsize : c.utf8Size = 1 := by
    simp only [isMark, List.contains_eq_mem, List.mem_cons, List.not_mem_nil, or_false,
      decide_eq_true_eq] at h
    rcases h with rfl | rfl | rfl | rfl | rfl | rfl | rfl <;> rfl
  rw [byteLength, hsize]

/-- The key is in the text that begins at `offset`, at its place. -/
def Key.Stands (k : Key) (offset : Nat) (text : List Char) : Prop :=
  ∃ before after, text = before ++ (k.spelling.quoted ++ after) ∧ k.start = offset + byteLength before

namespace Key.Stands

variable {k : Key} {offset : Nat} {text : List Char}

theorem label (l : Label) (offset : Nat) : Stands ⟨offset, l.key⟩ offset l.text :=
  ⟨[], l.before.chars ++ ':' :: l.behind.chars, rfl, rfl⟩

theorem append_right (h : k.Stands offset text) (b : List Char) : k.Stands offset (text ++ b) := by
  obtain ⟨before, after, rfl, hstart⟩ := h
  exact ⟨before, after ++ b, by simp only [List.append_assoc], hstart⟩

theorem append_left {a : List Char} (h : k.Stands (offset + byteLength a) text) :
    k.Stands offset (a ++ text) := by
  obtain ⟨before, after, rfl, hstart⟩ := h
  exact ⟨a ++ before, after, by rw [List.append_assoc], by rw [hstart, byteLength_append, Nat.add_assoc]⟩

theorem cons {c : Char} (hc : isMark c = true) (h : k.Stands (offset + 1) text) :
    k.Stands offset (c :: text) := by
  refine append_left (a := [c]) ?_
  rwa [byteLength_mark c [] hc]

/-- A key lies within the text. -/
theorem bounds (h : k.Stands offset text) :
    offset ≤ k.start ∧ k.stop ≤ offset + byteLength text := by
  obtain ⟨before, after, rfl, hstart⟩ := h
  rw [Key.stop, byteLength_append, byteLength_append]
  omega

end Key.Stands

mutual

theorem Layout.stands {k : Key} {offset : Nat} :
    (v : Layout) → k ∈ v.keys offset → k.Stands offset v.text
  | .array _ items, h => .cons rfl (.append_left (items.stands h))
  | .object _ members, h => .cons rfl (.append_left (members.stands h))

theorem Items.stands {k : Key} {offset : Nat} :
    (items : Items) → k ∈ items.keys offset → k.Stands offset items.text
  | .last v _, h => (v.stands h).append_right _
  | .more v gap gap' others, h => by
    rcases List.mem_append.1 h with h | h
    · exact (v.stands h).append_right _
    · exact .append_left (.append_left (.cons rfl (.append_left (others.stands h))))

theorem Members.stands {k : Key} {offset : Nat} :
    (members : Members) → k ∈ members.keys offset → k.Stands offset members.text
  | .last label v _, h => by
    rcases List.mem_cons.1 h with rfl | h
    · exact (Key.Stands.label label offset).append_right _
    · exact .append_left ((v.stands h).append_right _)
  | .more label v gap gap' others, h => by
    rcases List.mem_cons.1 h with rfl | h
    · exact (Key.Stands.label label offset).append_right _
    · rcases List.mem_append.1 h with h | h
      · exact .append_left ((v.stands h).append_right _)
      · exact .append_left (.append_left (.append_left (.cons rfl (.append_left (others.stands h)))))

end

/-- Each key stands behind the one before it. -/
def Apart (keys : List Key) : Prop := keys.Pairwise fun a b => a.stop ≤ b.start

mutual

theorem Layout.apart_keys (offset : Nat) : (v : Layout) → Apart (v.keys offset)
  | .atom _ | .string _ | .emptyArray _ | .emptyObject _ => .nil
  | .array _ items => items.apart_keys _
  | .object _ members => members.apart_keys _

theorem Items.apart_keys (offset : Nat) : (items : Items) → Apart (items.keys offset)
  | .last v _ => v.apart_keys offset
  | .more v gap gap' others => by
    refine List.pairwise_append.2 ⟨v.apart_keys offset, others.apart_keys _, fun a ha b hb => ?_⟩
    have := (v.stands ha).bounds
    have := (others.stands hb).bounds
    omega

theorem Members.apart_keys (offset : Nat) : (members : Members) → Apart (members.keys offset)
  | .last label v _ => by
    refine List.pairwise_cons.2 ⟨fun b hb => ?_, v.apart_keys _⟩
    have := (Key.Stands.label label offset).bounds
    have := (v.stands hb).bounds
    omega
  | .more label v gap gap' others => by
    have hlabel := (Key.Stands.label label offset).bounds
    refine List.pairwise_cons.2 ⟨fun b hb => ?_, List.pairwise_append.2
      ⟨v.apart_keys _, others.apart_keys _, fun a ha b hb => ?_⟩⟩
    · rcases List.mem_append.1 hb with hb | hb
      · have := (v.stands hb).bounds
        omega
      · have := (others.stands hb).bounds
        omega
    · have := (v.stands ha).bounds
      have := (others.stands hb).bounds
      omega

end

theorem Items.map_places (offset : Nat) : (items : Items) →
    (items.places offset).map Prod.snd = items.list
  | .last _ _ => rfl
  | .more _ _ _ others => congrArg (_ :: ·) (others.map_places _)

theorem Members.map_places (offset : Nat) : (ms : Members) →
    (ms.places offset).map (fun place => (place.1.spelling, place.2.2)) = ms.list
  | .last _ _ _ => rfl
  | .more _ _ _ _ others => congrArg (_ :: ·) (others.map_places _)

theorem Items.keys_of_mem_places {offset : Nat} {place : Nat × Layout} :
    (items : Items) → place ∈ items.places offset → ∀ k ∈ place.2.keys place.1,
      k ∈ items.keys offset
  | .last v _, h, k, hk => by
    obtain rfl := List.mem_singleton.1 h
    exact hk
  | .more v _ _ others, h, k, hk => by
    rcases List.mem_cons.1 h with rfl | h
    · exact List.mem_append_left _ hk
    · exact List.mem_append_right _ (others.keys_of_mem_places h k hk)

theorem Members.keys_of_mem_places {offset : Nat} {place : Key × Nat × Layout} :
    (members : Members) → place ∈ members.places offset →
      ∀ k ∈ place.1 :: place.2.2.keys place.2.1, k ∈ members.keys offset
  | .last label v _, h, k, hk => by
    obtain rfl := List.mem_singleton.1 h
    exact hk
  | .more label v _ _ others, h, k, hk => by
    rcases List.mem_cons.1 h with rfl | h
    · exact List.mem_append_left _ hk
    · exact List.mem_append_right (_ :: _) (others.keys_of_mem_places h k hk)

theorem Layout.keys_of_mem_ownKeys {offset : Nat} {k : Key} :
    (v : Layout) → k ∈ v.ownKeys offset → k ∈ v.keys offset
  | .object _ members, h => by
    obtain ⟨place, hplace, rfl⟩ := List.mem_map.1 h
    exact members.keys_of_mem_places hplace place.1 List.mem_cons_self

namespace Document

variable {doc : Document} {k : Key}

theorem stands (h : k ∈ doc.keys) : k.Stands 0 doc.text := by
  refine .append_left ?_
  rw [Nat.zero_add]
  exact (doc.value.stands h).append_right _

theorem apart_keys (doc : Document) : Apart doc.keys := doc.value.apart_keys _

end Document

theorem Key.start_lt_stop (k : Key) : k.start < k.stop := by
  rw [Key.stop, Spelling.quoted, byteLength_mark _ _ rfl]
  omega

theorem Key.le_stop {name : List Char} {k : Key} (h : k.endsIn name = true) :
    byteLength name + 2 ≤ k.stop := by
  obtain ⟨front, hfront⟩ := List.isSuffixOf_iff_suffix.1 h
  have := congrArg byteLength hfront
  rw [byteLength_append, byteLength_mark _ _ rfl, byteLength_mark _ _ rfl] at this
  rw [Key.stop, Spelling.quoted, byteLength_mark _ _ rfl, byteLength_append, byteLength_mark _ _ rfl]
  omega

namespace Apart

variable {keys : List Key} {a b : Key}

theorem eq_of_stop (h : Apart keys) (ha : a ∈ keys) (hb : b ∈ keys) (hstop : a.stop = b.stop) :
    a = b := by
  induction keys with
  | nil => cases ha
  | cons k keys ih =>
    obtain ⟨hk, hkeys⟩ := List.pairwise_cons.1 h
    have := a.start_lt_stop
    have := b.start_lt_stop
    rcases List.mem_cons.1 ha with hak | ha' <;> rcases List.mem_cons.1 hb with hbk | hb'
    · rw [hak, hbk]
    · have := hk b hb'
      rw [← hak] at this
      omega
    · have := hk a ha'
      rw [← hbk] at this
      omega
    · exact ih hkeys ha' hb'

/-- What is found first is what none stands in front of. -/
theorem find?_eq_some_iff (h : Apart keys) {p : Key → Bool} (ha : a ∈ keys) (hp : p a = true) :
    keys.find? p = some a ↔ ∀ k ∈ keys, k.start < a.start → p k = false := by
  induction keys with
  | nil => cases ha
  | cons k keys ih =>
    obtain ⟨hk, hkeys⟩ := List.pairwise_cons.1 h
    have := k.start_lt_stop
    rcases List.mem_cons.1 ha with rfl | ha'
    · rw [List.find?_cons_of_pos hp]
      refine ⟨fun _ b hb hlt => ?_, fun _ => rfl⟩
      rcases List.mem_cons.1 hb with rfl | hb
      · exact absurd hlt (Nat.lt_irrefl _)
      · have := hk b hb
        omega
    · have := hk a ha'
      cases hpk : p k with
      | true =>
        rw [List.find?_cons_of_pos hpk]
        refine ⟨fun heq => ?_, fun hfirst => ?_⟩
        · obtain rfl := Option.some.inj heq
          omega
        · rw [hfirst k List.mem_cons_self (by omega)] at hpk
          cases hpk
      | false =>
        rw [List.find?_cons_of_neg (by simp [hpk]), ih hkeys ha', List.forall_mem_cons]
        exact (and_iff_right fun _ => hpk).symm

end Apart

/-! ## The keys of the rules -/

/-- The value that holds the rules, with the offset at which it begins. -/
def Document.rulesPlace? (doc : Document) : Option (Nat × Layout) :=
  match doc.value with
  | .array gap its => (its.places (byteLength doc.front.chars + 1 + byteLength gap.chars))[1]?
  | .object gap ms =>
    ((ms.places (byteLength doc.front.chars + 1 + byteLength gap.chars)).find? fun place =>
      Grammar.isRules (place.1.spelling, place.2.2)).map Prod.snd
  | _ => none

/-- The keys of the object that holds the rules. -/
def Document.ruleKeys (doc : Document) : List Key :=
  match doc.rulesPlace? with
  | some (offset, v) => v.ownKeys offset
  | none => []

theorem Layout.map_ownKeys (offset : Nat) (v : Layout) :
    (v.ownKeys offset).map Key.spelling = v.members.map Prod.fst := by
  cases v with
  | object gap ms =>
    rw [ownKeys, members, ← ms.map_places (offset + 1 + byteLength gap.chars), List.map_map,
      List.map_map]
    rfl
  | atom | string | emptyArray | array | emptyObject => rfl

namespace Document

variable {doc : Document}

theorem map_rulesPlace? (doc : Document) :
    doc.rulesPlace?.map Prod.snd = Grammar.rulesIn? doc.value := by
  obtain ⟨front, v, back⟩ := doc
  cases v with
  | array gap its =>
    rw [rulesPlace?, Grammar.rulesIn?, ← its.map_places (byteLength front.chars + 1 + byteLength gap.chars),
      List.getElem?_map]
  | object gap ms =>
    change _ = (ms.list.find? Grammar.isRules).map Prod.snd
    rw [rulesPlace?, ← ms.map_places (byteLength front.chars + 1 + byteLength gap.chars),
      List.find?_map, Option.map_map, Option.map_map]
    rfl
  | atom | string | emptyArray | emptyObject => rfl

theorem exists_ruleKey_iff {r : Layout} (h : Grammar.rulesIn? doc.value = some r) {name : String} :
    (∃ k ∈ doc.ruleKeys, k.name? = some name) ↔ ∃ m ∈ r.members, m.1.name? = some name := by
  rw [← map_rulesPlace?, Option.map_eq_some_iff] at h
  obtain ⟨⟨offset, v⟩, hplace, rfl⟩ := h
  rw [ruleKeys, hplace]
  calc (∃ k ∈ v.ownKeys offset, k.name? = some name)
      ↔ ∃ s ∈ (v.ownKeys offset).map Key.spelling, s.name? = some name := by simp [Key.name?]
    _ ↔ ∃ s ∈ v.members.map Prod.fst, s.name? = some name := by rw [Layout.map_ownKeys]
    _ ↔ ∃ m ∈ v.members, m.1.name? = some name := by simp

theorem mem_keys_of_mem_ruleKeys {k : Key} (h : k ∈ doc.ruleKeys) : k ∈ doc.keys := by
  unfold ruleKeys at h
  split at h
  case h_2 => cases h
  next offset v hplace =>
    have hk := v.keys_of_mem_ownKeys h
    unfold rulesPlace? at hplace
    unfold keys
    split at hplace
    next gap its hv =>
      rw [hv]
      exact its.keys_of_mem_places (List.mem_of_getElem? hplace) k hk
    next gap ms hv =>
      obtain ⟨place, hfind, hsnd⟩ := Option.map_eq_some_iff.1 hplace
      rw [hv]
      refine ms.keys_of_mem_places (List.mem_of_find?_eq_some hfind) k (List.mem_cons_of_mem _ ?_)
      rwa [hsnd]
    next => cases hplace

end Document

end IncrementalGlr.Json

namespace IncrementalGlr.KeySearch

open Json Text

/-! ## The search -/

/-- Names that can be told from what stands between two strings, and that are written as they are. -/
def Searchable (name : List Char) : Prop :=
  ∀ c ∈ name, c ≠ '"' ∧ c ≠ '\\' ∧ c ≠ ',' ∧ c ≠ ':'

/-- What is searched for. -/
def needle (name : List Char) : List Char := '"' :: (name ++ ['"'])

/-- Before the next quote comes a comma or a colon. -/
def Separated (text : List Char) : Prop :=
  ∀ a b, text = a ++ '"' :: b → '"' ∉ a → ',' ∈ a ∨ ':' ∈ a

theorem separated_of_not_mem {text : List Char} (h : '"' ∉ text) : Separated text := by
  rintro a b rfl
  simp at h

theorem Separated.append_left {a text : List Char} (h : Separated text) (ha : '"' ∉ a) :
    Separated (a ++ text) := by
  induction a with
  | nil => exact h
  | cons c a ih =>
    rintro (_ | ⟨c', a'⟩) b heq hb
    · obtain ⟨rfl, -⟩ := List.cons.inj heq
      exact absurd List.mem_cons_self ha
    · obtain ⟨rfl, htail⟩ := List.cons.inj heq
      rw [List.mem_cons, not_or] at ha hb
      exact (ih ha.2 a' b htail hb.2).imp (List.mem_cons_of_mem _) (List.mem_cons_of_mem _)

theorem separated_cons {c : Char} (hc : c = ',' ∨ c = ':') (text : List Char) :
    Separated (c :: text) := by
  rintro (_ | ⟨c', a⟩) b heq -
  · obtain ⟨rfl, -⟩ := List.cons.inj heq
    rcases hc with hc | hc <;> cases hc
  · obtain ⟨rfl, -⟩ := List.cons.inj heq
    rcases hc with rfl | rfl
    · exact .inl List.mem_cons_self
    · exact .inr List.mem_cons_self

section Search

variable {name b rest : List Char} {offset : Nat}

theorem findKey_cons {c : Char} (hc : c ≠ '"') (name : List Char) (offset : Nat) (rest : List Char) :
    findKey (needle name) offset (c :: rest) = findKey (needle name) (offset + c.utf8Size) rest := by
  rw [findKey, dif_neg]
  rintro ⟨-, hpre⟩
  rw [needle, List.isPrefixOf, Bool.and_eq_true, beq_iff_eq] at hpre
  exact hc hpre.1.symm

theorem findKey_append {a : List Char} (ha : '"' ∉ a) (name : List Char) (offset : Nat)
    (rest : List Char) :
    findKey (needle name) offset (a ++ rest) = findKey (needle name) (offset + byteLength a) rest := by
  induction a generalizing offset with
  | nil => rfl
  | cons c a ih =>
    rw [List.mem_cons, not_or] at ha
    rw [List.cons_append, findKey_cons (Ne.symm ha.1), ih ha.2, byteLength, Nat.add_assoc]

theorem findKey_quote (h : ¬ name ++ ['"'] <+: rest) (offset : Nat) :
    findKey (needle name) offset ('"' :: rest) = findKey (needle name) (offset + 1) rest := by
  rw [findKey, dif_neg]
  · rfl
  rintro ⟨-, hpre⟩
  rw [needle, List.isPrefixOf, Bool.and_eq_true] at hpre
  exact h (List.isPrefixOf_iff_prefix.1 hpre.2)

theorem byteLength_needle (name : List Char) : byteLength (needle name) = byteLength name + 2 := by
  rw [needle, byteLength, byteLength_append]
  change 1 + (byteLength name + 1) = _
  omega

theorem findKey_needle (name : List Char) (offset : Nat) (rest : List Char) :
    findKey (needle name) offset ('"' :: (name ++ '"' :: rest)) =
      if colonFollows rest then some offset
      else findKey (needle name) (offset + byteLength name + 2) rest := by
  have hpre : (needle name).isPrefixOf ('"' :: (name ++ '"' :: rest)) = true :=
    List.isPrefixOf_iff_prefix.2 ⟨rest, by simp [needle]⟩
  have hdrop : ('"' :: (name ++ '"' :: rest)).drop (needle name).length = rest := by
    rw [show '"' :: (name ++ '"' :: rest) = needle name ++ rest by simp [needle], List.drop_left]
  rw [findKey, dif_pos ⟨List.cons_ne_nil _ _, hpre⟩]
  simp only [hdrop, byteLength_needle, Nat.add_assoc]

/-- At the end of a string the search goes on: before the next quote stands what no name has. -/
theorem findKey_close (hname : Searchable name) (hrest : Separated rest) (offset : Nat) :
    findKey (needle name) offset ('"' :: rest) = findKey (needle name) (offset + 1) rest := by
  refine findKey_quote ?_ offset
  rintro ⟨more, rfl⟩
  rcases hrest name more (by simp) fun h => (hname _ h).1 rfl with h | h
  · exact (hname _ h).2.2.1 rfl
  · exact (hname _ h).2.2.2 rfl

/-- The quotes inside of a string are escaped, so the name ends with the string. -/
theorem eq_of_isPrefix (hname : Searchable name) (hb : Escaped b)
    (h : name ++ ['"'] <+: b ++ '"' :: rest) : b = name := by
  induction hb generalizing name with
  | nil =>
    cases name with
    | nil => rfl
    | cons c name =>
      obtain ⟨rfl, -⟩ := List.cons_prefix_cons.1 h
      exact absurd rfl (hname _ List.mem_cons_self).1
  | @plain c b hquote hslash _ ih =>
    cases name with
    | nil =>
      obtain ⟨rfl, -⟩ := List.cons_prefix_cons.1 h
      exact absurd rfl hquote
    | cons c' name =>
      obtain ⟨rfl, htail⟩ := List.cons_prefix_cons.1 h
      rw [ih (fun c hc => hname c (List.mem_cons_of_mem _ hc)) htail]
  | escape c hb =>
    cases name with
    | nil =>
      obtain ⟨hslash, -⟩ := List.cons_prefix_cons.1 h
      cases hslash
    | cons c' name =>
      obtain ⟨rfl, -⟩ := List.cons_prefix_cons.1 h
      exact absurd rfl (hname _ List.mem_cons_self).2.1

/-- Whether a text ends in a quote and the name. -/
def endsIn (name text : List Char) : Bool := ('"' :: name).isSuffixOf text

theorem endsIn_cons {c : Char} (hc : c ≠ '"') (name text : List Char) :
    endsIn name (c :: text) = endsIn name text := by
  rw [Bool.eq_iff_iff, endsIn, endsIn, List.isSuffixOf_iff_suffix, List.isSuffixOf_iff_suffix,
    List.suffix_cons_iff, List.cons.injEq]
  exact or_iff_right fun h => hc h.1.symm

theorem endsIn_quote (name text : List Char) :
    endsIn name ('"' :: text) = (decide (text = name) || endsIn name text) := by
  rw [Bool.eq_iff_iff, Bool.or_eq_true, decide_eq_true_eq, endsIn, endsIn,
    List.isSuffixOf_iff_suffix, List.isSuffixOf_iff_suffix, List.suffix_cons_iff, List.cons.injEq,
    eq_comm (a := text)]
  simp

/-- What is found at the end of a string, which stands at `stop`. -/
def found (name : List Char) (hit : Bool) (stop : Nat) (rest : List Char) : Option Nat :=
  if colonFollows rest && hit then some (stop - (byteLength name + 2))
  else findKey (needle name) stop rest

/-- Where a quote stands in front of what is left of a string. -/
theorem findKey_open (hname : Searchable name) (hb : Escaped b)
    (inside : ∀ offset, findKey (needle name) offset (b ++ '"' :: rest) =
      found name (endsIn name b) (offset + byteLength b + 1) rest) (offset : Nat) :
    findKey (needle name) offset ('"' :: (b ++ '"' :: rest)) =
      found name (endsIn name ('"' :: b)) (offset + byteLength b + 2) rest := by
  rw [endsIn_quote]
  by_cases heq : b = name
  · subst heq
    rw [findKey_needle, decide_eq_true rfl, Bool.true_or, found, Bool.and_true, Nat.add_assoc,
      Nat.add_sub_cancel]
  · rw [findKey_quote fun h => heq (eq_of_isPrefix hname hb h), inside, decide_eq_false heq,
      Bool.false_or]
    congr 1
    omega

/-- Inside of a string only what ends with it is found, and only if the string is a key. -/
theorem findKey_inside (hname : Searchable name) (hb : Escaped b) (hrest : Separated rest)
    (offset : Nat) :
    findKey (needle name) offset (b ++ '"' :: rest) =
      found name (endsIn name b) (offset + byteLength b + 1) rest := by
  induction hb generalizing offset with
  | nil =>
    rw [found, endsIn, List.isSuffixOf_cons_nil, Bool.and_false]
    exact findKey_close hname hrest offset
  | @plain c b hquote hslash _ ih =>
    rw [List.cons_append, findKey_cons hquote, ih, endsIn_cons hquote, byteLength]
    congr 1
    omega
  | @escape c b hb ih =>
    rw [List.cons_append, findKey_cons (by decide), endsIn_cons (by decide), byteLength,
      List.cons_append]
    by_cases hquote : c = '"'
    · subst hquote
      rw [findKey_open hname hb ih]
      congr 1
      change _ = offset + (1 + (1 + _)) + 1
      change offset + 1 + _ + 2 = _
      omega
    · rw [findKey_cons hquote, ih, endsIn_cons hquote, byteLength]
      congr 1
      omega

theorem findKey_string (hname : Searchable name) (s : Spelling) (hrest : Separated rest)
    (offset : Nat) :
    findKey (needle name) offset (s.quoted ++ rest) =
      found name (endsIn name ('"' :: s.chars)) (offset + byteLength s.quoted) rest := by
  have inside := findKey_inside hname s.escaped hrest
  rw [Spelling.quoted, List.cons_append, List.append_assoc, List.singleton_append,
    findKey_open hname s.escaped inside, byteLength_mark _ _ rfl, byteLength_append,
    byteLength_mark _ _ rfl]
  congr 1
  change _ = offset + (1 + (byteLength s.chars + (1 + 0)))
  omega

end Search

/-! ### Along a layout -/

section Layouts

variable {name : List Char}

/-- The quoted name at the end of the first key that ends in it. -/
def firstPlace (name : List Char) (keys : List Key) : Option Nat :=
  (keys.find? (Key.endsIn name)).map fun k => k.stop - (byteLength name + 2)

theorem firstPlace_append (name : List Char) (keys keys' : List Key) :
    firstPlace name (keys ++ keys') = (firstPlace name keys).or (firstPlace name keys') := by
  rw [firstPlace, List.find?_append, Option.map_or]
  rfl

theorem firstPlace_cons (name : List Char) (k : Key) (keys : List Key) :
    firstPlace name (k :: keys) = (firstPlace name [k]).or (firstPlace name keys) :=
  firstPlace_append name [k] keys

theorem not_mem_gap (gap : Gap) : '"' ∉ gap.chars := fun h => by
  cases gap.blank _ h

theorem not_mem_atom (a : Atom) : '"' ∉ a.chars := fun h => by
  cases (a.plain _ h).2

theorem blanks_eq : Unicode.blanks = ⟨[(0x9, 0xD), (0x20, 0x20), (0x85, 0x85), (0xA0, 0xA0),
    (0x1680, 0x1680), (0x2000, 0x200A), (0x2028, 0x2029), (0x202F, 0x202F), (0x205F, 0x205F),
    (0x3000, 0x3000)]⟩ := by
  cbv

theorem colonFollows_gap (gap : Gap) (rest : List Char) :
    colonFollows (gap.chars ++ rest) = colonFollows rest := by
  obtain ⟨cs, hblank⟩ := gap
  change colonFollows (cs ++ rest) = _
  induction cs with
  | nil => rfl
  | cons c cs ih =>
    have hc : (c == ':') = false ∧ Unicode.blanks.contains c.toNat = true := by
      have := hblank c List.mem_cons_self
      simp only [isBlank, Bool.or_eq_true, decide_eq_true_eq] at this
      rw [blanks_eq]
      rcases this with ((rfl | rfl) | rfl) | rfl <;> exact ⟨rfl, rfl⟩
    rw [List.cons_append, colonFollows, hc.1, hc.2, ih fun c h => hblank c (List.mem_cons_of_mem _ h)]
    rfl

/-- What may stand behind a value that is no key. -/
structure Ending (rest : List Char) : Prop where
  separated : Separated rest
  noColon : colonFollows rest = false

namespace Ending

variable {rest : List Char}

theorem gap (h : Ending rest) (g : Gap) : Ending (g.chars ++ rest) :=
  ⟨h.separated.append_left (not_mem_gap g), (colonFollows_gap g rest).trans h.noColon⟩

theorem nil : Ending [] :=
  ⟨separated_of_not_mem nofun, rfl⟩

theorem comma (rest : List Char) : Ending (',' :: rest) := by
  refine ⟨separated_cons (.inl rfl) rest, ?_⟩
  rw [colonFollows, blanks_eq]
  rfl

theorem bracket (h : Ending rest) : Ending (']' :: rest) := by
  refine ⟨h.separated.append_left (a := [']']) (by decide), ?_⟩
  rw [colonFollows, blanks_eq]
  rfl

theorem brace (h : Ending rest) : Ending ('}' :: rest) := by
  refine ⟨h.separated.append_left (a := ['}']) (by decide), ?_⟩
  rw [colonFollows, blanks_eq]
  rfl

end Ending

theorem findKey_gap (name : List Char) (gap : Gap) (offset : Nat) (rest : List Char) :
    findKey (needle name) offset (gap.chars ++ rest) =
      findKey (needle name) (offset + byteLength gap.chars) rest :=
  findKey_append (not_mem_gap gap) name offset rest

theorem findKey_mark {c : Char} (hmark : isMark c = true) (hc : c ≠ '"') (name : List Char)
    (offset : Nat) (rest : List Char) :
    findKey (needle name) offset (c :: rest) = findKey (needle name) (offset + 1) rest := by
  have := byteLength_mark c [] hmark
  simp only [byteLength, Nat.add_zero] at this
  rw [findKey_cons hc, this]

theorem findKey_label (hname : Searchable name) (l : Label) (offset : Nat) (rest : List Char) :
    findKey (needle name) offset (l.text ++ rest) =
      (firstPlace name [⟨offset, l.key⟩]).or
        (findKey (needle name) (offset + byteLength l.text) rest) := by
  have separated : Separated (l.before.chars ++ ':' :: (l.behind.chars ++ rest)) :=
    (separated_cons (.inr rfl) _).append_left (not_mem_gap _)
  have colon : colonFollows (l.before.chars ++ ':' :: (l.behind.chars ++ rest)) = true := by
    rw [colonFollows_gap]
    rfl
  have same : Key.endsIn name ⟨offset, l.key⟩ = endsIn name ('"' :: l.key.chars) := rfl
  rw [Label.text, List.append_assoc, List.append_assoc, List.cons_append,
    findKey_string hname l.key separated, found, colon, Bool.true_and, firstPlace,
    List.find?_singleton, same]
  split
  next hends => rfl
  next hends =>
    rw [findKey_gap, findKey_cons (by decide), findKey_gap]
    simp only [Option.map_none, Option.none_or, byteLength_append, byteLength_mark ':' _ rfl]
    congr 1
    change offset + _ + _ + 1 + _ = _
    omega

mutual

/-- Along a value the search finds what it looks for at the end of a key, or goes on behind it. -/
theorem findKey_layout (hname : Searchable name) {rest : List Char} (hrest : Ending rest)
    (offset : Nat) : (v : Layout) →
    findKey (needle name) offset (v.text ++ rest) =
      (firstPlace name (v.keys offset)).or
        (findKey (needle name) (offset + byteLength v.text) rest)
  | .atom a => findKey_append (not_mem_atom a) name offset rest
  | .string s => by
    rw [Layout.text, findKey_string hname s hrest.separated, found, hrest.noColon]
    rfl
  | .emptyArray gap => by
    have : '"' ∉ (Layout.emptyArray gap).text := by simp [Layout.text, not_mem_gap]
    exact findKey_append this name offset rest
  | .array gap items => by
    rw [Layout.text, List.cons_append, List.append_assoc, findKey_mark rfl (by decide), findKey_gap,
      findKey_items hname hrest _ items, byteLength_mark _ _ rfl, byteLength_append]
    congr 2
    omega
  | .emptyObject gap => by
    have : '"' ∉ (Layout.emptyObject gap).text := by simp [Layout.text, not_mem_gap]
    exact findKey_append this name offset rest
  | .object gap members => by
    rw [Layout.text, List.cons_append, List.append_assoc, findKey_mark rfl (by decide), findKey_gap,
      findKey_members hname hrest _ members, byteLength_mark _ _ rfl, byteLength_append]
    congr 2
    omega

theorem findKey_items (hname : Searchable name) {rest : List Char} (hrest : Ending rest)
    (offset : Nat) : (its : Items) →
    findKey (needle name) offset (its.text ++ rest) =
      (firstPlace name (its.keys offset)).or
        (findKey (needle name) (offset + byteLength its.text) rest)
  | .last v gap => by
    rw [Items.text, List.append_assoc, List.append_assoc, List.singleton_append,
      findKey_layout hname (hrest.bracket.gap gap) offset v, findKey_gap,
      findKey_mark rfl (by decide), byteLength_append, byteLength_append, byteLength_mark _ _ rfl]
    congr 2
    change _ = offset + (_ + (_ + (1 + 0)))
    omega
  | .more v gap gap' others => by
    rw [Items.text, List.append_assoc, List.append_assoc, List.cons_append, List.append_assoc,
      findKey_layout hname ((Ending.comma _).gap gap) offset v, findKey_gap,
      findKey_mark rfl (by decide), findKey_gap, findKey_items hname hrest _ others, Items.keys,
      firstPlace_append, Option.or_assoc, byteLength_append, byteLength_append,
      byteLength_mark _ _ rfl, byteLength_append]
    congr 3
    omega

theorem findKey_members (hname : Searchable name) {rest : List Char} (hrest : Ending rest)
    (offset : Nat) : (ms : Members) →
    findKey (needle name) offset (ms.text ++ rest) =
      (firstPlace name (ms.keys offset)).or
        (findKey (needle name) (offset + byteLength ms.text) rest)
  | .last label v gap => by
    rw [Members.text, List.append_assoc, List.append_assoc, List.append_assoc, List.singleton_append,
      findKey_label hname, findKey_layout hname (hrest.brace.gap gap) _ v, findKey_gap,
      findKey_mark rfl (by decide), Members.keys, firstPlace_cons name _ (v.keys _),
      Option.or_assoc, byteLength_append, byteLength_append, byteLength_append,
      byteLength_mark _ _ rfl]
    congr 3
    change _ = offset + (_ + (_ + (_ + (1 + 0))))
    omega
  | .more label v gap gap' others => by
    rw [Members.text, List.append_assoc, List.append_assoc, List.append_assoc, List.cons_append,
      List.append_assoc, findKey_label hname, findKey_layout hname ((Ending.comma _).gap gap) _ v,
      findKey_gap, findKey_mark rfl (by decide), findKey_gap, findKey_members hname hrest _ others,
      Members.keys, firstPlace_cons name _ (_ ++ _), firstPlace_append,
      Option.or_assoc, Option.or_assoc, byteLength_append, byteLength_append, byteLength_append,
      byteLength_mark _ _ rfl, byteLength_append]
    congr 4
    omega

end

end Layouts

theorem findKey_document {name : List Char} (hname : Searchable name) (doc : Document) :
    findKey (needle name) 0 doc.text = firstPlace name doc.keys := by
  have back : findKey (needle name) (byteLength doc.front.chars + byteLength doc.value.text)
      (doc.back.chars ++ []) = none := by
    rw [findKey_gap, findKey]
  rw [List.append_nil] at back
  have ending : Ending doc.back.chars := List.append_nil doc.back.chars ▸ Ending.nil.gap doc.back
  rw [Document.text, findKey_gap, Nat.zero_add, findKey_layout hname ending, back, Option.or_none,
    Document.keys]

end IncrementalGlr.KeySearch

namespace IncrementalGlr

open Json Text

/-! ## Rules -/

theorem utf8ByteSize_eq (s : String) : s.utf8ByteSize = byteLength s.toList := by
  have size (cs : List Char) : (String.ofList cs).utf8ByteSize = byteLength cs := by
    induction cs with
    | nil => rfl
    | cons c cs ih =>
      rw [byteLength, ← ih, ← String.utf8ByteSize_singleton, ← String.utf8ByteSize_append]
      congr 1
      rw [← String.toList_inj]
      simp
  rw [← size, String.ofList_toList]

open KeySearch in
theorem ruleSpan_document {source rule : String} {doc : Document} (htext : doc.text = source.toList)
    (hname : Searchable rule.toList) :
    ruleSpan source rule =
      (doc.keys.find? (Key.endsIn rule.toList)).map (Key.lastPlace rule.toList) := by
  have quoted : ("\"" ++ rule ++ "\"").toList = needle rule.toList := by
    simp [needle, String.toList_append]
  rw [ruleSpan, utf8ByteSize_eq, quoted, ← htext, findKey_document hname, firstPlace, Option.map_map,
    byteLength_needle]
  cases hfind : doc.keys.find? (Key.endsIn rule.toList) with
  | none => rfl
  | some k =>
    have := Key.le_stop (List.find?_some hfind)
    rw [Option.map_some, Option.map_some, Function.comp_apply, Key.lastPlace]
    congr 2
    omega

/-- The key is written as the name it stands for, and there is no comma and no colon in that. -/
structure Json.Key.Bare (name : String) (k : Key) : Prop where
  named : k.name? = some name
  noEscape : '\\' ∉ k.spelling.chars
  noComma : ',' ∉ name.toList
  noColon : ':' ∉ name.toList

namespace Json.Key.Bare

variable {name : String} {k : Key}

theorem toList_eq (h : k.Bare name) : name.toList = k.spelling.chars :=
  Spelling.toList_of_name? h.named h.noEscape

theorem searchable (h : k.Bare name) : KeySearch.Searchable name.toList := by
  intro c hc
  have hchars : c ∈ k.spelling.chars := h.toList_eq ▸ hc
  refine ⟨?_, ?_, ?_, ?_⟩
  · rintro rfl
    exact k.spelling.escaped.quote_not_mem h.noEscape hchars
  · rintro rfl
    exact h.noEscape hchars
  · rintro rfl
    exact h.noComma hc
  · rintro rfl
    exact h.noColon hc

theorem endsIn (h : k.Bare name) : k.endsIn name.toList = true := by
  rw [Key.endsIn, h.toList_eq]
  exact List.isSuffixOf_iff_suffix.2 (List.suffix_refl _)

theorem lastPlace (h : k.Bare name) : k.lastPlace name.toList = (k.start, k.stop) := by
  rw [Key.lastPlace, h.toList_eq, Key.stop, Spelling.quoted, byteLength_mark _ _ rfl,
    byteLength_append, byteLength_mark _ _ rfl]
  congr 1
  change k.start + (1 + (_ + (1 + 0))) - (_ + 2) = _
  omega

end Json.Key.Bare

namespace DiagnosticPrinter

/-- The place that is marked for a diagnostic. -/
def span (p : DiagnosticPrinter) (d : Diagnostic) : Option (Nat × Nat) :=
  (p.snippet d).map fun s => (s.start, s.stop)

theorem span_eq {p : DiagnosticPrinter} {d : Diagnostic} {source rule : String}
    (hsource : p.source = some source) (hrule : d.rule = some rule) :
    p.span d = ruleSpan source rule := by
  rw [span, snippet, hsource, hrule]
  cases h : ruleSpan source rule with
  | none => simp [h]
  | some span => simp [h]

end DiagnosticPrinter

/-- The text of a grammar is one document, and the grammar has a rule for each key of an object in it. A
diagnostic about a rule is shown at the first key of the whole document that ends in the quoted name,
hence at the key of the rule unless such a key stands in front of it; this is so for rules whose keys are
written without escapes and whose names have no comma and no colon. -/
theorem Grammar.spans_of_ofJson {source : String} {g : Grammar} (h : ofJson source = .ok g) :
    ∃ doc : Document, (∀ doc' : Document, doc'.text = source.toList ↔ doc' = doc) ∧
      (∀ name, name ∈ g.rules.names ↔ ∃ key ∈ doc.ruleKeys, key.name? = some name) ∧
      ∀ key ∈ doc.ruleKeys, key.Stands 0 source.toList ∧ ∀ name, key.Bare name →
        ∀ (p : DiagnosticPrinter) (d : Diagnostic), p.source = some source → d.rule = some name →
          p.span d = (doc.keys.find? (Key.endsIn name.toList)).map (Key.lastPlace name.toList) ∧
          (p.span d = some (key.start, key.stop) ↔
            ∀ k ∈ doc.keys, k.start < key.start → k.endsIn name.toList = false) := by
  obtain ⟨doc, htext, r, hrules, hnamed⟩ := exists_document_of_ofJson h
  refine ⟨doc, fun doc' => ?_, fun name => ?_, fun key hkey => ?_⟩
  · rw [← htext]
    exact Document.text_injective.eq_iff
  · rw [hnamed, Document.exists_ruleKey_iff hrules]
  have hmem := Document.mem_keys_of_mem_ruleKeys hkey
  refine ⟨htext ▸ Document.stands hmem, fun name hbare p d hsource hrule => ?_⟩
  have hspan : p.span d = (doc.keys.find? (Key.endsIn name.toList)).map (Key.lastPlace name.toList) := by
    rw [DiagnosticPrinter.span_eq hsource hrule, ruleSpan_document htext hbare.searchable]
  refine ⟨hspan, ?_⟩
  rw [hspan, ← doc.apart_keys.find?_eq_some_iff hmem hbare.endsIn, ← hbare.lastPlace]
  refine ⟨fun hplace => ?_, fun hfind => by rw [hfind]; rfl⟩
  -- Two keys with one end are one key.
  obtain ⟨first, hfind, heq⟩ := Option.map_eq_some_iff.1 hplace
  have hstop : first.stop = key.stop := congrArg Prod.snd heq
  rw [hfind, doc.apart_keys.eq_of_stop (List.mem_of_find?_eq_some hfind) hmem hstop]

/-! A grammar with a rule that is called like one of the grammar's own members. -/
namespace Namesake

def source : String :=
  "\x7b\"name\": \"g\", \"rules\": \x7b\"name\": \x7b\"type\": \"BLANK\"\x7d, \"s\": \x7b\"type\": \"BLANK\"\x7d\x7d\x7d"

def word (cs : List Char) (h : (cs.all fun c => c != '"' && c != '\\') = true := by rfl) : Spelling :=
  ⟨cs, .of_all h⟩

def space : Gap := ⟨[' '], by simp [Blank, isBlank]⟩

/-- A key with a colon and a blank behind it. -/
def label (cs : List Char) (h : (cs.all fun c => c != '"' && c != '\\') = true := by rfl) : Label :=
  ⟨word cs h, .none, space⟩

def blank : Layout :=
  .object .none (.last (label ['t', 'y', 'p', 'e']) (.string (word ['B', 'L', 'A', 'N', 'K'])) .none)

def document : Document where
  front := .none
  back := .none
  value :=
    .object .none (.more (label ['n', 'a', 'm', 'e']) (.string (word ['g'])) .none space
      (.last (label ['r', 'u', 'l', 'e', 's'])
        (.object .none (.more (label ['n', 'a', 'm', 'e']) blank .none space
          (.last (label ['s']) blank .none))) .none))

def printer : DiagnosticPrinter := { source := some source }

def about (rule : String) : Diagnostic := { finding := .unproductiveRule rule, rule := some rule }

theorem ruleKeys_document :
    document.ruleKeys = [⟨24, word ['n', 'a', 'm', 'e']⟩, ⟨51, word ['s']⟩] := by
  rfl

/-- The rule `s` is found at its key, and the rule `name` at the name of the grammar. -/
theorem spans_namesake : ∃ g, Grammar.ofJson source = .ok g ∧
    printer.span (about "s") = some (51, 54) ∧ printer.span (about "name") = some (1, 7) := by
  obtain ⟨g, accepted⟩ : ∃ g, Grammar.ofJson source = .ok g := by
    have isSome : (Grammar.ofJson source).toOption.isSome = true := by decide +kernel
    cases h : Grammar.ofJson source with
    | ok g => exact ⟨g, rfl⟩
    | error p =>
      rw [h] at isSome
      cases isSome
  obtain ⟨doc, hdoc, -, hspans⟩ := Grammar.spans_of_ofJson accepted
  obtain rfl : document = doc := (hdoc document).1 (by decide +kernel)
  rw [ruleKeys_document] at hspans
  refine ⟨g, accepted, ?_, ?_⟩
  · obtain ⟨-, hkey⟩ := hspans ⟨51, word ['s']⟩ (by simp)
    have hbare : Key.Bare "s" ⟨51, word ['s']⟩ := ⟨by decide +kernel, by decide, by decide, by decide⟩
    refine (hkey "s" hbare printer (about "s") rfl rfl).2.2 ?_
    decide
  · obtain ⟨-, hkey⟩ := hspans ⟨24, word ['n', 'a', 'm', 'e']⟩ (by simp)
    have hbare : Key.Bare "name" ⟨24, word ['n', 'a', 'm', 'e']⟩ :=
      ⟨by decide +kernel, by decide, by decide, by decide⟩
    refine (hkey "name" hbare printer (about "name") rfl rfl).1.trans ?_
    rfl

end Namesake

end IncrementalGlr
