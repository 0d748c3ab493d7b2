import IncrementalGlr.Grammar.Json
import IncrementalGlr.Proofs.Json.Tagged

/-!
Grammars are read as they were written.

A rule is written as a tagged object. Its members are the fields of its kind, and read back they build
the rule (`Rule.exists_parts`), whatever kind it is; all that is said of rules afterwards goes from the
rules directly inside (`Rule.contents`) to the rule around them, by induction on how deep its value
nests. A grammar is written as an object whose members lead a draft, one after the other, to all that
the grammar holds.

Precedences are stored with 32 bits, so only numbers of that width can be read back.
-/
namespace IncrementalGlr

open Json

/-! ## Numbers of 32 bits -/

namespace Precedence

def fits : Precedence → Bool
  | integer n => fitsInt32 n
  | name _ => true

end Precedence

mutual

/-- Whether all precedences of a rule fit 32 bits. -/
def Rule.fits : Rule → Bool
  | .blank | .string _ | .pattern _ _ | .symbol _ => true
  | .seq members | .choice members => rulesFit members
  | .zeroOrMore content | .oneOrMore content | .field _ content | .renamed content _ _
  | .token content | .immediateToken content | .reserved _ content => content.fits
  | .prec p content | .precLeft p content | .precRight p content => p.fits && content.fits
  | .precDynamic n content => fitsInt32 n && content.fits

def rulesFit : List Rule → Bool
  | [] => true
  | rule :: rest => rule.fits && rulesFit rest

end

/-- Whether all precedences of a grammar fit 32 bits. -/
def Grammar.fits (g : Grammar) : Bool :=
  g.rules.entries.all (fun e => e.2.fits) && g.extras.all Rule.fits && g.externals.all Rule.fits
    && g.reserved.all fun e => e.2.all Rule.fits

/-! ## Rules by their parts -/

namespace Rule

/-- The rules directly inside a rule. -/
def contents : Rule → List Rule
  | blank | string _ | pattern _ _ | symbol _ => []
  | seq members | choice members => members
  | zeroOrMore content | oneOrMore content | field _ content | renamed content _ _
  | token content | immediateToken content | prec _ content | precLeft _ content
  | precRight _ content | precDynamic _ content | reserved _ content => [content]

theorem fits_of_rulesFit {rs : List Rule} (h : rulesFit rs = true) : ∀ r ∈ rs, r.fits = true := by
  induction rs with
  | nil => nofun
  | cons r rs ih =>
    rw [rulesFit, Bool.and_eq_true] at h
    intro c hc
    rcases List.mem_cons.mp hc with rfl | hc
    · exact h.1
    · exact ih h.2 c hc

theorem fits_contents {r c : Rule} (h : r.fits = true) (hc : c ∈ r.contents) : c.fits = true := by
  cases r with
  | blank | string | pattern | symbol => cases hc
  | seq members | choice members => exact fits_of_rulesFit h c hc
  | zeroOrMore content | oneOrMore content | field _ content | renamed content _ _
  | token content | immediateToken content | reserved _ content =>
    cases List.mem_singleton.mp hc
    exact h
  | prec p content | precLeft p content | precRight p content | precDynamic p content =>
    cases List.mem_singleton.mp hc
    exact (Bool.and_eq_true_iff.mp h).2

theorem rulesToValues_eq (rs : List Rule) : rulesToValues rs = rs.map toValue := by
  induction rs with
  | nil => rfl
  | cons r rs ih => rw [rulesToValues, ih, List.map_cons]

end Rule

/-- The rules that a field holds. -/
def FieldValue.contents : FieldValue → List Rule
  | rule r => [r]
  | rules rs => rs
  | text _ | optionalText _ | flag _ | integer _ | precedence _ => []

/-- How the value of a field is written. -/
inductive FieldShape.Written : FieldShape → Value → FieldValue → Prop
  | text (s : String) : Written .text (.string s) (.text s)
  | optionalText (s : String) : Written .optionalText (.string s) (.optionalText (some s))
  | flag (b : Bool) : Written .flag (.bool b) (.flag b)
  | integer {n : Int} (h : fitsInt32 n = true) : Written .integer (.integer n) (.integer n)
  | precedence {p : Precedence} (h : p.fits = true) :
      Written .precedence p.toValue (.precedence p)
  | rule (r : Rule) : Written .rule r.toValue (.rule r)
  | rules (rs : List Rule) : Written .rules (.array (rs.map Rule.toValue)) (.rules rs)

namespace FieldShape.Written

variable {shape : FieldShape} {v : Value} {x : FieldValue}

theorem exact_of_fitsInt32 {n : Int} (h : fitsInt32 n = true) : (Value.integer n).Exact := by
  rw [fitsInt32, Bool.and_eq_true, decide_eq_true_eq, decide_eq_true_eq] at h
  exact .integer (by omega) (by omega)

/-- A field is read as it was written when the rules in it are. -/
theorem ofValue_eq {rule : Value → Except Problem Rule} (h : Written shape v x)
    (hrule : ∀ c ∈ x.contents, rule c.toValue = .ok c) : shape.ofValue rule v = .ok x := by
  cases h with
  | text s => rfl
  | optionalText s => rfl
  | flag b => rfl
  | integer h => exact if_pos h
  | @precedence p h =>
    cases p with
    | integer n =>
      have hn : fitsInt32 n = true := h
      change FieldValue.precedence <$> (if fitsInt32 n = true then _ else _) = _
      rw [if_pos hn]
      rfl
    | name level => rfl
  | rule r =>
    change FieldValue.rule <$> rule r.toValue = _
    rw [hrule r List.mem_cons_self]
    rfl
  | rules rs =>
    have all : (rs.map Rule.toValue).mapM rule = .ok rs := by
      induction rs with
      | nil => rfl
      | cons r rs ih =>
        rw [List.map_cons, List.mapM_cons, hrule r List.mem_cons_self,
          ih fun c hc => hrule c (List.mem_cons_of_mem r hc)]
        rfl
    change FieldValue.rules <$> (rs.map Rule.toValue).mapM rule = _
    rw [all]
    rfl

theorem exact (h : Written shape v x) (hrule : ∀ c ∈ x.contents, c.toValue.Exact) : v.Exact := by
  cases h with
  | text s => exact .string s
  | optionalText s => exact .string s
  | flag b => exact .bool b
  | integer h => exact exact_of_fitsInt32 h
  | @precedence p h =>
    cases p with
    | integer n => exact exact_of_fitsInt32 h
    | name level => exact .string level
  | rule r => exact hrule r List.mem_cons_self
  | rules rs =>
    apply Value.Exact.array
    intro v hv
    obtain ⟨r, hr, rfl⟩ := List.mem_map.mp hv
    exact hrule r hr

theorem nesting_le (h : Written shape v x) {c : Rule} (hc : c ∈ x.contents) :
    c.toValue.nesting ≤ v.nesting := by
  cases h with
  | text | optionalText | flag | integer | precedence => cases hc
  | rule r =>
    cases List.mem_singleton.mp hc
    exact Nat.le_refl _
  | rules rs =>
    exact Nat.le_succ_of_le (nesting_le_items (List.mem_map_of_mem hc))

end FieldShape.Written

namespace Rule

/-- A rule is written as a tagged object whose members are the fields of its kind, and these build the
rule. -/
theorem exists_parts {r : Rule} (hfits : r.fits = true) :
    ∃ name kind members values, r.toValue = tagged name members ∧
      RuleKind.variants.lookup name = some kind ∧ kind.build values = some r ∧
      Fields FieldShape.absent FieldShape.Written kind.fields members values ∧
      r.contents = values.flatMap FieldValue.contents := by
  cases r with
  | blank => exact ⟨_, .blank, _, [], by rw [toValue], rfl, rfl, .nil, rfl⟩
  | string text =>
    exact ⟨_, .string, _, [.text text], by rw [toValue], rfl, rfl, .present (.text text) .nil, rfl⟩
  | pattern regex flags =>
    cases flags with
    | none =>
      exact ⟨_, .pattern, _, [.text regex, .optionalText none], by rw [toValue], rfl, rfl,
        .present (.text regex) (.absent rfl .nil), rfl⟩
    | some flags =>
      exact ⟨_, .pattern, _, [.text regex, .optionalText (some flags)], by rw [toValue], rfl, rfl,
        .present (.text regex) (.present (.optionalText flags) .nil), rfl⟩
  | symbol name =>
    exact ⟨_, .symbol, _, [.text name], by rw [toValue], rfl, rfl, .present (.text name) .nil, rfl⟩
  | seq members =>
    exact ⟨_, .seq, _, [.rules members], by rw [toValue, rulesToValues_eq], rfl, rfl,
      .present (.rules members) .nil, (List.append_nil members).symm⟩
  | choice members =>
    exact ⟨_, .choice, _, [.rules members], by rw [toValue, rulesToValues_eq], rfl, rfl,
      .present (.rules members) .nil, (List.append_nil members).symm⟩
  | zeroOrMore content =>
    exact ⟨_, .zeroOrMore, _, [.rule content], by rw [toValue], rfl, rfl,
      .present (.rule content) .nil, rfl⟩
  | oneOrMore content =>
    exact ⟨_, .oneOrMore, _, [.rule content], by rw [toValue], rfl, rfl,
      .present (.rule content) .nil, rfl⟩
  | field name content =>
    exact ⟨_, .field, _, [.text name, .rule content], by rw [toValue], rfl, rfl,
      .present (.text name) (.present (.rule content) .nil), rfl⟩
  | renamed content name named =>
    exact ⟨_, .renamed, _, [.rule content, .text name, .flag named], by rw [toValue], rfl, rfl,
      .present (.rule content) (.present (.text name) (.present (.flag named) .nil)), rfl⟩
  | token content =>
    exact ⟨_, .token, _, [.rule content], by rw [toValue], rfl, rfl,
      .present (.rule content) .nil, rfl⟩
  | immediateToken content =>
    exact ⟨_, .immediateToken, _, [.rule content], by rw [toValue], rfl, rfl,
      .present (.rule content) .nil, rfl⟩
  | prec p content =>
    obtain ⟨hp, -⟩ := Bool.and_eq_true_iff.mp hfits
    exact ⟨_, .prec, _, [.precedence p, .rule content], by rw [toValue], rfl, rfl,
      .present (.precedence hp) (.present (.rule content) .nil), rfl⟩
  | precLeft p content =>
    obtain ⟨hp, -⟩ := Bool.and_eq_true_iff.mp hfits
    exact ⟨_, .precLeft, _, [.precedence p, .rule content], by rw [toValue], rfl, rfl,
      .present (.precedence hp) (.present (.rule content) .nil), rfl⟩
  | precRight p content =>
    obtain ⟨hp, -⟩ := Bool.and_eq_true_iff.mp hfits
    exact ⟨_, .precRight, _, [.precedence p, .rule content], by rw [toValue], rfl, rfl,
      .present (.precedence hp) (.present (.rule content) .nil), rfl⟩
  | precDynamic n content =>
    obtain ⟨hn, -⟩ := Bool.and_eq_true_iff.mp hfits
    exact ⟨_, .precDynamic, _, [.integer n, .rule content], by rw [toValue], rfl, rfl,
      .present (.integer hn) (.present (.rule content) .nil), rfl⟩
  | reserved context content =>
    exact ⟨_, .reserved, _, [.text context, .rule content], by rw [toValue], rfl, rfl,
      .present (.text context) (.present (.rule content) .nil), rfl⟩

theorem nodup_fields (kind : RuleKind) : (kind.fields.map Prod.fst).Nodup := by
  cases kind <;> decide

theorem type_not_mem_fields (kind : RuleKind) : "type" ∉ kind.fields.map Prod.fst := by
  cases kind <;> decide

/-- No member of a rule is called like the member that names its kind. -/
theorem ne_type {absent : FieldShape → Option FieldValue}
    {written : FieldShape → Value → FieldValue → Prop} {kind : RuleKind}
    {members : List (String × Value)} {values : List FieldValue}
    (h : Fields absent written kind.fields members values) : ∀ m ∈ members, m.1 ≠ "type" :=
  fun _ hm heq => type_not_mem_fields kind (h.keys_subset (heq ▸ List.mem_map_of_mem hm))

/-- The value of a rule nests deeper than those of the rules directly inside. -/
theorem nesting_lt {r c : Rule} (hfits : r.fits = true) (hc : c ∈ r.contents) :
    c.toValue.nesting < r.toValue.nesting := by
  obtain ⟨name, kind, members, values, hvalue, -, -, hfields, hcontents⟩ := exists_parts hfits
  rw [hcontents] at hc
  obtain ⟨x, hx, hc⟩ := List.mem_flatMap.mp hc
  obtain ⟨shape, ⟨m, hm, hwritten⟩ | habsent⟩ := hfields.exists_member hx
  case inl =>
    have inner := hwritten.nesting_le hc
    have outer := nesting_le_members (List.mem_cons_of_mem ("type", Value.string name) hm)
    rw [hvalue]
    exact Nat.lt_succ_of_le (Nat.le_trans inner outer)
  case inr =>
    cases shape <;> cases habsent
    cases hc

/-- All numbers in the value of a rule are read exactly. -/
theorem exact_toValue {r : Rule} (hfits : r.fits = true) : r.toValue.Exact := by
  induction hn : r.toValue.nesting using Nat.strongRecOn generalizing r with
  | ind n ih =>
    subst hn
    obtain ⟨name, kind, members, values, hvalue, -, -, hfields, hcontents⟩ := exists_parts hfits
    rw [hvalue]
    apply Value.Exact.object
    intro m hm
    rcases List.mem_cons.mp hm with rfl | hm
    · exact .string name
    · obtain ⟨shape, x, hx, hwritten⟩ := hfields.exists_written hm
      apply hwritten.exact
      intro c hc
      have inside : c ∈ r.contents := hcontents ▸ List.mem_flatMap.mpr ⟨x, hx, hc⟩
      exact ih _ (nesting_lt hfits inside) (fits_contents hfits inside) rfl

/-- The body of a rule is read as the rule when the rules directly inside are. -/
theorem ofBody_eq {rule : Value → Except Problem Rule} {r : Rule} {kind : RuleKind}
    {members : List (String × Value)} {values : List FieldValue}
    (hfields : Fields FieldShape.absent FieldShape.Written kind.fields members values)
    (hbuild : kind.build values = some r) (hcontents : r.contents = values.flatMap FieldValue.contents)
    (hrule : ∀ c ∈ r.contents, rule c.toValue = .ok c) :
    ofBody rule kind (.members members) = .ok r := by
  have decoded : (Body.members members).decode kind.fields FieldShape.absent
      (FieldShape.ofValue rule) = .ok values := by
    apply Fields.decode_eq _ (nodup_fields kind)
    apply hfields.mono
    intro shape v x hx hwritten
    apply hwritten.ofValue_eq
    intro c hc
    exact hrule c (hcontents ▸ List.mem_flatMap.mpr ⟨x, hx, hc⟩)
  rw [ofBody, decoded]
  dsimp only [bind, Except.bind]
  rw [hbuild]
  rfl

/-- A rule that was kept as a value is read back. -/
theorem ofValue_toValue {r : Rule} {depth : Nat} (hfits : r.fits = true)
    (hnesting : r.toValue.nesting ≤ depth) : Rule.ofValue depth r.toValue = .ok r := by
  induction depth generalizing r with
  | zero =>
    obtain ⟨name, kind, members, values, hvalue, -⟩ := exists_parts hfits
    rw [hvalue] at hnesting
    exact absurd hnesting (Nat.not_succ_le_zero _)
  | succ depth ih =>
    obtain ⟨name, kind, members, values, hvalue, hname, hbuild, hfields, hcontents⟩ :=
      exists_parts hfits
    have inside : ∀ c ∈ r.contents, Rule.ofValue depth c.toValue = .ok c := fun c hc =>
      ih (fits_contents hfits hc) (Nat.le_of_lt_succ (Nat.lt_of_lt_of_le (nesting_lt hfits hc) hnesting))
    rw [hvalue, Rule.ofValue, tagged, Variants.ofValue_tagged hname (ne_type hfields)]
    exact ofBody_eq hfields hbuild hcontents inside

/-- A rule is read as it was written, if it does not nest deeper than the reader goes. -/
theorem reads_toValue {r : Rule} {depth : Nat} (hfits : r.fits = true)
    (hnesting : r.toValue.nesting ≤ depth) (level : Nat) :
    Reads (Rule.readJson depth) (r.toValue.write level) r := by
  obtain ⟨name, kind, members, values, hvalue, hname, hbuild, hfields, hcontents⟩ :=
    exists_parts hfits
  have hexact := exact_toValue hfits
  have inside : ∀ c ∈ r.contents, Rule.ofValue depth c.toValue = .ok c := fun c hc =>
    ofValue_toValue (fits_contents hfits hc)
      (Nat.le_of_lt (Nat.lt_of_lt_of_le (nesting_lt hfits hc) hnesting))
  rw [hvalue, tagged] at hexact hnesting ⊢
  cases depth with
  | zero => exact absurd hnesting (Nat.not_succ_le_zero _)
  | succ depth =>
    have hmembers : ∀ m ∈ members, m.2.nesting ≤ depth := fun m hm =>
      Nat.le_trans (nesting_le_members (List.mem_cons_of_mem _ hm)) (Nat.le_of_succ_le_succ hnesting)
    cases hexact with
    | object hexact =>
      intro blanks rest hblank hends
      have read := Variants.reads_tagged level hname (ne_type hfields)
        (fun m hm => hexact m (List.mem_cons_of_mem _ hm)) hmembers
      apply (read blanks rest hblank hends).bind
      exact .ofExcept (ofBody_eq hfields hbuild hcontents inside) rest

end Rule

/-! ## Grammars -/

/-- An entry of a precedence ordering is read as it was written. -/
theorem PrecedenceEntry.reads_toValue (e : PrecedenceEntry) (depth level : Nat) :
    Reads (PrecedenceEntry.readJson (depth + 1)) (e.toValue.write level) e := by
  intro blanks rest hblank hends
  cases e with
  | name s =>
    have read : Reads (PrecedenceEntry.variants.read (depth + 1))
        ((PrecedenceEntry.name s).toValue.write level) (_, .members [("value", .string s)]) :=
      Variants.reads_tagged level rfl (by simp) (by simp [Value.Exact.string])
        (by simp [Value.nesting])
    apply (read blanks rest hblank hends).bind
    exact .pure _ _
  | symbol s =>
    have read : Reads (PrecedenceEntry.variants.read (depth + 1))
        ((PrecedenceEntry.symbol s).toValue.write level) (_, .members [("name", .string s)]) :=
      Variants.reads_tagged level rfl (by simp) (by simp [Value.Exact.string])
        (by simp [Value.nesting])
    apply (read blanks rest hblank hends).bind
    exact .pure _ _

namespace Grammar

/-- A list that is left out when it is empty. -/
def unlessEmpty {α : Type} (xs : List α) : Option (List α) :=
  if xs.isEmpty then none else some xs

theorem unlessEmpty_getD {α : Type} (xs : List α) : (unlessEmpty xs).getD [] = xs := by
  cases xs <;> rfl

namespace Draft

/-- A list that is written when it is not empty takes a draft without it to one with it. -/
theorem threads_listMember {α : Type} {d : Draft} {key : String} {item : Reader α}
    {toValue : α → Value} {xs : List α} (place : Draft → Option (List α) → Draft)
    (hempty : place d none = d)
    (hmember : d.member key = colon >>= fun _ => listOf item >>= fun xs => pure (place d (some xs)))
    (hread : ∀ x ∈ xs, Reads item ((toValue x).write 2) x) :
    Threads member 0 d (listMember key toValue xs) (place d (unlessEmpty xs)) := by
  rw [listMember, unlessEmpty]
  split
  · rw [hempty]
    exact .nil d
  · exact .cons (takes_of_reads (fun xs => place d (some xs)) hmember (reads_list hread))
      (.nil _)

/-- A text that is written when it is there takes a draft without it to one with it. -/
theorem threads_textMember {d : Draft} {key : String} {o : Option String}
    (place : Draft → Option (Option String) → Draft) (hempty : place d none = d)
    (hmember : d.member key = colon >>= fun _ => optionalText >>= fun o => pure (place d (some o))) :
    Threads member 0 d (textMember key o) (place d (o.map some)) := by
  cases o with
  | none =>
    rw [Option.map_none, hempty]
    exact .nil d
  | some s =>
    exact .cons
      (takes_of_reads (fun o => place d (some o)) hmember (reads_optionalText s 1)) (.nil _)

theorem putEntry_of_notMem {name : String} {body : Rule} {entries : List (String × Rule)}
    (h : name ∉ entries.map Prod.fst) :
    Rules.putEntry name body entries = entries ++ [(name, body)] := by
  induction entries with
  | nil => rfl
  | cons e entries ih =>
    rw [List.map_cons, List.mem_cons, not_or] at h
    rw [Rules.putEntry, if_neg (Ne.symm h.1), ih h.2, List.cons_append]

theorem putContext_of_notMem {name : String} {words : List Rule}
    {entries : List (String × List Rule)} (h : name ∉ entries.map Prod.fst) :
    putContext name words entries = entries ++ [(name, words)] := by
  induction entries with
  | nil => rfl
  | cons e entries ih =>
    rw [List.map_cons, List.mem_cons, not_or] at h
    rw [putContext, if_neg (Ne.symm h.1), ih h.2, List.cons_append]

/-- A key that comes later is none of those before. -/
theorem notMem_front {β : Type} {front entries : List (String × β)} {e : String × β}
    (h : ((front ++ e :: entries).map Prod.fst).Nodup) : e.1 ∉ front.map Prod.fst := by
  rw [List.map_append, List.map_cons] at h
  intro hmem
  exact (List.nodup_append.mp h).2.2 _ hmem _ List.mem_cons_self rfl

/-- A rule whose name comes later than all others is put behind them. -/
theorem put_front {front entries : List (String × Rule)} {e : String × Rule}
    (hnodup : ((front ++ e :: entries).map Prod.fst).Nodup) (hfront : (front.map Prod.fst).Nodup) :
    ∃ hfirst, Rules.put ⟨front, hfront⟩ e.1 e.2 = ⟨front ++ [e], hfirst⟩ := by
  have hfirst : ((front ++ [e]).map Prod.fst).Nodup := by
    rw [List.append_cons, List.map_append] at hnodup
    exact (List.nodup_append.mp hnodup).1
  refine ⟨hfirst, ?_⟩
  rw [Rules.put, Rules.mk.injEq]
  exact putEntry_of_notMem (notMem_front hnodup)

/-- The rules that are read one after the other stand in the order in which they were written. -/
theorem threads_rules (front : List (String × Rule)) {entries : List (String × Rule)}
    (hnodup : ((front ++ entries).map Prod.fst).Nodup)
    (hread : ∀ e ∈ entries, Reads (ruleAt 2) (e.2.toValue.write 2) e.2)
    (hfront : (front.map Prod.fst).Nodup) :
    Threads (fun (rules : Rules) name => do colon; return rules.put name (← ruleAt 2)) 1
      ⟨front, hfront⟩ (entries.map fun e => (e.1, e.2.toValue)) ⟨front ++ entries, hnodup⟩ := by
  -- Along the rules that are still to be read; `front` are those that were.
  induction entries generalizing front with
  | nil =>
    simp only [List.append_nil, List.map_nil]
    exact .nil _
  | cons e entries ih =>
    have hsplit : front ++ e :: entries = (front ++ [e]) ++ entries := List.append_cons front e entries
    obtain ⟨hfirst, hput⟩ := put_front hnodup hfront
    have others := ih (front ++ [e]) (hsplit ▸ hnodup) (fun e' he' => hread e' (List.mem_cons_of_mem e he')) hfirst
    rw [← hput] at others
    simp only [hsplit]
    exact .cons (takes_of_reads (Rules.put ⟨front, hfront⟩ e.1) rfl (hread e List.mem_cons_self))
      others

/-- The contexts that are read one after the other stand in the order in which they were written. -/
theorem threads_contexts (front : List (String × List Rule)) {entries : List (String × List Rule)}
    (hnodup : ((front ++ entries).map Prod.fst).Nodup)
    (hread : ∀ e ∈ entries, ∀ r ∈ e.2, Reads (ruleAt 3) (r.toValue.write 3) r) :
    Threads (fun (contexts : List (String × List Rule)) name => do
        colon
        return putContext name (← listOf (ruleAt 3)) contexts) 1
      front (entries.map fun e => (e.1, .array (e.2.map Rule.toValue))) (front ++ entries) := by
  induction entries generalizing front with
  | nil =>
    rw [List.append_nil]
    exact .nil _
  | cons e entries ih =>
    have hnew := notMem_front hnodup
    have hsplit : front ++ e :: entries = (front ++ [e]) ++ entries := by
      rw [List.append_assoc, List.singleton_append]
    have others := ih (front ++ [e]) (hsplit ▸ hnodup) fun e' he' => hread e' (List.mem_cons_of_mem e he')
    have hput : putContext e.1 e.2 front = front ++ [e] := putContext_of_notMem hnew
    rw [← hput] at others
    rw [hsplit, ← hput]
    exact .cons (takes_of_reads (fun words => putContext e.1 words front) rfl
      (reads_list (hread e List.mem_cons_self))) others

/-- The contexts that are written when there are any take a draft without them to one with them. -/
theorem threads_reserved {d : Draft} {contexts : List (String × List Rule)}
    (place : Draft → Option (List (String × List Rule)) → Draft) (hempty : place d none = d)
    (hmember : d.member "reserved" = colon >>= fun _ =>
      objectOf (fun (contexts : List (String × List Rule)) name => do
        colon
        return putContext name (← listOf (ruleAt 3)) contexts) [] >>=
      fun contexts => pure (place d (some contexts)))
    (hnodup : (contexts.map Prod.fst).Nodup)
    (hread : ∀ e ∈ contexts, ∀ r ∈ e.2, Reads (ruleAt 3) (r.toValue.write 3) r) :
    Threads member 0 d
      (if contexts.isEmpty then []
        else [("reserved", .object (contexts.map fun e => (e.1, .array (e.2.map Rule.toValue))))])
      (place d (unlessEmpty contexts)) := by
  rw [unlessEmpty]
  split
  · rw [hempty]
    exact .nil d
  · exact .cons (takes_of_reads (fun contexts => place d (some contexts)) hmember
      (reads_objectOf (threads_contexts [] hnodup hread))) (.nil _)

end Draft

variable {g : Grammar}

/-- What a grammar is when all its members have been read. -/
def Draft.ofGrammar (g : Grammar) : Draft where
  name := some g.name
  rules := some g.rules
  extras := unlessEmpty g.extras
  precedences := unlessEmpty g.precedences
  conflicts := unlessEmpty g.conflicts
  externals := unlessEmpty g.externals
  inline := unlessEmpty g.inline
  supertypes := unlessEmpty g.supertypes
  word := g.word.map some
  reserved := unlessEmpty g.reserved
  inherits := g.inherits.map some
  recovery := unlessEmpty g.recovery

theorem Draft.finish_ofGrammar (g : Grammar) (missing : String → Problem) :
    (Draft.ofGrammar g).finish missing = .ok g := by
  have text (o : Option String) : (o.map some).getD none = o := by cases o <;> rfl
  simp only [Draft.finish, Draft.ofGrammar, unlessEmpty_getD, text]

/-- Contexts of distinct names are written as they are. -/
theorem contexts_eq (hnodup : (g.reserved.map Prod.fst).Nodup) : g.contexts = g.reserved := by
  have fold (front : List (String × List Rule)) {entries : List (String × List Rule)}
      (h : ((front ++ entries).map Prod.fst).Nodup) :
      entries.foldl (fun contexts e => putContext e.1 e.2 contexts) front = front ++ entries := by
    induction entries generalizing front with
    | nil => rw [List.foldl_nil, List.append_nil]
    | cons e entries ih =>
      have hsplit : front ++ e :: entries = (front ++ [e]) ++ entries := by
        rw [List.append_assoc, List.singleton_append]
      rw [List.foldl_cons, Draft.putContext_of_notMem (Draft.notMem_front h), hsplit]
      exact ih _ (hsplit ▸ h)
  exact fold [] hnodup

theorem nesting_of_listMember {α : Type} {key : String} {toValue : α → Value} {xs : List α} {n : Nat}
    (h : ∀ m ∈ listMember key toValue xs, m.2.nesting ≤ n + 1) :
    ∀ x ∈ xs, (toValue x).nesting ≤ n := by
  intro x hx
  have hne : xs.isEmpty = false := List.isEmpty_eq_false_iff_exists_mem.mpr ⟨x, hx⟩
  rw [listMember, hne] at h
  have whole := h _ List.mem_cons_self
  exact Nat.le_trans (nesting_le_items (List.mem_map_of_mem hx)) (Nat.le_of_succ_le_succ whole)

theorem nesting_of_reserved {contexts : List (String × List Rule)} {n : Nat}
    (h : ∀ m ∈ (if contexts.isEmpty then [] else
      [("reserved", Value.object (contexts.map fun e => (e.1, .array (e.2.map Rule.toValue))))]),
      m.2.nesting ≤ n + 2) : ∀ e ∈ contexts, ∀ r ∈ e.2, r.toValue.nesting ≤ n := by
  intro e he r hr
  have hne : contexts.isEmpty = false := List.isEmpty_eq_false_iff_exists_mem.mpr ⟨e, he⟩
  rw [hne] at h
  have whole := h _ List.mem_cons_self
  have context := nesting_le_members
    (List.mem_map_of_mem (f := fun e => (e.1, Value.array (e.2.map Rule.toValue))) he)
  have words := Nat.le_trans context (Nat.le_of_succ_le_succ whole)
  exact Nat.le_trans (nesting_le_items (List.mem_map_of_mem hr)) (Nat.le_of_succ_le_succ words)

/-- The members of a written grammar lead to all that the grammar holds. -/
theorem threads_toValue (hfits : g.fits = true) (hnodup : (g.reserved.map Prod.fst).Nodup)
    (hnesting : g.toValue.nesting ≤ nestingLimit) :
    ∃ members, g.toValue = .object members ∧
      Threads Draft.member 0 {} members (Draft.ofGrammar g) := by
  refine ⟨_, rfl, ?_⟩
  have inside := fun m hm => Nat.le_trans (nesting_le_members (m := m) hm)
    (Nat.le_of_succ_le_succ hnesting)
  simp only [List.forall_mem_append] at inside
  obtain ⟨⟨⟨⟨⟨⟨⟨⟨⟨⟨nfirst, nextras⟩, -⟩, -⟩, nexternals⟩, -⟩, -⟩, -⟩, nreserved⟩, -⟩, -⟩ := inside
  rw [contexts_eq hnodup] at *
  simp only [fits, Bool.and_eq_true, List.all_eq_true] at hfits
  obtain ⟨⟨⟨frules, fextras⟩, fexternals⟩, freserved⟩ := hfits
  have rule : ∀ e ∈ g.rules.entries, Reads (Draft.ruleAt 2) (e.2.toValue.write 2) e.2 := by
    intro e he
    have whole := nfirst _ (List.mem_cons_of_mem _ List.mem_cons_self)
    have inner := nesting_le_members (List.mem_map_of_mem (f := fun e => (e.1, e.2.toValue)) he)
    exact Rule.reads_toValue (frules e he) (Nat.le_trans inner (Nat.le_of_succ_le_succ whole)) 2
  have rules := Draft.threads_rules [] g.rules.nodup rule List.nodup_nil
  have first : Threads Draft.member 0 {}
      [("name", .string g.name),
        ("rules", .object (g.rules.entries.map fun e => (e.1, e.2.toValue)))]
      { name := some g.name, rules := some g.rules } :=
    .cons (takes_of_reads (fun s => { name := some s }) rfl (reads_text g.name 1))
      (.cons (takes_of_reads (fun rules => { name := some g.name, rules := some rules }) rfl
        (reads_objectOf rules)) (.nil _))
  simp only [List.append_assoc]
  -- The other members follow in the order in which they are written.
  apply first.append
  apply Threads.append (Draft.threads_listMember (fun d o => { d with extras := o }) rfl rfl
    fun r hr => Rule.reads_toValue (fextras r hr) (nesting_of_listMember nextras r hr) 2)
  apply Threads.append (Draft.threads_listMember (fun d o => { d with precedences := o }) rfl rfl
    fun l _ => reads_list fun e _ => e.reads_toValue 123 3)
  apply Threads.append (Draft.threads_listMember (fun d o => { d with conflicts := o }) rfl rfl
    fun l _ => reads_list fun s _ => reads_text s 3)
  apply Threads.append (Draft.threads_listMember (fun d o => { d with externals := o }) rfl rfl
    fun r hr => Rule.reads_toValue (fexternals r hr) (nesting_of_listMember nexternals r hr) 2)
  apply Threads.append (Draft.threads_listMember (fun d o => { d with inline := o }) rfl rfl
    fun s _ => reads_text s 2)
  apply Threads.append (Draft.threads_listMember (fun d o => { d with supertypes := o }) rfl rfl
    fun s _ => reads_text s 2)
  apply Threads.append (Draft.threads_textMember (fun d o => { d with word := o }) rfl rfl)
  apply Threads.append (Draft.threads_reserved (fun d o => { d with reserved := o }) rfl rfl hnodup
    fun e he r hr => Rule.reads_toValue (freserved e he r hr) (nesting_of_reserved nreserved e he r hr) 3)
  apply Threads.append (Draft.threads_textMember (fun d o => { d with inherits := o }) rfl rfl)
  exact Draft.threads_listMember (fun d o => { d with recovery := o }) rfl rfl fun s _ => reads_text s 2

/-- A grammar is read as it was written. -/
theorem reads_toValue (hfits : g.fits = true) (hnodup : (g.reserved.map Prod.fst).Nodup)
    (hnesting : g.toValue.nesting ≤ nestingLimit) : Reads readJson (g.toValue.write 0) g := by
  obtain ⟨members, hvalue, threads⟩ := threads_toValue hfits hnodup hnesting
  intro blanks rest hblank hends
  obtain ⟨more, hwrite⟩ : ∃ more, (Value.object members).write 0 = '{' :: more := by
    cases members <;> exact ⟨_, rfl⟩
  have whole := runs_object threads rest
  rw [hvalue, hwrite] at *
  apply (Runs.peek hblank rfl).bind
  apply whole.bind
  exact .ofExcept (Draft.finish_ofGrammar g _) rest

/-- Every grammar with a rule comes back from its text as it was: with distinct contexts of reserved
words, precedences of 32 bits, and no more arrays and objects inside each other than a text may have. -/
theorem ofJson_toJson {g : Grammar} (hrules : g.rules.entries ≠ [])
    (hnodup : (g.reserved.map Prod.fst).Nodup) (hfits : g.fits = true)
    (hnesting : g.toValue.nesting ≤ nestingLimit) : Grammar.ofJson g.toJson = .ok g := by
  have read := reads_toValue hfits hnodup hnesting [] [] blank_nil ends_nil
  rw [List.nil_append, List.append_nil] at read
  have document : document readJson g.toJson = .ok g := by
    rw [Json.document, toJson, Value.pretty, String.toList_ofList, read]
    rfl
  have hsome : g.rules.entries.isEmpty = false := List.isEmpty_eq_false_iff.mpr hrules
  rw [ofJson, document]
  change (if g.rules.entries.isEmpty = true then _ else _) = _
  rw [hsome, if_neg Bool.false_ne_true]
  rfl

/-- A grammar of sums, with a reserved word. -/
def sums : Grammar where
  name := "sums"
  rules := .ofList [
    ("sum", .precLeft (.integer (-1)) (.seq [.symbol "n", .string "\"+\"", .symbol "n"])),
    ("n", .pattern "[0-9]+" (some "i"))]
  precedences := [[.name "strong", .symbol "sum"]]
  word := some "n"
  reserved := [("global", [.string "é", .string "\t"])]

theorem ofJson_toJson_sums : Grammar.ofJson sums.toJson = .ok sums :=
  ofJson_toJson (by decide) (by decide) (by decide) (by decide)

end Grammar

end IncrementalGlr
