import IncrementalGlr.Grammar.Json
import IncrementalGlr.Proofs.Json.Accepted

/-!
The text of a grammar. What is read as a grammar is a document; its rules are the members of one
object in it, which is the member `rules` of the whole or, where a grammar is written as an array, the second
item (`Grammar.rulesIn?`). The grammar has a rule for each name among the keys of that object
(`Grammar.exists_document_of_ofJson`).
-/
namespace IncrementalGlr

open Json

/-! ## Rules -/

theorem Rules.mem_names_put {rules : Rules} {name x : String} {body : Rule} :
    x ∈ (rules.put name body).names ↔ x ∈ rules.names ∨ x = name := by
  have entries (es : List (String × Rule)) :
      x ∈ (putEntry name body es).map Prod.fst ↔ x ∈ es.map Prod.fst ∨ x = name := by
    induction es with
    | nil => simp [putEntry]
    | cons e es ih =>
      rw [putEntry]
      split
      next heq => simp [heq, or_comm]
      next => rw [List.map_cons, List.mem_cons, ih, List.map_cons, List.mem_cons, or_assoc]
  exact entries rules.entries

/-- The rules have the names of the members. -/
def Rules.Named (members : List (Spelling × Layout)) (rules : Rules) : Prop :=
  ∀ name, name ∈ rules.names ↔ ∃ m ∈ members, m.1.name? = some name

theorem laysAny_readRule (depth : Nat) : LaysAny (Rule.readJson depth) :=
  Variants.laysAny_read.check fun _ _ _ _ h => h.of_ofExcept.2

theorem laysAny_readEntry (depth : Nat) : LaysAny (PrecedenceEntry.readJson depth) := by
  refine Variants.laysAny_read.check fun x before entry after h => ?_
  obtain ⟨values, between, hdecode, hbuild⟩ := h.of_bind
  obtain ⟨-, rfl⟩ := hdecode.of_ofExcept
  split at hbuild
  next => exact hbuild.of_pure.2
  next => exact absurd hbuild Runs.not_throw

namespace Grammar

variable {d d' : Draft} {before after : List Char}

theorem laysAny_ruleAt (level : Nat) : LaysAny (Draft.ruleAt level) := laysAny_readRule _

/-! ## Members by name -/

/-- The member that holds the rules. -/
def isRules (m : Spelling × Layout) : Bool := m.1.name? = some "rules"

theorem lays_readMember_rules (d : Draft) :
    Lays (d.readMember "rules") fun v d' => ∃ rules, d'.rules = some rules ∧ rules.Named v.members := by
  have member : LaysMember (fun (rules : Rules) name => do
      colon
      return rules.put name (← Draft.ruleAt 2)) fun seen rules => rules.Named seen := by
    intro seen rules k key hkey hseen before rules' after h
    have put (v : Layout) (body : Rule) : (rules.put key body).Named (seen ++ [(k, v)]) := by
      intro name
      rw [Rules.mem_names_put, hseen name]
      simp only [List.mem_append, List.mem_singleton, or_and_right, exists_or, exists_eq_left, hkey,
        Option.some.injEq, eq_comm]
    exact (Lays.map (laysAny_ruleAt 2) fun v body _ => put v body).behindKey h
  have empty : Rules.empty.Named [] := fun name => by simp [Rules.names, Rules.empty]
  exact (member.objectOf empty).map fun v rules h => ⟨rules, rfl, h⟩

theorem lays_readMember {key : String} (d : Draft) (hkey : key ≠ "rules") :
    Lays (d.readMember key) fun _ d' => d'.rules = d.rules := by
  have keeps {α : Type} {read : Reader α} (h : LaysAny read) (f : α → Draft)
      (hf : ∀ x, (f x).rules = d.rules) :
      Lays (read >>= fun x => pure (f x)) fun _ d' => d'.rules = d.rules :=
    Lays.map h fun _ x _ => hf x
  unfold Draft.readMember
  split
  next => exact keeps laysAny_text _ fun _ => rfl
  next => exact absurd rfl hkey
  next => exact keeps (laysAny_ruleAt 2).listOf _ fun _ => rfl
  next => exact keeps (laysAny_readEntry _).listOf.listOf _ fun _ => rfl
  next => exact keeps laysAny_text.listOf.listOf _ fun _ => rfl
  next => exact keeps (laysAny_ruleAt 2).listOf _ fun _ => rfl
  next => exact keeps laysAny_text.listOf _ fun _ => rfl
  next => exact keeps laysAny_text.listOf _ fun _ => rfl
  next => exact keeps laysAny_optionalText _ fun _ => rfl
  next =>
    have member : LaysMember (fun (contexts : List (String × List Rule)) name => do
        colon
        return putContext name (← listOf (Draft.ruleAt 3)) contexts) fun _ _ => True :=
      fun _ contexts _ name _ _ _ _ _ h =>
        ((laysAny_ruleAt 3).listOf.map fun words => putContext name words contexts).behindKey h
    exact keeps (member.objectOf trivial) _ fun _ => rfl
  next => exact keeps laysAny_optionalText _ fun _ => rfl
  next => exact keeps laysAny_text.listOf _ fun _ => rfl
  next => exact keeps laysAny_skipValue _ fun _ => rfl

/-- The rules read so far are those of the member that holds them. -/
structure Draft.Holds (seen : List (Spelling × Layout)) (d : Draft) : Prop where
  of_some : ∀ rules, d.rules = some rules →
    ∃ m, seen.find? isRules = some m ∧ rules.Named m.2.members
  of_none : d.rules = none → seen.find? isRules = none

theorem isRules_of_name {k : Spelling} (v : Layout) {key : String} (h : k.name? = some key) :
    isRules (k, v) = decide (key = "rules") := by
  simp only [isRules, h, Option.some.injEq]

theorem laysMember_member : LaysMember Draft.member fun seen d => d.Holds seen := by
  intro seen d k key hkey hseen before d' after h
  rw [Draft.member] at h
  split at h
  next => exact absurd h Runs.not_throw_bind
  next hnew =>
    by_cases hrules : key = "rules"
    · -- No member has held rules before, so this is the first.
      subst hrules
      have hnone := hseen.of_none (Option.not_isSome_iff_eq_none.1 hnew)
      refine Lays.behindKey ((lays_readMember_rules d).imp fun v d' hread => ?_) h
      obtain ⟨rules, hrules, hnamed⟩ := hread
      refine ⟨fun rules' hrules' => ⟨(k, v), ?_, ?_⟩, fun hnone' => ?_⟩
      · rw [List.find?_append, hnone, List.find?_cons, isRules_of_name v hkey]
        rfl
      · rw [hrules] at hrules'
        exact Option.some.inj hrules' ▸ hnamed
      · rw [hrules] at hnone'
        cases hnone'
    · refine Lays.behindKey ((lays_readMember d hrules).imp fun v d' hread => ?_) h
      have hfind : (seen ++ [(k, v)]).find? isRules = seen.find? isRules := by
        rw [List.find?_append, List.find?_cons, isRules_of_name v hkey, decide_eq_false hrules,
          List.find?_nil, Option.or_none]
      exact ⟨fun rules h => hfind ▸ hseen.of_some rules (hread ▸ h),
        fun h => hfind ▸ hseen.of_none (hread ▸ h)⟩

/-! ## Members by position -/

/-- The first item, and what follows it. -/
theorem first_positional {key : String} {keys : List String} {P : Layout → Draft → Prop}
    (hread : Lays (d.readMember key) P) (hname : d.name = none)
    (h : Runs (d.positional true (key :: keys)) before d' after) :
    ∃ (gap : Gap) (v : Layout) (next : Draft) (between : List Char),
      before = gap.chars ++ (v.text ++ between) ∧ P v next ∧
        Runs (next.positional false keys) between d' after := by
  rw [Draft.positional] at h
  obtain ⟨gap, rest, rfl, hnext⟩ := h.of_peek
  split at hnext
  next => exact absurd hnext Runs.not_throw
  next =>
    rw [hname] at hnext
    exact absurd hnext Runs.not_throw_bind
  next =>
    obtain ⟨next, between, hvalue, hothers⟩ := Runs.of_bind hnext
    obtain ⟨gap', v, rfl, hv⟩ := hread _ _ _ hvalue
    exact ⟨gap.append gap', v, next, between, (List.append_assoc ..).symm, hv, hothers⟩

/-- Behind an item the array ends, or the next item follows. -/
theorem step_positional {key : String} {keys : List String} {P : Layout → Draft → Prop}
    (hread : Lays (d.readMember key) P)
    (h : Runs (d.positional false (key :: keys)) before d' after) :
    (∃ gap : Gap, before = gap.chars ++ ']' :: after ∧ d' = d ∧ d.rules ≠ none) ∨
      ∃ (gap gap' : Gap) (v : Layout) (next : Draft) (between : List Char),
        before = gap.chars ++ ',' :: (gap'.chars ++ (v.text ++ between)) ∧ P v next ∧
          Runs (next.positional false keys) between d' after := by
  rw [Draft.positional] at h
  obtain ⟨gap, rest, rfl, hnext⟩ := h.of_peek
  split at hnext
  next => exact absurd hnext Runs.not_throw
  next hclose =>
    split at hnext
    next => exact absurd hnext Runs.not_throw_bind
    next hfull =>
      obtain ⟨_, between, hdrop, hpure⟩ := Runs.of_bind hnext
      obtain ⟨rfl, rfl⟩ := hpure.of_pure
      refine .inl ⟨gap, by rw [hdrop.of_drop hclose], rfl, fun hnone => hfull ?_⟩
      rw [hnone, Bool.or_eq_true]
      exact .inr rfl
  next c _ hhead =>
    split at hnext
    case isFalse hfirst => exact absurd rfl hfirst
    split at hnext
    next => exact absurd hnext Runs.not_throw_bind
    next hcomma =>
      obtain ⟨_, behind, hdrop, hbehind⟩ := Runs.of_bind hnext
      rw [hdrop.of_drop (Decidable.not_not.1 hcomma ▸ hhead)]
      obtain ⟨gap', rest', rfl, hitem⟩ := hbehind.of_peek
      split at hitem
      next => exact absurd hitem Runs.not_throw_bind
      next => exact absurd hitem Runs.not_throw_bind
      next =>
        obtain ⟨next, between, hvalue, hothers⟩ := Runs.of_bind hitem
        obtain ⟨gap'', v, rfl, hv⟩ := hread _ _ _ hvalue
        refine .inr ⟨gap, gap'.append gap'', v, next, between, ?_, hv, hothers⟩
        rw [Gap.append, List.append_assoc]

/-- Items behind the rules change nothing about them. -/
theorem items_of_positional {keys : List String} (hkeys : "rules" ∉ keys)
    (h : Runs (d.positional false keys) before d' after) (v : Layout) :
    ∃ its : Items, v.text ++ before = its.text ++ after ∧ its.list[0]? = some v ∧
      d'.rules = d.rules := by
  induction keys generalizing d before v with
  | nil =>
    rw [Draft.positional] at h
    obtain ⟨gap, rest, rfl, hnext⟩ := h.of_peek
    split at hnext
    next hclose =>
      obtain ⟨rfl, rfl⟩ := hnext.of_drop_pure hclose
      refine ⟨.last v gap, ?_, rfl, rfl⟩
      simp only [Items.text, List.append_assoc, List.cons_append, List.nil_append]
    next => exact absurd hnext Runs.not_throw
    next => exact absurd hnext Runs.not_throw
  | cons key keys ih =>
    rw [List.mem_cons, not_or] at hkeys
    obtain ⟨hkey, hothers⟩ := hkeys
    rcases step_positional (lays_readMember d (Ne.symm hkey)) h with hend | hmore
    · obtain ⟨gap, rfl, rfl, -⟩ := hend
      refine ⟨.last v gap, ?_, rfl, rfl⟩
      simp only [Items.text, List.append_assoc, List.cons_append, List.nil_append]
    · obtain ⟨gap, gap', w, next, between, rfl, hrules, hnext⟩ := hmore
      obtain ⟨its, htext, -, hsame⟩ := ih hothers hnext w
      refine ⟨.more v gap gap' its, ?_, rfl, hsame.trans hrules⟩
      rw [htext, Items.text]
      simp only [List.append_assoc, List.cons_append]

/-! ## Whole grammars -/

/-- The value that holds the rules: the member of that name, or in an array the second item. -/
def rulesIn? : Layout → Option Layout
  | .array _ its => its.list[1]?
  | v => (v.members.find? isRules).map Prod.snd

theorem of_finish {missing : String → Problem} {g : Grammar} (h : d.finish missing = .ok g) :
    d.rules = some g.rules := by
  unfold Draft.finish at h
  split at h
  next => cases h
  next => cases h
  next name rules _ hrules =>
    obtain rfl := Except.ok.inj h
    exact hrules

theorem exists_rules_of_object {g : Grammar} (hbrace : before.head? = some '{')
    (h : Runs (object Draft.member ({} : Draft)) before d after) (hrules : d.rules = some g.rules) :
    ∃ v r : Layout, before = v.text ++ after ∧ rulesIn? v = some r ∧ g.rules.Named r.members := by
  have empty : Draft.Holds [] {} := ⟨nofun, fun _ => rfl⟩
  obtain ⟨v, hv, holds⟩ := exists_of_object laysMember_member empty hbrace h
  obtain ⟨m, hfind, hnamed⟩ := holds.of_some g.rules hrules
  refine ⟨v, m.2, hv, ?_, hnamed⟩
  cases v with
  | array gap its => cases hfind
  | atom | string | emptyArray | emptyObject | object => exact congrArg (Option.map Prod.snd) hfind

theorem exists_rules_of_array {g : Grammar} (hbracket : before.head? = some '[')
    (h : Runs (drop >>= fun _ => Draft.positional {} true Draft.keys) before d after)
    (hrules : d.rules = some g.rules) :
    ∃ v r : Layout, before = v.text ++ after ∧ rulesIn? v = some r ∧ g.rules.Named r.members := by
  obtain ⟨_, inside, hdrop, hinside⟩ := h.of_bind
  rw [hdrop.of_drop hbracket]
  obtain ⟨gap, name, next, between, rfl, hname, hothers⟩ :=
    first_positional (lays_readMember _ (by decide)) rfl hinside
  rcases step_positional (lays_readMember_rules next) hothers with hend | hmore
  · obtain ⟨_, _, -, hsome⟩ := hend
    exact absurd hname hsome
  · obtain ⟨gap', gap'', r, next', between, rfl, ⟨rules, hnext, hnamed⟩, hrest⟩ := hmore
    obtain ⟨its, htext, hfirst, hsame⟩ := items_of_positional (by decide) hrest r
    rw [hsame, hnext] at hrules
    obtain rfl := Option.some.inj hrules
    refine ⟨.array gap (.more name gap' gap'' its), r, ?_, hfirst, hnamed⟩
    simp only [Layout.text, Items.text, List.append_assoc, List.cons_append, htext]

theorem lays_readJson :
    Lays readJson fun v g => ∃ r, rulesIn? v = some r ∧ g.rules.Named r.members := by
  intro before g after h
  rw [readJson] at h
  obtain ⟨gap, between, rfl, hnext⟩ := h.of_peek
  split at hnext
  next hbrace =>
    obtain ⟨d, rest, hobject, hfinish⟩ := hnext.of_bind
    obtain ⟨hok, rfl⟩ := hfinish.of_ofExcept
    obtain ⟨v, r, hv, hr⟩ := exists_rules_of_object hbrace hobject (of_finish hok)
    exact gap.lead_of_text hv ⟨r, hr⟩
  next hbracket =>
    rw [← bind_assoc] at hnext
    obtain ⟨d, rest, harray, hfinish⟩ := hnext.of_bind
    obtain ⟨hok, rfl⟩ := hfinish.of_ofExcept
    obtain ⟨v, r, hv, hr⟩ := exists_rules_of_array hbracket harray (of_finish hok)
    exact gap.lead_of_text hv ⟨r, hr⟩
  next => exact absurd hnext Runs.not_refuse

/-- The text of a grammar is a document, whose rules are those of the grammar. -/
theorem exists_document_of_ofJson {source : String} {g : Grammar} (h : ofJson source = .ok g) :
    ∃ doc : Document, doc.text = source.toList ∧
      ∃ r, rulesIn? doc.value = some r ∧ g.rules.Named r.members := by
  refine exists_document lays_readJson ?_
  unfold ofJson at h
  cases hread : document readJson source with
  | error p =>
    rw [hread] at h
    cases h
  | ok g' =>
    rw [hread] at h
    change (if g'.rules.entries.isEmpty then _ else _) = _ at h
    split at h
    next => cases h
    next => exact congrArg _ (Except.ok.inj h)

end Grammar

end IncrementalGlr
