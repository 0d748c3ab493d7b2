import IncrementalGlr.Flat.Reference
import IncrementalGlr.Proofs.Fixpoint

/-!
The rules that can be reached. Every step of the search follows a rule that was not followed before, or
finds nothing, so it is over before its fuel is, and what is referred to by a rule that was reached is
reached or external (`Grammar.closed`). What the search finds is just what can be reached by
following references (`Grammar.mem_reachable_iff`).
-/
namespace IncrementalGlr

/-! ## References -/

/-- The rule refers to the name, not counting the bodies of tokens. -/
inductive Rule.RefersTo : Rule → String → Prop where
  | symbol {name : String} : RefersTo (.symbol name) name
  | seq {rule : Rule} {members : List Rule} {name : String} (member : rule ∈ members)
      (refers : rule.RefersTo name) : RefersTo (.seq members) name
  | choice {rule : Rule} {members : List Rule} {name : String} (member : rule ∈ members)
      (refers : rule.RefersTo name) : RefersTo (.choice members) name
  | zeroOrMore {content : Rule} {name : String} (refers : content.RefersTo name) :
      RefersTo (.zeroOrMore content) name
  | oneOrMore {content : Rule} {name : String} (refers : content.RefersTo name) :
      RefersTo (.oneOrMore content) name
  | field {field : String} {content : Rule} {name : String} (refers : content.RefersTo name) :
      RefersTo (.field field content) name
  | renamed {content : Rule} {value : String} {named : Bool} {name : String}
      (refers : content.RefersTo name) : RefersTo (.renamed content value named) name
  | prec {value : Precedence} {content : Rule} {name : String} (refers : content.RefersTo name) :
      RefersTo (.prec value content) name
  | precLeft {value : Precedence} {content : Rule} {name : String}
      (refers : content.RefersTo name) : RefersTo (.precLeft value content) name
  | precRight {value : Precedence} {content : Rule} {name : String}
      (refers : content.RefersTo name) : RefersTo (.precRight value content) name
  | precDynamic {value : Int} {content : Rule} {name : String} (refers : content.RefersTo name) :
      RefersTo (.precDynamic value content) name
  | reserved {context : String} {content : Rule} {name : String}
      (refers : content.RefersTo name) : RefersTo (.reserved context content) name

namespace Rule

variable {rule : Rule} {name : String}

theorem mem_referencesOf {members : List Rule} :
    name ∈ referencesOf members ↔ ∃ rule ∈ members, name ∈ rule.references := by
  induction members with
  | nil => simp [referencesOf]
  | cons rule rest ih => simp [referencesOf, ih]

theorem RefersTo.mem_references (h : rule.RefersTo name) : name ∈ rule.references := by
  induction h with
  | symbol => exact List.mem_singleton_self _
  | seq member _ ih | choice member _ ih => exact mem_referencesOf.2 ⟨_, member, ih⟩
  | zeroOrMore _ ih | oneOrMore _ ih | field _ ih | renamed _ ih | prec _ ih | precLeft _ ih
  | precRight _ ih | precDynamic _ ih | reserved _ ih => exact ih

mutual

theorem refersTo_of_mem : (rule : Rule) → name ∈ rule.references → rule.RefersTo name
  | .symbol _, h => List.mem_singleton.1 h ▸ .symbol
  | .blank, h | .string _, h | .pattern _ _, h | .token _, h | .immediateToken _, h =>
    absurd h List.not_mem_nil
  | .seq members, h =>
    let ⟨_, member, refers⟩ := refersTo_of_mem_members members h
    .seq member refers
  | .choice members, h =>
    let ⟨_, member, refers⟩ := refersTo_of_mem_members members h
    .choice member refers
  | .zeroOrMore content, h => .zeroOrMore (refersTo_of_mem content h)
  | .oneOrMore content, h => .oneOrMore (refersTo_of_mem content h)
  | .field _ content, h => .field (refersTo_of_mem content h)
  | .renamed content _ _, h => .renamed (refersTo_of_mem content h)
  | .prec _ content, h => .prec (refersTo_of_mem content h)
  | .precLeft _ content, h => .precLeft (refersTo_of_mem content h)
  | .precRight _ content, h => .precRight (refersTo_of_mem content h)
  | .precDynamic _ content, h => .precDynamic (refersTo_of_mem content h)
  | .reserved _ content, h => .reserved (refersTo_of_mem content h)

theorem refersTo_of_mem_members : (members : List Rule) → name ∈ referencesOf members →
    ∃ rule ∈ members, rule.RefersTo name
  | [], h => absurd h List.not_mem_nil
  | rule :: rest, h => by
    rcases List.mem_append.1 h with h | h
    · exact ⟨rule, List.mem_cons_self, refersTo_of_mem rule h⟩
    · obtain ⟨other, member, refers⟩ := refersTo_of_mem_members rest h
      exact ⟨other, List.mem_cons_of_mem rule member, refers⟩

end

theorem mem_references_iff : name ∈ rule.references ↔ rule.RefersTo name :=
  ⟨refersTo_of_mem rule, RefersTo.mem_references⟩

end Rule

namespace Grammar

variable {g : Grammar}

/-- Every name referred to is that of a rule or of an external token. -/
def Defined (g : Grammar) : Prop := ∀ e ∈ g.allReferences, g.defines e.1 = true

theorem mem_names_iff_contains {rules : Rules} {name : String} :
    name ∈ rules.names ↔ rules.contains name = true := by
  simp [Rules.names, Rules.contains]

theorem find?_eq_some_iff {rules : Rules} {name : String} {body : Rule} :
    rules.find? name = some body ↔ (name, body) ∈ rules.entries := by
  constructor
  · intro h
    obtain ⟨l₁, l₂, hl, -⟩ := List.lookup_eq_some_iff.1 h
    exact hl ▸ List.mem_append_right l₁ List.mem_cons_self
  · intro h
    obtain ⟨l₁, l₂, hl⟩ := List.append_of_mem h
    refine List.lookup_eq_some_iff.2 ⟨l₁, l₂, hl, fun p hp => bne_iff_ne.2 fun heq => ?_⟩
    have nodup := rules.nodup
    rw [hl, List.map_append, List.map_cons] at nodup
    exact (List.nodup_append.1 nodup).2.2 _ (List.mem_map_of_mem hp) _ List.mem_cons_self heq.symm

/-- Undefined names are errors. -/
theorem defined_of_undefinedReferences (h : ∀ d ∈ g.undefinedReferences, d.isError = false) :
    g.Defined := by
  -- Each name is reported once, with its first reference, so that no name is lost.
  have first : ∀ (l : List (String × Option String)) (seen : List String), ∀ e ∈ l,
      e.1 ∈ seen ∨ ∃ e' ∈ firstOfEachName seen l, e'.1 = e.1 := by
    intro l
    induction l with
    | nil => intro _ e he; cases he
    | cons x rest ih =>
      intro seen e he
      rw [firstOfEachName]
      rcases List.mem_cons.1 he with rfl | he
      · split
        · next hseen => exact .inl (by simpa using hseen)
        · exact .inr ⟨e, List.mem_cons_self, rfl⟩
      · split
        · exact ih seen e he
        · rcases ih (x.1 :: seen) e he with hmem | ⟨e', he', heq⟩
          · rcases List.mem_cons.1 hmem with heq | hmem
            · exact .inr ⟨x, List.mem_cons_self, heq.symm⟩
            · exact .inl hmem
          · exact .inr ⟨e', List.mem_cons_of_mem x he', heq⟩
  intro e he
  by_contra hundefined
  have hfilter : e ∈ g.allReferences.filter fun e => !g.defines e.1 :=
    List.mem_filter.2 ⟨he, by simpa using hundefined⟩
  obtain hnil | ⟨e', he', -⟩ := first _ [] e hfilter
  · cases hnil
  · have reported := h _ (List.mem_map_of_mem he')
    exact Bool.noConfusion reported

/-! ## The search -/

theorem mem_reachStep {reached : List String} {name : String} :
    name ∈ g.reachStep reached ↔ name ∈ reached ∨
      ((∃ n ∈ reached, ∃ body, g.rules.find? n = some body ∧ name ∈ body.references) ∧
        name ∉ reached ∧ name ∉ g.externalNames) := by
  simp only [reachStep, List.mem_append, List.mem_eraseDups, List.mem_filter, List.mem_flatMap,
    Bool.and_eq_true, Bool.not_eq_true', List.contains_eq_mem, decide_eq_false_iff_not]
  refine or_congr Iff.rfl (and_congr_left fun _ => exists_congr fun n => and_congr_right fun _ => ?_)
  cases g.rules.find? n <;> simp

/-- The rule was reached, and all that it refers to was reached as well or is external. -/
def Followed (g : Grammar) (reached : List String) (name : String) : Prop :=
  name ∈ reached ∧ ∀ body ∈ g.rules.find? name, ∀ ref ∈ body.references,
    ref ∈ reached ∨ ref ∈ g.externalNames

instance (reached : List String) : DecidablePred (g.Followed reached) :=
  fun _ => inferInstanceAs (Decidable (_ ∧ _))

/-- The rules that the search has followed. -/
def followedRules (g : Grammar) : Facts (List String) String where
  valid _ := True
  known reached := g.rules.names.toFinset.filter (g.Followed reached)
  all := g.rules.names.toFinset
  known_subset _ _ := Finset.filter_subset _ _

/-- One step follows all rules that were reached. -/
theorem followed_reachStep {reached : List String} {name : String} (hname : name ∈ reached) :
    g.Followed (g.reachStep reached) name := by
  refine ⟨mem_reachStep.2 (.inl hname), fun body hbody ref href => ?_⟩
  by_cases hold : ref ∈ reached
  · exact .inl (mem_reachStep.2 (.inl hold))
  · by_cases hexternal : ref ∈ g.externalNames
    · exact .inr hexternal
    · exact .inl (mem_reachStep.2 (.inr ⟨⟨name, hname, body, hbody, href⟩, hold, hexternal⟩))

theorem gains_reachStep : g.followedRules.Gains g.reachStep where
  valid _ _ := trivial
  mono reached _ name hname := by
    obtain ⟨hrule, hreached, -⟩ := Finset.mem_filter.1 hname
    exact Finset.mem_filter.2 ⟨hrule, followed_reachStep hreached⟩
  fixed reached _ same := by
    -- A name that is new is referred to by a rule that was not followed before the step.
    refine List.append_right_eq_self.2 (List.eq_nil_iff_forall_not_mem.2 fun ref hfresh => ?_)
    have hmem : ref ∈ g.reachStep reached := List.mem_append_right _ hfresh
    have hnew : ref ∉ reached := by
      simpa using (Bool.and_eq_true_iff.1 (List.mem_filter.1 (List.mem_eraseDups.1 hfresh)).2).1
    obtain ⟨⟨name, hname, body, hbody, href⟩, -, hexternal⟩ :=
      (mem_reachStep.1 hmem).resolve_left hnew
    have hrule : name ∈ g.rules.names := List.mem_map_of_mem (find?_eq_some_iff.1 hbody)
    have known : name ∈ g.followedRules.known (g.reachStep reached) :=
      Finset.mem_filter.2 ⟨List.mem_toFinset.2 hrule, followed_reachStep hname⟩
    rw [same] at known
    have followed := (Finset.mem_filter.1 known).2.2 body hbody ref href
    exact followed.elim hnew hexternal

theorem reachStep_reachable : g.reachStep g.reachable = g.reachable := by
  refine Facts.settle_fixed gains_reachStep _ trivial ?_
  have : g.rules.names.toFinset.card ≤ g.rules.entries.length :=
    (List.toFinset_card_le _).trans (List.length_map _).le
  exact Nat.lt_of_le_of_lt this (by omega)

/-- What a rule that was reached refers to is reached as well, or an external token. -/
theorem closed {name ref : String} {body : Rule} (hname : name ∈ g.reachable)
    (hbody : g.rules.find? name = some body) (href : ref ∈ body.references) :
    ref ∈ g.reachable ∨ ref ∈ g.externalNames :=
  (g.reachStep_reachable ▸ followed_reachStep hname : g.Followed g.reachable name).2 body hbody ref
    href

theorem mem_roots {name : String} :
    name ∈ (((g.startRule?.map Prod.fst).toList ++ g.extras.flatMap Rule.references).filter
      fun n => !g.externalNames.contains n).eraseDups ↔
    (g.startRule?.map Prod.fst = some name ∨ ∃ extra ∈ g.extras, name ∈ extra.references) ∧
      name ∉ g.externalNames := by
  simp only [List.mem_eraseDups, List.mem_filter, List.mem_append, Option.mem_toList,
    List.mem_flatMap, Bool.not_eq_true', List.contains_eq_mem, decide_eq_false_iff_not]

theorem mem_reachable_of_mem_roots {name : String}
    (h : g.startRule?.map Prod.fst = some name ∨ ∃ extra ∈ g.extras, name ∈ extra.references)
    (hexternal : name ∉ g.externalNames) : name ∈ g.reachable :=
  settle_induction (p := fun reached => name ∈ reached)
    (fun _ h => mem_reachStep.2 (.inl h)) _ (mem_roots.2 ⟨h, hexternal⟩)

/-- What holds of the roots, and of what a rule of which it holds refers to, holds of all that is
reached. -/
theorem reachable_induction {P : String → Prop}
    (roots : ∀ name, (g.startRule?.map Prod.fst = some name ∨
      ∃ extra ∈ g.extras, name ∈ extra.references) → name ∉ g.externalNames → P name)
    (step : ∀ name body ref, P name → g.rules.find? name = some body → ref ∈ body.references →
      ref ∉ g.externalNames → P ref) : ∀ name ∈ g.reachable, P name := by
  refine settle_induction (p := fun reached => ∀ name ∈ reached, P name)
    (fun reached h name hname => ?_) _ fun name hname => ?_
  · rcases mem_reachStep.1 hname with hname | ⟨⟨n, hn, body, hbody, href⟩, -, hexternal⟩
    · exact h name hname
    · exact step n body name (h n hn) hbody href hexternal
  · obtain ⟨root, hexternal⟩ := mem_roots.1 hname
    exact roots name root hexternal

theorem start_mem_reachable {start : String} (hstart : g.startRule?.map Prod.fst = some start)
    (hexternal : start ∉ g.externalNames) : start ∈ g.reachable :=
  mem_reachable_of_mem_roots (.inl hstart) hexternal

/-- External tokens are not reached: what they are made of is not the grammar's. -/
theorem not_external_of_reachable {name : String} (hname : name ∈ g.reachable) :
    name ∉ g.externalNames :=
  reachable_induction (P := (· ∉ g.externalNames)) (fun _ _ h => h) (fun _ _ _ _ _ _ h => h) name
    hname

/-- A name can be reached from the start rule or an extra by following references, where no name on the
way is that of an external token. -/
inductive Reached (g : Grammar) : String → Prop where
  | start {name : String} {body : Rule} (start : g.startRule? = some (name, body))
      (inner : name ∉ g.externalNames) : g.Reached name
  | extra {rule : Rule} {name : String} (extra : rule ∈ g.extras) (refers : rule.RefersTo name)
      (inner : name ∉ g.externalNames) : g.Reached name
  | step {name ref : String} {body : Rule} (reached : g.Reached name)
      (rule : g.rules.find? name = some body) (refers : body.RefersTo ref)
      (inner : ref ∉ g.externalNames) : g.Reached ref

/-- The search finds all that can be reached, and nothing else. -/
theorem mem_reachable_iff {name : String} : name ∈ g.reachable ↔ g.Reached name := by
  constructor
  · refine fun h => reachable_induction (P := g.Reached) (fun name root hexternal => ?_)
      (fun _ _ _ reached hbody href => .step reached hbody (Rule.mem_references_iff.1 href)) name h
    rcases root with hstart | ⟨extra, hextra, href⟩
    · obtain ⟨⟨_, body⟩, hrule, rfl⟩ := Option.map_eq_some_iff.1 hstart
      exact .start hrule hexternal
    · exact .extra hextra (Rule.mem_references_iff.1 href) hexternal
  · intro h
    induction h with
    | start hstart hexternal =>
      exact start_mem_reachable (congrArg (Option.map Prod.fst) hstart) hexternal
    | extra hextra href hexternal =>
      exact mem_reachable_of_mem_roots (.inr ⟨_, hextra, href.mem_references⟩) hexternal
    | step _ hbody href hexternal ih =>
      exact (closed ih hbody href.mem_references).resolve_right hexternal

/-! ## Grammars without undefined names -/

namespace Defined

variable (hg : g.Defined)
include hg

/-- What a rule refers to is a rule or an external token. -/
theorem of_find? {name ref : String} {body : Rule} (hbody : g.rules.find? name = some body)
    (href : ref ∈ body.references) : ref ∈ g.rules.names ∨ ref ∈ g.externalNames := by
  have hmem : (ref, some name) ∈ g.allReferences :=
    List.mem_append_left _ (List.mem_flatMap.2
      ⟨(name, body), find?_eq_some_iff.1 hbody, List.mem_map_of_mem href⟩)
  rcases Bool.or_eq_true_iff.1 (hg _ hmem) with h | h
  · exact .inl (mem_names_iff_contains.2 h)
  · exact .inr (by simpa using h)

theorem of_extra {ref : String} {extra : Rule} (hextra : extra ∈ g.extras)
    (href : ref ∈ extra.references) : ref ∈ g.rules.names ∨ ref ∈ g.externalNames := by
  have hmem : (ref, none) ∈ g.allReferences :=
    List.mem_append_right _ (List.mem_flatMap.2 ⟨extra, hextra, List.mem_map_of_mem href⟩)
  rcases Bool.or_eq_true_iff.1 (hg _ hmem) with h | h
  · exact .inl (mem_names_iff_contains.2 h)
  · exact .inr (by simpa using h)

theorem mem_names_of_reachable {name : String} (hname : name ∈ g.reachable) :
    name ∈ g.rules.names := by
  refine reachable_induction (P := (· ∈ g.rules.names)) (fun name root hexternal => ?_)
    (fun _ _ _ _ hbody href hexternal => (hg.of_find? hbody href).resolve_right hexternal) name hname
  rcases root with hstart | ⟨extra, hextra, href⟩
  · obtain ⟨e, he, rfl⟩ := Option.map_eq_some_iff.1 hstart
    exact List.mem_map_of_mem (List.mem_of_head? he)
  · exact (hg.of_extra hextra href).resolve_right hexternal

end Defined

end Grammar

end IncrementalGlr
