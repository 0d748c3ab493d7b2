/-!
Expressions of binary operators. Without brackets an expression is written as its operators in a row.
Which of two neighbours takes the operand between them is a matter of precedence, and of associativity
where that is the same. Only one expression with a given row groups its operands in this way
(`Expression.Grouped.eq_of_operators`).
-/
namespace IncrementalGlr

/-- A binary operator: its text, and how it binds. -/
structure Operator where
  text : String
  precedence : Int
  /-- It associates to the left; else it does to the right. -/
  left : Bool
  deriving DecidableEq, Repr, Inhabited

namespace Operator

/-- Operators of the same precedence associate to the same side. -/
def Agree (ops : List Operator) : Prop :=
  ∀ o ∈ ops, ∀ p ∈ ops, o.precedence = p.precedence → o.left = p.left

/-- `o` can be the topmost operator of the left operand of `p`. -/
def FitsLeft (o p : Operator) : Prop :=
  p.precedence < o.precedence ∨ o.precedence = p.precedence ∧ o.left = true

/-- `o` can be the topmost operator of the right operand of `p`. -/
def FitsRight (o p : Operator) : Prop :=
  p.precedence < o.precedence ∨ o.precedence = p.precedence ∧ p.left = false

instance (o p : Operator) : Decidable (o.FitsLeft p) := inferInstanceAs (Decidable (_ ∨ _))

instance (o p : Operator) : Decidable (o.FitsRight p) := inferInstanceAs (Decidable (_ ∨ _))

instance (ops : List Operator) : Decidable (Agree ops) :=
  inferInstanceAs (Decidable (∀ o ∈ ops, ∀ p ∈ ops, o.precedence = p.precedence → o.left = p.left))

variable {o p q : Operator}

/-- Of two neighbours one takes the operand between them. -/
theorem fitsRight_iff : p.FitsRight o ↔ ¬ o.FitsLeft p := by
  unfold FitsRight FitsLeft
  cases o.left <;> simp <;> omega

theorem FitsLeft.trans (h : o.FitsLeft p) (h' : p.FitsLeft q) : o.FitsLeft q := by
  rcases h with h | ⟨heq, ho⟩
  · rcases h' with h' | ⟨heq', -⟩
    · exact .inl (Int.lt_trans h' h)
    · exact .inl (heq' ▸ h)
  · rcases h' with h' | ⟨heq', -⟩
    · exact .inl (heq ▸ h')
    · exact .inr ⟨heq.trans heq', ho⟩

/-- What fits to the right of an operator fits where that one fits to the left. -/
theorem FitsRight.fitsLeft (h : o.FitsRight p) (h' : p.FitsLeft q) : o.FitsLeft q := by
  rcases h with h | ⟨heq, hp⟩
  · rcases h' with h' | ⟨heq', -⟩
    · exact .inl (Int.lt_trans h' h)
    · exact .inl (heq' ▸ h)
  · rcases h' with h' | ⟨-, hp'⟩
    · exact .inl (heq ▸ h')
    · exact absurd (hp.symm.trans hp') Bool.false_ne_true

theorem FitsRight.trans (h : o.FitsRight p) (h' : p.FitsRight q) : o.FitsRight q := by
  rcases h with h | ⟨heq, -⟩
  · rcases h' with h' | ⟨heq', -⟩
    · exact .inl (Int.lt_trans h' h)
    · exact .inl (heq' ▸ h)
  · rcases h' with h' | ⟨heq', hq⟩
    · exact .inl (heq ▸ h')
    · exact .inr ⟨heq.trans heq', hq⟩

/-- What fits to the left of an operator fits where that one fits to the right. -/
theorem FitsLeft.fitsRight (h : o.FitsLeft p) (h' : p.FitsRight q)
    (agree : o.precedence = q.precedence → o.left = q.left) : o.FitsRight q := by
  rcases h with h | ⟨heq, ho⟩
  · rcases h' with h' | ⟨heq', -⟩
    · exact .inl (Int.lt_trans h' h)
    · exact .inl (heq' ▸ h)
  · rcases h' with h' | ⟨heq', hq⟩
    · exact .inl (heq ▸ h')
    · have same := agree (heq.trans heq')
      exact absurd (hq.symm.trans (same.symm.trans ho)) Bool.false_ne_true

end Operator

/-- An operand, or an operator between two expressions. -/
inductive Expression where
  | operand
  | binary (o : Operator) (left right : Expression)
  deriving DecidableEq, Repr, Inhabited

namespace Expression

/-- The operators in the order of the text. -/
def operators : Expression → List Operator
  | operand => []
  | binary o left right => left.operators ++ o :: right.operators

/-- The topmost operator. -/
def top? : Expression → Option Operator
  | operand => none
  | binary o _ _ => some o

/-- The topmost operators of all operands fit where they stand. -/
def Grouped : Expression → Prop
  | operand => True
  | binary o left right => left.Grouped ∧ right.Grouped ∧ (∀ p ∈ left.top?, p.FitsLeft o) ∧
      ∀ p ∈ right.top?, p.FitsRight o

/-- All operators of a left operand fit there, not only the topmost. -/
theorem Grouped.fitsLeft_of_mem {x : Expression} (h : x.Grouped) {o : Operator}
    (htop : ∀ p ∈ x.top?, p.FitsLeft o) : ∀ p ∈ x.operators, p.FitsLeft o := by
  induction x with
  | operand => exact fun p hp => absurd hp List.not_mem_nil
  | binary q left right ihl ihr =>
    obtain ⟨hl, hr, htopl, htopr⟩ := h
    have hq : q.FitsLeft o := htop q rfl
    refine List.forall_mem_append.2 ⟨ihl hl fun p hp => (htopl p hp).trans hq, ?_⟩
    exact List.forall_mem_cons.2 ⟨hq, ihr hr fun p hp => (htopr p hp).fitsLeft hq⟩

variable {ops : List Operator} (agree : Operator.Agree ops)
include agree

/-- All operators of a right operand fit there, not only the topmost. -/
theorem Grouped.fitsRight_of_mem {x : Expression} (h : x.Grouped) (hx : x.operators ⊆ ops)
    {o : Operator} (ho : o ∈ ops) (htop : ∀ p ∈ x.top?, p.FitsRight o) :
    ∀ p ∈ x.operators, p.FitsRight o := by
  induction x with
  | operand => exact fun p hp => absurd hp List.not_mem_nil
  | binary q left right ihl ihr =>
    obtain ⟨hl, hr, htopl, htopr⟩ := h
    obtain ⟨hleft, hright⟩ := List.append_subset.1 hx
    have hq : q.FitsRight o := htop q rfl
    refine List.forall_mem_append.2 ⟨ihl hl hleft fun p hp => ?_, ?_⟩
    · refine (htopl p hp).fitsRight hq (agree p (hleft ?_) o ho)
      cases left with
      | operand => cases hp
      | binary => cases hp; exact List.mem_append_right _ List.mem_cons_self
    · refine List.forall_mem_cons.2 ⟨hq, ihr hr ?_ fun p hp => (htopr p hp).trans hq⟩
      exact fun p hp => hright (List.mem_cons_of_mem _ hp)

/-- Where the operators of two expressions are the same, so are the places of the topmost: else each
would take the operands between them. -/
theorem Grouped.eq_nil_of_between {o p : Operator} {left right left' right' : Expression}
    (h : (binary o left right).Grouped) (h' : (binary p left' right').Grouped)
    (hops : (binary o left right).operators ⊆ ops) {between : List Operator}
    (hl : left'.operators = left.operators ++ between)
    (hr : o :: right.operators = between ++ p :: right'.operators) : between = [] := by
  cases between with
  | nil => rfl
  | cons q between =>
    exfalso
    obtain ⟨rfl, htail⟩ := List.cons.inj hr
    obtain ⟨-, hright⟩ := List.append_subset.1 hops
    obtain ⟨ho, hright⟩ := List.cons_subset.1 hright
    obtain ⟨-, hgrouped, -, htop⟩ := h
    obtain ⟨hgrouped', -, htop', -⟩ := h'
    have hp : p ∈ right.operators := htail ▸ List.mem_append_right _ List.mem_cons_self
    have hfits : p.FitsRight o := hgrouped.fitsRight_of_mem agree hright ho htop p hp
    have hbefore : o ∈ left'.operators := hl ▸ List.mem_append_right _ List.mem_cons_self
    exact Operator.fitsRight_iff.1 hfits (hgrouped'.fitsLeft_of_mem htop' o hbefore)

/-- An expression that groups its operands is determined by its operators. -/
theorem Grouped.eq_of_operators {x y : Expression} (hx : x.Grouped) (hy : y.Grouped)
    (hops : x.operators ⊆ ops) (same : x.operators = y.operators) : x = y := by
  induction x generalizing y with
  | operand =>
    cases y with
    | operand => rfl
    | binary p left' right' => exact absurd same.symm (List.append_ne_nil_of_right_ne_nil _ nofun)
  | binary o left right ihl ihr =>
    cases y with
    | operand => exact absurd same (List.append_ne_nil_of_right_ne_nil _ nofun)
    | binary p left' right' =>
      have parts : left.operators = left'.operators ∧
          o :: right.operators = p :: right'.operators := by
        rcases List.append_eq_append_iff.1 same with ⟨between, hl, hr⟩ | ⟨between, hl, hr⟩
        · obtain rfl := hx.eq_nil_of_between agree hy hops hl hr
          exact ⟨(hl.trans (List.append_nil _)).symm, hr⟩
        · obtain rfl := hy.eq_nil_of_between agree hx (same ▸ hops) hl hr
          exact ⟨hl.trans (List.append_nil _), hr.symm⟩
      obtain ⟨hl, hr⟩ := parts
      obtain ⟨rfl, htail⟩ := List.cons.inj hr
      obtain ⟨hleft, hright⟩ := List.append_subset.1 hops
      rw [ihl hx.1 hy.1 hleft hl, ihr hx.2.1 hy.2.1 (List.cons_subset.1 hright).2 htail]

end Expression

end IncrementalGlr
