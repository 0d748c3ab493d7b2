import IncrementalGlr.Proofs.Flat.Draft

/-!
What the symbols of a draft match. Terminals match themselves, rules (the nonterminals below a given
number) what is said of them, and helpers what one of their alternatives does (`Draft.Matches`). So
rows of symbols and lists of alternatives have languages, and putting alternatives together puts
their languages together: `Alternative.product` multiplies them, and the alternatives of a repetition
make a power (`Draft.rowLanguage_repetition`).
-/
namespace IncrementalGlr.Flat

open scoped Computability

namespace Alternative

/-- The symbols of an alternative. -/
def syms (a : Alternative) : List Sym := a.parts.map (·.sym)

@[simp] theorem syms_empty : empty.syms = [] := rfl

@[simp] theorem syms_single (s : Sym) : (single s).syms = [s] := rfl

@[simp] theorem syms_append (a b : Alternative) : (a.append b).syms = a.syms ++ b.syms := by
  simp [syms, append]

@[simp] theorem syms_inField (name : String) (a : Alternative) : (a.inField name).syms = a.syms := by
  simp [syms, inField]

@[simp] theorem syms_aliased (name : String) (named : Bool) (a : Alternative) :
    (a.aliased name named).syms = a.syms := by
  unfold aliased
  split
  · next h => simp [syms, h]
  · rfl

@[simp] theorem syms_binding (value : Int) (associativity : Option Associativity)
    (a : Alternative) : (a.binding value associativity).syms = a.syms := rfl

@[simp] theorem syms_preferred (value : Int) (a : Alternative) :
    (a.preferred value).syms = a.syms := rfl

theorem parts_ne_nil_iff {a : Alternative} : a.parts ≠ [] ↔ a.syms ≠ [] := by
  rw [syms, ne_eq, ne_eq, List.map_eq_nil_iff]

end Alternative

namespace Draft

/-- The symbols of a row match a text part by part: terminals themselves, rules what `rules` says of
them, and other nonterminals what one of their alternatives matches. -/
inductive Matches (D : Draft) (count : Nat) (rules : Nat → Language SymbolId) :
    List Sym → List SymbolId → Prop where
  | nil : Matches D count rules [] []
  | terminal {n : Nat} {rest : List Sym} {w : List SymbolId} (hw : Matches D count rules rest w) :
      Matches D count rules (.terminal n :: rest) (n :: w)
  | rule {i : Nat} {rest : List Sym} {u w : List SymbolId} (hi : i < count) (hu : u ∈ rules i)
      (hw : Matches D count rules rest w) : Matches D count rules (.nonterminal i :: rest) (u ++ w)
  | helper {i : Nat} {a : Alternative} {rest : List Sym} {u w : List SymbolId} (hi : count ≤ i)
      (ha : a ∈ D.alternativesOf i) (hu : Matches D count rules a.syms u)
      (hw : Matches D count rules rest w) : Matches D count rules (.nonterminal i :: rest) (u ++ w)

/-- What a token written in a rule matches: its terminal. -/
def tokenLanguage (D : Draft) (t : Terminal) : Language SymbolId :=
  {w | ∃ n, D.anonymous.lookup t = some n ∧ w = [n]}

section Language

variable (D : Draft) (count : Nat) (rules : Nat → Language SymbolId)

/-- What a row of symbols matches. -/
def rowLanguage (row : List Sym) : Language SymbolId := {w | D.Matches count rules row w}

/-- What any of the alternatives matches. -/
def language (alternatives : List Alternative) : Language SymbolId :=
  {w | ∃ a ∈ alternatives, w ∈ D.rowLanguage count rules a.syms}

variable {D count rules}

theorem mem_language {alternatives : List Alternative} {w : List SymbolId} :
    w ∈ D.language count rules alternatives ↔
      ∃ a ∈ alternatives, w ∈ D.rowLanguage count rules a.syms :=
  Iff.rfl

/-! ### Rows -/

@[simp] theorem rowLanguage_nil : D.rowLanguage count rules [] = 1 := by
  ext w
  rw [Language.mem_one]
  constructor
  · rintro ⟨⟩
    rfl
  · rintro rfl
    exact .nil

theorem Matches.append {row row' : List Sym} {u w : List SymbolId}
    (hu : D.Matches count rules row u) (hw : D.Matches count rules row' w) :
    D.Matches count rules (row ++ row') (u ++ w) := by
  induction hu with
  | nil => exact hw
  | terminal _ ih => exact .terminal ih
  | rule hi hu _ ih =>
    rw [List.append_assoc]
    exact .rule hi hu ih
  | helper hi ha hu _ _ ih =>
    rw [List.append_assoc]
    exact .helper hi ha hu ih

theorem Matches.of_append {row row' : List Sym} {w : List SymbolId}
    (h : D.Matches count rules (row ++ row') w) :
    ∃ u v, u ++ v = w ∧ D.Matches count rules row u ∧ D.Matches count rules row' v := by
  induction row generalizing w with
  | nil => exact ⟨[], w, rfl, .nil, h⟩
  | cons s row ih =>
    cases h with
    | terminal hw =>
      obtain ⟨u, v, rfl, hu, hv⟩ := ih hw
      exact ⟨_ :: u, v, rfl, .terminal hu, hv⟩
    | @rule _ _ x _ hi hx hw =>
      obtain ⟨u, v, rfl, hu, hv⟩ := ih hw
      exact ⟨x ++ u, v, List.append_assoc x u v, .rule hi hx hu, hv⟩
    | @helper _ _ _ x _ hi ha hx hw =>
      obtain ⟨u, v, rfl, hu, hv⟩ := ih hw
      exact ⟨x ++ u, v, List.append_assoc x u v, .helper hi ha hx hu, hv⟩

@[simp] theorem rowLanguage_append (row row' : List Sym) : D.rowLanguage count rules (row ++ row') =
    D.rowLanguage count rules row * D.rowLanguage count rules row' := by
  ext w
  rw [Language.mem_mul]
  constructor
  · intro h
    obtain ⟨u, v, rfl, hu, hv⟩ := Matches.of_append h
    exact ⟨u, hu, v, hv, rfl⟩
  · rintro ⟨u, hu, v, hv, rfl⟩
    exact Matches.append hu hv

theorem rowLanguage_terminal (n : Nat) : D.rowLanguage count rules [.terminal n] = {[n]} := by
  ext w
  constructor
  · rintro (_ | ⟨⟨⟩⟩)
    rfl
  · rintro rfl
    exact .terminal .nil

theorem rowLanguage_rule {i : Nat} (hi : i < count) :
    D.rowLanguage count rules [.nonterminal i] = rules i := by
  ext w
  constructor
  · intro h
    cases h with
    | rule _ hu hw =>
      cases hw
      rwa [List.append_nil]
    | helper hle => exact absurd hi (Nat.not_lt.2 hle)
  · intro h
    exact List.append_nil w ▸ Matches.rule hi h .nil

theorem rowLanguage_helper {i : Nat} (hi : count ≤ i) :
    D.rowLanguage count rules [.nonterminal i] = D.language count rules (D.alternativesOf i) := by
  ext w
  constructor
  · intro h
    cases h with
    | rule hlt => exact absurd hlt (Nat.not_lt.2 hi)
    | helper _ ha hu hw =>
      cases hw
      rw [List.append_nil]
      exact ⟨_, ha, hu⟩
  · rintro ⟨a, ha, hu⟩
    exact List.append_nil w ▸ Matches.helper hi ha hu .nil

/-! ### Alternatives -/

@[simp] theorem language_nil : D.language count rules [] = 0 := by
  ext w
  simp [mem_language, Language.notMem_zero]

@[simp] theorem language_cons (a : Alternative) (as : List Alternative) :
    D.language count rules (a :: as) =
      D.rowLanguage count rules a.syms + D.language count rules as := by
  ext w
  simp [mem_language, Language.mem_add, -add_eq_sup]

@[simp] theorem language_append (as bs : List Alternative) : D.language count rules (as ++ bs) =
    D.language count rules as + D.language count rules bs := by
  induction as with
  | nil => simp
  | cons a as ih => rw [List.cons_append, language_cons, language_cons, ih, add_assoc]

/-- What leaves the symbols as they are does not change the language. -/
theorem language_map {f : Alternative → Alternative} (hf : ∀ a, (f a).syms = a.syms)
    (as : List Alternative) : D.language count rules (as.map f) = D.language count rules as := by
  induction as with
  | nil => rfl
  | cons a as ih => rw [List.map_cons, language_cons, language_cons, ih, hf]

theorem language_map_append (a : Alternative) (bs : List Alternative) :
    D.language count rules (bs.map (a.append ·)) =
      D.rowLanguage count rules a.syms * D.language count rules bs := by
  induction bs with
  | nil => simp
  | cons b bs ih => simp [ih, mul_add, -add_eq_sup]

theorem language_product (as bs : List Alternative) :
    D.language count rules (Alternative.product as bs) =
      D.language count rules as * D.language count rules bs := by
  induction as with
  | nil => simp [Alternative.product]
  | cons a as ih =>
    rw [Alternative.product, List.flatMap_cons, language_append, language_map_append, language_cons,
      add_mul, ← ih, Alternative.product]

/-- Only the empty text is lost with the empty alternatives. -/
theorem language_filter (as : List Alternative) :
    D.language count rules (as.filter fun a => !a.parts.isEmpty) + 1 =
      D.language count rules as + 1 := by
  induction as with
  | nil => rfl
  | cons a as ih =>
    rw [List.filter_cons]
    split
    · rw [language_cons, language_cons, add_assoc, ih, add_assoc]
    · next h =>
      have hempty : a.syms = [] := by simpa [Alternative.syms] using h
      rw [language_cons, hempty, rowLanguage_nil, ih, add_right_comm, Language.add_self, add_comm]

/-! ### Repetitions -/

theorem kstar_add_one {α : Type} [KleeneAlgebra α] (a : α) : (a + 1)∗ = a∗ :=
  le_antisymm
    ((kstar_mono (add_le (le_kstar) one_le_kstar)).trans (kstar_idem a).le) (kstar_mono le_self_add)

/-- A nonterminal that is made of itself and one of `body`, or of one of `body`, matches powers of
`body` only: every turn adds one to the right of those before. -/
theorem Matches.of_repetition {k : Nat} {body : List Alternative} {rest : List Sym}
    {w : List SymbolId} (hk : count ≤ k)
    (hbody : ∀ a ∈ D.alternativesOf k, a ∈ body ∨ ∃ b ∈ body, a.syms = .nonterminal k :: b.syms)
    (h : D.Matches count rules (.nonterminal k :: rest) w) :
    ∃ u v, u ++ v = w ∧ u ∈ (D.language count rules body)∗ * D.language count rules body ∧
      D.Matches count rules rest v := by
  generalize hrow : Sym.nonterminal k :: rest = row at h
  induction h generalizing rest with
  | nil | terminal => cases hrow
  | rule hi =>
    cases hrow
    exact absurd hi (Nat.not_lt.2 hk)
  | helper _ ha hu hw ih =>
    cases hrow
    refine ⟨_, _, rfl, ?_, hw⟩
    rcases hbody _ ha with hmem | ⟨b, hb, hsyms⟩
    · exact Language.append_mem_mul (Language.nil_mem_kstar _) ⟨_, hmem, hu⟩
    · obtain ⟨x, y, rfl, hx, hy⟩ := ih hsyms.symm
      have more : (D.language count rules body)∗ * D.language count rules body ≤
          (D.language count rules body)∗ := kstar_mul_le_kstar
      exact Language.append_mem_mul (more hx) ⟨b, hb, hy⟩

section Repetition

variable {k : Nat} {body : List Alternative} (hk : count ≤ k)
  (halternatives : D.alternativesOf k = repetition k body)
include hk halternatives

/-- One or more of the alternatives that are repeated, if they all have symbols. -/
theorem rowLanguage_repetition (hne : body ≠ []) (hparts : ∀ a ∈ body, a.parts ≠ []) :
    D.rowLanguage count rules [.nonterminal k] =
      D.language count rules body * (D.language count rules body)∗ := by
  have hfilter : (body.filter fun a => !a.parts.isEmpty) = body :=
    List.filter_eq_self.2 fun a ha => by simpa using hparts a ha
  have made : D.alternativesOf k =
      body.map (Alternative.append (.single (.nonterminal k))) ++ body := by
    rw [halternatives, repetition, hfilter, if_neg (by simpa using hne)]
  have equation : D.rowLanguage count rules [.nonterminal k] =
      D.rowLanguage count rules [.nonterminal k] * D.language count rules body +
        D.language count rules body := by
    conv_lhs => rw [rowLanguage_helper hk, made, language_append, language_map_append]
    rfl
  rw [← Language.mul_self_kstar_comm]
  refine le_antisymm (fun w h => ?_) ?_
  · obtain ⟨u, v, rfl, hu, hv⟩ := Matches.of_repetition hk (fun a (ha : a ∈ D.alternativesOf k) => show
      a ∈ body ∨ ∃ b ∈ body, a.syms = .nonterminal k :: b.syms by
      rw [made, List.mem_append, List.mem_map] at ha
      rcases ha with ⟨b, hb, rfl⟩ | ha
      · exact .inr ⟨b, hb, by simp⟩
      · exact .inl ha) h
    cases hv
    rwa [List.append_nil]
  · rw [Language.mul_self_kstar_comm]
    exact mul_kstar_le (le_add_self.trans equation.ge) (le_self_add.trans equation.ge)

/-- Any number of the alternatives that are repeated, once the empty text is added. -/
theorem rowLanguage_repetition_add_one :
    D.rowLanguage count rules [.nonterminal k] + 1 = (D.language count rules body)∗ := by
  let proper := body.filter fun a => !a.parts.isEmpty
  have powers : (D.language count rules proper)∗ = (D.language count rules body)∗ := by
    rw [← kstar_add_one, language_filter, kstar_add_one]
  have idle : proper.filter (fun a => !a.parts.isEmpty) = proper := by simp [proper]
  have halternatives' : D.alternativesOf k = repetition k proper := by
    rw [halternatives, repetition, repetition, idle]
  rw [← powers]
  by_cases hne : proper = []
  · rw [rowLanguage_helper hk, halternatives', hne]
    simp [repetition]
  · rw [rowLanguage_repetition hk halternatives' hne fun a ha => by
      simpa using (List.mem_filter.1 ha).2]
    rw [add_comm, Language.one_add_self_mul_kstar_eq_kstar]

end Repetition

end Language

end Draft

end IncrementalGlr.Flat
