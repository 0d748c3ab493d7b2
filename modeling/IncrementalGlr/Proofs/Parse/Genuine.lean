import IncrementalGlr.Parse.Reuse
import IncrementalGlr.Proofs.Flat.Derivation
import IncrementalGlr.Proofs.Parse.Spine
import IncrementalGlr.Proofs.Parse.Subtree

/-!
Subtrees that stand for derivation steps. A subtree is genuine if it is a token or stands for a
symbol that is missing, if it is a node over just what its production is made of, extras left out,
or if it is an error node; and likewise all below it (`Subtree.Genuine`). Everything that a parser
builds from genuine subtrees is genuine again, an error node over whatever was given up included.
Without errors a genuine subtree is a derivation tree: its symbol yields its tokens, extras left out
(`Genuine.yields`).
-/
namespace IncrementalGlr.Subtree

/-! ## What a tree consists of -/

mutual

/-- A subtree and all below it. -/
def parts : Subtree → List Subtree
  | mk info children => mk info children :: partsOf children

/-- Several subtrees and all below them. -/
def partsOf : List Subtree → List Subtree
  | [] => []
  | t :: rest => parts t ++ partsOf rest

end

mutual

/-- The symbols of the tokens with text in a subtree, each with whether it is an extra. -/
def marked : Subtree → List (SymbolId × Bool)
  | mk info [] => if 0 < info.size then [(info.symbol, info.extra)] else []
  | mk _ (t :: rest) => markedOf (t :: rest)

/-- The marked tokens of several subtrees. -/
def markedOf : List Subtree → List (SymbolId × Bool)
  | [] => []
  | t :: rest => marked t ++ markedOf rest

end

mutual

/-- The marked tokens are the tokens with text. -/
theorem map_fst_marked (start : Nat) :
    (t : Subtree) → t.marked.map Prod.fst = (tokensFrom start t).map Piece.symbol
  | mk info [] => by
    rw [marked, tokensFrom]
    split <;> rfl
  | mk _ (t :: rest) => by rw [marked, tokensFrom, map_fst_markedOf start (t :: rest)]

theorem map_fst_markedOf (start : Nat) :
    (ts : List Subtree) → (markedOf ts).map Prod.fst = (tokensOf start ts).map Piece.symbol
  | [] => rfl
  | t :: rest => by
    rw [markedOf, tokensOf, List.map_append, List.map_append, map_fst_marked start t,
      map_fst_markedOf (start + t.total) rest]

end

/-- The symbols of marked tokens, extras left out. -/
def unmarked (row : List (SymbolId × Bool)) : List SymbolId :=
  (row.filter fun x => !x.2).map Prod.fst

/-- The symbols of the tokens of a subtree, extras left out. -/
def sentence (t : Subtree) : List SymbolId := unmarked t.marked

/-- A node that is no error node has the symbol of its production and just the children that the
production is made of, extras left out. Extras are tokens that may stand anywhere, or error nodes.
What stands for another symbol is an error without text. -/
structure Conforms (table : ParseTable) (t : Subtree) : Prop where
  production : t.isError = false → ∀ id, t.info.production = some id →
    ∃ p, table.production? id = some p ∧ t.symbol = p.lhs ∧ roles t.children = p.rhs
  extras : ∀ c ∈ t.children, c.extra = true →
    (c.children = [] ∧ table.isExtra c.symbol = true) ∨ c.isError = true
  missing : ∀ s, t.info.missing = some s → t.isError = true ∧ t.size = 0 ∧ t.children = []

/-! ## Genuine subtrees -/

/-- A token that was put aside looks like this: nothing below it, no production that it follows, and
no other symbol that it stands for. -/
def isBare (t : Subtree) : Bool :=
  t.children.isEmpty && t.info.production.isNone && t.info.missing.isNone && !t.extra

/-- Built by real derivation steps. -/
inductive Genuine (table : ParseTable) : Subtree → Prop where
  | token {info : SubtreeInfo} (terminal : table.isTerminal info.symbol = true)
      (production : info.production = none) (missing : info.missing = none)
      (text : info.symbol ≠ endSymbol → 0 < info.size)
      (extra : info.extra = true → table.isExtra info.symbol = true) : Genuine table (mk info [])
  | placeholder {info : SubtreeInfo} (symbol : info.symbol = errorSymbol)
      (size : info.size = 0) (production : info.production = none) (extra : info.extra = false)
      (errorCount : 0 < info.errorCount) : Genuine table (mk info [])
  | node {info : SubtreeInfo} {children : List Subtree} {id : ProductionId} {p : Production}
      (production : info.production = some id) (found : table.production? id = some p)
      (symbol : info.symbol = p.lhs) (roles : roles children = p.rhs)
      (missing : info.missing = none) (extra : info.extra = false)
      (text : children = [] → info.size = 0)
      (errorCount : errorCounts children + (if info.symbol = errorSymbol then 1 else 0) ≤
        info.errorCount)
      (all : ∀ c ∈ children, Genuine table c) : Genuine table (mk info children)
  | error {info : SubtreeInfo} {children : List Subtree} (symbol : info.symbol = errorSymbol)
      (production : info.production = none) (missing : info.missing = none)
      (errorCount : 0 < info.errorCount)
      (all : ∀ c ∈ children, c.isBare = false → Genuine table c) : Genuine table (mk info children)

variable {table : ParseTable} {t : Subtree}

theorem Genuine.of_extra (h : t.Genuine table) (hextra : t.extra = true) :
    (t.children = [] ∧ table.isExtra t.symbol = true) ∨ t.isError = true := by
  cases h with
  | token _ _ _ _ extra => exact .inl ⟨rfl, extra hextra⟩
  | placeholder _ _ _ extra _ => exact absurd hextra (by simp [Subtree.extra, Subtree.info, extra])
  | node _ _ _ _ _ extra _ _ _ => exact absurd hextra (by simp [Subtree.extra, Subtree.info, extra])
  | error symbol _ _ _ _ => exact .inr (beq_iff_eq.2 symbol)

theorem conforms_of_isBare (h : t.isBare = true) : t.Conforms table := by
  simp only [isBare, Bool.and_eq_true, List.isEmpty_iff, Option.isNone_iff_eq_none] at h
  obtain ⟨⟨⟨hchildren, hproduction⟩, hmissing⟩, -⟩ := h
  refine ⟨fun _ id hid => ?_, fun c hc => ?_, fun s hs => ?_⟩
  · cases hproduction.symm.trans hid
  · rw [hchildren] at hc
    cases hc
  · cases hmissing.symm.trans hs

theorem Genuine.conforms (h : t.Genuine table) : t.Conforms table := by
  have extras {children : List Subtree}
      (all : ∀ c ∈ children, c.isBare = false → c.Genuine table) :
      ∀ c ∈ children, c.extra = true →
        (c.children = [] ∧ table.isExtra c.symbol = true) ∨ c.isError = true := fun c hc hextra =>
    (all c hc (by simp [isBare, hextra])).of_extra hextra
  have no_production {info : SubtreeInfo} {children : List Subtree} (h : info.production = none) :
      (mk info children).isError = false → ∀ id, (mk info children).info.production = some id →
        ∃ p, table.production? id = some p ∧ (mk info children).symbol = p.lhs ∧
          roles (mk info children).children = p.rhs :=
    fun _ id hid => absurd (h.symm.trans hid) nofun
  have itself {info : SubtreeInfo} {children : List Subtree} (h : info.missing = none) :
      ∀ s, (mk info children).info.missing = some s → (mk info children).isError = true ∧
        (mk info children).size = 0 ∧ (mk info children).children = [] :=
    fun s hs => absurd (h.symm.trans hs) nofun
  cases h with
  | token _ production missing _ _ =>
    exact ⟨no_production production, fun _ hc => absurd hc List.not_mem_nil, itself missing⟩
  | placeholder symbol size production _ _ =>
    exact ⟨no_production production, fun _ hc => absurd hc List.not_mem_nil,
      fun _ _ => ⟨beq_iff_eq.2 symbol, size, rfl⟩⟩
  | node production found symbol roles missing _ _ _ all =>
    refine ⟨fun _ id hid => ?_, extras fun c hc _ => all c hc, itself missing⟩
    cases production.symm.trans hid
    exact ⟨_, found, symbol, roles⟩
  | error _ production missing _ all =>
    exact ⟨no_production production, extras all, itself missing⟩

theorem parts_eq (t : Subtree) : t.parts = t :: partsOf t.children := by
  cases t
  rfl

theorem partsOf_eq (ts : List Subtree) : partsOf ts = ts.flatMap parts := by
  induction ts with
  | nil => rfl
  | cons t ts ih => rw [partsOf, ih, List.flatMap_cons]

theorem mem_partsOf {ts : List Subtree} {x : Subtree} :
    x ∈ partsOf ts ↔ ∃ t ∈ ts, x ∈ t.parts := by
  rw [partsOf_eq, List.mem_flatMap]

theorem partsOf_append (a b : List Subtree) : partsOf (a ++ b) = partsOf a ++ partsOf b := by
  simp only [partsOf_eq, List.flatMap_append]

/-- What holds of all that is in a subtree holds of the subtree and of all that is in its children. -/
theorem forall_parts {P : Subtree → Prop} {t : Subtree} :
    (∀ x ∈ t.parts, P x) ↔ P t ∧ ∀ c ∈ t.children, ∀ x ∈ c.parts, P x := by
  rw [parts_eq, List.forall_mem_cons]
  refine and_congr_right fun _ => ⟨fun h c hc x hx => h x (mem_partsOf.2 ⟨c, hc, hx⟩), fun h x hx => ?_⟩
  obtain ⟨c, hc, hx⟩ := mem_partsOf.1 hx
  exact h c hc x hx

theorem parts_of_isBare (h : t.isBare = true) : t.parts = [t] := by
  obtain ⟨info, children⟩ := t
  simp only [isBare, Bool.and_eq_true, List.isEmpty_iff] at h
  obtain rfl : children = [] := h.1.1.1
  rw [parts, partsOf]

/-- Not only a genuine subtree conforms to the table, but all below it do. -/
theorem Genuine.conforms_parts (h : t.Genuine table) : ∀ x ∈ t.parts, x.Conforms table := by
  induction h with
  | token terminal production missing text extra =>
    intro x hx
    rw [parts, partsOf, List.mem_singleton] at hx
    exact hx ▸ (Genuine.token terminal production missing text extra).conforms
  | placeholder symbol size production extra errorCount =>
    intro x hx
    rw [parts, partsOf, List.mem_singleton] at hx
    exact hx ▸ (Genuine.placeholder symbol size production extra errorCount).conforms
  | node production found symbol roles missing extra text errorCount all ih =>
    intro x hx
    rw [parts] at hx
    rcases List.mem_cons.1 hx with rfl | hx
    · exact (Genuine.node production found symbol roles missing extra text errorCount all).conforms
    · obtain ⟨c, hc, hx⟩ := mem_partsOf.1 hx
      exact ih c hc x hx
  | error symbol production missing errorCount all ih =>
    intro x hx
    rw [parts] at hx
    rcases List.mem_cons.1 hx with rfl | hx
    · exact (Genuine.error symbol production missing errorCount all).conforms
    · obtain ⟨c, hc, hx⟩ := mem_partsOf.1 hx
      cases hbare : c.isBare with
      | true =>
        rw [parts_of_isBare hbare, List.mem_singleton] at hx
        exact hx ▸ conforms_of_isBare hbare
      | false => exact ih c hc hbare x hx

/-- A node with the symbol of errors has an error. -/
theorem Genuine.errorCount_pos (h : t.Genuine table) (herror : t.isError = true)
    (hchildren : t.children ≠ []) : 0 < t.errorCount := by
  cases h with
  | token => exact absurd rfl hchildren
  | placeholder => exact absurd rfl hchildren
  | @node info _ _ _ _ _ _ _ _ _ _ errorCount _ =>
    have hsymbol : info.symbol = errorSymbol := beq_iff_eq.1 herror
    rw [if_pos hsymbol] at errorCount
    exact Nat.lt_of_lt_of_le (Nat.succ_pos _) errorCount
  | error _ _ _ errorCount _ => exact errorCount

/-! ## Building -/

theorem genuine_leaf {token : Token} (hterminal : table.isTerminal token.symbol = true)
    (htext : token.symbol ≠ endSymbol → token.start < token.stop) {extra : Bool}
    (hextra : extra = true → table.isExtra token.symbol = true) (fragile : Bool) (q r : StateId) :
    (leaf token extra fragile q r).Genuine table :=
  .token hterminal rfl rfl (fun h => Nat.sub_pos_of_lt (htext h)) hextra

theorem genuine_missing (symbol : SymbolId) (token : Token) :
    (missing symbol token).Genuine table :=
  .placeholder rfl rfl rfl rfl Nat.one_pos

theorem genuine_node {id : ProductionId} {p : Production} (hp : table.production? id = some p)
    {children : List Subtree} (hroles : roles children = p.rhs)
    (hall : ∀ c ∈ children, c.Genuine table) (start lookaheadEnd : Nat) (dynamicPrecedence : Int)
    (fragile : Bool) (parseState : Option StateId) :
    (node p.lhs (some id) children start lookaheadEnd dynamicPrecedence fragile
      parseState).Genuine table :=
  .node rfl hp rfl hroles rfl rfl (fun h => by rw [h]; rfl) (Nat.le_refl _) hall

theorem genuine_errorNode {children : List Subtree}
    (hall : ∀ c ∈ children, c.isBare = false → c.Genuine table) (start lookaheadEnd : Nat)
    (dynamicPrecedence : Int) (fragile : Bool) (parseState : Option StateId) :
    (node errorSymbol none children start lookaheadEnd dynamicPrecedence fragile
      parseState).Genuine table :=
  .error rfl rfl rfl (Nat.succ_pos _) hall

theorem genuine_error {children : List Subtree}
    (hall : ∀ c ∈ children, c.isBare = false → c.Genuine table) (start lookaheadEnd : Nat)
    (extra : Bool) : (error children start lookaheadEnd extra).Genuine table :=
  .error rfl rfl rfl (Nat.succ_pos _) hall

/-- Extras around a node or a placeholder do not belong to its production. -/
theorem Genuine.withExtras (h : t.Genuine table) (hrole : table.isTerminal t.role = false)
    {leading trailing : List Subtree}
    (hleading : ∀ c ∈ leading, c.Genuine table ∧ c.extra = true)
    (htrailing : ∀ c ∈ trailing, c.Genuine table ∧ c.extra = true) (start lookaheadEnd : Nat) :
    (t.withExtras leading trailing start lookaheadEnd).Genuine table := by
  unfold Subtree.withExtras
  split
  · exact h
  have around {children : List Subtree} {P : Subtree → Prop} (hP : ∀ c ∈ children, P c)
      (hextra : ∀ c, c.Genuine table → P c) : ∀ c ∈ leading ++ children ++ trailing, P c := by
    intro c hc
    rcases List.mem_append.1 hc with hc | hc
    · exact (List.mem_append.1 hc).elim (fun hc => hextra c (hleading c hc).1) (hP c)
    · exact hextra c (htrailing c hc).1
  -- Extras add nothing to the roles of the children, so the production still fits.
  cases h with
  | @token info terminal _ missing _ _ =>
    rw [role, Subtree.info, missing] at hrole
    exact absurd terminal (by rw [← Bool.not_eq_true] at hrole; exact hrole)
  | placeholder symbol _ production _ _ =>
    simp only [Subtree.symbol, Subtree.info, Subtree.children, symbol, production]
    exact genuine_errorNode (around (fun _ hc => absurd hc List.not_mem_nil) fun c hc _ => hc) ..
  | node production found symbol hroles _ _ _ _ all =>
    simp only [Subtree.symbol, Subtree.info, Subtree.children, symbol, production]
    refine genuine_node found ?_ (around all fun c hc => hc) ..
    rw [roles_append, roles_append, roles_of_extras fun c hc => (hleading c hc).2,
      roles_of_extras fun c hc => (htrailing c hc).2, List.nil_append, List.append_nil, hroles]
  | error symbol production _ _ all =>
    simp only [Subtree.symbol, Subtree.info, Subtree.children, symbol, production]
    exact genuine_errorNode (around all fun c hc _ => hc) ..

/-- What stands for another symbol is an error, with extras around it too. -/
theorem Genuine.errorCount_withExtras (h : t.Genuine table) {symbol : SymbolId}
    (hmissing : t.info.missing = some symbol) (leading trailing : List Subtree)
    (start lookaheadEnd : Nat) :
    0 < (t.withExtras leading trailing start lookaheadEnd).errorCount := by
  cases h with
  | token _ _ missing _ _ => exact absurd (missing.symm.trans hmissing) nofun
  | node _ _ _ _ missing _ _ _ _ => exact absurd (missing.symm.trans hmissing) nofun
  | error _ _ missing _ _ => exact absurd (missing.symm.trans hmissing) nofun
  | placeholder symbol _ _ _ errorCount =>
    unfold Subtree.withExtras
    split
    · exact errorCount
    · simp only [Subtree.symbol, Subtree.info, symbol, Subtree.errorCount]
      exact Nat.succ_pos _

theorem extra_withExtras (leading trailing : List Subtree) (start lookaheadEnd : Nat) :
    (t.withExtras leading trailing start lookaheadEnd).extra = true → t.extra = true := by
  unfold Subtree.withExtras
  split
  · exact id
  · exact fun h => nomatch h

theorem missing_withExtras (h : t.info.missing = none) (leading trailing : List Subtree)
    (start lookaheadEnd : Nat) :
    (t.withExtras leading trailing start lookaheadEnd).info.missing = none := by
  unfold Subtree.withExtras
  split
  · exact h
  · rfl

/-! ## Reusing -/

mutual

/-- What is in a part of a subtree is in the subtree. -/
theorem mem_parts_trans {x y : Subtree} (hx : x ∈ y.parts) : (t : Subtree) → y ∈ t.parts → x ∈ t.parts
  | mk info children, hy => by
    rw [parts] at hy ⊢
    rcases List.mem_cons.1 hy with rfl | hy
    · exact hx
    · exact List.mem_cons_of_mem _ (mem_partsOf_trans hx children hy)

theorem mem_partsOf_trans {x y : Subtree} (hx : x ∈ y.parts) :
    (ts : List Subtree) → y ∈ partsOf ts → x ∈ partsOf ts
  | [], hy => absurd hy List.not_mem_nil
  | t :: rest, hy => by
    rw [partsOf] at hy ⊢
    refine List.mem_append.2 ((List.mem_append.1 hy).imp (mem_parts_trans hx t) ?_)
    exact mem_partsOf_trans hx rest

end

theorem mem_parts_self (t : Subtree) : t ∈ t.parts := by
  obtain ⟨info, children⟩ := t
  exact List.mem_cons_self

open ReuseCursor in
mutual

/-- What is found below a node is a part of what is below it. -/
theorem mem_partsOf_of_mem_candidatesIn (edit : Edit) (target offset : Nat) :
    (t : Subtree) → ∀ c ∈ candidatesIn edit target offset t, c ∈ partsOf t.children
  | mk info children, c, hc => by
    rw [candidatesIn] at hc
    exact mem_partsOf_of_mem_candidatesAmong edit target offset children c hc

theorem mem_partsOf_of_mem_candidatesAmong (edit : Edit) (target offset : Nat) :
    (ts : List Subtree) → ∀ c ∈ candidatesAmong edit target offset ts, c ∈ partsOf ts
  | [], c, hc => absurd hc (by simp [candidatesAmong])
  | mk info children :: rest, c, hc => by
    have below : c ∈ candidatesIn edit target offset (mk info children) →
        c ∈ partsOf (mk info children :: rest) := fun hc =>
      List.mem_append_left _ (List.mem_cons_of_mem _
        (mem_partsOf_of_mem_candidatesIn edit target offset _ c hc))
    rw [candidatesAmong] at hc
    split at hc
    · exact List.mem_append_right _
        (mem_partsOf_of_mem_candidatesAmong edit target _ rest c hc)
    · split at hc
      · cases hc
      · dsimp only at hc
        split at hc
        · rcases List.mem_cons.1 hc with rfl | hc
          · exact List.mem_append_left _ (mem_parts_self _)
          · exact below hc
        · exact below hc

end

/-- What may be taken over from an old tree is a part of what is below its root. -/
theorem mem_partsOf_of_mem_candidates {r : ReuseCursor} {position : Nat} {c : Subtree}
    (hc : c ∈ r.candidates position) : c ∈ partsOf r.root.children := by
  unfold ReuseCursor.candidates at hc
  split at hc
  · cases hc
  · exact mem_partsOf_of_mem_candidatesIn _ _ _ _ c hc

open ReuseCursor in
mutual

/-- What is found below a node is genuine, if it is no token that was put aside. -/
theorem genuine_of_mem_candidatesIn (edit : Edit) (target offset : Nat) :
    (t : Subtree) → t.Genuine table → ∀ c ∈ candidatesIn edit target offset t,
      c.isBare = false → c.Genuine table
  | mk info children, h, c, hc, hbare => by
    rw [candidatesIn] at hc
    refine genuine_of_mem_candidatesAmong edit target offset children ?_ c hc hbare
    cases h with
    | token => exact fun _ hc => absurd hc List.not_mem_nil
    | placeholder => exact fun _ hc => absurd hc List.not_mem_nil
    | node _ _ _ _ _ _ _ _ all => exact fun c hc _ => all c hc
    | error _ _ _ _ all => exact all

theorem genuine_of_mem_candidatesAmong (edit : Edit) (target offset : Nat) :
    (ts : List Subtree) → (∀ t ∈ ts, t.isBare = false → t.Genuine table) →
      ∀ c ∈ candidatesAmong edit target offset ts, c.isBare = false → c.Genuine table
  | [], _, c, hc, _ => absurd hc (by simp [candidatesAmong])
  | t :: rest, h, c, hc, hbare => by
    obtain ⟨ht, hrest⟩ := List.forall_mem_cons.1 h
    rw [candidatesAmong] at hc
    split at hc
    · exact genuine_of_mem_candidatesAmong edit target _ rest hrest c hc hbare
    · split at hc
      · cases hc
      · have below : c ∈ candidatesIn edit target offset t → c.Genuine table := fun hc => by
          cases hbare' : t.isBare with
          | true =>
            obtain ⟨info, children⟩ := t
            simp only [isBare, Bool.and_eq_true, List.isEmpty_iff] at hbare'
            obtain rfl : children = [] := hbare'.1.1.1
            simp [candidatesIn, candidatesAmong] at hc
          | false => exact genuine_of_mem_candidatesIn edit target offset t (ht hbare') c hc hbare
        dsimp only at hc
        split at hc
        · rcases List.mem_cons.1 hc with rfl | hc
          · exact ht hbare
          · exact below hc
        · exact below hc

end

theorem Genuine.of_candidate {r : ReuseCursor} (h : r.root.Genuine table) {position : Nat}
    (hc : t ∈ r.candidates position) (hbare : t.isBare = false) : t.Genuine table := by
  unfold ReuseCursor.candidates at hc
  split at hc
  · cases hc
  · exact genuine_of_mem_candidatesIn _ _ _ _ h t hc hbare

/-! ## Derivations -/

@[simp] theorem unmarked_append (a b : List (SymbolId × Bool)) :
    unmarked (a ++ b) = unmarked a ++ unmarked b := by
  rw [unmarked, List.filter_append, List.map_append]
  rfl

theorem errorCount_le_of_mem {ts : List Subtree} (h : t ∈ ts) : t.errorCount ≤ errorCounts ts := by
  induction ts with
  | nil => cases h
  | cons x rest ih =>
    rw [errorCounts]
    rcases List.mem_cons.1 h with rfl | h
    · exact Nat.le_add_right _ _
    · exact Nat.le_trans (ih h) (Nat.le_add_left _ _)

theorem marked_of_ne_nil {info : SubtreeInfo} {children : List Subtree} (h : children ≠ []) :
    (mk info children).marked = markedOf children := by
  cases children with
  | nil => exact absurd rfl h
  | cons t rest => rw [marked]

section Derivation

variable {g : FlatGrammar} (hproductions : table.data.productions = g.productions)
  (hterminals : table.data.terminalCount = g.terminalCount)
  (hend : ∀ p ∈ g.productions, ∀ s ∈ p.rhs, s ≠ endSymbol)
include hproductions hterminals hend

/-- A genuine subtree without errors: an extra is left out, and the symbol of any other yields its
tokens. -/
theorem Genuine.yields (h : t.Genuine table) (hcount : t.errorCount = 0) :
    (t.extra = true → unmarked t.marked = []) ∧
      (t.extra = false → t.role ≠ endSymbol → g.Yields [t.role] t.sentence) := by
  induction h with
  | @token info terminal production missing text extra =>
    refine ⟨fun hextra => ?_, fun hextra hrole => ?_⟩
    · rw [marked]
      split
      · simp only [Subtree.extra, Subtree.info] at hextra
        simp [unmarked, hextra]
      · rfl
    · simp only [role, Subtree.info, Subtree.symbol, missing, Option.getD_none] at hrole ⊢
      simp only [Subtree.extra, Subtree.info] at hextra
      rw [sentence, marked, if_pos (text hrole), hextra]
      exact .terminal (hterminals ▸ of_decide_eq_true terminal) .nil
  | placeholder _ _ _ _ errorCount =>
    exact absurd hcount (Nat.ne_of_gt errorCount)
  | @node info children id p production found symbol hroles missing extra text errorCount all ih =>
    refine ⟨fun hextra => absurd hextra (by simp [Subtree.extra, Subtree.info, extra]), fun _ _ => ?_⟩
    have hp : p ∈ g.productions := by
      rw [← hproductions]
      exact Array.mem_of_getElem? found
    have none_below : ∀ c ∈ children, c.errorCount = 0 := fun c hc =>
      Nat.le_zero.1 <| Nat.le_trans (errorCount_le_of_mem hc) <|
        Nat.le_trans (Nat.le_add_right _ _) (Nat.le_trans errorCount (Nat.le_of_eq hcount))
    -- Along the children: an extra is not part of the sentence, any other child derives its part.
    have row : ∀ ts : List Subtree, (∀ c ∈ ts, c ∈ children) → (∀ s ∈ roles ts, s ≠ endSymbol) →
        g.Yields (roles ts) (unmarked (markedOf ts)) := by
      intro ts hts hne
      induction ts with
      | nil => exact .nil
      | cons c rest ihrest =>
        obtain ⟨hc, hrest⟩ := List.forall_mem_cons.1 hts
        obtain ⟨of_extra, of_main⟩ := ih c hc (none_below c hc)
        rw [markedOf, unmarked_append]
        cases hextra : c.extra with
        | true =>
          have hroles : roles (c :: rest) = roles rest := by simp [roles, hextra]
          rw [of_extra hextra, List.nil_append, hroles]
          exact ihrest hrest (hroles ▸ hne)
        | false =>
          have hroles : roles (c :: rest) = [c.role] ++ roles rest := by simp [roles, hextra]
          rw [hroles] at hne ⊢
          obtain ⟨hfirst, hlater⟩ := List.forall_mem_append.1 hne
          exact (of_main hextra (hfirst _ List.mem_cons_self)).append (ihrest hrest hlater)
    have whole := row children (fun _ h => h) (hroles ▸ hend p hp)
    have hmarked : (mk info children).marked = markedOf children := by
      by_cases hnil : children = []
      · subst hnil
        rw [marked, markedOf, if_neg (by rw [text rfl]; exact Nat.lt_irrefl 0)]
      · exact marked_of_ne_nil hnil
    rw [hroles] at whole
    simp only [role, Subtree.info, Subtree.symbol, missing, Option.getD_none, symbol]
    rw [sentence, hmarked]
    exact .of_rule hp whole
  | error _ _ _ errorCount _ => exact absurd hcount (Nat.ne_of_gt errorCount)

end Derivation

end IncrementalGlr.Subtree
