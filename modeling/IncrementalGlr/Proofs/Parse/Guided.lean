import IncrementalGlr.Proofs.Parse.Genuine
import IncrementalGlr.Proofs.Parse.Invariant
import IncrementalGlr.Proofs.Parse.Lexer
import IncrementalGlr.Proofs.Parse.Stack
import IncrementalGlr.Proofs.Table.OfAutomaton

/-!
Parsing with a table that guides the parser. On every stack lie genuine subtrees, and the states and
symbols there are such that the table makes sense on them (`Head.Guided`). Every step keeps this,
recovery included: what is made up leads where the table says, and giving up takes the stack back to
where it was before. So every root is genuine, and it is a node of the start symbol or an error
(`Engine.genuine_of_run`).
-/
namespace IncrementalGlr

open Subtree

variable {t : ParseTable} {On : List StateId → List SymbolId → Prop}

/-! ## Stacks -/

/-- The stack follows the table, and all that lies on it is genuine. -/
structure Stack.Guided (t : ParseTable) (On : List StateId → List SymbolId → Prop) (s : Stack) :
    Prop where
  steady : s.Steady
  on : On s.states s.symbols
  genuine : ∀ e ∈ s, e.subtree.Genuine t

namespace Stack

/-- Going down a stack until a token is welcome. -/
theorem exists_of_popUntil {s below : Stack} {terminal : SymbolId} {popped given : List Subtree}
    (h : Engine.popUntil t terminal s popped = some (given, below)) :
    ∃ top : Stack, s = top ++ below ∧ given = (top.map Entry.subtree).reverse ++ popped := by
  induction s generalizing popped with
  | nil => cases h
  | cons e rest ih =>
    rw [Engine.popUntil] at h
    split at h
    · cases h
      exact ⟨[e], rfl, rfl⟩
    · obtain ⟨top, rfl, rfl⟩ := ih h
      exact ⟨e :: top, rfl, by simp⟩

variable {s s' : Stack} (ht : t.Guides On) (h : s.Guided t On)
include h

theorem Guided.push_extra {tree : Subtree} (hgenuine : tree.Genuine t) (hextra : tree.extra = true) :
    (s.push s.state tree).Guided t On where
  steady := h.steady.push fun _ => rfl
  on := by
    rw [states_push_extra hextra, symbols_push_extra hextra]
    exact h.on
  genuine := List.forall_mem_cons.2 ⟨hgenuine, h.genuine⟩

theorem Guided.push {tree : Subtree} {next : StateId} (hgenuine : tree.Genuine t)
    (hextra : tree.extra = false)
    (hon : ∀ below, s.states = s.state :: below →
      On (next :: s.state :: below) (tree.role :: s.symbols)) : (s.push next tree).Guided t On where
  steady := h.steady.push fun h => by rw [hextra] at h; cases h
  on := by
    obtain ⟨below, hbelow⟩ := h.steady.states_eq
    rw [states_push hextra, symbols_push hextra, hbelow]
    exact hon below hbelow
  genuine := List.forall_mem_cons.2 ⟨hgenuine, h.genuine⟩

include ht

theorem Guided.of_append {top : Stack} (hs : s = top ++ s') : s'.Guided t On := by
  subst hs
  obtain ⟨below, hbelow⟩ := h.steady.of_append.states_eq
  have hon := h.on
  rw [states_append, symbols_append] at hon
  refine ⟨h.steady.of_append, ?_, fun e he => h.genuine e (List.mem_append_right _ he)⟩
  rw [hbelow] at hon ⊢
  have := ht.drop (n := (mains top).length) hon (List.drop_left' (List.length_map _))
  rwa [List.drop_left' (length_symbols top)] at this

/-- A reduction finds just what its production is made of. -/
theorem Guided.reduce {id terminal : Nat} {lookaheadEnd : Nat} {fragile : Bool} {next : StateId}
    (ha : .reduce id ∈ t.actions s.state terminal)
    (hr : Stack.reduce t s id lookaheadEnd fragile = some (s', next)) : s'.Guided t On := by
  obtain ⟨below, hbelow⟩ := h.steady.states_eq
  have hon := h.on
  rw [hbelow] at hon
  obtain ⟨p, rest, hp, hsymbols⟩ := ht.reduce hon ha
  obtain ⟨p', q, states', hp', -, hdrop, hgoto, hstates', hsymbols', hsteady', -⟩ :=
    h.steady.reduce hr
  obtain rfl := Option.some.inj (hp.symm.trans hp')
  refine ⟨hsteady', ?_, forall_of_reduce hr h.genuine ?_⟩
  · rw [hstates', hsymbols']
    exact ht.goto (ht.drop h.on hdrop) hgoto
  rintro p' extras top base hp' rfl hextras hcount
  obtain rfl := Option.some.inj (hp.symm.trans hp')
  have hroles : roles (top.map Entry.subtree).reverse = p.rhs := by
    rw [symbols_append, symbols_append, symbols, mains_of_extras hextras, List.map_nil,
      List.nil_append] at hsymbols
    have := List.append_inj_left hsymbols (by
      rw [length_symbols, hcount, List.length_reverse, Production.rhs, List.length_map]
      rfl)
    rw [roles_reverse, ← symbols_eq_roles, this, List.reverse_reverse]
  refine genuine_node hp hroles (fun c hc => ?_) ..
  obtain ⟨e, he, rfl⟩ := List.mem_map.1 (List.mem_reverse.1 hc)
  exact h.genuine e (List.mem_append_right _ (List.mem_append_left _ he))

end Stack

/-! ## Whole parses -/

/-- What is known of a token: it has text unless it is the end of the text. -/
def Token.HasText (token : Token) : Prop := token.symbol ≠ endSymbol → token.start < token.stop

/-- A root is genuine, and it is a node of the start symbol or an error. -/
structure Subtree.GenuineRoot (t : ParseTable) (root : Subtree) : Prop where
  genuine : root.Genuine t
  start : (root.symbol = t.data.startSymbol ∧ root.extra = false ∧ root.info.missing = none) ∨
    (root.isError = true ∧ 0 < root.errorCount)

/-- The stack of the head follows the table, and the tokens put aside are bare. -/
def Head.Guided (t : ParseTable) (On : List StateId → List SymbolId → Prop)
    (pending : List Subtree) (h : Head) : Prop :=
  h.stack.Guided t On ∧ ∀ x ∈ pending, x.isBare = true

theorem genuine_of_bare {ts : List Subtree} (h : ∀ x ∈ ts, x.isBare = true) :
    ∀ x ∈ ts, x.isBare = false → x.Genuine t := fun x hx hbare => by
  rw [h x hx] at hbare
  cases hbare

namespace Stack

/-- The root over a stack with nothing but the start symbol and extras on it. -/
theorem Guided.rootOf {s : Stack} (h : s.Guided t On)
    (hstart : t.isTerminal t.data.startSymbol = false) (hsymbols : s.symbols = [t.data.startSymbol])
    (lookaheadEnd : Nat) : GenuineRoot t (Engine.rootOf s.subtrees lookaheadEnd) := by
  have hall : ∀ x ∈ s.subtrees, x.Genuine t := by
    intro x hx
    obtain ⟨e, he, rfl⟩ := List.mem_map.1 (List.mem_reverse.1 hx)
    exact h.genuine e he
  unfold Engine.rootOf
  split
  · next leading main trailing hsplit =>
    obtain ⟨whole, hmain, hleading, htrailing⟩ := of_splitMain hsplit
    rw [whole] at hall
    have hgenuine := hall main (by simp)
    have hrole : main.role = t.data.startSymbol := by
      have hroles : roles s.subtrees = [t.data.startSymbol] := by
        rw [subtrees, roles_reverse, ← symbols_eq_roles, hsymbols]
        rfl
      rw [whole, roles_append, roles_of_extras hleading, List.nil_append,
        show main :: trailing = [main] ++ trailing from rfl, roles_append,
        roles_of_extras htrailing, List.append_nil] at hroles
      simpa [roles, hmain] using hroles
    refine ⟨hgenuine.withExtras (hrole ▸ hstart) (fun c hc => ⟨hall c (by simp [hc]), hleading c hc⟩)
      (fun c hc => ⟨hall c (by simp [hc]), htrailing c hc⟩) _ _, ?_⟩
    rw [isError, symbol_withExtras]
    cases hmissing : main.info.missing with
    | none =>
      rw [role, hmissing] at hrole
      refine .inl ⟨hrole, Bool.eq_false_iff.2 fun h => ?_, missing_withExtras hmissing ..⟩
      rw [extra_withExtras _ _ _ _ h] at hmain
      cases hmain
    | some symbol =>
      exact .inr ⟨(hgenuine.conforms.missing symbol hmissing).1,
        hgenuine.errorCount_withExtras hmissing ..⟩
  · exact ⟨genuine_error (fun c hc _ => hall c hc) .., .inr ⟨rfl, Nat.succ_pos _⟩⟩

end Stack

namespace Engine

variable {e : Engine}

/-- A head that takes a token stays guided. -/
theorem guided_shifted (ht : e.table.Guides On) {token : Token} {head : Head}
    {target : Option StateId} (htext : token.HasText) (h : head.stack.Guided e.table On)
    (ha : taking target ∈ e.table.actions head.state token.symbol) (fragile : Bool) :
    (shifted token fragile none (head, target)).stack.Guided e.table On := by
  have hterminal : e.table.isTerminal token.symbol = true := ParseTable.isTerminal_of_mem_actions ha
  cases target with
  | none =>
    have hextra := ht.extra ha
    exact h.push_extra (genuine_leaf hterminal htext (fun _ => hextra) ..) rfl
  | some next =>
    exact h.push (genuine_leaf hterminal htext (fun h : false = true => nomatch h) ..) rfl
      fun below hbelow => ht.shift (hbelow ▸ h.on) ha

/-- Every step of an engine keeps its heads guided. -/
theorem guided (ht : e.table.Guides On)
    (hstart : e.table.isTerminal e.table.data.startSymbol = false)
    (hreuse : ∀ r, e.reuse = some r → r.root.Genuine e.table) :
    e.Invariant (fun _ => Token.HasText) (fun _ => Head.Guided e.table On)
      (GenuineRoot e.table) where
  token {position} _ _ states _ := Lexer.nonempty_lex position states
  unpadded htext := htext
  keeps _ token := {
    path := fun _ _ h => h
    reduce := by
      rintro fragile id h next ⟨hguided, -⟩ ha ⟨p, stack, state, -, hreduce, rfl⟩
      exact ⟨hguided.reduce ht ha hreduce, nofun⟩ }
  shift fragile _ _ htext h ha := ⟨guided_shifted ht htext h.1 ha fragile, nofun⟩
  reuse {r token head position old next} hr h hchoice := by
    obtain ⟨hmem, hreusable, hgoto⟩ := of_chooseReuse hchoice
    simp only [ReuseCursor.reusable, Bool.and_eq_true, Bool.not_eq_true', List.isEmpty_eq_false_iff]
      at hreusable
    obtain ⟨⟨⟨⟨⟨⟨⟨⟨⟨-, -⟩, hextra⟩, hchildren⟩, -⟩, -⟩, -⟩, -⟩, -⟩, -⟩ := hreusable
    have hgenuine : old.Genuine e.table :=
      (hreuse r hr).of_candidate hmem (by simp [isBare, hchildren])
    -- A missing symbol has no children, so an old subtree that is taken over is no such one.
    have hrole : old.role = old.symbol := by
      cases hmissing : old.info.missing with
      | none => rw [role, hmissing, Option.getD_none]
      | some symbol => exact absurd (hgenuine.conforms.missing symbol hmissing).2.2 hchildren
    refine ⟨h.1.push hgenuine hextra fun below hbelow => ?_, nofun⟩
    rw [hrole]
    exact ht.goto (hbelow ▸ h.1.on) hgoto
  nonterminal {_ token head symbol next} _ h hgoto :=
    ⟨h.1.push (genuine_missing symbol token) rfl fun below hbelow => ht.goto (hbelow ▸ h.1.on) hgoto,
      nofun⟩
  terminal {_ token} fragile {head symbol next} _ h ha :=
    ⟨h.1.push (genuine_missing symbol (standIn token symbol)) rfl fun below hbelow =>
      ht.shift (hbelow ▸ h.1.on) ha, nofun⟩
  resume lookaheadEnd _ h :=
    ⟨h.1.push_extra (genuine_error (genuine_of_bare h.2) ..) rfl, nofun⟩
  pop {_ pending given head below terminal} lookaheadEnd h hpop := by
    obtain ⟨top, hstack, rfl⟩ := Stack.exists_of_popUntil hpop
    refine ⟨(h.1.of_append ht hstack).push_extra (genuine_error (fun c hc hbare => ?_) ..) rfl, nofun⟩
    rw [List.append_nil] at hc
    rcases List.mem_append.1 hc with hc | hc
    · obtain ⟨x, hx, rfl⟩ := List.mem_map.1 (List.mem_reverse.1 hc)
      exact h.1.genuine x (hstack ▸ List.mem_append_left _ hx)
    · exact genuine_of_bare h.2 c hc hbare
  skip _ h :=
    ⟨h.1, List.forall_mem_append.2 ⟨h.2, fun x hx => List.mem_singleton.1 hx ▸ rfl⟩⟩
  accept {_ token head} h ha := by
    obtain ⟨below, hbelow⟩ := h.1.steady.states_eq
    exact h.1.rootOf hstart (ht.accept (hbelow ▸ h.1.on) ha) _
  wrap {_ pending head} lookaheadEnd h := by
    refine ⟨genuine_error (fun c hc hbare => ?_) .., .inr ⟨rfl, Nat.succ_pos _⟩⟩
    rcases List.mem_append.1 hc with hc | hc
    · obtain ⟨x, hx, rfl⟩ := List.mem_map.1 (List.mem_reverse.1 hc)
      exact h.1.genuine x hx
    · exact genuine_of_bare h.2 c hc hbare

/-- Every root is genuine, if the old tree is. -/
theorem genuine_of_run (ht : e.table.Guides On)
    (hstart : e.table.isTerminal e.table.data.startSymbol = false)
    (hreuse : ∀ r, e.reuse = some r → r.root.Genuine e.table) {fuel : Option Nat} {root : Subtree}
    {c : Configuration} (hr : Parsing.Returns e.run { fuel } root c) : GenuineRoot e.table root :=
  (guided ht hstart hreuse).run ⟨⟨trivial, ht.start, nofun⟩, nofun⟩ hr

end Engine

end IncrementalGlr
