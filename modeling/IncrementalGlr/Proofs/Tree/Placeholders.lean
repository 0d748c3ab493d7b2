import IncrementalGlr.Proofs.Parse.Ending
import IncrementalGlr.Proofs.Tree.Errors
import IncrementalGlr.Proofs.Tree.Flattening

/-!
Placeholders. What was made up for a missing symbol stays in the tree: the nodes that stand for a symbol
are, in the order of the text, what stands for one on the stack of the head with which the parse ended,
each for the same symbol, an error without children and without text
(`Language.keeps_placeholders`). There are two exceptions. The root covers the whole text, padding
included, and it may be a placeholder (`Spaced.covers_blank`). And extras around a root that is a
placeholder take its place, so heads with nothing else on their stacks are left out
(`Stack.Surrounded`).
-/
namespace IncrementalGlr

open Visible Subtree

namespace Subtree

/-- Whether a subtree stands for a symbol that is missing. -/
def isPlaceholder (t : Subtree) : Bool := t.info.missing.isSome

/-- What stands for a missing symbol among several subtrees and all below them, in order. -/
def placeholdersOf (ts : List Subtree) : List Subtree := (partsOf ts).filter isPlaceholder

theorem placeholdersOf_append (a b : List Subtree) :
    placeholdersOf (a ++ b) = placeholdersOf a ++ placeholdersOf b := by
  rw [placeholdersOf, partsOf_append, List.filter_append]
  rfl

theorem placeholdersOf_singleton (t : Subtree) :
    placeholdersOf [t] = t.parts.filter isPlaceholder := by
  rw [placeholdersOf, partsOf, partsOf, List.append_nil]

/-- What does not stand for a missing symbol itself has the placeholders of its children. -/
theorem placeholdersOf_children {t : Subtree} (h : t.isPlaceholder = false) :
    placeholdersOf [t] = placeholdersOf t.children := by
  rw [placeholdersOf_singleton, parts_eq, List.filter_cons_of_neg (by simp [h])]
  rfl

theorem placeholdersOf_bare {ts : List Subtree} (h : ∀ x ∈ ts, x.isBare = true) :
    placeholdersOf ts = [] := by
  rw [placeholdersOf, List.filter_eq_nil_iff]
  intro x hx hplaceholder
  obtain ⟨t, ht, hx⟩ := mem_partsOf.1 hx
  have bare := h t ht
  rw [parts_of_isBare bare, List.mem_singleton] at hx
  simp only [← hx, isBare, Bool.and_eq_true, Option.isNone_iff_eq_none] at bare
  rw [isPlaceholder, bare.1.2] at hplaceholder
  cases hplaceholder

end Subtree

/-- Nothing lies on a stack but what stands for a missing symbol, and extras around it. -/
def Stack.Surrounded (s : Stack) : Prop :=
  ∃ leading main trailing, s.subtrees = leading ++ main :: trailing ∧ leading ++ trailing ≠ [] ∧
    (∀ x ∈ leading ++ trailing, x.extra = true) ∧ main.isPlaceholder = true

namespace Engine

variable {e : Engine} {fuel : Option Nat} {head : Head} {root : Subtree}

/-- A root over a stack has the placeholders that lie on the stack. -/
theorem placeholdersOf_rootOf {s : Stack} (h : ¬ s.Surrounded) (lookaheadEnd : Nat) :
    placeholdersOf [rootOf s.subtrees lookaheadEnd] = placeholdersOf s.subtrees := by
  unfold rootOf
  split
  · next leading main trailing hsplit =>
    obtain ⟨whole, -, hleading, htrailing⟩ := Stack.of_splitMain hsplit
    unfold Subtree.withExtras
    split
    · next hnone =>
      simp only [Bool.and_eq_true, List.isEmpty_iff] at hnone
      rw [whole, hnone.1, hnone.2, List.nil_append]
    -- Extras make a new node over the children, so the old one must have been no placeholder.
    · next hsome =>
      have hmain : main.isPlaceholder = false := Bool.eq_false_iff.2 fun hmain =>
        h ⟨leading, main, trailing, whole, fun hnil => hsome (by simpa using hnil),
          List.forall_mem_append.2 ⟨hleading, htrailing⟩, hmain⟩
      rw [placeholdersOf_children rfl, whole, List.append_cons]
      show placeholdersOf (leading ++ main.children ++ trailing) = _
      simp only [placeholdersOf_append, placeholdersOf_children hmain]
  · exact placeholdersOf_children rfl

theorem Accepts.placeholdersOf_eq (h : e.Accepts fuel head root) (hstack : ¬ head.stack.Surrounded) :
    placeholdersOf [root] = placeholdersOf head.stack.subtrees := by
  cases h with
  | intro => exact placeholdersOf_rootOf hstack _

/-- The extras around a root that is no error are among its children. -/
theorem Accepts.not_surrounded (h : e.Accepts fuel head root) (herror : root.isError = false)
    (hextra : ∀ c ∈ root.children, c.extra = false) : ¬ head.stack.Surrounded := by
  rintro ⟨leading, main, trailing, whole, hsome, -⟩
  cases h with
  | @intro token =>
    unfold rootOf at herror hextra
    split at herror
    · next leading' main' trailing' hsplit =>
      rw [hsplit] at hextra
      obtain ⟨whole', -, hleading, htrailing⟩ := Stack.of_splitMain hsplit
      have around : leading' ++ trailing' ≠ [] := by
        have hlength := congrArg List.length (whole.symm.trans whole')
        rw [← List.length_pos_iff] at hsome ⊢
        simp only [List.length_append, List.length_cons] at hlength hsome ⊢
        omega
      obtain ⟨x, hx⟩ := List.exists_mem_of_ne_nil _ around
      have hchild : x ∈ (main'.withExtras leading' trailing' 0 token.lookaheadEnd).children := by
        unfold Subtree.withExtras
        rw [if_neg (by simpa using around)]
        show x ∈ leading' ++ main'.children ++ trailing'
        simp only [List.mem_append] at hx ⊢
        exact hx.elim (fun h => .inl (.inl h)) .inr
      have yes : x.extra = true := (List.mem_append.1 hx).elim (hleading x) (htrailing x)
      exact absurd yes (by simp [hextra x hchild])
    · cases herror

theorem Wraps.isError (h : e.Wraps fuel head root) : root.isError = true := by
  cases h
  rfl

/-- Tokens put aside have no placeholders to add. -/
theorem Wraps.placeholdersOf_eq {On : List StateId → List SymbolId → Prop}
    (ht : e.table.Guides On) (hstart : e.table.isTerminal e.table.data.startSymbol = false)
    (hreuse : ∀ r, e.reuse = some r → r.root.Genuine e.table) (h : e.Wraps fuel head root) :
    placeholdersOf [root] = placeholdersOf head.stack.subtrees := by
  cases h with
  | @intro _ token _ c d hc hend hstuck =>
    have inv := guided ht hstart hreuse
    obtain ⟨fair, htoken⟩ := hc.fair inv ⟨⟨trivial, ht.start, nofun⟩, nofun⟩
    obtain ⟨⟨-, bare⟩, -⟩ := inv.attempt htoken fair hstuck
    rw [placeholdersOf_children rfl]
    show placeholdersOf (head.stack.subtrees ++ d.pending) = _
    rw [placeholdersOf_append, placeholdersOf_bare bare, List.append_nil]

end Engine

namespace Tree

/-- The nodes that stand for a missing symbol, in the order of the text. -/
def placeholders (t : Tree) : List NodeId :=
  (t.descendants root).filter fun id => (t.info id).missing.isSome

/-- The nodes of a tree that stand for a missing symbol are the placeholders among these subtrees, in
the same order and for the same symbols. Each is an error without children, and none has text, but the
root covers the whole text in any case. -/
structure Keeps (t : Tree) (ts : List Subtree) : Prop where
  symbols : t.placeholders.map (fun id => (t.info id).missing) =
    (placeholdersOf ts).map fun x => x.info.missing
  width : ∀ x ∈ placeholdersOf ts, x.size = 0
  leaf : ∀ id ∈ t.placeholders, t.isError id = true ∧ t.children id = []
  empty : ∀ id ∈ t.placeholders, id ≠ root → (t.info id).start = (t.info id).stop
  whole : (t.info root).start = 0 ∧ (t.info root).stop = t.source.utf8ByteSize

variable {t : Tree}

/-- The infos of all nodes are that of the root and those of the parts below it. -/
theorem Fits.map_info (h : t.Fits) : (t.descendants root).map t.info =
    TreeBuilder.rootInfo t.table t.green t.source.utf8ByteSize ::
      (preorderOf (shown t.table t.green).children).map fun x => x.place.nodeInfo t.table := by
  have hsize := (shown t.table t.green).size_eq
  have hwalk : t.descendants root = List.range' 0 _ := h.shows.descendants .root
  rw [hwalk, hsize, List.range'_succ, List.map_cons, h.shows.map_info .root, h.shows.info_root]

/-- All that stands for a missing symbol in the subtree of a tree is shown. -/
theorem Fits.map_missing (h : t.Fits) (parts : ∀ x ∈ t.green.parts, x.Conforms t.table) :
    t.placeholders.map (fun id => (t.info id).missing) =
      (placeholdersOf [t.green]).map fun x => x.info.missing := by
  have error : ∀ x ∈ partsOf t.green.children, x.isPlaceholder = true → x.isError = true := by
    intro x hx hplaceholder
    obtain ⟨symbol, hsymbol⟩ := Option.isSome_iff_exists.1 hplaceholder
    exact ((parts x (t.green.parts_eq ▸ List.mem_cons_of_mem _ hx)).missing symbol hsymbol).1
  have below : (subtreesOf (shown t.table t.green).children).filter isPlaceholder =
      (partsOf t.green.children).filter isPlaceholder :=
    Place.filter_shownBelow (p := { subtree := t.green, start := 0 }) error none
  calc t.placeholders.map (fun id => (t.info id).missing)
      = (((t.descendants root).map t.info).map NodeInfo.missing).filter Option.isSome := by
        rw [List.map_map, List.filter_map]
        rfl
    _ = ((t.green :: subtreesOf (shown t.table t.green).children).map
          fun x => x.info.missing).filter Option.isSome := by
        rw [h.map_info, List.map_cons, List.map_cons, subtreesOf, List.map_map, List.map_map]
        rfl
    _ = ((t.green :: subtreesOf (shown t.table t.green).children).filter isPlaceholder).map
          fun x => x.info.missing := by
        rw [List.filter_map]
        rfl
    _ = (placeholdersOf [t.green]).map fun x => x.info.missing := by
        rw [placeholdersOf_singleton, parts_eq, List.filter_cons, List.filter_cons, below]

/-- What stands for a missing symbol in a tree is an error without children and, unless it is the root,
without text. -/
theorem Fits.leaf (h : t.Fits) (parts : ∀ x ∈ t.green.parts, x.Conforms t.table) {id : NodeId}
    (hid : id ∈ t.placeholders) : t.isError id = true ∧ t.children id = [] ∧
      (id ≠ root → (t.info id).start = (t.info id).stop) := by
  obtain ⟨hwalk, hmissing⟩ := List.mem_filter.1 hid
  obtain ⟨symbol, hsymbol⟩ := Option.isSome_iff_exists.1 hmissing
  have hlt : id < t.nodes.size := by
    rw [show t.descendants root = List.range' 0 _ from h.shows.descendants .root, ← h.shows.size,
      List.mem_range'_1, Nat.zero_add] at hwalk
    exact hwalk.2
  obtain ⟨w, hw⟩ := h.shows.exists_at hlt
  have childless (hnone : w.place.subtree.children = []) : t.children id = [] := by
    rw [h.shows.children_eq hw, (hw.children_eq rfl).1, Place.shownBelow_of_childless hnone]
    rfl
  rw [isError]
  rcases root_or_below_of_at hw with ⟨rfl, rfl⟩ | ⟨hroot, hplain, hbelow⟩
  -- The root has an info of its own, in which only the range is not that of its subtree.
  · have hinfo := h.shows.info_root
    rw [hinfo] at hsymbol ⊢
    obtain ⟨herror, -, hnone⟩ := (parts _ (mem_parts_self _)).missing symbol hsymbol
    exact ⟨herror, childless hnone, fun hroot => absurd rfl hroot⟩
  · have hinfo := h.shows.info_of_at hw hroot
    rw [hinfo] at hsymbol ⊢
    obtain ⟨herror, hsize, hnone⟩ :=
      (parts _ (t.green.parts_eq ▸ List.mem_cons_of_mem _ hbelow)).missing symbol hsymbol
    have itself : w.place.renamed = none := by
      refine Option.eq_none_iff_forall_ne_some.2 fun s hs => ?_
      rw [(hplain s hs).2] at herror
      cases herror
    refine ⟨?_, childless hnone, fun _ => ?_⟩
    · rw [Place.nodeInfo, itself]
      exact herror
    · rw [Place.nodeInfo, hsize]
      rfl

/-- A tree keeps the placeholders that its subtree has. -/
theorem Fits.keeps (h : t.Fits) (parts : ∀ x ∈ t.green.parts, x.Conforms t.table) {ts : List Subtree}
    (same : placeholdersOf [t.green] = placeholdersOf ts) : t.Keeps ts where
  symbols := by rw [h.map_missing parts, same]
  width x hx := by
    rw [← same, placeholdersOf_singleton] at hx
    obtain ⟨hpart, hplaceholder⟩ := List.mem_filter.1 hx
    obtain ⟨symbol, hsymbol⟩ := Option.isSome_iff_exists.1 hplaceholder
    exact ((parts x hpart).missing symbol hsymbol).2.1
  leaf _ hid := ⟨(h.leaf parts hid).1, (h.leaf parts hid).2.1⟩
  empty _ hid := (h.leaf parts hid).2.2
  whole := by
    rw [show t.info root = _ from h.shows.info_root]
    exact ⟨rfl, rfl⟩

end Tree

/-- Every parse that has a tree ends with a head that is accepted or wrapped, and the tree keeps the
placeholders on the stack of this head; of accepted heads that holds unless there is nothing on the
stack but a placeholder and extras around it. -/
theorem Language.keeps_placeholders {g : Grammar} {compiled : Compiled} {reports : List Diagnostic}
    {l : Language} (hg : g.compile = .ok (compiled, reports)) (hl : l.table.data = compiled.table)
    {p : Parser} (hp : p.language = l) {text : String} {reuse : Option ReuseCursor}
    (hreuse : ∀ r, reuse = some r → ∃ old, l.Makes old ∧ r.root = old.green ∧
      r.edit.newTextLen old.source.utf8ByteSize = some text.utf8ByteSize)
    {cancelled : Nat → Bool} {tree : Tree} (h : (p.runOn text reuse cancelled).result = .ok tree) :
    let e := p.engine text reuse cancelled
    (∃ head, e.Accepts p.options.fuel head tree.green ∨ e.Wraps p.options.fuel head tree.green) ∧
      (∀ head, e.Accepts p.options.fuel head tree.green → ¬ head.stack.Surrounded →
        tree.Keeps head.stack.subtrees) ∧
      ∀ head, e.Wraps p.options.fuel head tree.green → tree.Keeps head.stack.subtrees := by
  subst hp
  intro e
  obtain ⟨On, guides⟩ := Grammar.exists_guides_of_compile hg hl
  have hstart := isTerminal_startSymbol hg hl
  have genuine (r : ReuseCursor) (hr : reuse = some r) : r.root.Genuine p.language.table := by
    obtain ⟨old, hold, hroot, -⟩ := hreuse r hr
    exact hroot ▸ (hold.genuine hg hl).genuine
  have fits : tree.Fits := by
    cases reuse with
    | none => exact Tree.fits_runOn 0 (fun r (hr : none = some r) => absurd hr nofun) h
    | some r =>
      obtain ⟨old, hold, hroot, hedit⟩ := hreuse r rfl
      have hfits := hold.made.fits
      refine Tree.fits_runOn old.source.utf8ByteSize (fun r' hr => ?_) h
      obtain rfl := Option.some.inj hr
      exact ⟨hroot ▸ hfits.sized, hroot ▸ hfits.total_le, hedit⟩
  obtain ⟨c, hreturns, -⟩ := Parser.exists_returns h
  obtain ⟨root, stats, rfl⟩ := Parser.exists_ofSubtree h
  have parts := (Engine.genuine_of_run (e := e) guides hstart genuine hreturns).genuine.conforms_parts
  refine ⟨Engine.ends_of_run hreturns, fun head haccept hstack => ?_, fun head hwrap => ?_⟩
  · exact fits.keeps parts (haccept.placeholdersOf_eq hstack)
  · exact fits.keeps parts (hwrap.placeholdersOf_eq guides hstart genuine)

/-! ## Two letters with blanks -/

/-- The grammar of two letters, with blanks anywhere. -/
def spaced : Grammar where
  name := "spaced"
  rules := .ofList [("s", .seq [.string "a", .string "b"])]
  extras := [.string " "]

namespace Spaced

def flat : FlatGrammar where
  name := "spaced"
  symbols := #[{ name := "end", kind := .endOfText, named := false, visible := false },
    { name := "a", kind := .literal, named := false, visible := true },
    { name := "b", kind := .literal, named := false, visible := true },
    { name := "s", kind := .nonterminal, named := true, visible := true }]
  terminalCount := 3
  nonterminalCount := 1
  externalCount := 0
  fields := []
  productions := #[{ lhs := 3, children := [{ symbol := 1 }, { symbol := 2 }] }]
  start := 3
  terminals := #[{ form := .endOfText }, { form := .literal "a" }, { form := .literal "b" }]
  padding := some "(?: )"
  extras := []
  word := none
  recovery := []
  conflicts := []
  owners := #[0, 1, 2, 3]

/-- The start, the first letter, the whole text, and both letters. -/
def automaton : Automaton where
  states := #[
    { kernel := [(⟨1, 0⟩, ⟨1⟩)], items := [(⟨1, 0⟩, ⟨1⟩), (⟨0, 0⟩, ⟨1⟩)]
      transitions := [(1, 1), (3, 2)] },
    { kernel := [(⟨0, 1⟩, ⟨1⟩)], items := [(⟨0, 1⟩, ⟨1⟩)], transitions := [(2, 3)] },
    { kernel := [(⟨1, 1⟩, ⟨1⟩)], items := [(⟨1, 1⟩, ⟨1⟩)], transitions := [] },
    { kernel := [(⟨0, 2⟩, ⟨1⟩)], items := [(⟨0, 2⟩, ⟨1⟩)], transitions := [] }]

theorem ofGrammar_flat : Automaton.ofGrammar flat (.ofGrammar flat) = some automaton := by
  have found : Lr.Found.explore flat 6 ⟨#[[flat.startItem]], #[]⟩ =
      some ⟨#[[⟨1, 0⟩], [⟨0, 1⟩], [⟨1, 1⟩], [⟨0, 2⟩]], #[[(1, 1), (3, 2)], [(2, 3)], [], []]⟩ := by
    cbv
  have states : Lr.states flat = some _ := Lr.Found.explore_of_le found (by decide)
  rw [Automaton.ofGrammar, states]
  decide +kernel

def table : ParseTable where
  data := .ofActions flat (.ofAutomaton flat automaton)
  patterns := #[none, none, none]
  padding := some ⟨.chars ⟨[(32, 32)]⟩, false, false⟩
  valid := #[[1], [2], [0], [0]]
  consistent := by cbv
  patterns_eq := by cbv
  padding_eq := by cbv
  valid_eq := by cbv

theorem flatten_eq : spaced.flatten = (some flat, []) := by decide +kernel

theorem compile_eq : spaced.compile = .ok (⟨table.data, 1, 0⟩, []) := by
  have padding : (flat.padding.filter fun regex => (Regex.parse? regex).isNone) = none := by
    decide +kernel
  have compiled : Grammar.compileFlat flat = (some ⟨table.data, 1, 0⟩, []) := by
    rw [Grammar.compileFlat, ofGrammar_flat]
    dsimp only
    rw [padding]
    cbv
  rw [Grammar.compile, Grammar.compileWithReports, flatten_eq]
  simp [compiled]

def parser : Parser where
  language := ⟨table, none⟩
  complete := .inl rfl

/-- Before a text that is nothing but padding the whole text is made up, and covers the padding. -/
theorem covers_blank : spaced.compile = .ok (⟨table.data, 1, 0⟩, []) ∧
    ∃ tree, (parser.parseUnless (fun _ => false) " ").result = .ok tree ∧
      tree.placeholders = [Tree.root] ∧ (tree.info Tree.root).start < (tree.info Tree.root).stop := by
  have parsed : (parser.parseUnless (fun _ => false) " ").result.toOption.map
      (fun tree => (tree.placeholders, (tree.info Tree.root).start, (tree.info Tree.root).stop)) =
      some ([0], 0, 1) := by
    cbv
  cases h : (parser.parseUnless (fun _ => false) " ").result with
  | error e =>
    rw [h] at parsed
    cases parsed
  | ok tree =>
    rw [h] at parsed
    have found := Option.some.inj parsed
    simp only [Prod.mk.injEq] at found
    obtain ⟨hids, hstart, hstop⟩ := found
    refine ⟨compile_eq, tree, rfl, hids, ?_⟩
    rw [hstart, hstop]
    exact Nat.one_pos

/-- The second letter is missing behind the first one, and the placeholder stays in the tree. -/
theorem keeps_second : spaced.compile = .ok (⟨table.data, 1, 0⟩, []) ∧
    ∃ tree, (parser.runOn "a" none fun _ => false).result = .ok tree ∧ tree.placeholders = [2] ∧
      ∃ head, (parser.engine "a" none fun _ => false).Accepts none head tree.green ∧
        tree.Keeps head.stack.subtrees := by
  have parsed : (parser.runOn "a" none fun _ => false).result.toOption.map
      (fun tree => (tree.placeholders, tree.green.isError, tree.green.children.all fun c => !c.extra)) =
      some ([2], false, true) := by
    cbv
  cases h : (parser.runOn "a" none fun _ => false).result with
  | error e =>
    rw [h] at parsed
    cases parsed
  | ok tree =>
    rw [h] at parsed
    have found := Option.some.inj parsed
    simp only [Prod.mk.injEq, List.all_eq_true, Bool.not_eq_true'] at found
    obtain ⟨hids, herror, hextra⟩ := found
    have fresh : ∀ r : ReuseCursor, none = some r → ∃ old, parser.language.Makes old ∧
        r.root = old.green ∧ r.edit.newTextLen old.source.utf8ByteSize = some "a".utf8ByteSize := by
      intro r hr
      cases hr
    obtain ⟨⟨head, haccept | hwrap⟩, keeps, -⟩ :=
      Language.keeps_placeholders compile_eq (l := parser.language) rfl rfl fresh h
    · have kept := keeps head haccept (haccept.not_surrounded herror hextra)
      exact ⟨compile_eq, tree, rfl, hids, head, haccept, kept⟩
    · rw [hwrap.isError] at herror
      cases herror

end Spaced

end IncrementalGlr
