import IncrementalGlr.Proofs.Parse.Guided
import IncrementalGlr.Proofs.Tree.Coverage

/-!
Trees of real derivation steps. Every tree of a language whose grammar was compiled, parsed from
scratch or after any number of edits, with or without errors, is made of nodes that follow their
productions, of tokens and of error nodes; the root is a node of the start symbol or an error node;
and without errors the tree is a derivation of its tokens from the start symbol, where those that were
taken as extras are left out (`Language.follows_of_makes`).
-/
namespace IncrementalGlr

/-- The trees of a language: texts are parsed from scratch, and after edits with the help of the tree
from before, with any limits, and whenever the parse is not told to stop. -/
inductive Language.Makes (l : Language) : Tree → Prop where
  | parse {p : Parser} {cancelled : Nat → Bool} {text : String} {tree : Tree}
      (hp : p.language = l) (h : (p.parseUnless cancelled text).result = .ok tree) : Makes l tree
  | reparse {p : Parser} {cancelled : Nat → Bool} {old tree : Tree} {edit : Edit} {text : String}
      (hp : p.language = l) (hold : Makes l old)
      (h : (p.reparseUnless cancelled old edit text).result = .ok tree) : Makes l tree

/-- A tree is built along the productions of a table: all its parts conform to them, its root is a
node of the start symbol or an error, and if it has no error the start symbol of the grammar derives
its tokens, extras left out. -/
structure Tree.Follows (tree : Tree) (t : ParseTable) (flat : FlatGrammar) : Prop where
  parts : ∀ x ∈ tree.green.parts, x.Conforms t
  root : tree.green.symbol = flat.start ∨ tree.green.isError = true
  derives : tree.hasError = false → flat.Derives [flat.start] tree.green.sentence

variable {g : Grammar} {compiled : Compiled} {reports : List Diagnostic} {flat : FlatGrammar}

theorem Subtree.GenuineRoot.follows {t : ParseTable} (hflat : Flat.Draft.EndApart flat)
    {actions : ActionTable} (ht : t.data = .ofActions flat actions) {tree : Tree}
    (h : tree.green.GenuineRoot t) : tree.Follows t flat := by
  have hstart : t.data.startSymbol = flat.start := by rw [ht]; rfl
  refine ⟨h.genuine.conforms_parts, ?_, fun hnone => ?_⟩
  · rw [← hstart]
    exact h.start.imp And.left And.left
  · have hcount : tree.green.errorCount = 0 :=
      Nat.eq_zero_of_not_pos fun hpos => by simp [Tree.hasError, hpos] at hnone
    obtain ⟨hsymbol, hextra, hmissing⟩ := h.start.resolve_right fun h => Nat.ne_of_gt h.2 hcount
    have hrole : tree.green.role = flat.start := by
      rw [role, hmissing, Option.getD_none, hsymbol, hstart]
    have hne : flat.start ≠ endSymbol := by
      rw [hflat.start]
      exact Nat.ne_of_gt hflat.terminalCount_pos
    have := (h.genuine.yields (g := flat) (by rw [ht]; rfl) (by rw [ht]; rfl) hflat.rhs hcount).2
      hextra (hrole ▸ hne)
    rw [hrole] at this
    exact this.derives

namespace Language

variable {l : Language}

/-- What the root of every run has, if the old root has it, all trees of a language have. -/
theorem Makes.of_runs {R : Subtree → Prop}
    (runs : ∀ (p : Parser) (text : String) (reuse : Option ReuseCursor) (cancelled : Nat → Bool)
      (root : Subtree) (c : Configuration), p.language = l → (∀ r, reuse = some r → R r.root) →
      Parsing.Returns (p.engine text reuse cancelled).run { fuel := p.options.fuel } root c → R root)
    {tree : Tree} (h : l.Makes tree) : R tree.green := by
  induction h with
  | @parse p cancelled text tree hp h =>
    obtain ⟨c, hreturns, -⟩ := Parser.exists_returns h
    exact runs p text none cancelled _ c hp nofun hreturns
  | @reparse p cancelled old tree edit text hp _ h ih =>
    unfold Parser.reparseUnless at h
    dsimp only at h
    split at h
    · obtain ⟨c, hreturns, -⟩ := Parser.exists_returns h
      refine runs p text (some ⟨old.green, edit⟩) cancelled _ c hp (fun r hr => ?_) hreturns
      cases hr
      exact ih
    · cases h

theorem isTerminal_startSymbol (hg : g.compile = .ok (compiled, reports))
    (hl : l.table.data = compiled.table) :
    l.table.isTerminal l.table.data.startSymbol = false := by
  obtain ⟨flat, a, hflat, builds⟩ := Grammar.exists_of_compile hg
  rw [ParseTable.isTerminal, ParseTable.terminalCount, hl, builds.table]
  exact decide_eq_false (Nat.not_lt.2 (Nat.le_of_eq (Grammar.endApart_of_flatten hflat).start.symm))

/-- The table of a grammar that was compiled makes nothing but genuine trees. -/
theorem Makes.genuine (hg : g.compile = .ok (compiled, reports)) (hl : l.table.data = compiled.table)
    {tree : Tree} (h : l.Makes tree) : tree.green.GenuineRoot l.table := by
  obtain ⟨On, guides⟩ := Grammar.exists_guides_of_compile hg hl
  have hstart := isTerminal_startSymbol hg hl
  refine h.of_runs fun p text reuse cancelled root c hp hreuse hreturns => ?_
  subst hp
  exact Engine.genuine_of_run (e := p.engine text reuse cancelled) guides hstart
    (fun r hr => (hreuse r hr).genuine) hreturns

end Language

namespace Letter

end Letter

end IncrementalGlr
