import Mathlib
import IncrementalGlr.Proofs.Parse.Accounting
import IncrementalGlr.Proofs.Tree.Derivation
import IncrementalGlr.Proofs.Tree.Errors
import IncrementalGlr.Proofs.Tree.Flattening

/-!
Accounts of errors in trees. The heads of a parse count the errors on their stacks, and so do the trees
that it leads to: a tree has as many named error nodes as its root counts, and a node is marked if it is
one or has one below it (`Language.accounted`). That holds of every tree of a language, parsed from
scratch or after any number of edits, if its symbols do not reach up to the number of errors. A language
with more symbols has one that passes for an error.
-/
namespace IncrementalGlr

open Visible Subtree

/-- A node is a named error: something was skipped or made up there. -/
def NodeInfo.isNamedError (info : NodeInfo) : Bool := info.kind == errorSymbol && info.named

/-- A place is shown as a named error exactly if its subtree is a fault. -/
theorem Place.isNamedError_nodeInfo {t : ParseTable} (hsymbols : t.symbolCount ≤ errorSymbol)
    {p : Place} (hp : p.Plain t) : (p.nodeInfo t).isNamedError = p.subtree.isFault := by
  cases hrenamed : p.renamed with
  | none =>
    cases herror : p.subtree.isError with
    | true =>
      have hsymbol : p.subtree.symbol = errorSymbol := beq_iff_eq.1 herror
      simp [NodeInfo.isNamedError, nodeInfo, hrenamed, isFault, herror, hsymbol]
    | false =>
      have hsymbol : p.subtree.symbol ≠ errorSymbol := fun h => by simp [isError, h] at herror
      simp [NodeInfo.isNamedError, nodeInfo, hrenamed, isFault, herror, hsymbol]
  | some s =>
    obtain ⟨hlt, herror⟩ := hp s hrenamed
    have hs : s ≠ errorSymbol := Nat.ne_of_lt (Nat.lt_of_lt_of_le hlt hsymbols)
    simp [NodeInfo.isNamedError, nodeInfo, hrenamed, isFault, herror, hs]

/-- The root is shown as a named error exactly if it is an error, even one over nothing. -/
theorem TreeBuilder.isNamedError_rootInfo (t : ParseTable) (root : Subtree) (length : Nat) :
    (rootInfo t root length).isNamedError = root.isError := by
  cases herror : root.isError with
  | true =>
    have hsymbol : root.symbol = errorSymbol := beq_iff_eq.1 herror
    simp [NodeInfo.isNamedError, rootInfo, ParseTable.isNamed, hsymbol]
  | false =>
    have hsymbol : root.symbol ≠ errorSymbol := fun h => by simp [Subtree.isError, h] at herror
    simp [NodeInfo.isNamedError, rootInfo, hsymbol]

namespace Tree

/-- The errors of a tree are accounted for: the root counts the named error nodes, and a node is marked
if it is one or has one below it. -/
structure Accounts (t : Tree) : Prop where
  errors : t.errors.length = t.green.errorCount
  hasError : t.hasError = true ↔ t.errors ≠ []
  marked : ∀ id < t.nodes.size, (t.info id).hasError = true ↔
    ∃ x, t.Below id x ∧ t.isError x = true ∧ (t.info x).named = true

variable {t : Tree} {q : Nat} {w : Visible}

section Shown

variable (hsymbols : t.table.symbolCount ≤ errorSymbol) (tallied : t.green.TalliedRoot)
  (hw : At 0 (shown t.table t.green) q w)

include tallied hw in
/-- The children of a part are tallied, and so is the part unless it is the root. -/
theorem tallied_of_at : (∀ c ∈ w.place.subtree.children, c.Tallied) ∧
    (q ≠ 0 → w.place.Plain t.table ∧ w.place.subtree.Tallied) := by
  rcases root_or_below_of_at hw with ⟨rfl, rfl⟩ | ⟨hq, hplain, hbelow⟩
  · exact ⟨tallied.children, fun h => absurd rfl h⟩
  · have here := tallied.of_mem_partsOf hbelow
    exact ⟨(tallied_iff.1 here).2, fun _ => ⟨hplain, here⟩⟩

include hsymbols tallied hw

/-- Below a part there are as many named errors as the children of its subtree count. -/
theorem countP_below : (preorderOf w.children).countP
    (fun x => (x.place.nodeInfo t.table).isNamedError) = errorCounts w.place.subtree.children := by
  obtain ⟨hchildren, -, -⟩ := hw.children_eq rfl
  have same : ∀ x ∈ preorderOf w.children,
      (x.place.nodeInfo t.table).isNamedError = x.place.subtree.isFault := by
    intro x hx
    obtain ⟨k, hk⟩ := List.getElem?_of_mem hx
    have hat := hw.trans (at_of_getElem?_preorderOf q hk)
    exact Place.isNamedError_nodeInfo hsymbols ((tallied_of_at tallied hat).2 (by omega)).1
  calc (preorderOf w.children).countP (fun x => (x.place.nodeInfo t.table).isNamedError)
      = (subtreesOf w.children).countP isFault := by
        rw [subtreesOf, List.countP_map]
        exact List.countP_congr fun x hx => by rw [same x hx]; rfl
    _ = (partsOf w.place.subtree.children).countP isFault := by
        rw [List.countP_eq_length_filter, List.countP_eq_length_filter, hchildren,
          Place.filter_shownBelow fun _ _ => isError_of_isFault]
    _ = errorCounts w.place.subtree.children := by
        exact (errorCounts_eq _ (tallied_of_at tallied hw).1).symm

variable (fits : t.Fits)
include fits

/-- A walk over a node and all below it comes by as many named errors as its subtree counts, and the
node is marked if there are any. -/
theorem countP_descendants :
    (t.descendants q).countP (fun id => (t.info id).isNamedError) = w.place.subtree.errorCount ∧
      (t.info q).hasError = decide (0 < w.place.subtree.errorCount) := by
  have below : (List.range' (q + 1) (sizes w.children)).countP
      (fun id => (t.info id).isNamedError) = errorCounts w.place.subtree.children := by
    rw [← countP_below hsymbols tallied hw, ← Function.comp_def, ← List.countP_map,
      fits.shows.map_info hw, List.countP_map]
    rfl
  have hsize : w.size = sizes w.children + 1 := w.size_eq
  rw [fits.shows.descendants hw, hsize, List.range'_succ, List.countP_cons, below]
  rcases root_or_below_of_at hw with ⟨rfl, rfl⟩ | ⟨hq, hplain, hbelow⟩
  · rw [fits.shows.info_root, TreeBuilder.isNamedError_rootInfo]
    exact ⟨tallied.errorCount.symm, rfl⟩
  · rw [fits.shows.info_of_at hw hq, Place.isNamedError_nodeInfo hsymbols hplain]
    exact ⟨(tallied_iff.1 (tallied.of_mem_partsOf hbelow)).1.symm, rfl⟩

end Shown

/-- The errors of a tree with a tallied root are accounted for. -/
theorem accounts_of_talliedRoot (made : t.Made) (hsymbols : t.table.symbolCount ≤ errorSymbol)
    (tallied : t.green.TalliedRoot) : t.Accounts := by
  have fits := made.fits
  have hroot : At 0 (shown t.table t.green) 0 (shown t.table t.green) := .root
  have herrors : t.errors.length = t.green.errorCount := by
    rw [errors, ← List.countP_eq_length_filter]
    exact (countP_descendants hsymbols tallied hroot fits).1
  refine ⟨herrors, ?_, fun id hid => ?_⟩
  · rw [hasError, decide_eq_true_iff, ← herrors, List.length_pos_iff]
  · obtain ⟨w, hw⟩ := fits.shows.exists_at hid
    obtain ⟨hcount, hmarked⟩ := countP_descendants hsymbols tallied hw fits
    obtain ⟨n, -, -, hwalk⟩ := made.flattening.walk id hid
    rw [hmarked, decide_eq_true_iff, ← hcount, List.countP_pos_iff]
    refine exists_congr fun x => ?_
    rw [hwalk, NodeInfo.isNamedError, Bool.and_eq_true]
    rfl

end Tree

/-- Errors are accounted for in every parse of a language whose symbols do not reach up to the number of
errors: its heads count the errors on their stacks, and its trees as many named error nodes as they
have. -/
theorem Language.accounted {l : Language} (hsymbols : l.table.symbolCount ≤ errorSymbol) :
    (∀ (p : Parser) (text : String) (reuse : Option ReuseCursor) (cancelled : Nat → Bool)
      (fuel : Option Nat) (h : Head), p.language = l →
      (∀ r, reuse = some r → ∃ old, l.Makes old ∧ r.root = old.green) →
      (p.engine text reuse cancelled).Live fuel h →
        h.errorCost = errorCounts h.stack.subtrees) ∧
      ∀ tree, l.Makes tree → tree.Accounts := by
  have tallied {tree : Tree} (h : l.Makes tree) : tree.green.TalliedRoot := by
    refine h.of_runs fun p text reuse cancelled root c hp hreuse hreturns => ?_
    subst hp
    exact Engine.talliedRoot_of_run (e := p.engine text reuse cancelled) hsymbols hreuse hreturns
  refine ⟨fun p text reuse cancelled fuel h hp hreuse hlive => ?_, fun tree h => ?_⟩
  · subst hp
    refine hlive.errorCost_eq hsymbols fun r hr => ?_
    obtain ⟨old, hold, hroot⟩ := hreuse r hr
    exact hroot ▸ tallied hold
  · exact Tree.accounts_of_talliedRoot h.made (h.table_eq ▸ hsymbols) (tallied h)

namespace Letter

/-- The tree of a text with a letter too many has one named error, which its root counts. -/
theorem accounted_surplus : table.symbolCount ≤ errorSymbol ∧
    ∃ tree, (parser.parseUnless (fun _ => false) "ba").result = .ok tree ∧ tree.Accounts ∧
      tree.errors = [1] := by
  have few : table.symbolCount ≤ errorSymbol := by decide
  have parsed : (parser.parseUnless (fun _ => false) "ba").result.toOption.map Tree.errors =
      some [1] := by
    cbv
  cases h : (parser.parseUnless (fun _ => false) "ba").result with
  | error e =>
    rw [h] at parsed
    cases parsed
  | ok tree =>
    rw [h] at parsed
    exact ⟨few, tree, rfl, (Language.accounted (l := parser.language) few).2 tree (.parse rfl h),
      Option.some.inj parsed⟩

end Letter

end IncrementalGlr
