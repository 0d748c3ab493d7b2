import IncrementalGlr.Proofs.Parse.Extent
import IncrementalGlr.Proofs.Tree.Derivation
import IncrementalGlr.Proofs.Tree.Navigation

/-!
Trees of parses are their green subtrees without what is not shown. Whatever parser made a tree, from
scratch or after an edit and with whatever limits, the subtree of the tree is no longer than its text
(`Tree.Made.fits`). So the numbers, ranges and relatives of its nodes and the walks over them agree with
what is shown of the subtree (`Tree.Made.flattening`).
-/
namespace IncrementalGlr

open Visible

/-- The tree of a run is made of a subtree. -/
theorem Parser.exists_ofSubtree {p : Parser} {cancelled : Nat → Bool} {text : String} {tree : Tree}
    {reuse : Option ReuseCursor} (h : (p.runOn text reuse cancelled).result = .ok tree) :
    ∃ root stats, tree = .ofSubtree p.language.table text root stats := by
  unfold runOn at h
  generalize ((p.engine text reuse cancelled).run.run).run { fuel := p.options.fuel } = outcome at h
  obtain ⟨result, c⟩ := outcome
  cases result with
  | error e => cases h
  | ok root => exact ⟨root, c.stats, (Except.ok.inj h).symm⟩

namespace Tree

/-- Trees that come from parses: from scratch, or after an edit of the text of such a tree. The old tree
may come from another parser. -/
inductive Made : Tree → Prop where
  | parse {p : Parser} {cancelled : Nat → Bool} {text : String} {tree : Tree}
      (h : (p.parseUnless cancelled text).result = .ok tree) : Made tree
  | reparse {p : Parser} {cancelled : Nat → Bool} {old : Tree} {edit : Edit} {text : String}
      {tree : Tree} (hold : Made old)
      (h : (p.reparseUnless cancelled old edit text).result = .ok tree) : Made tree

/-- A tree shows a subtree that is no longer than its text. -/
structure Fits (t : Tree) : Prop where
  shows : t.Shows (TreeBuilder.rootInfo t.table t.green t.source.utf8ByteSize) (shown t.table t.green)
  sized : t.green.Sized
  total_le : t.green.total ≤ t.source.utf8ByteSize

/-- The tree of a run fits, if what it takes over comes from such a tree. -/
theorem fits_runOn (oldSize : Nat) {p : Parser} {cancelled : Nat → Bool} {text : String} {tree : Tree}
    {reuse : Option ReuseCursor} (hreuse : ∀ r, reuse = some r → r.root.Sized ∧
      r.root.total ≤ oldSize ∧ r.edit.newTextLen oldSize = some text.utf8ByteSize)
    (h : (p.runOn text reuse cancelled).result = .ok tree) : tree.Fits := by
  obtain ⟨c, hreturns, -, -⟩ := Parser.exists_returns h
  have hsize : (p.engine text reuse cancelled).lexer.size = text.utf8ByteSize := Lexer.size_eq _
  obtain ⟨hsized, hle⟩ := Engine.reaches_of_run (by rw [hsize]; exact hreuse) hreturns
  obtain ⟨root, stats, rfl⟩ := Parser.exists_ofSubtree h
  obtain ⟨size, stands⟩ := stands_ofSubtree p.language.table text root stats
  exact ⟨⟨size, stands⟩, hsized, hsize ▸ hle⟩

theorem Made.fits {t : Tree} (h : t.Made) : t.Fits := by
  induction h with
  | @parse p cancelled text tree h =>
    exact fits_runOn 0 (fun r (hr : none = some r) => absurd hr nofun) h
  | @reparse p cancelled old edit text tree hold h ih =>
    rw [Parser.reparseUnless] at h
    split at h
    · next hedit =>
      refine fits_runOn old.source.utf8ByteSize ?_ h
      intro r hr
      obtain rfl := Option.some.inj hr
      exact ⟨ih.sized, ih.total_le, hedit⟩
    · cases h

/-- The nodes of a tree are what is shown of its subtree, and going about in the tree keeps to that. -/
structure Flattening (t : Tree) (parts : List Visible) : Prop where
  /-- The nodes are the parts, numbered in the order of the text, a part before those below it. -/
  size : t.nodes.size = parts.length
  root : t.info 0 = TreeBuilder.rootInfo t.table t.green t.source.utf8ByteSize
  info : ∀ id v, parts[id]? = some v → id ≠ 0 →
    v.place.isShown t.table = true ∧ t.info id = v.place.nodeInfo t.table
  /-- The children of a node are what is shown next below its subtree. -/
  children : ∀ id v, parts[id]? = some v →
    (t.children id).map (parts[·]?) = (v.place.shownBelow t.table none).map some
  /-- A node is a child where it says that it is one, and only the root is no child. -/
  parent : ∀ id c k, (t.children id)[k]? = some c ↔
    ∃ data, t.node? c = some data ∧ data.parent = some id ∧ data.index = k
  orphan : ∀ id < t.nodes.size, t.parent? id = none ↔ id = 0
  next : ∀ c d, t.nextSibling? c = some d ↔
    ∃ id k, (t.children id)[k]? = some c ∧ (t.children id)[k + 1]? = some d
  previous : ∀ c d, t.prevSibling? d = some c ↔
    ∃ id k, (t.children id)[k]? = some c ∧ (t.children id)[k + 1]? = some d
  /-- The root covers the text, and the children of a node stand one behind another inside it. -/
  whole : (t.info 0).start = 0 ∧ (t.info 0).stop = t.source.utf8ByteSize
  ordered : ∀ id, (t.children id).Pairwise fun c d => (t.info c).stop ≤ (t.info d).start
  inside : ∀ id, ∀ c ∈ t.children id, (t.info id).start ≤ (t.info c).start ∧
    (t.info c).start ≤ (t.info c).stop ∧ (t.info c).stop ≤ (t.info id).stop
  /-- A walk gives the node, then all below it by their numbers, and is over. -/
  walk : ∀ id < t.nodes.size, ∃ n, t.descendants id = List.range' id (n + 1) ∧
    (∀ m, (Descendants.ofNode id).take t m = (t.descendants id).take m) ∧
    ∀ x, x ∈ t.descendants id ↔ t.Below id x

namespace Fits

variable {t : Tree} {q c : Nat} {w : Visible} (h : t.Fits)

include h

/-- What is shown next below a part stands in a row inside the range of the node. -/
theorem between (hw : At 0 (shown t.table t.green) q w) :
    Between (t.info q).start (t.info q).stop w.children := by
  have inside := hw.between rfl h.sized
  by_cases hq : q = 0
  · subst hq
    obtain rfl : shown t.table t.green = w := Option.some.inj hw.getElem?
    rw [h.shows.info_root]
    refine inside.mono (Nat.zero_le _) ?_
    change 0 + t.green.total ≤ t.source.utf8ByteSize
    rw [Nat.zero_add]
    exact h.total_le
  · rw [h.shows.info_of_at hw hq]
    exact inside.mono (Nat.le_refl _) (Nat.le_of_eq (Nat.add_assoc ..).symm)

theorem ordered (hw : At 0 (shown t.table t.green) q w) :
    (t.children q).Pairwise fun c d => (t.info c).stop ≤ (t.info d).start := by
  have hrow : ((t.children q).map t.info).Pairwise fun a b => a.stop ≤ b.start := by
    rw [h.shows.map_info_children hw, List.pairwise_map]
    refine (h.between hw).pairwise.imp fun hle => ?_
    exact Nat.le_trans (Nat.le_of_eq (Nat.add_assoc ..)) hle
  exact List.pairwise_map.1 hrow

theorem inside (hw : At 0 (shown t.table t.green) q w) (hc : c ∈ t.children q) :
    (t.info q).start ≤ (t.info c).start ∧ (t.info c).start ≤ (t.info c).stop ∧
      (t.info c).stop ≤ (t.info q).stop := by
  have hinfo : t.info c ∈ (t.children q).map t.info := List.mem_map_of_mem hc
  rw [h.shows.map_info_children hw] at hinfo
  obtain ⟨x, hx, hinfo⟩ := List.mem_map.1 hinfo
  obtain ⟨hfirst, hlast⟩ := (h.between hw).inside x hx
  rw [← hinfo]
  exact ⟨hfirst, Nat.le_add_right _ _, Nat.le_trans (Nat.le_of_eq (Nat.add_assoc ..)) hlast⟩

end Fits

/-- The tree of a parse is its green subtree without what is not shown, and going about in the tree
keeps to that. -/
theorem Made.flattening {t : Tree} (h : t.Made) :
    t.Flattening (shown t.table t.green).preorder := by
  have fits := h.fits
  have shows := fits.shows
  have part {id : Nat} (hid : id < t.nodes.size) := shows.exists_at hid
  have childless {id : Nat} (hid : ¬ id < t.nodes.size) : t.children id = [] := by
    rw [children, node?, Array.getElem?_eq_none (Nat.le_of_not_lt hid)]
  exact {
    size := shows.size
    root := shows.info_root
    info id v hv hid := by
      have hat := shows.at_of_getElem? hv
      exact ⟨(hat.children_eq rfl).2.1 hid, shows.info_of_at hat hid⟩
    children id v hv := by
      have hat := shows.at_of_getElem? hv
      rw [shows.children_eq hat, ← (hat.children_eq rfl).1]
      exact hat.map_places
    parent id c k := shows.getElem?_children
    orphan id hid := shows.parent?_eq_none hid
    next c d := shows.nextSibling?_eq_some
    previous c d := shows.prevSibling?_eq_some
    whole := by rw [shows.info_root]; exact ⟨rfl, rfl⟩
    ordered id := by
      by_cases hid : id < t.nodes.size
      · obtain ⟨w, hw⟩ := part hid
        exact fits.ordered hw
      · rw [childless hid]
        exact .nil
    inside id c hc := by
      by_cases hid : id < t.nodes.size
      · obtain ⟨w, hw⟩ := part hid
        exact fits.inside hw hc
      · rw [childless hid] at hc
        cases hc
    walk id hid := by
      obtain ⟨w, hw⟩ := part hid
      have hwalk := shows.descendants hw
      have hsize := w.size_eq
      refine ⟨sizes w.children, hwalk.trans (by rw [hsize]), fun m => ?_, fun x => ?_⟩
      · have counted := shows.take hw .root m
        rw [Nat.add_sub_cancel_left] at counted
        refine counted.trans ?_
        rw [hwalk, List.range'_eq_map_range, List.range'_eq_map_range, ← List.map_take, List.take_range]
      · rw [hwalk, List.mem_range'_1, shows.below_iff hw] }

end Tree

theorem Language.Makes.made {l : Language} {tree : Tree} (h : l.Makes tree) : tree.Made := by
  induction h with
  | parse _ h => exact .parse h
  | reparse _ _ h ih => exact .reparse ih h

theorem Language.Makes.table_eq {l : Language} {tree : Tree} (h : l.Makes tree) :
    tree.table = l.table := by
  cases h with
  | parse hp h =>
    obtain ⟨root, stats, rfl⟩ := Parser.exists_ofSubtree h
    exact congrArg Language.table hp
  | reparse hp _ h =>
    rw [Parser.reparseUnless] at h
    split at h
    · obtain ⟨root, stats, rfl⟩ := Parser.exists_ofSubtree h
      exact congrArg Language.table hp
    · cases h

namespace Letter

/-- The tree of a text with a letter too many, and that of the text without the letter. -/
theorem flattening_surplus : ∃ old tree,
    (parser.parseUnless (fun _ => false) "ba").result = .ok old ∧
      (parser.reparseUnless (fun _ => false) old ⟨0, 1, 0⟩ "a").result = .ok tree ∧
      old.Flattening (Tree.shown old.table old.green).preorder ∧
      tree.Flattening (Tree.shown tree.table tree.green).preorder := by
  have parsed : ((parser.parseUnless (fun _ => false) "ba").result.bind fun old =>
      (parser.reparseUnless (fun _ => false) old ⟨0, 1, 0⟩ "a").result).isOk = true := by
    cbv
  cases hold : (parser.parseUnless (fun _ => false) "ba").result with
  | error e =>
    rw [hold] at parsed
    cases parsed
  | ok old =>
    rw [hold] at parsed
    cases htree : (parser.reparseUnless (fun _ => false) old ⟨0, 1, 0⟩ "a").result with
    | error e =>
      rw [Except.bind, htree] at parsed
      cases parsed
    | ok tree =>
      exact ⟨old, tree, rfl, htree, Tree.Made.flattening (.parse hold),
        Tree.Made.flattening (.reparse (.parse hold) htree)⟩

end Letter

end IncrementalGlr
