import IncrementalGlr.Proofs.Parse.Genuine
import IncrementalGlr.Proofs.Text.Edit

/-!
Which old subtrees are candidates for reuse. A subtree is told apart from others that are equal to it by
its path, the numbers of the children that lead to it, and where it begins is what the children in
front of the path cover (`Subtree.locate`). The search for candidates follows one path only. In a tree
whose nodes are as long as their children together this is enough (`ReuseCursor.offers_exact`): all
subtrees with padding or text that begin at one offset lie on one path, since whatever stands beside
the path ends at or before that offset or begins behind it (`Subtree.locate_bounds`).
-/
namespace IncrementalGlr

namespace Subtree

/-! ## Paths -/

/-- The subtree at the end of a path of child numbers, with the offset at which it begins when the
whole tree begins at `offset`. -/
def locate (t : Subtree) (offset : Nat) : List Nat → Option (Nat × Subtree)
  | [] => some (offset, t)
  | i :: path => t.children[i]?.bind fun c => c.locate (offset + totals (t.children.take i)) path

/-- The same among subtrees that stand one after another from `offset` on; the first number of the
path chooses one of them. -/
def locateAmong (ts : List Subtree) (offset : Nat) : List Nat → Option (Nat × Subtree)
  | [] => none
  | i :: path => ts[i]?.bind fun c => c.locate (offset + totals (ts.take i)) path

/-- Every node with children is as long as they are together. -/
def Totalled (t : Subtree) : Prop :=
  ∀ x ∈ t.parts, x.children ≠ [] → x.total = totals x.children

variable {t x : Subtree} {ts : List Subtree} {offset start i : Nat} {path : List Nat}

theorem locate_of_ne_nil (h : path ≠ []) : t.locate offset path = locateAmong t.children offset path := by
  cases path with
  | nil => exact absurd rfl h
  | cons i path => rfl

@[simp] theorem locateAmong_succ : locateAmong (t :: ts) offset ((i + 1) :: path) =
    locateAmong ts (offset + t.total) (i :: path) := by
  simp only [locateAmong, List.getElem?_cons_succ, List.take_succ_cons, totals, Nat.add_assoc]

theorem totalled_iff : t.Totalled ↔
    (t.children ≠ [] → t.total = totals t.children) ∧ ∀ c ∈ t.children, c.Totalled :=
  forall_parts

theorem Totalled.totals_children_le (h : t.Totalled) : totals t.children ≤ t.total := by
  by_cases hnil : t.children = []
  · rw [hnil]
    exact Nat.zero_le _
  · exact Nat.le_of_eq ((totalled_iff.1 h).1 hnil).symm

theorem totals_take_le {c : Subtree} (h : ts[i]? = some c) :
    totals (ts.take i) + c.total ≤ totals ts := by
  induction ts generalizing i with
  | nil => cases h
  | cons t ts ih =>
    cases i with
    | zero =>
      obtain rfl := Option.some.inj h
      simp only [List.take_zero, totals]
      omega
    | succ i =>
      have := ih (i := i) h
      simp only [List.take_succ_cons, totals]
      omega

/-- What is found along a path lies within the tree. -/
theorem locate_bounds (ht : t.Totalled) (h : t.locate offset path = some (start, x)) :
    offset ≤ start ∧ start + x.total ≤ offset + t.total := by
  induction path generalizing t offset with
  | nil =>
    obtain ⟨rfl, rfl⟩ := Prod.mk.inj (Option.some.inj h)
    exact ⟨Nat.le_refl _, Nat.le_refl _⟩
  | cons i path ih =>
    obtain ⟨c, hc, hpath⟩ := Option.bind_eq_some_iff.1 h
    have inside := ih ((totalled_iff.1 ht).2 c (List.mem_of_getElem? hc)) hpath
    have := totals_take_le hc
    have := ht.totals_children_le
    omega

/-- What is found among subtrees lies behind their beginning. -/
theorem le_of_locateAmong (hts : ∀ t ∈ ts, t.Totalled)
    (h : locateAmong ts offset path = some (start, x)) : offset ≤ start := by
  cases path with
  | nil => cases h
  | cons i path =>
    obtain ⟨c, hc, hpath⟩ := Option.bind_eq_some_iff.1 h
    have := (locate_bounds (hts c (List.mem_of_getElem? hc)) hpath).1
    omega

end Subtree

namespace ReuseCursor

open Subtree

/-! ## The search -/

/-- A subtree that may be offered at an offset of the old text: it has padding or text, and the edit
touches neither it nor what was looked at behind it. -/
structure Fit (edit : Edit) (target : Nat) (t : Subtree) : Prop where
  positive : 0 < t.total
  untouched : edit.touches target (target + t.total + t.info.lookahead) = false

/-- The list has just what fits at the target, each subtree by its path, and every path goes on from
the one before it. -/
structure Lists (edit : Edit) (target : Nat) (place : List Nat → Option (Nat × Subtree))
    (found : List (List Nat × Subtree)) : Prop where
  mem_iff : ∀ path t, (path, t) ∈ found ↔ place path = some (target, t) ∧ Fit edit target t
  nested : found.Pairwise fun a b => a.1 <+: b.1 ∧ a.1 ≠ b.1

variable {edit : Edit} {target offset : Nat} {t : Subtree} {ts : List Subtree}
  {found : List (List Nat × Subtree)}

theorem fit_iff (hpositive : 0 < t.total) : Fit edit target t ↔ intact edit t target = true := by
  rw [intact, Bool.not_eq_true']
  exact ⟨Fit.untouched, Fit.mk hpositive⟩

/-- Nothing is listed where nothing with padding or text begins at the target. -/
theorem lists_nil {place : List Nat → Option (Nat × Subtree)}
    (h : ∀ path t, place path = some (target, t) → t.total = 0) : Lists edit target place [] where
  mem_iff path t := by
    refine ⟨nofun, fun ⟨hplace, hfit⟩ => ?_⟩
    have := hfit.positive
    have := h path t hplace
    omega
  nested := .nil

/-- What fits among the later subtrees keeps its place when a subtree is put in front in which
nothing fits. -/
theorem Lists.skip (h : Lists edit target (locateAmong ts (offset + t.total)) found)
    (hskip : ∀ path x, t.locate offset path = some (target, x) → x.total = 0) :
    Lists edit target (locateAmong (t :: ts) offset)
      (found.map fun a => (a.1.modifyHead (· + 1), a.2)) where
  mem_iff path x := by
    simp only [List.mem_map, Prod.mk.injEq]
    constructor
    · rintro ⟨⟨path, y⟩, hmem, rfl, rfl⟩
      obtain ⟨hplace, hfit⟩ := (h.mem_iff path y).1 hmem
      refine ⟨?_, hfit⟩
      cases path with
      | nil => cases hplace
      | cons i path => exact locateAmong_succ.trans hplace
    · rintro ⟨hplace, hfit⟩
      match path with
      | [] => cases hplace
      | 0 :: path =>
        have := hskip path x hplace
        have := hfit.positive
        omega
      | (i + 1) :: path =>
        rw [locateAmong_succ] at hplace
        exact ⟨(i :: path, x), (h.mem_iff _ x).2 ⟨hplace, hfit⟩, rfl, rfl⟩
  nested := by
    refine List.pairwise_map.2 (h.nested.imp_of_mem fun {a b} ha hb hab => ?_)
    obtain ⟨path, y⟩ := a
    obtain ⟨path', y'⟩ := b
    obtain ⟨hleads, hne⟩ := hab
    match path, path' with
    | [], _ => cases ((h.mem_iff _ _).1 ha).1
    | _, [] => cases ((h.mem_iff _ _).1 hb).1
    | i :: path, j :: path' =>
      obtain ⟨rfl, htail⟩ := List.cons_prefix_cons.1 hleads
      exact ⟨List.cons_prefix_cons.2 ⟨rfl, htail⟩, by simpa using hne⟩

/-- Where a subtree reaches over the target, all that fits is itself or below it. -/
theorem Lists.enter (h : Lists edit target (locateAmong t.children offset) found)
    (hreach : target < offset + t.total) (hts : ∀ t ∈ ts, t.Totalled) :
    Lists edit target (locateAmong (t :: ts) offset)
      ((if offset == target && intact edit t offset then [([0], t)] else []) ++
        found.map fun a => (0 :: a.1, a.2)) where
  mem_iff path x := by
    have here : (path, x) ∈ (if offset == target && intact edit t offset then [([0], t)] else []) ↔
        path = [0] ∧ x = t ∧ offset = target ∧ intact edit t offset = true := by
      split
      next hhere =>
        obtain ⟨rfl, hintact⟩ : offset = target ∧ intact edit t offset = true := by simpa using hhere
        simp [hintact]
      next hhere =>
        have : ¬ (offset = target ∧ intact edit t offset = true) := by simpa using hhere
        simp [this]
    rw [List.mem_append, here]
    simp only [List.mem_map, Prod.mk.injEq]
    constructor
    · rintro (⟨rfl, rfl, rfl, hintact⟩ | ⟨⟨path, y⟩, hmem, rfl, rfl⟩)
      · exact ⟨rfl, (fit_iff (by omega)).2 hintact⟩
      · obtain ⟨hplace, hfit⟩ := (h.mem_iff path y).1 hmem
        refine ⟨?_, hfit⟩
        have hne : path ≠ [] := by
          rintro rfl
          cases hplace
        exact (locate_of_ne_nil hne).trans hplace
    · rintro ⟨hplace, hfit⟩
      match path with
      | [] => cases hplace
      | [0] =>
        obtain ⟨rfl, rfl⟩ := Prod.mk.inj (Option.some.inj hplace)
        exact .inl ⟨rfl, rfl, rfl, (fit_iff hfit.positive).1 hfit⟩
      | 0 :: i :: path =>
        exact .inr ⟨(i :: path, x), (h.mem_iff _ x).2 ⟨hplace, hfit⟩, rfl, rfl⟩
      | (i + 1) :: path =>
        rw [locateAmong_succ] at hplace
        have := le_of_locateAmong hts hplace
        omega
  nested := by
    refine List.pairwise_append.2 ⟨?_, ?_, ?_⟩
    · split
      · exact List.pairwise_singleton _ _
      · exact .nil
    · refine List.pairwise_map.2 (h.nested.imp fun hab => ?_)
      exact ⟨List.cons_prefix_cons.2 ⟨rfl, hab.1⟩, by simpa using hab.2⟩
    · intro a ha b hb
      obtain ⟨⟨path, y⟩, hmem, rfl⟩ := List.mem_map.1 hb
      have hne : path ≠ [] := by
        rintro rfl
        cases ((h.mem_iff _ _).1 hmem).1
      split at ha
      · obtain rfl := List.mem_singleton.1 ha
        exact ⟨List.cons_prefix_cons.2 ⟨rfl, List.nil_prefix⟩, by simpa using hne.symm⟩
      · cases ha

mutual

/-- The search below a node finds what fits there. -/
theorem exists_lists_in (edit : Edit) (target offset : Nat) : (t : Subtree) → t.Totalled →
    ∃ found, candidatesIn edit target offset t = found.map Prod.snd ∧
      Lists edit target (locateAmong t.children offset) found
  | .mk _ children, h => by
    rw [candidatesIn]
    exact exists_lists_among edit target offset children (totalled_iff.1 h).2

theorem exists_lists_among (edit : Edit) (target offset : Nat) :
    (ts : List Subtree) → (∀ t ∈ ts, t.Totalled) →
      ∃ found, candidatesAmong edit target offset ts = found.map Prod.snd ∧
        Lists edit target (locateAmong ts offset) found
  | [], _ => ⟨[], by rw [candidatesAmong]; rfl, lists_nil fun path t h => by cases path <;> cases h⟩
  | t :: rest, h => by
    obtain ⟨ht, hrest⟩ := List.forall_mem_cons.1 h
    rw [candidatesAmong]
    split
    next hskip =>
      -- The subtree ends at or before the target, or nothing in it has padding or text.
      obtain ⟨found, hfound, hlists⟩ := exists_lists_among edit target (offset + t.total) rest hrest
      refine ⟨_, ?_, hlists.skip fun path x hplace => ?_⟩
      · rw [hfound, List.map_map]
        rfl
      · have := locate_bounds ht hplace
        rw [Bool.or_eq_true, decide_eq_true_eq, beq_iff_eq] at hskip
        omega
    next hskip =>
      rw [Bool.or_eq_true, decide_eq_true_eq, beq_iff_eq, not_or, Nat.not_le] at hskip
      split
      next hbehind =>
        refine ⟨[], rfl, lists_nil fun path x hplace => ?_⟩
        have := le_of_locateAmong h hplace
        omega
      next hbehind =>
        obtain ⟨found, hfound, hlists⟩ := exists_lists_in edit target offset t ht
        refine ⟨_, ?_, hlists.enter hskip.1 hrest⟩
        rw [hfound, List.map_append, List.map_map]
        dsimp only
        split <;> rfl

end

/-! ## Candidates -/

/-- The subtree at the end of the path is below the root, begins at the old offset, and fits there. -/
structure Offers (r : ReuseCursor) (target : Nat) (path : List Nat) (t : Subtree) : Prop
    extends Fit r.edit target t where
  below : path ≠ []
  located : r.root.locate 0 path = some (target, t)

/-- In the replaced part nothing is offered. Elsewhere the candidates are all subtrees below the root
that begin at the old offset, have padding or text, and were not touched; they lie on one path, each
once, the outermost first. -/
theorem offers_exact {r : ReuseCursor} (hroot : r.root.Totalled) (hedit : r.edit.isWellFormed = true)
    (position : Nat) :
    (r.edit.start ≤ position → position < r.edit.newEnd → r.candidates position = []) ∧
    (position < r.edit.start ∨ r.edit.newEnd ≤ position →
      ∃ target, (target < r.edit.start ∨ r.edit.oldEnd ≤ target) ∧
        r.edit.mapOffset target = position ∧
        ∃ offered : List (List Nat × Subtree), r.candidates position = offered.map Prod.snd ∧
          (∀ path t, (path, t) ∈ offered ↔ r.Offers target path t) ∧
          offered.Pairwise fun a b => a.1 <+: b.1 ∧ a.1 ≠ b.1) := by
  rw [Edit.isWellFormed, Bool.and_eq_true, decide_eq_true_eq, decide_eq_true_eq] at hedit
  obtain ⟨hold, hnew⟩ := hedit
  constructor
  · intro hstart hend
    rw [candidates, oldOffset, if_neg (by omega), if_neg (by omega)]
  · intro hposition
    obtain ⟨target, htarget, hmap⟩ := Edit.mapOffset_oldOffset hold hnew hposition
    have houtside : target < r.edit.start ∨ r.edit.oldEnd ≤ target := by
      rcases hposition with h | h
      · rw [oldOffset, if_pos h] at htarget
        obtain rfl := Option.some.inj htarget
        exact .inl h
      · rw [Edit.oldOffset_of_le hnew h] at htarget
        obtain rfl := Option.some.inj htarget
        exact .inr (Nat.le_add_right _ _)
    obtain ⟨offered, hoffered, hlists⟩ := exists_lists_in r.edit target 0 r.root hroot
    refine ⟨target, houtside, hmap, offered, ?_, fun path t => ?_, hlists.nested⟩
    · rw [candidates, htarget]
      exact hoffered
    · rw [hlists.mem_iff]
      constructor
      · rintro ⟨hplace, hfit⟩
        have hne : path ≠ [] := by
          rintro rfl
          cases hplace
        exact ⟨hfit, hne, (locate_of_ne_nil hne).trans hplace⟩
      · intro h
        exact ⟨(locate_of_ne_nil h.below).symm.trans h.located, h.toFit⟩

/-- A node over two letters. -/
def pair : Subtree :=
  .mk { symbol := 4, size := 2 } [.mk { symbol := 1, size := 1 } [], .mk { symbol := 2, size := 1 } []]

/-- The pair behind a placeholder and before a third letter. -/
def triple : Subtree :=
  .mk { symbol := 5, size := 3 }
    [.mk { symbol := errorSymbol, missing := some 3, errorCount := 1 } [], pair,
      .mk { symbol := 3, size := 1 } []]

/-- A letter is added at the end of the text: the pair and its first letter may be taken over. -/
theorem offers_exact_triple :
    let r : ReuseCursor := ⟨triple, .replace 3 0 1⟩
    (r.root.Totalled ∧ r.edit.isWellFormed = true) ∧
      r.candidates 0 = [pair, .mk { symbol := 1, size := 1 } []] ∧
      ∃ target, (target < r.edit.start ∨ r.edit.oldEnd ≤ target) ∧ r.edit.mapOffset target = 0 ∧
        ∃ offered : List (List Nat × Subtree), r.candidates 0 = offered.map Prod.snd ∧
          (∀ path t, (path, t) ∈ offered ↔ r.Offers target path t) ∧
          offered.Pairwise fun a b => a.1 <+: b.1 ∧ a.1 ≠ b.1 := by
  intro r
  have hroot : r.root.Totalled := by
    unfold Totalled
    decide
  have hedit : r.edit.isWellFormed = true := rfl
  exact ⟨⟨hroot, hedit⟩, rfl, (offers_exact hroot hedit 0).2 (.inl (by decide))⟩

end ReuseCursor

end IncrementalGlr
