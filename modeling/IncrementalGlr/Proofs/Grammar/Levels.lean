import Mathlib.Data.Finset.Card
import Mathlib.Data.Finset.Range
import Mathlib.Logic.Relation
import IncrementalGlr.Grammar.Levels
import IncrementalGlr.Proofs.Lr.Kernels

/-!
Named precedences respect all orderings. The search for the longest chains keeps that an entry that is
done leads only to entries that are done and have smaller numbers, and that every entry that it is under
way from leads to where it is (`Levels.Search.visited_visit`). So it comes back to such an entry only where
entries lead around in a circle, and where they do it comes back to one, for numbers cannot grow all the
way around (`Levels.Search.cycle_ofNext`). Hence the orderings are said to contradict each other exactly if
they do, and otherwise every entry of an ordering has a greater number than all that come after it
(`Levels.respects_orderings`).
-/
namespace IncrementalGlr.Levels

namespace Search

variable {next : Nat → List Nat} {count node value : Nat} {s s' s'' : Search}

/-- One entry is listed right before another. -/
abbrev Leads (next : Nat → List Nat) (i j : Nat) : Prop := j ∈ next i

/-! ## Marks and numbers -/

theorem getD_setIfInBounds {α : Type} {row : Array α} {value default : α} (h : node < row.size)
    (i : Nat) : ((row.setIfInBounds node value)[i]?).getD default =
      if i = node then value else (row[i]?).getD default := by
  rw [Array.getElem?_setIfInBounds]
  by_cases hi : node = i
  · simp [hi, hi ▸ h]
  · simp [hi, Ne.symm hi]

theorem markOf_enter (h : node < s.marks.size) (i : Nat) :
    (s.enter node).markOf i = if i = node then .active else s.markOf i := getD_setIfInBounds h i

theorem markOf_leave (h : node < s.marks.size) (i : Nat) :
    (s.leave node value).markOf i = if i = node then .done else s.markOf i := getD_setIfInBounds h i

theorem valueOf_leave (h : node < s.values.size) (i : Nat) :
    (s.leave node value).valueOf i = if i = node then value else s.valueOf i := getD_setIfInBounds h i

/-- The entries with which the search has not begun. -/
def fresh (count : Nat) (s : Search) : Finset Nat :=
  (Finset.range count).filter fun i => s.markOf i = .fresh

theorem mem_fresh {i : Nat} : i ∈ fresh count s ↔ i < count ∧ s.markOf i = .fresh := by
  rw [fresh, Finset.mem_filter, Finset.mem_range]

/-! ## One visit -/

/-- What the search has found is right. A cycle is one of the entries; until there is one, what is done
leads only to what is done and has a smaller number. -/
structure Sound (next : Nat → List Nat) (count : Nat) (s : Search) : Prop where
  marks : s.marks.size = count
  values : s.values.size = count
  cycle : s.cycle = true → ∃ i, Relation.TransGen (Leads next) i i
  settled : s.cycle = false → ∀ i < count, s.markOf i = .done →
    ∀ j ∈ next i, s.markOf j = .done ∧ s.valueOf j < s.valueOf i

/-- The search goes on from one state to another, and is under way from the same entries as before. -/
structure Continues (s s' : Search) : Prop where
  cycle : s.cycle = true → s'.cycle = true
  active : ∀ i, s'.markOf i = .active ↔ s.markOf i = .active
  done : ∀ i, s.markOf i = .done → s'.markOf i = .done ∧ s'.valueOf i = s.valueOf i

namespace Continues

theorem refl (s : Search) : s.Continues s := ⟨id, fun _ => .rfl, fun _ h => ⟨h, rfl⟩⟩

theorem trans (h : s.Continues s') (h' : s'.Continues s'') : s.Continues s'' where
  cycle hc := h'.cycle (h.cycle hc)
  active i := (h'.active i).trans (h.active i)
  done i hi :=
    have ⟨hdone, hvalue⟩ := h.done i hi
    have ⟨hdone', hvalue'⟩ := h'.done i hdone
    ⟨hdone', hvalue'.trans hvalue⟩

theorem cycle_eq_false (h : s.Continues s') (hc : s'.cycle = false) : s.cycle = false :=
  Bool.eq_false_iff.2 fun hs => Bool.false_ne_true (hc.symm.trans (h.cycle hs))

theorem fresh_subset (h : s.Continues s') : fresh count s' ⊆ fresh count s := by
  intro i hi
  obtain ⟨hlt, hfresh⟩ := mem_fresh.1 hi
  refine mem_fresh.2 ⟨hlt, ?_⟩
  cases hmark : s.markOf i with
  | fresh => rfl
  | active => cases hfresh.symm.trans ((h.active i).2 hmark)
  | done => cases hfresh.symm.trans (h.done i hmark).1

end Continues

/-- What comes of a visit to an entry: it is done, unless a cycle was found. -/
structure Visited (next : Nat → List Nat) (count : Nat) (s : Search) (node : Nat)
    (result : Nat × Search) : Prop where
  sound : result.2.Sound next count
  continues : s.Continues result.2
  done : result.2.cycle = false → result.2.markOf node = .done ∧ result.2.valueOf node = result.1

/-- The number is greater than those of all entries that were visited, and these are done. -/
structure Exceeds (next : Nat → List Nat) (count : Nat) (s : Search) (row : List Nat) (value : Nat)
    (result : Nat × Search) : Prop where
  sound : result.2.Sound next count
  continues : s.Continues result.2
  le : value ≤ result.1
  exceeds : result.2.cycle = false →
    ∀ j ∈ row, result.2.markOf j = .done ∧ result.2.valueOf j < result.1

/-- Visiting several entries one after another. -/
theorem exceeds_foldl {visit : Nat → Search → Nat × Search} {row : List Nat} {first : Search}
    (hvisit : ∀ after ∈ row, ∀ s, s.Sound next count → first.Continues s →
      Visited next count s after (visit after s))
    (value : Nat) (hs : s.Sound next count) (hfirst : first.Continues s) :
    Exceeds next count s row value (row.foldl (fun (value, s) after =>
      let (length, s) := visit after s
      (max value (length + 1), s)) (value, s)) := by
  induction row generalizing value s with
  | nil => exact ⟨hs, .refl s, Nat.le_refl _, nofun⟩
  | cons after row ih =>
    have here := hvisit after List.mem_cons_self s hs hfirst
    rw [List.foldl_cons]
    dsimp only
    generalize visit after s = visited at here ⊢
    obtain ⟨length, s'⟩ := visited
    obtain ⟨sound, continues, le, exceeds⟩ := ih
      (fun j hj => hvisit j (List.mem_cons_of_mem _ hj)) (max value (length + 1)) here.sound
      (hfirst.trans here.continues)
    refine ⟨sound, here.continues.trans continues, (Nat.le_max_left ..).trans le, fun hc j hj => ?_⟩
    rcases List.mem_cons.1 hj with rfl | hj
    · obtain ⟨hdone, hvalue⟩ := here.done (continues.cycle_eq_false hc)
      obtain ⟨hdone', hvalue'⟩ := continues.done j hdone
      refine ⟨hdone', Nat.lt_of_lt_of_le ?_ ((Nat.le_max_right ..).trans le)⟩
      rw [hvalue', hvalue]
      exact Nat.lt_succ_self _
    · exact exceeds hc j hj

section Enter

variable (hs : s.Sound next count) (hnode : node < count) (hfresh : s.markOf node = .fresh)
include hs hnode hfresh

theorem Sound.enter : (s.enter node).Sound next count where
  marks := by rw [Search.enter, Array.size_setIfInBounds, hs.marks]
  values := hs.values
  cycle := hs.cycle
  settled hc i hi hdone j hj := by
    rw [markOf_enter (hs.marks.symm ▸ hnode)] at hdone ⊢
    split at hdone
    · cases hdone
    · obtain ⟨hdone', hlt⟩ := hs.settled hc i hi hdone j hj
      rw [if_neg fun h => nomatch (h ▸ hfresh).symm.trans hdone']
      exact ⟨hdone', hlt⟩

theorem card_fresh_enter : (fresh count (s.enter node)).card < (fresh count s).card := by
  refine Finset.card_lt_card (Finset.ssubset_iff_of_subset (fun i hi => ?_) |>.2
    ⟨node, mem_fresh.2 ⟨hnode, hfresh⟩, fun h => ?_⟩)
  · obtain ⟨hlt, hi⟩ := mem_fresh.1 hi
    rw [markOf_enter (hs.marks.symm ▸ hnode)] at hi
    split at hi
    · cases hi
    · exact mem_fresh.2 ⟨hlt, hi⟩
  · have := (mem_fresh.1 h).2
    rw [markOf_enter (hs.marks.symm ▸ hnode), if_pos rfl] at this
    cases this

/-- When all that an entry leads to has been visited, the entry is done. -/
theorem visited_of_exceeds {least : Nat}
    (h : Exceeds next count (s.enter node) (next node) least (value, s')) :
    Visited next count s node (value, s'.leave node value) := by
  obtain ⟨sound, continues, -, exceeds⟩ := h
  dsimp only at sound continues exceeds
  have marks : node < s'.marks.size := sound.marks.symm ▸ hnode
  have values : node < s'.values.size := sound.values.symm ▸ hnode
  have entered := markOf_enter (hs.marks.symm ▸ hnode : node < s.marks.size)
  -- The search is still under way from the entry, so nothing that is done is the entry itself.
  have underWay : s'.markOf node = .active := (continues.active node).2 (by rw [entered, if_pos rfl])
  have apart {i : Nat} (hi : s'.markOf i = .done) : i ≠ node := fun h =>
    nomatch (h ▸ underWay).symm.trans hi
  have kept {i : Nat} (hi : s'.markOf i = .done) : (s'.leave node value).markOf i = .done ∧
      (s'.leave node value).valueOf i = s'.valueOf i := by
    rw [markOf_leave marks, valueOf_leave values, if_neg (apart hi), if_neg (apart hi)]
    exact ⟨hi, rfl⟩
  refine ⟨⟨?_, ?_, sound.cycle, fun hc i hi hdone j hj => ?_⟩,
    ⟨continues.cycle, fun i => ?_, fun i hi => ?_⟩, fun _ => ?_⟩
  · rw [leave, Array.size_setIfInBounds, sound.marks]
  · rw [leave, Array.size_setIfInBounds, sound.values]
  · rw [markOf_leave marks] at hdone
    split at hdone
    · next h =>
      obtain ⟨hdone, hlt⟩ := exceeds hc j (h ▸ hj)
      obtain ⟨hkept, hvalue⟩ := kept hdone
      exact ⟨hkept, by rw [hvalue, valueOf_leave values, if_pos h]; exact hlt⟩
    · next h =>
      obtain ⟨hdone, hlt⟩ := sound.settled hc i hi hdone j hj
      obtain ⟨hkept, hvalue⟩ := kept hdone
      exact ⟨hkept, by rw [hvalue, valueOf_leave values, if_neg h]; exact hlt⟩
  · rw [markOf_leave marks]
    split
    · next h => simp [h, hfresh]
    · next h => rw [continues.active, entered, if_neg h]
  · have hne : i ≠ node := fun h => nomatch (h ▸ hfresh).symm.trans hi
    obtain ⟨hdone, hvalue⟩ := continues.done i (by rw [entered, if_neg hne]; exact hi)
    obtain ⟨hkept, hvalue'⟩ := kept hdone
    exact ⟨hkept, hvalue'.trans hvalue⟩
  · rw [markOf_leave marks, valueOf_leave values, if_pos rfl, if_pos rfl]
    exact ⟨rfl, rfl⟩

end Enter

section Visit

variable (hnext : ∀ i, ∀ j ∈ next i, j < count)
include hnext

/-- A visit is right if all entries that the search is under way from lead to the one that is visited, and
it may go as deep as there are entries with which it has not begun. -/
theorem visited_visit {depth : Nat} (hdepth : (fresh count s).card < depth) (hnode : node < count)
    (hs : s.Sound next count)
    (hpath : ∀ a, s.markOf a = .active → Relation.TransGen (Leads next) a node) :
    Visited next count s node (visit next depth node s) := by
  -- By induction on the depth: an entry with which the search begins is one fewer to begin with.
  induction depth generalizing s node with
  | zero => exact absurd hdepth (Nat.not_lt_zero _)
  | succ depth ih =>
    rw [visit]
    cases hmark : s.markOf node with
    | done => exact ⟨hs, .refl s, fun _ => ⟨hmark, rfl⟩⟩
    | active =>
      refine ⟨⟨hs.marks, hs.values, fun _ => ⟨node, hpath node hmark⟩, nofun⟩, ⟨fun _ => rfl, fun _ => .rfl,
        fun _ h => ⟨h, rfl⟩⟩, nofun⟩
    | fresh =>
      have entered := hs.enter hnode hmark
      have fewer := card_fresh_enter hs hnode hmark
      refine visited_of_exceeds hs hnode hmark (exceeds_foldl (fun after hafter s' hs' hcontinues => ?_)
        1 entered (.refl _))
      refine ih (Nat.lt_of_le_of_lt (Finset.card_le_card hcontinues.fresh_subset) (by omega))
        (hnext node after hafter) hs' fun a ha => ?_
      have ha := (hcontinues.active a).1 ha
      rw [markOf_enter (hs.marks.symm ▸ hnode)] at ha
      split at ha
      · next h => exact h ▸ .single hafter
      · exact (hpath a ha).tail hafter

end Visit

/-! ## The whole search -/

theorem markOf_start {i : Nat} (hi : i < count) : (start count).markOf i = .fresh := by
  simp [start, markOf, hi]

theorem not_active_start (i : Nat) : (start count).markOf i ≠ .active := by
  unfold start markOf
  rw [Array.getElem?_replicate]
  split <;> exact nofun

theorem sound_start (next : Nat → List Nat) (count : Nat) : (start count).Sound next count where
  marks := Array.size_replicate
  values := Array.size_replicate
  cycle := nofun
  settled _ i hi hdone := by
    rw [markOf_start hi] at hdone
    cases hdone

section Whole

variable (hnext : ∀ i, ∀ j ∈ next i, j < count)
include hnext

/-- After visits to several entries they are done, unless a cycle was found. -/
theorem visited_nodes {depth : Nat} (hdepth : count < depth) {row : List Nat}
    (hrow : ∀ i ∈ row, i < count) (hs : s.Sound next count) (hidle : ∀ i, s.markOf i ≠ .active) :
    let found := row.foldl (fun s node => (visit next depth node s).2) s
    found.Sound next count ∧ s.Continues found ∧
      (found.cycle = false → ∀ i ∈ row, found.markOf i = .done) := by
  induction row generalizing s with
  | nil => exact ⟨hs, .refl s, nofun⟩
  | cons node row ih =>
    have few : (fresh count s).card < depth := by
      have := Finset.card_filter_le (Finset.range count) fun i => s.markOf i = .fresh
      rw [Finset.card_range] at this
      exact Nat.lt_of_le_of_lt this hdepth
    obtain ⟨sound, continues, done⟩ := visited_visit hnext few (hrow node List.mem_cons_self) hs
      fun a ha => absurd ha (hidle a)
    obtain ⟨sound', continues', done'⟩ := ih (fun i hi => hrow i (List.mem_cons_of_mem _ hi)) sound
      fun i hi => hidle i ((continues.active i).1 hi)
    refine ⟨sound', continues.trans continues', fun hc i hi => ?_⟩
    rcases List.mem_cons.1 hi with rfl | hi
    · exact (continues'.done i (done (continues'.cycle_eq_false hc)).1).1
    · exact done' hc i hi

/-- The whole search finds a cycle exactly if there is one, and otherwise numbers that grow against the
direction in which entries lead. -/
theorem cycle_ofNext (hout : ∀ i, count ≤ i → next i = []) :
    ((ofNext next count).cycle = true ↔ ∃ i, Relation.TransGen (Leads next) i i) ∧
      (ofNext next count).values.size = count ∧
      ((ofNext next count).cycle = false →
        ∀ i j, Leads next i j → (ofNext next count).valueOf j < (ofNext next count).valueOf i) := by
  obtain ⟨sound, -, done⟩ := visited_nodes hnext (Nat.lt_succ_self count)
    (fun i hi => List.mem_range.1 hi) (sound_start next count) not_active_start
  change (ofNext next count).Sound next count at sound
  have falls (hc : (ofNext next count).cycle = false) (i j : Nat) (h : Leads next i j) :
      (ofNext next count).valueOf j < (ofNext next count).valueOf i := by
    have hi : i < count := Nat.lt_of_not_le fun hle => by
      have h : j ∈ next i := h
      rw [hout i hle] at h
      cases h
    exact (sound.settled hc i hi (done hc i (List.mem_range.2 hi)) j h).2
  refine ⟨⟨sound.cycle, ?_⟩, sound.values, falls⟩
  rintro ⟨i, hi⟩
  -- Numbers would grow all the way around.
  refine Bool.eq_true_of_not_eq_false fun hc => Nat.lt_irrefl ((ofNext next count).valueOf i) ?_
  have less {i j : Nat} (h : Relation.TransGen (Leads next) i j) :
      (ofNext next count).valueOf j < (ofNext next count).valueOf i := by
    induction h with
    | single h => exact falls hc _ _ h
    | tail _ h ih => exact (falls hc _ _ h).trans ih
  exact less hi

end Whole

end Search

/-! ## Orderings -/

section Orderings

variable {orderings : List (List PrecedenceEntry)} {a b : PrecedenceEntry} {i j : Nat}

/-- In some ordering one entry is listed right before the other. -/
def Precedes (orderings : List (List PrecedenceEntry)) (a b : PrecedenceEntry) : Prop :=
  ∃ row ∈ orderings, [a, b] <:+: row

theorem mem_neighbours {α : Type} {a b : α} {row : List α} :
    (a, b) ∈ neighbours row ↔ [a, b] <:+: row := by
  induction row with
  | nil => simp [neighbours]
  | cons x row ih =>
    have here : [a, b] <:+: x :: row ↔ [a, b] <+: x :: row ∨ [a, b] <:+: row := List.infix_cons_iff
    cases row with
    | nil => simp [neighbours, here]
    | cons y row =>
      rw [neighbours, List.mem_cons, ih, here, List.cons_prefix_cons, List.cons_prefix_cons,
        Prod.mk.injEq]
      simp

theorem mem_pairs : (a, b) ∈ orderings.flatMap neighbours ↔ Precedes orderings a b := by
  rw [List.mem_flatMap]
  exact exists_congr fun row => and_congr_right fun _ => mem_neighbours

theorem mem_entries : a ∈ entries orderings ↔ ∃ row ∈ orderings, a ∈ row := by
  rw [entries, List.mem_eraseDups, List.mem_flatten]

theorem mem_of_precedes (h : Precedes orderings a b) :
    a ∈ entries orderings ∧ b ∈ entries orderings := by
  obtain ⟨row, hrow, hpair⟩ := h
  exact ⟨mem_entries.2 ⟨row, hrow, hpair.subset (by simp)⟩,
    mem_entries.2 ⟨row, hrow, hpair.subset (by simp)⟩⟩

/-- Numbers of entries lead to each other as the entries precede each other. -/
theorem mem_successors : j ∈ successors orderings (entries orderings) i ↔
    ∃ a b, (entries orderings)[i]? = some a ∧ (entries orderings)[j]? = some b ∧
      Precedes orderings a b := by
  unfold successors
  cases hi : (entries orderings)[i]? with
  | none => simp
  | some a =>
    simp only [List.mem_map, List.mem_filter, decide_eq_true_eq, Prod.exists, mem_pairs]
    constructor
    · rintro ⟨_, b, ⟨h, rfl⟩, rfl⟩
      exact ⟨_, b, rfl, List.getElem?_idxOf (mem_of_precedes h).2, h⟩
    · rintro ⟨_, b, ha, hb, h⟩
      cases ha
      obtain ⟨hj, rfl⟩ := List.getElem?_eq_some_iff.1 hb
      exact ⟨a, _, ⟨h, rfl⟩, (Lr.nodup_eraseDups _).idxOf_getElem _ hj⟩

abbrev Follows (orderings : List (List PrecedenceEntry)) : Nat → Nat → Prop :=
  Search.Leads (successors orderings (entries orderings))

theorem follows_idxOf (h : Precedes orderings a b) :
    Follows orderings ((entries orderings).idxOf a) ((entries orderings).idxOf b) :=
  have ⟨ha, hb⟩ := mem_of_precedes h
  mem_successors.2 ⟨a, b, List.getElem?_idxOf ha, List.getElem?_idxOf hb, h⟩

/-- Entries lead around in a circle exactly if their numbers do. -/
theorem exists_circle : (∃ i, Relation.TransGen (Follows orderings) i i) ↔
    ∃ a, Relation.TransGen (Precedes orderings) a a := by
  constructor
  · rintro ⟨i, h⟩
    have back {j : Nat} (h : Relation.TransGen (Follows orderings) i j) :
        ∃ a b, (entries orderings)[i]? = some a ∧ (entries orderings)[j]? = some b ∧
          Relation.TransGen (Precedes orderings) a b := by
      induction h with
      | single h =>
        obtain ⟨a, b, ha, hb, h⟩ := mem_successors.1 h
        exact ⟨a, b, ha, hb, .single h⟩
      | tail _ h ih =>
        obtain ⟨a, b, ha, hb, hab⟩ := ih
        obtain ⟨b', c, hb', hc, h⟩ := mem_successors.1 h
        cases hb.symm.trans hb'
        exact ⟨a, c, ha, hc, hab.tail h⟩
    obtain ⟨a, b, ha, hb, h⟩ := back h
    cases ha.symm.trans hb
    exact ⟨a, h⟩
  · rintro ⟨a, h⟩
    exact ⟨_, h.lift (entries orderings).idxOf fun _ _ => follows_idxOf⟩

end Orderings

/-! ## Numbers of entries -/

theorem lookup_zip {α β : Type} [DecidableEq α] {a : α} {keys : List α} {values : List β}
    (ha : a ∈ keys) : (keys.zip values).lookup a = values[keys.idxOf a]? := by
  induction keys generalizing values with
  | nil => cases ha
  | cons key keys ih =>
    cases values with
    | nil => simp
    | cons value values =>
      by_cases h : a = key
      · simp [h]
      · have ha := (List.mem_cons.1 ha).resolve_left h
        simp [List.lookup_cons, List.idxOf_cons, beq_false_of_ne h, beq_false_of_ne (Ne.symm h), ih ha]

/-- The search through orderings finds that they contradict each other exactly if entries lead around in
a circle, and otherwise gives every entry a number, which is greater than that of an entry that is listed
right after it. -/
theorem found_searched (orderings : List (List PrecedenceEntry)) :
    ((searched orderings).cycle = true ↔ ∃ a, Relation.TransGen (Precedes orderings) a a) ∧
      ((searched orderings).cycle = false → ∃ value : PrecedenceEntry → Nat,
        (∀ a ∈ entries orderings, (ofOrderings orderings).ofEntry a = some (value a)) ∧
          ∀ a b, Precedes orderings a b → value b < value a) := by
  have bounded (i) : ∀ j ∈ successors orderings (entries orderings) i, j < (entries orderings).length := by
    intro j h
    obtain ⟨_, _, _, hj, _⟩ := mem_successors.1 h
    exact (List.getElem?_eq_some_iff.1 hj).1
  obtain ⟨cycle, size, falls⟩ := Search.cycle_ofNext bounded fun i hi => by
    rw [successors, List.getElem?_eq_none hi]
  refine ⟨cycle.trans exists_circle, fun hc =>
    ⟨fun a => (searched orderings).valueOf ((entries orderings).idxOf a), fun a ha => ?_,
      fun a b h => falls hc _ _ (follows_idxOf h)⟩⟩
  have bound : (entries orderings).idxOf a < (searched orderings).values.size :=
    Nat.lt_of_lt_of_eq (List.idxOf_lt_length_of_mem ha) size.symm
  have number : (ofOrderings orderings).ofEntry a =
      (searched orderings).values[(entries orderings).idxOf a]? := by
    rw [ofEntry, ofOrderings, lookup_zip ha, Array.getElem?_toList]
  dsimp only
  rw [number, Search.valueOf, Array.getElem?_eq_getElem bound, Option.getD_some]

/-- Orderings are said to contradict each other exactly if entries of which each is listed right before the
next lead around in a circle. If they are not, every entry has a number, and in each ordering it is greater
than the numbers of all entries that come after it. -/
theorem respects_orderings (orderings : List (List PrecedenceEntry)) :
    ({ finding := .precedenceCycle } ∈ (ofOrderings orderings).reports ↔
      ∃ a, Relation.TransGen (Precedes orderings) a a) ∧
    ({ finding := .precedenceCycle } ∉ (ofOrderings orderings).reports →
      ∃ value : PrecedenceEntry → Nat, ∀ row ∈ orderings,
        (∀ a ∈ row, (ofOrderings orderings).ofEntry a = some (value a)) ∧
          row.Pairwise fun a b => value b < value a) := by
  obtain ⟨cycle, numbers⟩ := found_searched orderings
  have reported : { finding := .precedenceCycle } ∈ (ofOrderings orderings).reports ↔
      (searched orderings).cycle = true := by
    unfold reports
    change _ ∈ (if (searched orderings).cycle then _ else _) ↔ _
    split <;> simp_all
  refine ⟨reported.trans cycle, fun hquiet => ?_⟩
  obtain ⟨value, numbered, falls⟩ := numbers (Bool.eq_false_iff.2 fun h => hquiet (reported.2 h))
  refine ⟨value, fun row hrow => ⟨fun a ha => numbered a (mem_entries.2 ⟨row, hrow, ha⟩), ?_⟩⟩
  -- Neighbours are in order, so all are.
  have chain : (row.map value).IsChain (· > ·) := by
    refine List.isChain_map _ |>.2 (List.isChain_iff_forall_rel_of_append_cons_cons.2 ?_)
    rintro a b front back rfl
    exact falls a b ⟨_, hrow, front, back, by simp⟩
  exact List.pairwise_map.1 chain.pairwise

/-- Two orderings that share a level and do not contradict each other. -/
theorem respects_orderings_shared :
    let orderings : List (List PrecedenceEntry) :=
      [[.name "call", .name "product", .name "sum"], [.symbol "negation", .name "product"]]
    ∃ value : PrecedenceEntry → Nat, ∀ row ∈ orderings,
      (∀ a ∈ row, (ofOrderings orderings).ofEntry a = some (value a)) ∧
        row.Pairwise fun a b => value b < value a :=
  (respects_orderings _).2 (by decide +kernel)

example : (ofOrderings [[.name "sum", .name "product"], [.name "product", .name "sum"]]).reports =
    [{ finding := .precedenceCycle }] := by decide +kernel

end IncrementalGlr.Levels
