import IncrementalGlr.Json.Tagged
import IncrementalGlr.Proofs.Json.Reader

/-!
Tagged values are read as they were written: the variant is the one that the name stands for, the other
members are kept, and each field of the variant is found among them.
-/
namespace IncrementalGlr.Json

variable {κ : Type} {variants : Variants κ} {kind : κ} {name : String} {level depth : Nat}

/-- What follows only from a computation that gives a value goes on with that value. -/
theorem Runs.ofExcept {α : Type} {x : α} {e : Except Problem α} (h : e = .ok x) (text : List Char) :
    Runs (liftM e : Reader α) text x text := by
  subst h
  rfl

namespace Variants

theorem named_eq (hname : variants.lookup name = some kind) : variants.named name = .ok kind := by
  rw [named, hname]

/-- A name is read as the variant it stands for. -/
theorem reads_tag (hname : variants.lookup name = some kind) :
    Reads (read.tag variants) ((Value.string name).write level) kind := by
  intro blanks rest hblank hends
  apply (reads_text name level blanks rest hblank hends).bind
  exact .ofExcept (named_eq hname) rest

/-- The members behind the name are kept, the last of them in front. -/
theorem threads_fields (level : Nat) {fields : List (String × Value)} (hkeys : ∀ m ∈ fields, m.1 ≠ "type")
    (hread : ∀ m ∈ fields, Reads (value true depth) (m.2.write (level + 1)) m.2) (tag : Option κ)
    (kept : List (String × Value)) :
    Threads (read.member variants depth) level (tag, kept) fields (tag, fields.reverse ++ kept) := by
  induction fields generalizing kept with
  | nil => exact .nil _
  | cons m fields ih =>
    have others := ih (fun m' hm' => hkeys m' (List.mem_cons_of_mem m hm'))
      (fun m' hm' => hread m' (List.mem_cons_of_mem m hm')) (m :: kept)
    rw [List.reverse_cons, List.append_assoc]
    refine .cons (takes_of_reads (fun v => (tag, (m.1, v) :: kept)) ?_
      (hread m List.mem_cons_self)) others
    rw [read.member, if_neg (hkeys m List.mem_cons_self)]

/-- A tagged object is read as the variant of its name with the members behind the name. -/
theorem reads_tagged (level : Nat) {fields : List (String × Value)} (hname : variants.lookup name = some kind)
    (hkeys : ∀ m ∈ fields, m.1 ≠ "type") (hexact : ∀ m ∈ fields, m.2.Exact)
    (hnesting : ∀ m ∈ fields, m.2.nesting ≤ depth) :
    Reads (variants.read (depth + 1)) ((Value.object (("type", .string name) :: fields)).write level)
      (kind, .members fields) := by
  have first : Takes (read.member variants depth) level (none, []) ("type", .string name)
      (some kind, []) :=
    takes_of_reads (fun kind => (some kind, [])) rfl (reads_tag hname)
  have others : Threads (read.member variants depth) level (some kind, []) fields
      (some kind, fields.reverse ++ []) :=
    threads_fields level hkeys (fun m hm => reads_value (hexact m hm) (hnesting m hm) _) _ []
  intro blanks rest hblank hends
  have whole := runs_object (.cons first others) rest
  rw [List.append_nil] at whole
  obtain ⟨more, hwrite⟩ : ∃ more, (Value.object (("type", .string name) :: fields)).write level =
      '{' :: more := ⟨_, rfl⟩
  rw [hwrite] at whole ⊢
  apply (Runs.peek hblank rfl).bind
  apply whole.bind
  apply Runs.ofExcept
  rw [finish, List.reverse_reverse]

/-- A tagged object that was kept is the variant of its name with the members behind the name. -/
theorem ofValue_tagged {fields : List (String × Value)} (hname : variants.lookup name = some kind)
    (hkeys : ∀ m ∈ fields, m.1 ≠ "type") :
    variants.ofValue (.object (("type", .string name) :: fields)) = .ok (kind, .members fields) := by
  have others (kept : List (String × Value)) : fields.foldlM variants.keep (some kind, kept) =
      .ok (some kind, fields.reverse ++ kept) := by
    induction fields generalizing kept with
    | nil => rfl
    | cons m fields ih =>
      rw [List.foldlM_cons, keep, if_neg (hkeys m List.mem_cons_self), List.reverse_cons,
        List.append_assoc]
      exact ih (fun m' hm' => hkeys m' (List.mem_cons_of_mem m hm')) (m :: kept)
  have first : variants.keep (none, []) ("type", .string name) = .ok (some kind, []) := by
    rw [keep, if_pos rfl, ofTag, named_eq hname]
    rfl
  rw [ofValue, List.foldlM_cons, first]
  change Except.bind (fields.foldlM variants.keep (some kind, [])) finish = _
  rw [others, List.append_nil]
  change finish (some kind, fields.reverse) = _
  rw [finish, List.reverse_reverse]

end Variants

/-! ## Fields -/

section Fields

variable {τ δ : Type} {absent : τ → Option δ} {written written' : τ → Value → δ → Prop}
  {field : τ → Value → Except Problem δ}

/-- The members are the fields, in their order, written with these values; what is left out has a value
of its own. -/
inductive Fields (absent : τ → Option δ) (written : τ → Value → δ → Prop) :
    List (String × τ) → List (String × Value) → List δ → Prop
  | nil : Fields absent written [] [] []
  | present {key : String} {shape : τ} {v : Value} {x : δ} {fields : List (String × τ)}
      {members : List (String × Value)} {xs : List δ} (h : written shape v x)
      (others : Fields absent written fields members xs) :
      Fields absent written ((key, shape) :: fields) ((key, v) :: members) (x :: xs)
  | absent {key : String} {shape : τ} {x : δ} {fields : List (String × τ)}
      {members : List (String × Value)} {xs : List δ} (h : absent shape = some x)
      (others : Fields absent written fields members xs) :
      Fields absent written ((key, shape) :: fields) members (x :: xs)

theorem Fields.mono {fields : List (String × τ)} {members : List (String × Value)} {xs : List δ}
    (h : Fields absent written fields members xs)
    (hmono : ∀ shape v, ∀ x ∈ xs, written shape v x → written' shape v x) :
    Fields absent written' fields members xs := by
  induction h with
  | nil => exact .nil
  | present h _ ih =>
    exact .present (hmono _ _ _ List.mem_cons_self h)
      (ih fun shape v x hx => hmono shape v x (List.mem_cons_of_mem _ hx))
  | absent h _ ih =>
    exact .absent h (ih fun shape v x hx => hmono shape v x (List.mem_cons_of_mem _ hx))

/-- Every member is one of the fields. -/
theorem Fields.exists_written {fields : List (String × τ)} {members : List (String × Value)}
    {xs : List δ} (h : Fields absent written fields members xs) {m : String × Value}
    (hm : m ∈ members) : ∃ shape, ∃ x ∈ xs, written shape m.2 x := by
  induction h with
  | nil => cases hm
  | present h _ ih =>
    rcases List.mem_cons.mp hm with rfl | hm
    · exact ⟨_, _, List.mem_cons_self, h⟩
    · obtain ⟨shape, x, hx, hwritten⟩ := ih hm
      exact ⟨shape, x, List.mem_cons_of_mem _ hx, hwritten⟩
  | absent _ _ ih =>
    obtain ⟨shape, x, hx, hwritten⟩ := ih hm
    exact ⟨shape, x, List.mem_cons_of_mem _ hx, hwritten⟩

/-- Every value is that of a member, or of a field that is left out. -/
theorem Fields.exists_member {fields : List (String × τ)} {members : List (String × Value)}
    {xs : List δ} (h : Fields absent written fields members xs) {x : δ} (hx : x ∈ xs) :
    ∃ shape, (∃ m ∈ members, written shape m.2 x) ∨ absent shape = some x := by
  induction h with
  | nil => cases hx
  | present h _ ih =>
    rcases List.mem_cons.mp hx with rfl | hx
    · exact ⟨_, .inl ⟨_, List.mem_cons_self, h⟩⟩
    · obtain ⟨shape, ⟨m, hm, hwritten⟩ | habsent⟩ := ih hx
      · exact ⟨shape, .inl ⟨m, List.mem_cons_of_mem _ hm, hwritten⟩⟩
      · exact ⟨shape, .inr habsent⟩
  | absent h _ ih =>
    rcases List.mem_cons.mp hx with rfl | hx
    · exact ⟨_, .inr h⟩
    · exact ih hx

theorem Fields.keys_subset {fields : List (String × τ)} {members : List (String × Value)}
    {xs : List δ} (h : Fields absent written fields members xs) :
    members.map Prod.fst ⊆ fields.map Prod.fst := by
  induction h with
  | nil => exact List.Subset.refl _
  | present _ _ ih => exact List.cons_subset_cons _ ih
  | absent _ _ ih => exact List.subset_cons_of_subset _ ih

/-- Taking in members changes nothing about other names, and leads to the value of each field. -/
theorem Fields.exists_found {all fields : List (String × τ)} {members : List (String × Value)}
    {xs : List δ}
    (h : Fields absent (fun shape v x => field shape v = .ok x) fields members xs)
    (hall : ∀ f ∈ fields, all.lookup f.1 = some f.2) (hnodup : (fields.map Prod.fst).Nodup)
    (found : List (String × δ)) (hnew : ∀ f ∈ fields, found.lookup f.1 = none) :
    ∃ found', members.foldlM (Body.decode.collect all field) found = .ok found' ∧
      (∀ key ∉ fields.map Prod.fst, found'.lookup key = found.lookup key) ∧
      fields.mapM (Body.decode.pick absent found') = .ok xs := by
  -- Along the fields. No key comes twice, so what was found under one stays there to the end.
  induction h generalizing found with
  | nil => exact ⟨found, rfl, fun _ _ => rfl, rfl⟩
  | @present key shape v x fields members xs hfield _ ih =>
    rw [List.map_cons, List.nodup_cons] at hnodup
    have apart : ∀ f ∈ fields, f.1 ≠ key := by
      intro f hf heq
      have hkey : f.1 ∈ fields.map Prod.fst := List.mem_map_of_mem hf
      exact hnodup.1 (heq ▸ hkey)
    obtain ⟨found', hfold, hsame, hpick⟩ := ih (fun f hf => hall f (List.mem_cons_of_mem _ hf))
      hnodup.2 ((key, x) :: found) (by
        intro f hf
        rw [List.lookup_cons, beq_false_of_ne (apart f hf)]
        exact hnew f (List.mem_cons_of_mem _ hf))
    have hfound : found'.lookup key = some x := by
      rw [hsame key hnodup.1, List.lookup_cons, beq_self_eq_true]
    refine ⟨found', ?_, ?_, ?_⟩
    · have hnone := hnew (key, shape) List.mem_cons_self
      have step : Body.decode.collect all field found (key, v) = .ok ((key, x) :: found) := by
        rw [Body.decode.collect, hall (key, shape) List.mem_cons_self, hnone]
        simp only [Option.isSome_none, Bool.false_eq_true, if_false, hfield, Except.map]
      rw [List.foldlM_cons, step]
      exact hfold
    · intro other hother
      rw [List.map_cons, List.mem_cons, not_or] at hother
      rw [hsame other hother.2, List.lookup_cons, beq_false_of_ne hother.1]
    · have first : Body.decode.pick absent found' (key, shape) = .ok x := by
        rw [Body.decode.pick, hfound]
      rw [List.mapM_cons, first, hpick]
      rfl
  | @absent key shape x fields members xs habsent _ ih =>
    rw [List.map_cons, List.nodup_cons] at hnodup
    obtain ⟨found', hfold, hsame, hpick⟩ := ih (fun f hf => hall f (List.mem_cons_of_mem _ hf))
      hnodup.2 found (fun f hf => hnew f (List.mem_cons_of_mem _ hf))
    have hfound : found'.lookup key = none :=
      (hsame key hnodup.1).trans (hnew (key, shape) List.mem_cons_self)
    refine ⟨found', hfold, ?_, ?_⟩
    · intro other hother
      rw [List.map_cons, List.mem_cons, not_or] at hother
      exact hsame other hother.2
    · have first : Body.decode.pick absent found' (key, shape) = .ok x := by
        rw [Body.decode.pick, hfound]
        simp only [habsent]
      rw [List.mapM_cons, first, hpick]
      rfl

theorem lookup_of_nodup {all : List (String × τ)} (hnodup : (all.map Prod.fst).Nodup)
    {f : String × τ} (h : f ∈ all) : all.lookup f.1 = some f.2 := by
  induction all with
  | nil => cases h
  | cons g all ih =>
    rw [List.map_cons, List.nodup_cons] at hnodup
    rcases List.mem_cons.mp h with rfl | h
    · rw [List.lookup_cons, beq_self_eq_true]
    · have hne : f.1 ≠ g.1 := fun heq => hnodup.1 (heq ▸ List.mem_map_of_mem (f := Prod.fst) h)
      rw [List.lookup_cons, beq_false_of_ne hne]
      exact ih hnodup.2 h

/-- Members that give the fields their values are read as these values. -/
theorem Fields.decode_eq {fields : List (String × τ)} {members : List (String × Value)} {xs : List δ}
    (h : Fields absent (fun shape v x => field shape v = .ok x) fields members xs)
    (hnodup : (fields.map Prod.fst).Nodup) :
    (Body.members members).decode fields absent field = .ok xs := by
  obtain ⟨found, hfold, -, hpick⟩ :=
    h.exists_found (fun f hf => lookup_of_nodup hnodup hf) hnodup [] fun _ _ => rfl
  rw [Body.decode, hfold]
  exact hpick

end Fields

end IncrementalGlr.Json
