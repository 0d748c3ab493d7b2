import IncrementalGlr.Proofs.Regex.Keeping

/-!
Classes, groups, repetitions and alternatives where more text stands behind them. Down to a whole
expression (`Keeps.grouped`) everything that an expression is made of is read in the same way before
a closing parenthesis as before the end.
-/
namespace IncrementalGlr.Regex

variable {α β ι : Type} {s : Cursor}

/-! ### Classes in brackets -/

theorem splitAtMark_append (text e : List Char) : splitAtMark [':'] (text ++ e) =
    match splitAtMark [':'] text with
    | some (a, b) => some (a, b ++ e)
    | none => (splitAtMark [':'] e).map fun p => (text ++ p.1, p.2) := by
  induction text with
  | nil => simp [splitAtMark]
  | cons c text ih =>
    by_cases hc : c = ':'
    · subst hc
      simp [splitAtMark]
    · have other (more : List Char) : [':'].isPrefixOf (c :: more) = false := by
        simp [List.isPrefixOf, Ne.symm hc]
      rw [List.cons_append, splitAtMark, other, splitAtMark, other, ih]
      cases splitAtMark [':'] text with
      | some p => rfl
      | none => simp [Function.comp_def]

/-- No class of ASCII has a name with a closing parenthesis. -/
theorem asciiClass?_eq_none {name : List Char} (hname : ')' ∈ name) :
    asciiClass? (String.ofList name) = none := by
  have other {known : String} (hknown : ')' ∉ known.toList) : String.ofList name ≠ known := by
    rintro rfl
    simp [hname] at hknown
  unfold asciiClass?
  split
  all_goals first
    | next h => exact absurd h (other (by decide))
    | rfl

/-- The class of ASCII whose name, colon and bracket begin the text, with what is behind it. -/
def classAhead (text : List Char) : Option (Unicode.CodeSet × List Char) :=
  match splitAtMark [':'] text with
  | some (name, ']' :: more) => (asciiClass? (String.ofList name)).map (·, more)
  | _ => none

theorem classAhead_append (text e : List Char) : classAhead (text ++ ')' :: e) =
    (classAhead text).map fun p => (p.1, p.2 ++ ')' :: e) := by
  unfold classAhead
  rw [splitAtMark_append]
  cases splitAtMark [':'] text with
  | none =>
    have paren : splitAtMark [':'] (')' :: e) =
        (splitAtMark [':'] e).map fun p => (')' :: p.1, p.2) := rfl
    rw [paren]
    cases splitAtMark [':'] e with
    | none => rfl
    | some p =>
      obtain ⟨name, b⟩ := p
      have unknown := @asciiClass?_eq_none (text ++ ')' :: name) (by simp)
      cases b with
      | nil => rfl
      | cons c more =>
        by_cases hc : c = ']'
        · subst hc
          exact congrArg (Option.map fun set => (set, more)) unknown
        · simp [hc]
  | some p =>
    obtain ⟨name, b⟩ := p
    cases b with
    | nil => rfl
    | cons c more =>
      by_cases hc : c = ']'
      · subst hc
        simp [Function.comp_def]
      · simp [hc]

/-- Whether the class is negated, the class, and what is behind it. -/
def bracketedAhead : List Char → Option (Bool × Unicode.CodeSet × List Char)
  | '[' :: ':' :: '^' :: text => (classAhead text).map (true, ·)
  | '[' :: ':' :: text => (classAhead text).map (false, ·)
  | _ => none

theorem bracketedAhead_append (text e : List Char) : bracketedAhead (text ++ ')' :: e) =
    (bracketedAhead text).map fun p => (p.1, p.2.1, p.2.2 ++ ')' :: e) := by
  have ahead (negative : Bool) (text : List Char) :
      (classAhead (text ++ ')' :: e)).map (negative, ·) =
        ((classAhead text).map (negative, ·)).map fun p => (p.1, p.2.1, p.2.2 ++ ')' :: e) := by
    rw [classAhead_append, Option.map_map, Option.map_map]
    rfl
  match text with
  | [] => rfl
  | [c] =>
    by_cases hc : c = '['
    · subst hc
      rfl
    · simp [bracketedAhead, hc]
  | c :: d :: text =>
    by_cases hcd : c = '[' ∧ d = ':'
    · obtain ⟨rfl, rfl⟩ := hcd
      cases text with
      | nil => exact ahead false []
      | cons b text =>
        by_cases hb : b = '^'
        · subst hb
          exact ahead true text
        · have plain (more : List Char) : bracketedAhead ('[' :: ':' :: b :: more) =
              (classAhead (b :: more)).map (false, ·) := by
            simp [bracketedAhead, hb]
          rw [List.cons_append, List.cons_append, List.cons_append, plain, plain]
          exact ahead false (b :: text)
    · have other (more : List Char) : bracketedAhead (c :: d :: more) = none := by
        unfold bracketedAhead
        split
        · next h => simp_all
        · next h => simp_all
        · rfl
      rw [List.cons_append, List.cons_append, other, other]
      rfl

/-- A class of ASCII that was found. -/
def foundClass : Option (Bool × Unicode.CodeSet × List Char) → Parser (Option Unicode.CodeSet)
  | some (negative, set, more) => do
    let set ← negated negative (← folded set)
    setText more
    return some set
  | none => return none

/-- What reading the class does where a bracket, a colon and maybe a caret have been read. -/
def classFrom (negative : Bool) (text : List Char) : Parser (Option Unicode.CodeSet) :=
  match splitAtMark [':'] text with
  | some (name, ']' :: more) =>
    match asciiClass? (String.ofList name) with
    | some set => do
      let set ← negated negative (← folded set)
      setText more
      return some set
    | none => return none
  | _ => return none

theorem classFrom_eq (negative : Bool) (text : List Char) :
    classFrom negative text = foundClass ((classAhead text).map (negative, ·)) := by
  unfold classFrom classAhead
  split
  · next name more _ => cases asciiClass? (String.ofList name) <;> rfl
  · rfl

theorem asciiClass_eq : asciiClass = rest >>= fun text => foundClass (bracketedAhead text) := by
  refine congrArg (rest >>= ·) (funext fun text => ?_)
  dsimp only
  split
  · exact classFrom_eq true _
  · next text hhat =>
    rw [bracketedAhead]
    · exact classFrom_eq false text
    · exact fun more hmore => hhat more hmore
  · next hhat hcolon =>
    rw [bracketedAhead]
    · rfl
    · exact hhat
    · exact hcolon

namespace Keeps

theorem asciiClass : Keeps s Regex.asciiClass fun _ : ι => Regex.asciiClass := by
  rw [asciiClass_eq]
  intro a s' h
  obtain ⟨text, t, ht, hfound⟩ := bind_eq_some.1 h
  obtain ⟨rfl, rfl⟩ := Prod.mk.inj (Option.some.inj ht)
  cases hahead : bracketedAhead s.text with
  | none =>
    rw [hahead] at hfound
    obtain ⟨rfl, rfl⟩ := Prod.mk.inj (Option.some.inj hfound)
    refine ⟨List.suffix_rfl, fun hs => ⟨hs, fun _ ns _ => ?_⟩, .inl fun _ ns e _ => ?_⟩
    · refine bind_eq_some.2 ⟨_, _, rfl, ?_⟩
      simp only [Cursor.extend, List.append_nil, hahead]
      rfl
    · refine bind_eq_some.2 ⟨_, _, rfl, ?_⟩
      simp only [Cursor.extend, bracketedAhead_append, hahead]
      rfl
  | some p =>
    obtain ⟨negative, set, more⟩ := p
    rw [hahead] at hfound
    obtain ⟨set₁, s₁, h₁, hrest⟩ := bind_eq_some.1 hfound
    obtain ⟨set₂, s₂, h₂, hend⟩ := bind_eq_some.1 hrest
    obtain rfl := (Idle.folded set).state h₁
    obtain rfl := (Idle.negated negative set₁).state h₂
    obtain ⟨rfl, rfl⟩ := Prod.mk.inj (Option.some.inj hend)
    have found (t : Cursor) (ht : t.flags = s₂.flags) (behind : List Char) :
        foundClass (some (negative, set, behind)) t =
          some (some set₂, { t with text := behind }) :=
      bind_eq_some.2 ⟨_, _, (Idle.folded set).run h₁ ht,
        bind_eq_some.2 ⟨_, _, (Idle.negated negative set₁).run h₂ ht, rfl⟩⟩
    refine ⟨List.suffix_rfl, fun hs => ?_, .inl fun _ ns e _ => bind_eq_some.2 ⟨_, _, rfl, ?_⟩⟩
    · rw [hs] at hahead
      cases hahead
    · show foundClass (bracketedAhead (s₂.text ++ ')' :: e)) _ = _
      rw [bracketedAhead_append, hahead]
      exact found (s₂.extend ns (')' :: e)) rfl (more ++ ')' :: e)

theorem classAtom : Keeps s Regex.classAtom fun _ : ι => Regex.classAtom :=
  current fun _ _ hs => ite (fun _ => escape hs) fun _ => bump hs (pure _)

theorem classRange : Keeps s Regex.classRange fun _ : ι => Regex.classRange := by
  refine classAtom.bind fun first _ _ => skipBlanks.bind fun _ _ _ => current fun c more hs => ?_
  refine peekSecond (fun _ => rfl) hs fun o => ite (fun _ => ?_) fun _ =>
    bumpInside.bind fun _ _ _ => classAtom.bind fun last _ _ => ?_
  · cases first with
    | literal c byte => exact (Idle.classChar c byte).keeps.bind fun _ _ _ => pure _
    | set s => exact pure _
    | assertion _ => exact fail
  · split
    · exact (Idle.classChar _ _).keeps.bind fun _ _ _ =>
        (Idle.classChar _ _).keeps.bind fun _ _ _ => ite (fun _ => pure _) fun _ => fail
    · exact fail

theorem setOp : Keeps s Regex.setOp fun _ : ι => Regex.setOp :=
  (accept (by decide)).bind fun _ _ _ => ite (fun _ => pure _) fun _ =>
    (accept (by decide)).bind fun _ _ _ => ite (fun _ => pure _) fun _ =>
      (accept (by decide)).bind fun _ _ _ => ite (fun _ => pure _) fun _ => pure _

theorem classBody {nested : Parser Nested} {nested' : ι → Parser Nested}
    (hnested : ∀ s, Keeps s nested nested') {fuel : Nat} {more : ι → Nat}
    (hfuel : ∀ i, fuel ≤ more i) (waiting : Option (SetOp × Nested)) (operand : Operand) :
    Keeps s (Regex.classBody nested fuel waiting operand)
      fun i => Regex.classBody (nested' i) (more i) waiting operand := by
  induction fuel generalizing s more waiting operand with
  | zero => exact nofun
  | succ fuel ih =>
    obtain ⟨less, rfl, hless⟩ := exists_succ hfuel
    refine skipBlanks.bind fun _ _ _ => current fun c rest hs => ?_
    dsimp only
    split
    · refine (Idle.combine _ _).keeps.bind fun r s' h => ?_
      obtain rfl := (Idle.combine _ _).state h
      exact bump hs (pure _)
    · refine asciiClass.bind fun found _ _ => ?_
      cases found with
      | some set => exact ih hless _ _
      | none => exact (hnested _).bind fun _ _ _ => ih hless _ _
    · refine setOp.bind fun op _ _ => ?_
      cases op with
      | some op => exact (Idle.combine _ _).keeps.bind fun _ _ _ => ih hless _ _
      | none => exact classRange.bind fun _ _ _ => ih hless _ _

theorem leadingHyphens {fuel : Nat} {more : ι → Nat} (hfuel : ∀ i, fuel ≤ more i)
    (operand : Operand) : Keeps s (Regex.leadingHyphens fuel operand)
      fun i => Regex.leadingHyphens (more i) operand := by
  induction fuel generalizing s more operand with
  | zero => exact nofun
  | succ fuel ih =>
    obtain ⟨less, rfl, hless⟩ := exists_succ hfuel
    exact current fun c rest hs => ite (fun _ => bumpInside.bind fun _ _ _ => ih hless _)
      fun _ => pure _

end Keeps

/-- The end of a class, behind the operand that it begins with. -/
def classRest (nested : Parser Nested) (negative : Bool) (operand : Operand) : Parser Nested := do
  let (s, depth) ← classBody nested (← remaining) none operand
  return (← negated negative (← folded s), depth + 1)

/-- A class behind the opening bracket and the sign of negation. -/
def classInside (nested : Parser Nested) (negative : Bool) : Parser Nested := do
  let operand ← leadingHyphens (← remaining) {}
  let operand ← if operand.count = 0 && (← current) = ']' then do
      bumpInside
      pure (operand.add (.singleton ']'.toNat) 0)
    else pure operand
  classRest nested negative operand

theorem bracketed_succ (fuel : Nat) : bracketed (fuel + 1) = (do
    bumpInside
    let negative := (← current) = '^'
    if negative then bumpInside
    classInside (bracketed fuel) negative) := rfl

namespace Keeps

theorem classInside {nested : Parser Nested} {nested' : ι → Parser Nested}
    (hnested : ∀ s, Keeps s nested nested') (negative : Bool) :
    Keeps s (Regex.classInside nested negative) fun i => Regex.classInside (nested' i) negative := by
  have behind (operand : Operand) (t : Cursor) :
      Keeps t (classRest nested negative operand) fun i => classRest (nested' i) negative operand :=
    remaining <| (classBody (fun t => (hnested t).comap Prod.fst) (fun _ => Nat.le_add_right _ _)
      none operand).bind fun _ _ _ => (Idle.folded _).keeps.bind fun _ _ _ =>
        (Idle.negated _ _).keeps.bind fun _ _ _ => pure _
  refine remaining <| (leadingHyphens (fun _ => Nat.le_add_right _ _) _).bind fun _ _ _ =>
    current fun _ _ _ => ite (fun _ => bumpInside.bind fun _ _ _ => (pure _).bind fun _ _ _ => ?_)
      fun _ => (pure _).bind fun _ _ _ => ?_
  · exact (behind _ _).comap Prod.fst
  · exact (behind _ _).comap Prod.fst

theorem bracketed {fuel : Nat} {more : ι → Nat} (hfuel : ∀ i, fuel ≤ more i) :
    Keeps s (Regex.bracketed fuel) fun i => Regex.bracketed (more i) := by
  induction fuel generalizing s more with
  | zero => exact nofun
  | succ fuel ih =>
    obtain ⟨less, rfl, hless⟩ := exists_succ hfuel
    simp only [bracketed_succ]
    exact bumpInside.bind fun _ _ _ => current fun _ _ _ =>
      ite (fun _ => bumpInside.bind fun _ _ _ => classInside (fun _ => ih hless) _)
        fun _ => classInside (fun _ => ih hless) _

end Keeps

/-! ### Groups, repetitions and alternatives -/

/-- The end of a repetition in braces: the closing one, behind the numbers of rounds. -/
def countsEnd (range : Nat × Option Nat) : Parser (Nat × Option Nat) := do
  if (← current) ≠ '\x7d' then fail
  bump
  skipBlanks
  if range.2.any (· < range.1) then fail else return range

/-- Whether a group may have the name. -/
def isName : List Char → Bool
  | [] => false
  | c :: tail => isNameChar true c && tail.all (isNameChar false)

/-- The name up to the closing angle bracket, if a group may have it, and what is behind the
bracket. -/
def nameAhead (text : List Char) : Option (String × List Char) :=
  match text.drop (text.takeWhile (· ≠ '>')).length with
  | '>' :: more =>
    if isName (text.takeWhile (· ≠ '>')) then
      some (String.ofList (text.takeWhile (· ≠ '>')), more)
    else none
  | _ => none

theorem nameAhead_append {text more : List Char} {name : String} (e : List Char)
    (h : nameAhead text = some (name, more)) : nameAhead (text ++ e) = some (name, more ++ e) := by
  unfold nameAhead at h
  split at h
  · next behind hbehind =>
    have whole := List.prefix_iff_eq_append.1 (List.takeWhile_prefix (· ≠ '>') (l := text))
    rw [hbehind] at whole
    have same : (text ++ e).takeWhile (· ≠ '>') = text.takeWhile (· ≠ '>') := by
      conv_lhs => rw [← whole, List.append_assoc]
      rw [List.takeWhile_append_of_pos fun _ => List.mem_takeWhile_imp]
      simp
    have less : (text.takeWhile (· ≠ '>')).length ≤ text.length :=
      (List.takeWhile_prefix _).length_le
    unfold nameAhead
    rw [same, List.drop_append_of_le_length less, hbehind]
    dsimp only [List.cons_append]
    split at h
    · next valid =>
      obtain ⟨rfl, rfl⟩ := Prod.mk.inj (Option.some.inj h)
      exact if_pos valid
    · cases h
  · cases h

theorem groupName_eq (s : Cursor) : groupName s = match nameAhead s.text with
    | some (name, more) =>
      if name ∈ s.names then none
      else some (⟨⟩, { s with text := more, names := name :: s.names })
    | none => none := by
  have look : groupName s = (match s.text.drop (s.text.takeWhile (· ≠ '>')).length with
    | '>' :: more => do
      if !isName (s.text.takeWhile (· ≠ '>')) ||
          (← get).names.contains (String.ofList (s.text.takeWhile (· ≠ '>'))) then fail
      modify fun t => { t with text := more,
                               names := String.ofList (s.text.takeWhile (· ≠ '>')) :: t.names }
    | _ => fail : Parser Unit) s := rfl
  rw [look]
  unfold nameAhead
  generalize s.text.takeWhile (· ≠ '>') = name
  cases s.text.drop name.length with
  | nil => rfl
  | cons c more =>
    by_cases hc : c = '>'
    · subst hc
      cases hname : isName name with
      | false => rfl
      | true =>
        have run : (do
            if (← get).names.contains (String.ofList name) then fail
            modify fun t => { t with text := more, names := String.ofList name :: t.names }
            : Parser Unit) s = if String.ofList name ∈ s.names then none
              else some (⟨⟩, { s with text := more, names := String.ofList name :: s.names }) := by
          show (if s.names.contains (String.ofList name) then
              (fail >>= fun _ : PUnit => modify fun t =>
                { t with text := more, names := String.ofList name :: t.names })
            else modify fun t =>
              { t with text := more, names := String.ofList name :: t.names } : Parser Unit) s = _
          simp only [List.contains_iff_mem]
          split <;> rfl
        simpa [hname] using run
    · simp [hc]
      rfl

namespace Keeps

theorem flagList {seen : List Char} {f : Flags} {fuel : Nat} {more : ι → Nat}
    (hfuel : ∀ i, fuel ≤ more i) :
    Keeps s (Regex.flagList seen f fuel) fun i => Regex.flagList seen f (more i) := by
  induction fuel generalizing s more seen f with
  | zero => exact nofun
  | succ fuel ih =>
    obtain ⟨less, rfl, hless⟩ := exists_succ hfuel
    refine current fun c rest hs => ite (fun _ => ite (fun _ => fail) fun _ => pure _) fun _ =>
      ite (fun _ => fail) fun _ => ?_
    split
    · exact bump hs (ih hless)
    · exact fail

theorem groupName : Keeps s Regex.groupName fun _ : ι => Regex.groupName := by
  intro a s' h
  rw [groupName_eq] at h
  cases hname : nameAhead s.text with
  | none => simp [hname] at h
  | some p =>
    obtain ⟨name, more⟩ := p
    rw [hname] at h
    dsimp only at h
    split at h
    · cases h
    · next fresh =>
      obtain ⟨-, rfl⟩ := Prod.mk.inj (Option.some.inj h)
      refine ⟨List.suffix_cons name s.names, fun hs => ?_, .inl fun _ ns e hns => ?_⟩
      · rw [hs] at hname
        cases hname
      · have fresh' : name ∉ s.names ++ ns := fun hmem =>
          (List.mem_append.1 hmem).elim fresh (hns List.mem_cons_self)
        rw [groupName_eq]
        simp only [Cursor.extend, nameAhead_append _ hname]
        exact if_neg fresh'

theorem forIn {γ : Type} {words : List γ} {b : β} {f : γ → β → Parser (ForInStep β)}
    {g : ι → γ → β → Parser (ForInStep β)}
    (h : ∀ w ∈ words, ∀ b s, Keeps s (f w b) fun i => g i w b) :
    Keeps s (forIn words b f) fun i => forIn words b (g i) := by
  induction words generalizing s b with
  | nil => exact pure b
  | cons w words ih =>
    simp only [List.forIn_cons]
    refine (h w List.mem_cons_self b s).bind fun step s' _ => ?_
    cases step with
    | done b => exact pure b
    | yield b => exact ih fun w hw => h w (List.mem_cons_of_mem _ hw)

/-- What looks whether a word is next. -/
theorem ahead {word : List Char} (hword : ')' ∉ word) {F : Bool → Parser β}
    {G : ι → Bool → Parser β} (h : ∀ found, Keeps s (F found) fun i => G i found) :
    Keeps s (rest >>= fun text => F (word.isPrefixOf text))
      fun i => rest >>= fun text => G i (word.isPrefixOf text) := by
  intro b s' hb
  obtain ⟨names, nothing, more⟩ := h (word.isPrefixOf s.text) b s' hb
  have look (i : ι) (ns : List String) (e : List Char) :
      (rest >>= fun text => G i (word.isPrefixOf text)) (s.extend ns (')' :: e)) =
        G i (word.isPrefixOf s.text) (s.extend ns (')' :: e)) := by
    show G i (word.isPrefixOf (s.text ++ ')' :: e)) _ = _
    rw [isPrefixOf_append hword]
  refine ⟨names, fun hs => ?_, ?_⟩
  · obtain ⟨hs', same⟩ := nothing hs
    refine ⟨hs', fun i ns hns => ?_⟩
    rw [← same i ns hns]
    show G i (word.isPrefixOf (s.text ++ [])) _ = _
    rw [List.append_nil]
  · simpa only [look] using more

theorem opening {c : Char} {more : List Char} (hs : s.text = c :: more) :
    Keeps s Regex.opening fun _ : ι => Regex.opening := by
  refine bump hs <| skipBlanks.bind fun _ _ _ =>
    (forIn fun word hword _ _ => ?_).bind fun _ _ _ => ?_
  · let refuse (found : Bool) : Parser (ForInStep PUnit) :=
      if found then Regex.fail >>= fun _ : PUnit => Pure.pure (ForInStep.yield ⟨⟩)
      else Pure.pure (ForInStep.yield ⟨⟩)
    refine ahead (F := refuse) (G := fun _ => refuse) ?_ fun _ => check fun _ => pure _
    simp at hword
    rcases hword with rfl | rfl | rfl | rfl <;> decide
  · refine ((accept (by decide)).bind fun found _ _ => ?_).bind fun _ _ _ =>
      ite (fun _ => ?_) fun _ => ?_
    · cases found with
      | true => exact pure true
      | false => exact accept (by decide)
    · exact groupName.bind fun _ _ _ => flags.bind fun _ _ _ => pure _
    · refine (accept (by decide)).bind fun _ _ _ => ite (fun _ => ?_) fun _ =>
        flags.bind fun _ _ _ => pure _
      refine flags.bind fun f _ _ => remaining <| (flagList fun _ => Nat.le_add_right _ _).bind
        fun found _ _ => current fun c more hs => bump hs ?_
      exact ite (fun _ => ite (fun _ => fail) fun _ => pure _) fun _ => pure _

theorem countsEnd (range : Nat × Option Nat) :
    Keeps s (Regex.countsEnd range) fun _ : ι => Regex.countsEnd range :=
  current fun _ _ hs => check fun _ => bump hs <| skipBlanks.bind fun _ _ _ =>
    ite (fun _ => fail) fun _ => pure range

theorem counts : Keeps s Regex.counts fun _ : ι => Regex.counts := by
  refine bumpInside.bind fun _ _ _ => decimal.bind fun least _ _ => current fun c more hs => ?_
  refine ite (fun _ => bumpInside.bind fun _ _ _ => ?_) fun _ => ?_
  · cases least with
    | none => exact nofun
    | some n =>
      refine current fun c more hs => ite (fun _ => (pure _).bind fun _ _ _ => countsEnd _) fun _ =>
        decimal.bind fun greatest _ _ => ?_
      cases greatest with
      | none => exact nofun
      | some m => exact (pure _).bind fun _ _ _ => countsEnd _
  · cases least with
    | none => exact nofun
    | some n => exact (pure _).bind fun _ _ _ => countsEnd _

theorem laziness : Keeps s Regex.laziness fun _ : ι => Regex.laziness :=
  (accept (by decide)).map _

end Keeps

namespace Idle

theorem repeated (parts : List Part) (least : Nat) (greatest : Option Nat) :
    Idle (Regex.repeated parts least greatest) := by
  cases parts with
  | nil => exact fail
  | cons last more => exact ite (fail.bind fun _ => pure _) (pure _)

theorem literal (c : Char) (byte : Bool) : Idle (Regex.literal c byte) :=
  (checkByte c byte).bind fun _ => (folded _).bind fun _ => pure _

theorem dot : Idle Regex.dot :=
  flags.bind fun _ => ite fail <| ite (pure _) <| ite (pure _) (pure _)

end Idle

namespace Keeps

theorem primitive : Keeps s Regex.primitive fun _ : ι => Regex.primitive := by
  refine current fun c more hs => flags.bind fun f _ hf => ?_
  obtain ⟨rfl, rfl⟩ := Prod.mk.inj (Option.some.inj hf)
  split
  · refine (escape hs).bind fun atom _ _ => ?_
    cases atom with
    | literal c byte => exact (Idle.literal c byte).keeps
    | set s => exact pure _
    | assertion what => exact pure _
  · exact bump hs Idle.dot.keeps
  · exact bump hs (pure _)
  · exact bump hs (pure _)
  · exact bump hs (Idle.literal c false).keeps

/-- The end of a group is passed and its flags are lost. -/
theorem closeGroup {c : Char} {more : List Char} (hs : s.text = c :: more) (f : Flags)
    {F : PUnit → Parser β} {G : ι → PUnit → Parser β}
    (h : Keeps { s with text := more, flags := f } (F ⟨⟩) fun i => G i ⟨⟩) :
    Keeps s ((modify fun s => { s with text := s.text.tail, flags := f }) >>= F)
      fun i => (modify fun s => { s with text := s.text.tail, flags := f }) >>= G i := by
  obtain ⟨text, f', names⟩ := s
  obtain rfl : text = c :: more := hs
  refine bind (fun a s' ha => ?_) fun a s' ha => ?_
  · obtain ⟨-, rfl⟩ := Prod.mk.inj (Option.some.inj ha)
    exact ⟨List.suffix_rfl, nofun, .inl fun _ _ _ _ => rfl⟩
  · obtain ⟨-, rfl⟩ := Prod.mk.inj (Option.some.inj ha)
    exact h

theorem alternatives {group : Parser Part} {group' : ι → Parser Part}
    (hgroup : ∀ s, Keeps s group group') {fuel : Nat} {more : ι → Nat} (hfuel : ∀ i, fuel ≤ more i)
    (done parts : List Part) : Keeps s (Regex.alternatives group fuel done parts)
      fun i => Regex.alternatives (group' i) (more i) done parts := by
  induction fuel generalizing s ι group' more done parts with
  | zero => exact nofun
  | succ fuel ih =>
    obtain ⟨less, rfl, hless⟩ := exists_succ hfuel
    refine skipBlanks.bind fun _ s₁ _ => peek (fun _ => rfl) ?_
    cases hs : s₁.text with
    | nil => exact pure _
    | cons c rest =>
      have again (least : Nat) (greatest : Option Nat) (s : Cursor) : Keeps s (do
            Regex.laziness
            Regex.alternatives group fuel done (← Regex.repeated parts least greatest))
          fun i => (do
            Regex.laziness
            Regex.alternatives (group' i) (less i) done (← Regex.repeated parts least greatest)) :=
        laziness.bind fun _ _ _ => (Idle.repeated _ _ _).keeps.bind fun _ _ _ => ih hgroup hless _ _
      simp only [List.head?_cons]
      split
      · exact pure _
      · exact pure _
      · exact bump hs (ih hgroup hless _ _)
      · refine (opening hs).bind fun o _ _ => ?_
        cases o with
        | setting f => exact (setFlags f).bind fun _ _ _ => ih hgroup hless _ _
        | group f =>
          exact flags.bind fun outside _ _ => (setFlags f).bind fun _ _ _ => (hgroup _).bind
            fun inner _ _ => current fun c rest hs => ite (fun _ => nofun) fun _ =>
              closeGroup hs outside (ih hgroup hless _ _)
      · exact remaining <| (bracketed fun _ => Nat.le_add_right _ _).bind fun _ _ _ =>
          ih (fun t => (hgroup t).comap Prod.fst) (fun i => hless i.1) _ _
      · exact bump hs (again 0 (some 1) _)
      · exact bump hs (again 0 none _)
      · exact bump hs (again 1 none _)
      · exact counts.bind fun range _ _ => again range.1 range.2 _
      · exact primitive.bind fun _ _ _ => ih hgroup hless _ _

theorem grouped {fuel : Nat} {more : ι → Nat} (hfuel : ∀ i, fuel ≤ more i) :
    Keeps s (Regex.grouped fuel) fun i => Regex.grouped (more i) := by
  induction fuel generalizing s ι more with
  | zero => exact nofun
  | succ fuel ih =>
    obtain ⟨less, rfl, hless⟩ := exists_succ hfuel
    exact remaining <| alternatives (fun _ => ih fun i => hless i.1)
      (fun _ => Nat.succ_le_succ (Nat.le_add_right _ _)) [] []

end Keeps
end IncrementalGlr.Regex
