import Mathlib.Algebra.Group.Int.Defs
import Mathlib.Algebra.Group.Nat.Defs
import Mathlib.Data.List.Forall2
import Mathlib.Tactic.Common
import IncrementalGlr.Json.Printer
import IncrementalGlr.Json.Reader

/-!
Values are read as they were written.

A string is read character by character: whatever a character is written as, the reader gives back the
character and goes on behind it. A number is read as far as digits go, so what follows it matters; in a
written text that is the end, a comma or a line break.

`Runs read before x after` says that on the text `before` a reader gives `x` and leaves `after`; its
rules follow a reader step by step. `Reads read text x` says this of a written value: with any blanks in
front of it and anything behind it that may follow a value, the reader takes exactly the value. What
reads the items of an array reads the array, and what takes in the members of an object one after the
other (`Threads`) reads the object.
-/
namespace IncrementalGlr.Json

/-! ## Strings -/

/-- A character that is written as it is. -/
theorem stringBody_plain {strict : Bool} {c : Char} (hquote : c ≠ '"') (hslash : c ≠ '\\')
    (hprint : 0x20 ≤ c.toNat) (rest : List Char) :
    stringBody strict (c :: rest) = stringBody.more c (stringBody strict rest) := by
  rw [stringBody.eq_def]
  split
  case h_7 heq =>
    cases heq
    rw [if_neg (by omega)]
  all_goals simp_all

/-- A character that is written with a backslash and a letter. -/
theorem stringBody_escape {strict : Bool} {c letter : Char} (hletter : letter ≠ 'u')
    (h : escape? letter = some c) (rest : List Char) :
    stringBody strict ('\\' :: letter :: rest) = stringBody.more c (stringBody strict rest) := by
  rw [stringBody.eq_def]
  split
  case h_6 heq =>
    cases heq
    rw [h]
  case h_7 hescape heq =>
    cases heq
    exact absurd rfl (hescape letter rest rfl)
  all_goals simp_all

theorem hex4?_hexDigit : ∀ n < 0x20, hex4? '0' '0' (hexDigit (n / 16)) (hexDigit (n % 16)) = some n := by
  decide

/-- A character that is written with the four digits of its number. -/
theorem stringBody_control {c : Char} (hcontrol : c.toNat < 0x20) (rest : List Char) :
    stringBody true ('\\' :: 'u' :: '0' :: '0' :: hexDigit (c.toNat / 16) ::
      hexDigit (c.toNat % 16) :: rest) = stringBody.more c (stringBody true rest) := by
  have hlow : isLowSurrogate c.toNat = false :=
    Bool.and_eq_false_iff.mpr (.inl (decide_eq_false (by omega)))
  have hhigh : isHighSurrogate c.toNat = false :=
    Bool.and_eq_false_iff.mpr (.inl (decide_eq_false (by omega)))
  rw [stringBody, hex4?_hexDigit c.toNat hcontrol]
  simp only [hlow, hhigh, Char.ofNat_toNat, Bool.not_true, Bool.false_eq_true, if_false]

/-- A character is read as it was written, and the reader goes on behind it. -/
theorem stringBody_escapeChar (c : Char) (rest : List Char) :
    stringBody true (escapeChar c ++ rest) = stringBody.more c (stringBody true rest) := by
  unfold escapeChar
  -- The cases are those of `escapeChar`, in its order.
  by_cases hquote : c = '"'
  · rw [if_pos hquote, hquote]
    exact stringBody_escape (by decide) rfl rest
  rw [if_neg hquote]
  by_cases hslash : c = '\\'
  · rw [if_pos hslash, hslash]
    exact stringBody_escape (by decide) rfl rest
  rw [if_neg hslash]
  by_cases hback : c = '\x08'
  · rw [if_pos hback, hback]
    exact stringBody_escape (by decide) rfl rest
  rw [if_neg hback]
  by_cases hfeed : c = '\x0c'
  · rw [if_pos hfeed, hfeed]
    exact stringBody_escape (by decide) rfl rest
  rw [if_neg hfeed]
  by_cases hline : c = '\n'
  · rw [if_pos hline, hline]
    exact stringBody_escape (by decide) rfl rest
  rw [if_neg hline]
  by_cases hreturn : c = '\r'
  · rw [if_pos hreturn, hreturn]
    exact stringBody_escape (by decide) rfl rest
  rw [if_neg hreturn]
  by_cases htab : c = '\t'
  · rw [if_pos htab, htab]
    exact stringBody_escape (by decide) rfl rest
  rw [if_neg htab]
  by_cases hcontrol : c.toNat < 0x20
  · rw [if_pos hcontrol]
    exact stringBody_control hcontrol rest
  · rw [if_neg hcontrol]
    exact stringBody_plain hquote hslash (by omega) rest

/-- A string is read as it was written. -/
theorem stringBody_escaped (text rest : List Char) :
    stringBody true (text.flatMap escapeChar ++ '"' :: rest) = .ok (text, rest) := by
  induction text with
  | nil => rw [List.flatMap_nil, List.nil_append, stringBody]
  | cons c text ih =>
    rw [List.flatMap_cons, List.append_assoc, stringBody_escapeChar, ih]
    rfl

theorem quote_append (text : String) (rest : List Char) :
    quote text ++ rest = '"' :: (text.toList.flatMap escapeChar ++ '"' :: rest) := by
  rw [quote, List.append_assoc, List.singleton_append, List.cons_append]

theorem quoted_quote (text : String) (rest : List Char) :
    (quoted true).run (quote text ++ rest) = .ok (text, rest) := by
  change (stringBody true (quote text ++ rest).tail).map _ = _
  rw [quote_append, List.tail_cons, stringBody_escaped, Except.map, String.ofList_toList]

/-! ## Numbers -/

/-- What follows a value that was written: nothing, a comma or a line break. -/
def Ends (rest : List Char) : Prop :=
  ∀ c ∈ rest.head?, c = ',' ∨ c = '\n'

theorem ends_nil : Ends [] :=
  nofun

theorem ends_comma (rest : List Char) : Ends (',' :: rest) :=
  fun _ h => .inl (Option.mem_some.mp h).symm

theorem ends_newline (level : Nat) (rest : List Char) : Ends (newline level ++ rest) :=
  fun _ h => .inr (Option.mem_some.mp h).symm

/-- Digits are taken up to where a value ends. -/
theorem takeWhile_isDigit {digits rest : List Char} (hdigits : ∀ c ∈ digits, isDigit c = true)
    (hrest : Ends rest) :
    (digits ++ rest).takeWhile isDigit = digits ∧ (digits ++ rest).dropWhile isDigit = rest := by
  rw [List.takeWhile_append_of_pos hdigits, List.dropWhile_append_of_pos hdigits]
  cases rest with
  | nil => simp
  | cons c rest =>
    have hc : isDigit c = false := by
      obtain rfl | rfl := hrest c rfl <;> rfl
    simp [hc]

/-- Digits of a number that fits 64 bits are all put together. -/
theorem appendDigits_eq {digits : List Char} {n : Nat}
    (hfit : Nat.ofDigitChars 10 digits n < 2 ^ 64) :
    appendDigits n digits = (Nat.ofDigitChars 10 digits n, 0) := by
  induction digits generalizing n with
  | nil => rfl
  | cons c digits ih =>
    have hstep : n * 10 + digitValue c = 10 * n + (c.toNat - '0'.toNat) := by
      rw [Nat.mul_comm]
      rfl
    rw [Nat.ofDigitChars_cons] at hfit ⊢
    have hnext : 10 * n + (c.toNat - '0'.toNat) < 2 ^ 64 := by
      rw [Nat.ofDigitChars_eq_ofDigitChars_zero] at hfit
      have hpow : 0 < 10 ^ digits.length := Nat.pow_pos (by decide)
      have := Nat.le_mul_of_pos_left (10 * n + (c.toNat - '0'.toNat)) hpow
      omega
    rw [appendDigits, hstep]
    exact (if_pos hnext).trans (ih hfit)

/-- Only the digits of zero begin with one. -/
theorem eq_zero_of_toDigits {n : Nat} {more : List Char} (h : Nat.toDigits 10 n = '0' :: more) :
    n = 0 := by
  induction n using Nat.strongRecOn generalizing more with
  | ind n ih =>
    by_cases hsmall : n < 10
    · rw [Nat.toDigits_of_lt_base hsmall, List.cons.injEq] at h
      exact Nat.digitChar_eq_zero.mp h.1
    · rw [Nat.toDigits_of_base_le (by decide) (by omega)] at h
      cases hfront : Nat.toDigits 10 (n / 10) with
      | nil => exact absurd hfront Nat.toDigits_ne_nil
      | cons c front =>
        rw [hfront, List.cons_append, List.cons.injEq] at h
        have := ih (n / 10) (by omega) (h.1 ▸ hfront)
        omega

/-- The digits of a number of 64 bits are read as that number, with a sign in front of them if it is
not too large for one. -/
theorem unsigned_toDigits {n : Nat} {rest : List Char} (strict negative : Bool) (hfit : n < 2 ^ 64)
    (hrest : Ends rest) :
    readNumber.unsigned strict negative (Nat.toDigits 10 n ++ rest) =
      if !negative then .ok (.integer n, rest)
      else if n = 0 ∨ 2 ^ 63 < n then .ok (.real, rest)
      else .ok (.integer (-(n : Int)), rest) := by
  have hdigits : ∀ c ∈ Nat.toDigits 10 n, isDigit c = true := fun c hc =>
    Nat.isDigit_of_mem_toDigits (by decide) (by decide) hc
  obtain ⟨htake, hdrop⟩ := takeWhile_isDigit hdigits hrest
  have hread : appendDigits 0 (Nat.toDigits 10 n) = (n, 0) := by
    rw [appendDigits_eq, Nat.ofDigitChars_ten_toDigits]
    rwa [Nat.ofDigitChars_ten_toDigits]
  simp only [readNumber.unsigned, htake, hdrop, hread]
  -- Neither is the number empty or led by a zero, nor does a fraction or an exponent follow.
  split
  case h_1 h => exact absurd h Nat.toDigits_ne_nil
  case h_2 c more h =>
    have hn := eq_zero_of_toDigits h
    subst hn
    cases h
  case h_3 =>
  split
  case h_1 more =>
    obtain h | h := hrest '.' rfl <;> cases h
  case h_2 more =>
    obtain h | h := hrest 'e' rfl <;> cases h
  case h_3 more =>
    obtain h | h := hrest 'E' rfl <;> cases h
  case h_4 =>
    rfl

theorem toList_toString_ofNat (n : Nat) : (toString (n : Int)).toList = Nat.toDigits 10 n := by
  rw [Int.toString_eq_repr]
  change (Nat.repr n).toList = _
  rw [Nat.repr_eq_ofList_toDigits, String.toList_ofList]

theorem toList_toString_negSucc (n : Nat) :
    (toString (Int.negSucc n)).toList = '-' :: Nat.toDigits 10 (n + 1) := by
  rw [Int.toString_eq_repr]
  change ("-" ++ (n + 1).repr).toList = _
  rw [Nat.repr_eq_ofList_toDigits, String.toList_append, String.toList_ofList]
  simp

/-- An integer of 64 bits is read as it was written. -/
theorem readNumber_toString {i : Int} {rest : List Char} (strict : Bool) (hlow : -2 ^ 63 ≤ i)
    (hhigh : i < 2 ^ 64) (hrest : Ends rest) :
    readNumber strict ((toString i).toList ++ rest) = .ok (.integer i, rest) := by
  cases i with
  | ofNat n =>
    have hn : (n : Int) < 2 ^ 64 := hhigh
    have unsigned := unsigned_toDigits strict false (by omega : n < 2 ^ 64) hrest
    change readNumber strict ((toString (n : Int)).toList ++ rest) = _
    rw [toList_toString_ofNat]
    unfold readNumber
    split
    case h_1 more h =>
      cases hdigits : Nat.toDigits 10 n with
      | nil => exact absurd hdigits Nat.toDigits_ne_nil
      | cons c front =>
        have hc : isDigit c = true :=
          Nat.isDigit_of_mem_toDigits (by decide) (by decide) (hdigits ▸ List.mem_cons_self)
        rw [hdigits, List.cons_append, List.cons.injEq] at h
        rw [h.1] at hc
        cases hc
    case h_2 => exact unsigned
  | negSucc n =>
    have unsigned := unsigned_toDigits strict true (by omega : n + 1 < 2 ^ 64) hrest
    rw [toList_toString_negSucc]
    change readNumber.unsigned strict true (Nat.toDigits 10 (n + 1) ++ rest) = _
    rw [unsigned, Bool.not_true, if_neg Bool.false_ne_true, if_neg (by omega)]
    rfl


variable {α β σ : Type} {read : Reader α} {x : α} {y : β} {before between after : List Char}

/-! ## Readers step by step -/

/-- On the text before, the reader gives the value and leaves the text after. -/
def Runs (read : Reader α) (before : List Char) (x : α) (after : List Char) : Prop :=
  read.run before = .ok (x, after)

def Blank (text : List Char) : Prop :=
  ∀ c ∈ text, isBlank c = true

theorem blank_nil : Blank [] :=
  nofun

theorem blank_indent (n : Nat) : Blank (List.replicate n ' ') := by
  intro c hc
  rw [List.eq_of_mem_replicate hc]
  rfl

theorem blank_newline (level : Nat) : Blank (newline level) := by
  intro c hc
  rcases List.mem_cons.mp hc with rfl | hc
  · rfl
  · exact blank_indent _ c hc

namespace Runs

theorem pure (x : α) (text : List Char) : Runs (pure x) text x text := rfl

theorem bind {next : α → Reader β} (first : Runs read before x between)
    (second : Runs (next x) between y after) : Runs (read >>= next) before y after := by
  rw [Runs, StateT.run_bind, first]
  exact second

/-- What is read may be put in its place. -/
theorem map {f : α → β} (h : Runs read before x after) :
    Runs (read >>= fun v => Pure.pure (f v)) before (f x) after :=
  h.bind (.pure (f x) after)

theorem peek {c : Char} {blanks rest : List Char} (hblank : Blank blanks) (hc : isBlank c = false) :
    Runs peek (blanks ++ c :: rest) (some c) (c :: rest) := by
  have skipped : (blanks ++ c :: rest).dropWhile isBlank = c :: rest := by
    rw [List.dropWhile_append_of_pos hblank, List.dropWhile_cons_of_neg (by simp [hc])]
  change Except.ok (_, _) = _
  rw [skipped]
  rfl

theorem drop (c : Char) (rest : List Char) : Runs drop (c :: rest) () rest := rfl

theorem get (text : List Char) : Runs (get : Reader (List Char)) text text text := rfl

/-! Taken apart -/

theorem of_pure {x' : α} (h : Runs (Pure.pure x) before x' after) : x' = x ∧ after = before := by
  obtain ⟨rfl, rfl⟩ := Prod.mk.inj (Except.ok.inj h)
  exact ⟨rfl, rfl⟩

theorem of_bind {next : α → Reader β} (h : Runs (read >>= next) before y after) :
    ∃ x between, Runs read before x between ∧ Runs (next x) between y after := by
  rw [Runs, StateT.run_bind] at h
  cases hread : read.run before with
  | error p =>
    rw [hread] at h
    cases h
  | ok p =>
    rw [hread] at h
    exact ⟨p.1, p.2, hread, h⟩

theorem of_map {f : α → β} (h : Runs (f <$> read) before y after) :
    ∃ x, Runs read before x after ∧ y = f x := by
  rw [map_eq_pure_bind] at h
  obtain ⟨x, between, hread, hpure⟩ := h.of_bind
  obtain ⟨rfl, rfl⟩ := hpure.of_pure
  exact ⟨x, hread, rfl⟩

theorem of_seqRight {next : Reader β} (h : Runs (read *> next) before y after) :
    ∃ x between, Runs read before x between ∧ Runs next between y after := by
  rw [seqRight_eq_bind] at h
  exact h.of_bind

theorem of_discard {y : PUnit} (h : Runs (discard read) before y after) :
    ∃ x, Runs read before x after := by
  obtain ⟨x, hread, -⟩ := of_map (f := Function.const α PUnit.unit) h
  exact ⟨x, hread⟩

theorem not_throw {p : Problem} : ¬ Runs (throw p : Reader α) before x after :=
  nofun

theorem not_throw_bind {p : Problem} {next : α → Reader β} :
    ¬ Runs ((throw p : Reader α) >>= next) before y after := fun h => by
  obtain ⟨_, _, hthrow, -⟩ := h.of_bind
  exact not_throw hthrow

theorem of_ofExcept {e : Except Problem α} (h : Runs (liftM e : Reader α) before x after) :
    e = .ok x ∧ after = before := by
  cases e with
  | error p => cases h
  | ok x' =>
    obtain ⟨rfl, rfl⟩ := Prod.mk.inj (Except.ok.inj h)
    exact ⟨rfl, rfl⟩

/-- A character that was seen is taken. -/
theorem of_drop {c : Char} {u : Unit} (hc : before.head? = some c)
    (h : Runs Json.drop before u after) : before = c :: after := by
  obtain ⟨-, rfl⟩ := Prod.mk.inj (Except.ok.inj h)
  exact List.eq_cons_of_mem_head? hc

/-- The last character is taken. -/
theorem of_drop_pure {c : Char} {x' : α} (hc : before.head? = some c)
    (h : Runs (Json.drop *> Pure.pure x) before x' after) : x' = x ∧ before = c :: after := by
  obtain ⟨_, between, hdrop, hpure⟩ := h.of_seqRight
  obtain ⟨rfl, rfl⟩ := hpure.of_pure
  exact ⟨rfl, hdrop.of_drop hc⟩

theorem of_get {next : List Char → Reader β} (h : Runs (MonadState.get >>= next) before y after) :
    Runs (next before) before y after :=
  h

end Runs

/-- With any blanks in front and any end behind, the reader takes exactly the text. -/
def Reads (read : Reader α) (text : List Char) (x : α) : Prop :=
  ∀ blanks rest : List Char, Blank blanks → Ends rest →
    Runs read (blanks ++ (text ++ rest)) x rest

theorem Reads.map {text : List Char} {f : α → β} (h : Reads read text x) :
    Reads (read >>= fun v => Pure.pure (f v)) text (f x) :=
  fun blanks rest hblank hends => (h blanks rest hblank hends).map

/-! ## Values as they are written -/

mutual

/-- How many arrays and objects lie inside each other. -/
def Value.nesting : Value → Nat
  | .array items => nestingOfItems items + 1
  | .object members => nestingOfMembers members + 1
  | _ => 0

def nestingOfItems : List Value → Nat
  | [] => 0
  | v :: rest => max v.nesting (nestingOfItems rest)

def nestingOfMembers : List (String × Value) → Nat
  | [] => 0
  | m :: rest => max m.2.nesting (nestingOfMembers rest)

end

/-- A digit is neither a blank nor a bracket. -/
theorem apart_of_isDigit {c : Char} (h : isDigit c = true) :
    isBlank c = false ∧ c ≠ ']' ∧ c ≠ '[' ∧ c ≠ '{' := by
  refine ⟨?_, ?_, ?_, ?_⟩
  case refine_1 =>
    by_contra hblank
    simp only [isBlank, Bool.not_eq_false, Bool.or_eq_true, decide_eq_true_eq] at hblank
    rcases hblank with ((rfl | rfl) | rfl) | rfl <;> cases h
  all_goals
    rintro rfl
    cases h

/-- A number begins with a sign or a digit. -/
theorem exists_toString (n : Int) :
    ∃ c more, (toString n).toList = c :: more ∧ (c = '-' ∨ isDigit c = true) := by
  cases n with
  | ofNat n =>
    cases hdigits : Nat.toDigits 10 n with
    | nil => exact absurd hdigits Nat.toDigits_ne_nil
    | cons c more =>
      have hc : isDigit c = true :=
        Nat.isDigit_of_mem_toDigits (by decide) (by decide) (hdigits ▸ List.mem_cons_self)
      exact ⟨c, more, (toList_toString_ofNat n).trans hdigits, .inr hc⟩
  | negSucc n => exact ⟨_, _, toList_toString_negSucc n, .inl rfl⟩

/-- A written value begins with a character that is neither a blank nor a closing bracket, and with an
opening one only if it is an array or an object. -/
theorem exists_write (v : Value) (level : Nat) :
    ∃ c more, v.write level = c :: more ∧ isBlank c = false ∧ c ≠ ']' ∧
      (v.nesting = 0 → c ≠ '[' ∧ c ≠ '{') := by
  cases v with
  | null => exact ⟨_, _, by rw [Value.write]; rfl, rfl, by decide, by decide⟩
  | bool b => cases b <;> exact ⟨_, _, rfl, rfl, by decide, by decide⟩
  | integer n =>
    obtain ⟨c, more, hwrite, hc⟩ := exists_toString n
    rw [Value.write, hwrite]
    rcases hc with rfl | hc
    · exact ⟨_, _, rfl, rfl, by decide, fun _ => by decide⟩
    · obtain ⟨hblank, hclose, hopen⟩ := apart_of_isDigit hc
      exact ⟨c, more, rfl, hblank, hclose, fun _ => hopen⟩
  | real => exact ⟨_, _, by rw [Value.write]; rfl, rfl, by decide, by decide⟩
  | string text => exact ⟨_, _, by rw [Value.write, quote]; rfl, rfl, by decide, fun _ => by decide⟩
  | array items =>
    cases items <;> exact ⟨_, _, rfl, rfl, by decide, fun h => absurd h (Nat.succ_ne_zero _)⟩
  | object members =>
    cases members <;> exact ⟨_, _, rfl, rfl, by decide, fun h => absurd h (Nat.succ_ne_zero _)⟩

theorem ends_writeItems (level : Nat) (vs : List Value) (rest : List Char) :
    Ends (writeItems level vs ++ rest) := by
  cases vs with
  | nil =>
    rw [writeItems, List.append_assoc]
    exact ends_newline level _
  | cons v vs =>
    rw [writeItems]
    exact ends_comma _

theorem ends_writeMembers (level : Nat) (members : List (String × Value)) (rest : List Char) :
    Ends (writeMembers level members ++ rest) := by
  cases members with
  | nil =>
    rw [writeMembers, List.append_assoc]
    exact ends_newline level _
  | cons m members =>
    rw [writeMembers]
    exact ends_comma _

theorem length_writeItems (level : Nat) (vs : List Value) :
    vs.length < (writeItems level vs).length := by
  induction vs with
  | nil =>
    rw [writeItems, List.length_append, List.length_nil, List.length_singleton]
    omega
  | cons v vs ih =>
    rw [writeItems, List.length_append, List.length_cons, List.length_append, List.length_cons]
    omega

theorem length_writeMembers (level : Nat) (members : List (String × Value)) :
    members.length < (writeMembers level members).length := by
  induction members with
  | nil =>
    rw [writeMembers, List.length_append, List.length_nil, List.length_singleton]
    omega
  | cons m members ih =>
    rw [writeMembers, List.length_append, List.length_cons]
    simp only [List.length_append, List.length_cons]
    omega

/-! ## Arrays -/

section Arrays

variable {item : Reader α} {level : Nat}

/-- The items after the first are read one after the other, each by a unit of fuel. -/
theorem runs_items {v : Value} {vs : List Value} {xs : List α} {fuel : Nat}
    (first : Reads item (v.write (level + 1)) x)
    (others : List.Forall₂ (fun v x => Reads item (v.write (level + 1)) x) vs xs)
    (hfuel : vs.length < fuel) (rest : List Char) :
    Runs (items item fuel) (v.write (level + 1) ++ (writeItems level vs ++ rest)) (x :: xs) rest := by
  induction others generalizing v x fuel with
  | nil =>
    obtain ⟨fuel, rfl⟩ := Nat.exists_eq_succ_of_ne_zero (Nat.ne_of_gt hfuel)
    rw [items]
    apply (first [] _ blank_nil (ends_writeItems level [] rest)).bind
    rw [writeItems, List.append_assoc]
    apply (Runs.peek (blank_newline level) rfl).bind
    exact (Runs.drop _ _).bind (.pure _ _)
  | @cons v' x' vs xs second _ ih =>
    obtain ⟨fuel, rfl⟩ := Nat.exists_eq_succ_of_ne_zero (Nat.ne_of_gt (Nat.zero_lt_of_lt hfuel))
    obtain ⟨c, more, hwrite, hblank, hclose, -⟩ := exists_write v' (level + 1)
    have next := ih second (Nat.lt_of_succ_lt_succ hfuel)
    rw [hwrite] at next
    rw [items]
    apply (first [] _ blank_nil (ends_writeItems level (v' :: vs) rest)).bind
    simp only [writeItems, hwrite, List.cons_append, List.append_assoc]
    apply (Runs.peek blank_nil rfl).bind
    apply (Runs.drop _ _).bind
    apply (Runs.peek (blank_newline (level + 1)) hblank).bind
    split
    case h_1 heq => cases heq
    case h_2 heq => exact absurd (Option.some.inj heq) hclose
    case h_3 => exact next.map

/-- An array is read as it was written when its items are. -/
theorem reads_array {vs : List Value} {xs : List α}
    (h : List.Forall₂ (fun v x => Reads item (v.write (level + 1)) x) vs xs) (rest : List Char) :
    Runs (array item) ((Value.array vs).write level ++ rest) xs rest := by
  cases h with
  | nil =>
    rw [Value.write]
    exact (Runs.drop _ _).bind ((Runs.peek blank_nil rfl).bind ((Runs.drop _ _).bind (.pure _ _)))
  | @cons v x vs xs first others =>
    obtain ⟨c, more, hwrite, hblank, hclose, -⟩ := exists_write v (level + 1)
    have next (fuel : Nat) (hfuel : vs.length < fuel) := runs_items first others hfuel rest
    rw [hwrite] at next
    simp only [Value.write, hwrite, List.cons_append, List.append_assoc]
    apply (Runs.drop _ _).bind
    apply (Runs.peek (blank_newline (level + 1)) hblank).bind
    split
    case h_1 heq => cases heq
    case h_2 heq => exact absurd (Option.some.inj heq) hclose
    case h_3 =>
      apply (Runs.get _).bind
      apply next
      have := length_writeItems level vs
      simp only [List.length_cons, List.length_append]
      omega

/-- A list of items is read as it was written. -/
theorem reads_listOf {vs : List Value} {xs : List α}
    (h : List.Forall₂ (fun v x => Reads item (v.write (level + 1)) x) vs xs) :
    Reads (listOf item) ((Value.array vs).write level) xs := by
  intro blanks rest hblank hends
  obtain ⟨more, hwrite⟩ : ∃ more, (Value.array vs).write level = '[' :: more := by
    cases vs <;> exact ⟨_, rfl⟩
  have next := reads_array h rest
  rw [hwrite] at next ⊢
  exact (Runs.peek hblank rfl).bind next

/-- A list is read as it was written when each of its items is. -/
theorem reads_list {toValue : α → Value} {xs : List α}
    (h : ∀ x ∈ xs, Reads item ((toValue x).write (level + 1)) x) :
    Reads (listOf item) ((Value.array (xs.map toValue)).write level) xs :=
  reads_listOf (List.forall₂_map_left_iff.mpr (List.forall₂_same.mpr h))

end Arrays

/-! ## Texts -/

theorem reads_text (s : String) (level : Nat) : Reads text ((Value.string s).write level) s := by
  intro blanks rest hblank hends
  have quoted := quoted_quote s rest
  rw [Value.write, quote_append] at *
  exact (Runs.peek hblank rfl).bind quoted

theorem reads_optionalText (s : String) (level : Nat) :
    Reads optionalText ((Value.string s).write level) (some s) := by
  intro blanks rest hblank hends
  have read := reads_text s level [] rest blank_nil hends
  rw [Value.write, quote_append] at *
  exact (Runs.peek hblank rfl).bind (Runs.map read)

/-! ## Objects -/

section Objects

variable {member : σ → String → Reader σ} {level : Nat} {s s' s'' : σ}

/-- The member with this key and value takes one state to another. -/
def Takes (member : σ → String → Reader σ) (level : Nat) (s : σ) (m : String × Value) (s' : σ) :
    Prop :=
  ∀ rest : List Char, Ends rest →
    Runs (member s m.1) (':' :: ' ' :: (m.2.write (level + 1) ++ rest)) s' rest

/-- The members, one after the other, take one state to another. -/
inductive Threads (member : σ → String → Reader σ) (level : Nat) :
    σ → List (String × Value) → σ → Prop
  | nil (s : σ) : Threads member level s [] s
  | cons {s s' s'' : σ} {m : String × Value} {members : List (String × Value)}
      (first : Takes member level s m s') (others : Threads member level s' members s'') :
      Threads member level s (m :: members) s''

theorem Threads.append {ms ns : List (String × Value)} (h : Threads member level s ms s')
    (h' : Threads member level s' ns s'') : Threads member level s (ms ++ ns) s'' := by
  induction h with
  | nil => exact h'
  | cons first _ ih => exact .cons first (ih h')

/-- The members after the first are read one after the other, each by a unit of fuel. -/
theorem runs_members {m : String × Value} {ms : List (String × Value)} {fuel : Nat}
    (first : Takes member level s m s') (others : Threads member level s' ms s'')
    (hfuel : ms.length < fuel) (rest : List Char) :
    Runs (members member fuel s)
      (quote m.1 ++ (':' :: ' ' :: (m.2.write (level + 1) ++ (writeMembers level ms ++ rest)))) s''
      rest := by
  induction others generalizing m s fuel with
  | nil =>
    obtain ⟨fuel, rfl⟩ := Nat.exists_eq_succ_of_ne_zero (Nat.ne_of_gt hfuel)
    rw [members]
    apply Runs.bind (quoted_quote _ _)
    apply (first _ (ends_writeMembers level [] rest)).bind
    rw [writeMembers, List.append_assoc]
    apply (Runs.peek (blank_newline level) rfl).bind
    exact (Runs.drop _ _).bind (.pure _ _)
  | @cons s' t s'' m' ms second _ ih =>
    obtain ⟨fuel, rfl⟩ := Nat.exists_eq_succ_of_ne_zero (Nat.ne_of_gt (Nat.zero_lt_of_lt hfuel))
    have next := ih second (Nat.lt_of_succ_lt_succ hfuel)
    rw [members]
    apply Runs.bind (quoted_quote _ _)
    apply (first _ (ends_writeMembers level (m' :: ms) rest)).bind
    rw [quote_append] at next
    simp only [writeMembers, List.cons_append, List.append_assoc, List.nil_append, quote_append]
    apply (Runs.peek blank_nil rfl).bind
    apply (Runs.drop _ _).bind
    exact (Runs.peek (blank_newline (level + 1)) rfl).bind next

/-- An object is read as it was written when its members are taken in. -/
theorem runs_object {ms : List (String × Value)} (h : Threads member level s ms s')
    (rest : List Char) : Runs (object member s) ((Value.object ms).write level ++ rest) s' rest := by
  cases h with
  | nil =>
    rw [Value.write]
    exact (Runs.drop _ _).bind ((Runs.peek blank_nil rfl).bind ((Runs.drop _ _).bind (.pure _ _)))
  | @cons _ t _ m ms first others =>
    have next (fuel : Nat) (hfuel : ms.length < fuel) := runs_members first others hfuel rest
    simp only [quote_append] at next
    simp only [Value.write, List.cons_append, List.append_assoc, List.nil_append, quote_append]
    apply (Runs.drop _ _).bind
    apply (Runs.peek (blank_newline (level + 1)) rfl).bind
    apply (Runs.get _).bind
    apply next
    have := length_writeMembers level ms
    simp only [List.length_cons, List.length_append]
    omega

theorem reads_objectOf {ms : List (String × Value)} (h : Threads member level s ms s') :
    Reads (objectOf member s) ((Value.object ms).write level) s' := by
  intro blanks rest hblank hends
  obtain ⟨more, hwrite⟩ : ∃ more, (Value.object ms).write level = '{' :: more := by
    cases ms <;> exact ⟨_, rfl⟩
  have next := runs_object h rest
  rw [hwrite] at next ⊢
  exact (Runs.peek hblank rfl).bind next

theorem runs_colon (rest : List Char) : Runs colon (':' :: rest) () rest :=
  (Runs.peek blank_nil rfl).bind (.drop _ _)

/-- A member whose reader takes the colon and then the value. -/
theorem takes_of_reads {m : String × Value} (place : α → σ)
    (hmember : member s m.1 = colon >>= fun _ => read >>= fun v => pure (place v))
    (hread : Reads read (m.2.write (level + 1)) x) : Takes member level s m (place x) := by
  intro rest hends
  rw [hmember]
  apply (runs_colon _).bind
  exact (hread [' '] rest (blank_indent 1) hends).map

end Objects

/-! ## Values -/

/-- All numbers of a value are integers of 64 bits, which are kept as they are. -/
inductive Value.Exact : Value → Prop
  | null : Exact .null
  | bool (b : Bool) : Exact (.bool b)
  | integer {n : Int} (hlow : -2 ^ 63 ≤ n) (hhigh : n < 2 ^ 64) : Exact (.integer n)
  | string (text : String) : Exact (.string text)
  | array {items : List Value} (h : ∀ v ∈ items, Exact v) : Exact (.array items)
  | object {members : List (String × Value)} (h : ∀ m ∈ members, Exact m.2) :
      Exact (.object members)

theorem nesting_le_items {v : Value} {items : List Value} (h : v ∈ items) :
    v.nesting ≤ nestingOfItems items := by
  induction items with
  | nil => cases h
  | cons w items ih =>
    rw [nestingOfItems]
    rcases List.mem_cons.mp h with rfl | h
    · exact Nat.le_max_left _ _
    · exact Nat.le_trans (ih h) (Nat.le_max_right _ _)

theorem nesting_le_members {m : String × Value} {members : List (String × Value)}
    (h : m ∈ members) : m.2.nesting ≤ nestingOfMembers members := by
  induction members with
  | nil => cases h
  | cons w members ih =>
    rw [nestingOfMembers]
    rcases List.mem_cons.mp h with rfl | h
    · exact Nat.le_max_left _ _
    · exact Nat.le_trans (ih h) (Nat.le_max_right _ _)

theorem runs_word (word rest : List Char) : Runs (Json.word word) (word ++ rest) () rest := by
  induction word with
  | nil => exact .pure _ _
  | cons c more ih =>
    rw [Json.word]
    apply (Runs.get _).bind
    simp only [List.cons_append, List.head?_cons, if_true]
    exact (Runs.drop _ _).bind ih

/-- Values that are no arrays or objects are read as they were written. -/
theorem reads_scalar {v : Value} (hexact : v.Exact) (hflat : v.nesting = 0) (level : Nat) :
    Reads (scalar true) (v.write level) v := by
  intro blanks rest hblank hends
  cases hexact with
  | null =>
    rw [Value.write]
    apply (Runs.peek hblank rfl).bind
    exact (runs_word _ _).bind (.pure _ _)
  | bool b =>
    cases b with
    | false =>
      apply (Runs.peek hblank rfl).bind
      exact (runs_word "false".toList _).bind (.pure _ _)
    | true =>
      apply (Runs.peek hblank rfl).bind
      exact (runs_word "true".toList _).bind (.pure _ _)
  | @integer n hlow hhigh =>
    obtain ⟨c, more, hwrite, hc⟩ := exists_toString n
    have number := readNumber_toString true hlow hhigh hends
    rw [Value.write]
    rw [hwrite] at number ⊢
    have hblank' : isBlank c = false := by
      rcases hc with rfl | hc
      · rfl
      · exact (apart_of_isDigit hc).1
    apply (Runs.peek hblank hblank').bind
    split
    case h_1 heq => cases heq
    case h_6 c' _ _ _ _ heq =>
      cases heq
      have hnumber : (decide (c = '-') || isDigit c) = true := by
        rwa [Bool.or_eq_true, decide_eq_true_eq]
      rw [if_pos hnumber]
      exact number
    all_goals
      rename_i heq
      cases heq
      rcases hc with hc | hc <;> cases hc
  | string text =>
    rw [Value.write, quote_append]
    apply (Runs.peek hblank rfl).bind
    have quoted := quoted_quote text rest
    rw [quote_append] at quoted
    exact Runs.map quoted
  | array => cases hflat
  | object => cases hflat

theorem reads_value_of_flat {v : Value} (hexact : v.Exact) (hflat : v.nesting = 0)
    (depth level : Nat) : Reads (value true depth) (v.write level) v := by
  intro blanks rest hblank hends
  obtain ⟨c, more, hwrite, hc, -, hopen⟩ := exists_write v level
  obtain ⟨harray, hobject⟩ := hopen hflat
  have next := reads_scalar hexact hflat level [] rest blank_nil hends
  rw [hwrite] at next ⊢
  cases depth
  all_goals
    apply (Runs.peek hblank hc).bind
    split
    case h_1 heq => exact absurd (Option.some.inj heq) harray
    case h_2 heq => exact absurd (Option.some.inj heq) hobject
    case h_3 => exact next

/-- The reader of values takes the members of an object in front of those it has. -/
theorem threads_value {depth level : Nat} {ms : List (String × Value)}
    (h : ∀ m ∈ ms, Reads (value true depth) (m.2.write (level + 1)) m.2)
    (s : List (String × Value)) :
    Threads (fun s key => do colon; return (key, ← value true depth) :: s) level s ms
      (ms.reverse ++ s) := by
  induction ms generalizing s with
  | nil => exact .nil s
  | cons m ms ih =>
    rw [List.reverse_cons, List.append_assoc]
    have others := ih (fun m' hm' => h m' (List.mem_cons_of_mem m hm')) (m :: s)
    exact .cons (takes_of_reads (fun v => (m.1, v) :: s) rfl (h m List.mem_cons_self)) others

/-- Every value whose numbers are kept exactly is read as it was written, if it does not nest deeper
than the reader goes. -/
theorem reads_value {v : Value} {depth : Nat} (hexact : v.Exact) (hnesting : v.nesting ≤ depth)
    (level : Nat) : Reads (value true depth) (v.write level) v := by
  -- By induction on the depth that is left: an array or an object takes one for its parts.
  induction depth generalizing v level with
  | zero => exact reads_value_of_flat hexact (Nat.le_zero.mp hnesting) 0 level
  | succ depth ih =>
    cases hexact with
    | @array items h =>
      have inner : ∀ v ∈ items, Reads (value true depth) (v.write (level + 1)) v := fun v hv =>
        ih (h v hv) (Nat.le_trans (nesting_le_items hv) (Nat.le_of_succ_le_succ hnesting)) _
      intro blanks rest hblank hends
      have next := reads_array (List.forall₂_same.mpr inner) rest
      obtain ⟨more, hwrite⟩ : ∃ more, (Value.array items).write level = '[' :: more := by
        cases items <;> exact ⟨_, rfl⟩
      rw [hwrite] at next ⊢
      apply (Runs.peek hblank rfl).bind
      exact Runs.map next
    | @object members h =>
      have inner : ∀ m ∈ members, Reads (value true depth) (m.2.write (level + 1)) m.2 := fun m hm =>
        ih (h m hm) (Nat.le_trans (nesting_le_members hm) (Nat.le_of_succ_le_succ hnesting)) _
      intro blanks rest hblank hends
      have next := runs_object (threads_value inner []) rest
      obtain ⟨more, hwrite⟩ : ∃ more, (Value.object members).write level = '{' :: more := by
        cases members <;> exact ⟨_, rfl⟩
      rw [hwrite, List.append_nil] at next
      rw [hwrite]
      apply (Runs.peek hblank rfl).bind
      have reversed := Runs.map (f := List.reverse) next
      rw [List.reverse_reverse] at reversed
      exact Runs.map reversed
    | null => exact reads_value_of_flat .null rfl _ level
    | bool b => exact reads_value_of_flat (.bool b) rfl _ level
    | integer hlow hhigh => exact reads_value_of_flat (.integer hlow hhigh) rfl _ level
    | string text => exact reads_value_of_flat (.string text) rfl _ level

end IncrementalGlr.Json
