import Mathlib.Algebra.Group.Int.Defs
import Mathlib.Algebra.Group.Nat.Defs
import Mathlib.Tactic.Common
import IncrementalGlr.Codec.Basic

/-!
What is written in the binary format is read back.

`Reads read front x` says that of every input that starts with the bytes `front`, `read` takes exactly
these and gives `x`. There is one rule for each way readers are put together and one for each kind of
value, so that the reader of a record is followed part by part along its writer. Lengths are stored as
numbers of 64 bits. That the bytes are not more than such a number can count stands once in the
definition of `Reads`, and its rules hand it down to the parts.
-/
namespace IncrementalGlr.Codec

variable {α β : Type} {read : Decoder α} {write : α → List UInt8} {front more : List UInt8} {x : α}
  {y : β}

/-- Of every input that starts with the given bytes the reader takes exactly these and gives `x`, if
there are not more of them than the length of a text or list can say. -/
def Reads (read : Decoder α) (front : List UInt8) (x : α) : Prop :=
  front.length < 2 ^ 64 → ∀ rest, read.run (front ++ rest) = .ok (x, rest)

/-- Every number takes a byte. -/
theorem length_writeNat_pos (n : Nat) : 0 < (writeNat n).length := by
  rw [writeNat]
  split <;> exact Nat.succ_pos _

theorem length_writeList_pos (xs : List α) : 0 < (writeList write xs).length := by
  have := length_writeNat_pos xs.length
  rw [writeList, List.length_append]
  omega

theorem length_writeText_pos (s : String) : 0 < (writeText s).length := by
  have := length_writeNat_pos s.toByteArray.toList.length
  rw [writeText, writeBytes, List.length_append]
  omega

namespace Reads

/-! ## Readers put together -/

theorem pure (x : α) : Reads (pure x) [] x :=
  fun _ _ => rfl

theorem bind {next : α → Decoder β} (first : Reads read front x) (second : Reads (next x) more y) :
    Reads (read >>= next) (front ++ more) y := by
  intro counted rest
  rw [List.length_append] at counted
  rw [List.append_assoc, StateT.run_bind, first (by omega)]
  exact second (by omega) rest

/-- What is read may be put in its place. -/
theorem map {f : α → β} (h : Reads read front x) :
    Reads (read >>= fun v => Pure.pure (f v)) front (f x) := by
  rw [← List.append_nil front]
  exact h.bind (.pure (f x))

/-- A value of one byte that is followed by more. -/
theorem bind_cons {next : α → Decoder β} {b : UInt8} (first : Reads read [b] x)
    (second : Reads (next x) more y) : Reads (read >>= next) (b :: more) y :=
  first.bind second

/-- A reader that gives back what was written gives it back when nothing follows. -/
theorem decode_eq (h : Reads read front x) (hcounted : front.length < 2 ^ 64) :
    decode read front = .ok x := by
  have whole := h hcounted []
  rw [List.append_nil] at whole
  rw [decode, whole]
  rfl

/-! ## Numbers -/

theorem byte (b : UInt8) : Reads readByte [b] b :=
  fun _ _ => rfl

/-- A number below 128 is one byte. -/
theorem smallNat {bits : Nat} {b : UInt8} (hb : b.toNat < 128) (hfit : b.toNat < 2 ^ bits) :
    Reads (readNat bits) [b] b.toNat := by
  rw [readNat]
  apply bind_cons (.byte b)
  by_cases hbits : bits ≤ 7
  · rw [if_pos hbits]
    change Reads (if b.toNat < 2 ^ bits then _ else _) _ _
    rw [if_pos hfit]
    exact .pure _
  · rw [if_neg hbits, if_pos hb]
    exact .pure _

theorem nat {bits n : Nat} (hfit : n < 2 ^ bits) : Reads (readNat bits) (writeNat n) n := by
  induction n using writeNat.induct generalizing bits with
  | case1 n hsmall =>
    have hbyte : n.toUInt8.toNat = n := Nat.mod_eq_of_lt (by omega)
    rw [writeNat, if_pos hsmall]
    have one : Reads (readNat bits) [n.toUInt8] n.toUInt8.toNat := .smallNat (by omega) (by omega)
    rwa [hbyte] at one
  | case2 n hlarge ih =>
    have hbyte : (n % 128 + 128).toUInt8.toNat = n % 128 + 128 := Nat.mod_eq_of_lt (by omega)
    have hbits : ¬ bits ≤ 7 := by
      intro hle
      have : 2 ^ bits ≤ 2 ^ 7 := Nat.pow_le_pow_right (by decide) hle
      omega
    have hrest : n / 128 < 2 ^ (bits - 7) := by
      have hsplit : 2 ^ bits = 2 ^ (bits - 7) * 2 ^ 7 := by
        rw [← Nat.pow_add, Nat.sub_add_cancel (by omega)]
      omega
    rw [writeNat, if_neg hlarge, readNat]
    apply bind_cons (.byte _)
    rw [if_neg hbits, if_neg (by omega)]
    have whole := (ih hrest).map (f := fun v => (n % 128 + 128).toUInt8.toNat - 128 + 128 * v)
    have hn : (n % 128 + 128).toUInt8.toNat - 128 + 128 * (n / 128) = n := by omega
    rwa [hn] at whole

theorem int {i : Int} (hlow : -2 ^ 31 ≤ i) (hhigh : i < 2 ^ 31) : Reads readInt (writeInt i) i := by
  cases i with
  | ofNat n =>
    have hn : (n : Int) < 2 ^ 31 := hhigh
    have doubled : Reads (readNat 32) (writeNat (2 * n)) (2 * n) := .nat (by omega)
    have folded := doubled.map (f := fun m =>
      if m % 2 = 0 then Int.ofNat (m / 2) else .negSucc (m / 2))
    rwa [if_pos (by omega), Nat.mul_div_cancel_left _ (by decide)] at folded
  | negSucc n =>
    have doubled : Reads (readNat 32) (writeNat (2 * n + 1)) (2 * n + 1) := .nat (by omega)
    have folded := doubled.map (f := fun m =>
      if m % 2 = 0 then Int.ofNat (m / 2) else .negSucc (m / 2))
    have hn : (2 * n + 1) / 2 = n := by omega
    rwa [if_neg (by omega), hn] at folded

theorem bool (b : Bool) : Reads readBool (writeBool b) b := by
  apply bind_cons (.byte _)
  cases b <;> exact .pure _

/-! ## Texts, options and lists -/

/-- A row of bytes with its length in front. -/
theorem bytes (data : List UInt8) : Reads readBytes (writeBytes data) data := by
  intro counted rest
  have hlength : data.length < 2 ^ 64 := by
    rw [writeBytes, List.length_append] at counted
    omega
  have taken : Reads (readExactly data.length) data data := by
    intro _ rest
    change (if (data ++ rest).length < data.length then _ else _) = _
    rw [if_neg (by simp), List.take_left, List.drop_left]
  exact ((nat hlength).bind taken) counted rest

end Reads

/-- The number of a variant is one byte. -/
theorem reads_tag {b : UInt8} (hb : b.toNat < 128) : Reads (readNat 32) [b] b.toNat :=
  .smallNat hb (by omega)

/-- The bytes of an array, one by one from the front. -/
theorem toList_byteArray (a : ByteArray) : a.toList = a.data.toList := by
  have loop (i : Nat) (seen : List UInt8) :
      ByteArray.toList.loop a i seen = seen.reverse ++ a.data.toList.drop i := by
    fun_induction ByteArray.toList.loop a i seen with
    | case1 i seen hi ih =>
      have hbyte : a.get! i = a.data.toList[i] := by
        change a.data[i]! = _
        rw [getElem!_pos a.data i hi, Array.getElem_toList]
      rw [ih, List.drop_eq_getElem_cons hi, hbyte, List.reverse_cons, List.append_assoc]
      rfl
    | case2 i seen hi =>
      rw [List.drop_eq_nil_of_le (Nat.le_of_not_lt hi), List.append_nil]
  exact loop 0 []

namespace Reads

theorem text (s : String) : Reads readText (writeText s) s := by
  have hvalid : String.fromUTF8? s.toByteArray.toList.toByteArray = some s := by
    have hbytes : s.toByteArray.toList.toByteArray = s.toByteArray := by
      apply ByteArray.ext
      rw [toList_byteArray, List.data_toByteArray]
    rw [hbytes, String.fromUTF8?, dif_pos s.isValidUTF8]
    rfl
  rw [writeText, ← List.append_nil (writeBytes _)]
  apply (Reads.bytes _).bind
  rw [hvalid]
  exact .pure _

theorem none : Reads (readOption read) (writeOption write none) none :=
  .bind_cons (.byte _) (.pure _)

theorem some (h : Reads read (write x) x) : Reads (readOption read) (writeOption write (some x)) (some x) :=
  .bind_cons (.byte _) h.map

theorem option {o : Option α} (h : ∀ x ∈ o, Reads read (write x) x) :
    Reads (readOption read) (writeOption write o) o := by
  cases o with
  | none => exact none
  | some x => exact some (h x rfl)

theorem many {xs : List α} (h : ∀ x ∈ xs, Reads read (write x) x) :
    Reads (readMany read xs.length) (xs.flatMap write) xs := by
  induction xs with
  | nil => exact .pure _
  | cons x xs ih =>
    rw [List.flatMap_cons]
    apply (h x List.mem_cons_self).bind
    exact (ih fun y hy => h y (List.mem_cons_of_mem _ hy)).map

/-- A list of values that each take a byte at least. -/
theorem list {xs : List α} (hpos : ∀ x, 0 < (write x).length)
    (h : ∀ x ∈ xs, Reads read (write x) x) : Reads (readList read) (writeList write xs) xs := by
  intro counted
  have hlength : xs.length ≤ (xs.flatMap write).length := by
    clear h counted
    induction xs with
    | nil => exact Nat.le_refl 0
    | cons x xs ih =>
      have := hpos x
      rw [List.flatMap_cons, List.length_append, List.length_cons]
      omega
  have hcount : xs.length < 2 ^ 64 := by
    rw [writeList, List.length_append] at counted
    omega
  exact (nat hcount).bind (many h) counted

end Reads

end IncrementalGlr.Codec
