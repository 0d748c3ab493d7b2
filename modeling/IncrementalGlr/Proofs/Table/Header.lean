import Mathlib.Algebra.Group.Nat.Defs
import Mathlib.Tactic.Common
import IncrementalGlr.Table.Header

/-!
Headers are read as they were written: 64 bytes and the header they hold say the same.
-/
namespace IncrementalGlr.Header

/-! ## Numbers -/

theorem lor_shiftLeft {k a : Nat} (h : a < 2 ^ k) (b : Nat) : a ||| b <<< k = a + 2 ^ k * b := by
  rw [Nat.or_comm, ← Nat.shiftLeft_add_eq_or_of_lt h, Nat.shiftLeft_eq, Nat.mul_comm, Nat.add_comm]

theorem toNat_ofBytes16 (a b : UInt8) : (ofBytes16 a b).toNat = a.toNat + 2 ^ 8 * b.toNat := by
  have hb := b.toNat_lt
  have high : (b.toUInt16 <<< 8).toNat = b.toNat <<< 8 := by
    rw [UInt16.toNat_shiftLeft, UInt8.toNat_toUInt16]
    change b.toNat <<< 8 % 2 ^ 16 = _
    rw [Nat.shiftLeft_eq]
    omega
  rw [ofBytes16, UInt16.toNat_or, high, UInt8.toNat_toUInt16, lor_shiftLeft a.toNat_lt]

/-- A byte that is shifted to its place in a number of four bytes. -/
theorem toNat_shiftLeft {n : UInt32} (b : UInt8) (k : Nat) (hn : n.toNat = k) (hk : k ≤ 24) :
    (b.toUInt32 <<< n).toNat = b.toNat <<< k := by
  have hb := b.toNat_lt
  have hpow : 2 ^ k ≤ 2 ^ 24 := Nat.pow_le_pow_right (by decide) hk
  have hmul : b.toNat * 2 ^ k ≤ 255 * 2 ^ 24 := Nat.mul_le_mul (by omega) hpow
  rw [UInt32.toNat_shiftLeft, UInt8.toNat_toUInt32, hn, Nat.mod_eq_of_lt (by omega : k < 32),
    Nat.shiftLeft_eq]
  omega

theorem toNat_ofBytes32 (a b c d : UInt8) : (ofBytes32 a b c d).toNat =
    a.toNat + 2 ^ 8 * b.toNat + 2 ^ 16 * c.toNat + 2 ^ 24 * d.toNat := by
  have ha := a.toNat_lt
  have hb := b.toNat_lt
  have hc := c.toNat_lt
  rw [ofBytes32, UInt32.toNat_or, UInt32.toNat_or, UInt32.toNat_or,
    toNat_shiftLeft b 8 rfl (by decide), toNat_shiftLeft c 16 rfl (by decide),
    toNat_shiftLeft d 24 rfl (by decide), UInt8.toNat_toUInt32, lor_shiftLeft ha,
    lor_shiftLeft (by omega : a.toNat + 2 ^ 8 * b.toNat < 2 ^ 16), lor_shiftLeft (by omega)]

theorem ofBytes16_bytes (n : UInt16) : ofBytes16 n.toUInt8 (n >>> 8).toUInt8 = n := by
  have hn := n.toNat_lt
  have high : (n >>> 8).toNat = n.toNat / 2 ^ 8 := by
    rw [UInt16.toNat_shiftRight, Nat.shiftRight_eq_div_pow]
    rfl
  apply UInt16.toNat_inj.mp
  rw [toNat_ofBytes16, UInt16.toNat_toUInt8, UInt16.toNat_toUInt8, high]
  omega

theorem bytes16_ofBytes16 (a b : UInt8) : bytes16 (ofBytes16 a b) = [a, b] := by
  have ha := a.toNat_lt
  have hb := b.toNat_lt
  have high : (ofBytes16 a b >>> 8).toNat = b.toNat := by
    rw [UInt16.toNat_shiftRight, Nat.shiftRight_eq_div_pow, toNat_ofBytes16]
    change (a.toNat + 2 ^ 8 * b.toNat) / 2 ^ 8 = _
    omega
  have first : (ofBytes16 a b).toUInt8 = a := by
    apply UInt8.toNat_inj.mp
    rw [UInt16.toNat_toUInt8, toNat_ofBytes16]
    omega
  have second : (ofBytes16 a b >>> 8).toUInt8 = b := by
    apply UInt8.toNat_inj.mp
    rw [UInt16.toNat_toUInt8, high]
    omega
  rw [bytes16, first, second]

/-- The byte of a number from a given place on. -/
theorem toNat_byte {s : UInt32} (n : UInt32) (k : Nat) (hs : s.toNat = k) (hk : k < 32) :
    (n >>> s).toUInt8.toNat = n.toNat / 2 ^ k % 2 ^ 8 := by
  rw [UInt32.toNat_toUInt8, UInt32.toNat_shiftRight, hs, Nat.mod_eq_of_lt hk,
    Nat.shiftRight_eq_div_pow]

theorem ofBytes32_bytes (n : UInt32) : ofBytes32 n.toUInt8 (n >>> 8).toUInt8 (n >>> 16).toUInt8
    (n >>> 24).toUInt8 = n := by
  have hn := n.toNat_lt
  apply UInt32.toNat_inj.mp
  rw [toNat_ofBytes32, UInt32.toNat_toUInt8, toNat_byte n 8 rfl (by decide),
    toNat_byte n 16 rfl (by decide), toNat_byte n 24 rfl (by decide)]
  omega

theorem bytes32_ofBytes32 (a b c d : UInt8) : bytes32 (ofBytes32 a b c d) = [a, b, c, d] := by
  have ha := a.toNat_lt
  have hb := b.toNat_lt
  have hc := c.toNat_lt
  have hd := d.toNat_lt
  have place {s : UInt32} {e : UInt8} (k : Nat) (hs : s.toNat = k) (hk : k < 32)
      (he : (a.toNat + 2 ^ 8 * b.toNat + 2 ^ 16 * c.toNat + 2 ^ 24 * d.toNat) / 2 ^ k % 2 ^ 8 =
        e.toNat) : (ofBytes32 a b c d >>> s).toUInt8 = e := by
    apply UInt8.toNat_inj.mp
    rw [toNat_byte _ k hs hk, toNat_ofBytes32, he]
  have first : (ofBytes32 a b c d).toUInt8 = a := by
    apply UInt8.toNat_inj.mp
    rw [UInt32.toNat_toUInt8, toNat_ofBytes32]
    omega
  have second : (ofBytes32 a b c d >>> 8).toUInt8 = b := place 8 rfl (by decide) (by omega)
  have third : (ofBytes32 a b c d >>> 16).toUInt8 = c := place 16 rfl (by decide) (by omega)
  have fourth : (ofBytes32 a b c d >>> 24).toUInt8 = d := place 24 rfl (by decide) (by omega)
  rw [bytes32, first, second, third, fourth]

/-! ## Headers -/

theorem length_toBytes (h : Header) : h.toBytes.length = size := by
  simp only [toBytes, List.length_append, Vector.length_toList]
  rfl

/-- The bytes of a vector that is given by its elements. -/
theorem toList_ofFn {n : Nat} (f : Nat → UInt8) :
    (Vector.ofFn fun i : Fin n => f i).toList = (List.range n).map f := by
  apply List.ext_getElem
  · rw [Vector.length_toList, List.length_map, List.length_range]
  · intro i hi hrange
    rw [Vector.getElem_toList, Vector.getElem_ofFn, List.getElem_map, List.getElem_range]

/-- A vector is given by the bytes of a list in which it stands. -/
theorem ofFn_getD {n : Nat} (v : Vector UInt8 n) (front more : List UInt8) :
    (Vector.ofFn fun i : Fin n => (front ++ (v.toList ++ more)).getD (front.length + i) 0) = v := by
  apply Vector.ext
  intro i hi
  have hlist : i < v.toList.length := by rwa [Vector.length_toList]
  rw [Vector.getElem_ofFn, List.getD_eq_getElem?_getD,
    List.getElem?_append_right (Nat.le_add_right _ _), Nat.add_sub_cancel_left,
    List.getElem?_append_left hlist, List.getElem?_eq_getElem hlist, Vector.getElem_toList]
  rfl

theorem ofBytes_toBytes (h : Header) : ofBytes h.toBytes = h := by
  obtain ⟨⟨⟨magic⟩, hmagic⟩, version, checksum, total, body, symbols, terminals, externals, fields,
    productions, states, lists, reserved⟩ := h
  match magic, hmagic with
  | [a, b, c, d], _ =>
    have last := ofFn_getD reserved ([a, b, c, d] ++ bytes32 version ++ bytes32 checksum ++
      bytes32 total ++ bytes32 body ++ bytes16 symbols ++ bytes16 terminals ++ bytes16 externals ++
      bytes16 fields ++ bytes16 productions ++ bytes16 states ++ bytes16 lists) []
    rw [List.append_nil] at last
    have mark (front : List UInt8) : (Vector.ofFn fun i : Fin 4 => ([a, b, c, d] ++ front).getD i 0) =
        ⟨⟨[a, b, c, d]⟩, rfl⟩ := by
      apply Vector.ext
      intro i hi
      rw [Vector.getElem_ofFn]
      match i, hi with
      | 0, _ | 1, _ | 2, _ | 3, _ => rfl
    simp only [ofBytes, toBytes, Vector.toList_mk, bytes32, bytes16, List.cons_append,
      List.nil_append, Nat.reduceAdd, List.getD_cons_succ, List.getD_cons_zero,
      ofBytes32_bytes, ofBytes16_bytes]
    rw [mk.injEq]
    exact ⟨mark _, rfl, rfl, rfl, rfl, rfl, rfl, rfl, rfl, rfl, rfl, rfl, last⟩

theorem toBytes_ofBytes {bytes : List UInt8} (h : bytes.length = size) :
    (ofBytes bytes).toBytes = bytes := by
  have spelled : (ofBytes bytes).toBytes = (List.range 64).map fun i => bytes.getD i 0 := by
    simp only [toBytes, ofBytes, bytes16_ofBytes16, bytes32_ofBytes32,
      toList_ofFn fun i => bytes.getD i 0, toList_ofFn fun i => bytes.getD (34 + i) 0]
    rfl
  rw [spelled]
  apply List.ext_getElem
  · rw [List.length_map, List.length_range, h]
    rfl
  · intro i hi hbytes
    rw [List.getElem_map, List.getElem_range, List.getD_eq_getElem?_getD,
      List.getElem?_eq_getElem hbytes, Option.getD_some]

end IncrementalGlr.Header
