import Mathlib.Data.List.Induction
import Mathlib.Tactic.Common
import Sp2p.Lib.Framing

/-!
# Numbers in a buffer

`utils::getNumFromBuff` adds up the bytes of a buffer, each times its weight. The weight is an `int`,
which is shifted by a byte in every round, also in the last one. `getNumFromBuff_decodes_iff` says for
which lengths that goes well, and for which bytes the number is right nevertheless where the weight
wraps around.
-/

namespace Sp2p.Tracker

open Framing ByteOrder

/-- The variables of the loop. `overflow` says that a weight or a product did not fit in its type. -/
structure NumLoop where
  ret : BitVec 64 := 0
  tmp : BitVec 32 := 1
  overflow : Bool := false
  deriving DecidableEq

/-- One round. The weight is converted to `unsigned int` for the product, and the product to
`std::int64_t` for the sum; what does not fit wraps around. -/
def NumLoop.step (s : NumLoop) (currChar : Byte) : NumLoop :=
  let product : BitVec 32 := s.tmp * currChar.toBitVec.setWidth 32
  let tmp : BitVec 32 := s.tmp <<< 8
  { ret := s.ret + product.setWidth 64
    tmp
    overflow := s.overflow ∨ product.toNat ≠ s.tmp.toNat * currChar.toNat ∨
      tmp.toInt ≠ s.tmp.toInt * 2 ^ 8 }

/-- A `char` is its byte. `none` is the `out_of_range` of `at`. -/
def getNumFromBuff {N : Nat} (buff : Vector Byte N) (numSize : Int) : Option NumLoop :=
  (List.range numSize.toNat).foldlM (fun s i => buff[i]?.map s.step) {}

/-- The number is that of the bytes, and nothing has overflowed on the way. -/
def Decodes {N : Nat} (buff : Vector Byte N) (numSize : Int) : Prop :=
  ∃ s, getNumFromBuff buff numSize = some s ∧
    s.ret = BitVec.ofNat 64 (ofLowFirst (buff.toList.take numSize.toNat)) ∧ s.overflow = false

variable {N : Nat} {buff : Vector Byte N} {numSize : Int}

/-! ### The loop over the bytes -/

theorem foldlM_range (n : Nat) (h : n ≤ N) :
    (List.range n).foldlM (fun (s : NumLoop) i => buff[i]?.map s.step) {} =
      some ((buff.toList.take n).foldl NumLoop.step {}) := by
  induction n with
  | zero => rfl
  | succ n ih =>
    have hget : buff[n]? = some buff[n] := Vector.getElem?_eq_getElem h
    have htake : buff.toList.take (n + 1) = buff.toList.take n ++ [buff[n]] := by
      rw [List.take_succ_eq_append_getElem (by rw [Vector.length_toList]; omega)]
      simp
    rw [List.range_succ, List.foldlM_append, ih (by omega), htake, List.foldl_append]
    simp [hget]

theorem getNumFromBuff_eq (buff : Vector Byte N) (h : numSize ≤ N) :
    getNumFromBuff buff numSize = some ((buff.toList.take numSize.toNat).foldl NumLoop.step {}) :=
  foldlM_range _ (by omega)

/-- While the weight fits, the product is that of the numbers. -/
theorem toNat_product {tmp : BitVec 32} (h : tmp.toNat ≤ 2 ^ 24) (b : Byte) :
    (tmp * b.toBitVec.setWidth 32).toNat = tmp.toNat * b.toNat := by
  have hb : b.toNat < 256 := b.toNat_lt
  have hmul : tmp.toNat * b.toNat ≤ 2 ^ 24 * b.toNat := Nat.mul_le_mul_right _ h
  have hmod : b.toNat % 2 ^ 32 = b.toNat := Nat.mod_eq_of_lt (by omega)
  rw [BitVec.toNat_mul, BitVec.toNat_setWidth, UInt8.toNat_toBitVec, hmod,
    Nat.mod_eq_of_lt (by omega)]

/-- A weight of up to three bytes is a power of 256, and the next one fits unless it is the fourth. -/
theorem weight {j : Nat} (h : j < 4) :
    (BitVec.ofNat 32 (256 ^ j)).toNat = 256 ^ j ∧ 256 ^ j ≤ 2 ^ 24 ∧
      BitVec.ofNat 32 (256 ^ j) <<< 8 = BitVec.ofNat 32 (256 ^ (j + 1)) ∧
      ((BitVec.ofNat 32 (256 ^ j) <<< 8).toInt ≠ (BitVec.ofNat 32 (256 ^ j)).toInt * 2 ^ 8 ↔
        j = 3) := by
  match j, h with
  | 0, _ | 1, _ | 2, _ | 3, _ => decide

/-- While the weight fits, a round adds the byte in its place. -/
theorem step_of_lt {bs : List Byte} (h : bs.length < 4) (b : Byte) :
    NumLoop.step ⟨BitVec.ofNat 64 (ofLowFirst bs), BitVec.ofNat 32 (256 ^ bs.length), false⟩ b =
      ⟨BitVec.ofNat 64 (ofLowFirst (bs ++ [b])), BitVec.ofNat 32 (256 ^ (bs.length + 1)),
        bs.length = 3⟩ := by
  obtain ⟨hnat, hle, hshift, hover⟩ := weight h
  have htmp : (BitVec.ofNat 32 (256 ^ bs.length)).toNat ≤ 2 ^ 24 := by omega
  have hproduct := toNat_product htmp b
  have hret : BitVec.ofNat 64 (ofLowFirst bs) +
      (BitVec.ofNat 32 (256 ^ bs.length) * b.toBitVec.setWidth 32).setWidth 64 =
        BitVec.ofNat 64 (ofLowFirst (bs ++ [b])) := by
    apply BitVec.eq_of_toNat_eq
    rw [BitVec.toNat_add, BitVec.toNat_setWidth, hproduct, hnat, ofLowFirst_append, BitVec.toNat_ofNat,
      BitVec.toNat_ofNat]
    simp only [ofLowFirst, Nat.mul_zero, Nat.add_zero]
    omega
  unfold NumLoop.step
  simp only [hret, hproduct, hover]
  rw [hshift]
  simp

/-- Without a weight nothing is added any more. -/
theorem step_of_zero (ret : BitVec 64) (b : Byte) :
    NumLoop.step ⟨ret, 0, true⟩ b = ⟨ret, 0, true⟩ := by
  simp [NumLoop.step]

/-- What the loop has after some bytes: the number of the first four, and no overflow before the
fourth. -/
theorem foldl_step (bs : List Byte) :
    bs.foldl NumLoop.step {} =
      if bs.length < 4 then
        ⟨BitVec.ofNat 64 (ofLowFirst bs), BitVec.ofNat 32 (256 ^ bs.length), false⟩
      else ⟨BitVec.ofNat 64 (ofLowFirst (bs.take 4)), 0, true⟩ := by
  induction bs using List.reverseRecOn with
  | nil => rfl
  | append_singleton bs b ih =>
    rw [List.foldl_append, List.foldl_cons, List.foldl_nil, ih, List.length_append, List.length_singleton]
    by_cases hlt : bs.length < 4
    · rw [if_pos hlt, step_of_lt hlt]
      by_cases hlast : bs.length = 3
      · have hall : (bs ++ [b]).take 4 = bs ++ [b] := List.take_of_length_le (by simp [hlast])
        rw [if_neg (by omega), hall, hlast]
        rfl
      · rw [if_pos (by omega)]
        simp [hlast]
    · rw [if_neg hlt, if_neg (by omega), step_of_zero, List.take_append_of_le_length (by omega)]

/-! ### The number -/

/-- Below 64 bits the number of the first four bytes is that of all when the others are zero. -/
theorem ofNat_take_eq_iff {bs : List Byte} (hlong : 4 ≤ bs.length) (hfit : bs.length ≤ 8) :
    BitVec.ofNat 64 (ofLowFirst (bs.take 4)) = BitVec.ofNat 64 (ofLowFirst bs) ↔
      ∀ b ∈ bs.drop 4, b = 0 := by
  have hsplit : ofLowFirst bs = ofLowFirst (bs.take 4) + 256 ^ 4 * ofLowFirst (bs.drop 4) := by
    conv_lhs => rw [← List.take_append_drop 4 bs]
    rw [ofLowFirst_append, List.length_take_of_le hlong]
  have hlt : ofLowFirst bs < 2 ^ 64 := by
    have hpow : 256 ^ bs.length ≤ 256 ^ 8 := Nat.pow_le_pow_right (by decide) hfit
    have := ofLowFirst_lt bs
    omega
  rw [← ofLowFirst_eq_zero_iff, ← BitVec.toNat_inj, BitVec.toNat_ofNat, BitVec.toNat_ofNat]
  omega

/-- **The number is read, with nothing overflowing, exactly when there are at most three bytes. Where
what overflows wraps around, the number alone is right exactly when all bytes behind the fourth are
zero.** -/
theorem getNumFromBuff_decodes_iff {N : Nat} (buff : Vector Byte N) (numSize : Int)
    (hpos : 0 ≤ numSize) (height : numSize ≤ 8) (hsize : numSize ≤ N) :
    (Decodes buff numSize ↔ numSize ≤ 3) ∧
      ((getNumFromBuff buff numSize).map NumLoop.ret =
          some (BitVec.ofNat 64 (ofLowFirst (buff.toList.take numSize.toNat))) ↔
        ∀ b ∈ (buff.toList.take numSize.toNat).drop 4, b = 0) := by
  have hlength : (buff.toList.take numSize.toNat).length = numSize.toNat := by
    rw [List.length_take, Vector.length_toList]
    omega
  have heq := getNumFromBuff_eq buff hsize
  unfold Decodes
  rw [heq, foldl_step]
  generalize buff.toList.take numSize.toNat = bs at hlength
  by_cases hlt : bs.length < 4
  · rw [if_pos hlt, List.drop_of_length_le (by omega)]
    refine ⟨iff_of_true ⟨_, rfl, rfl, rfl⟩ (by omega), iff_of_true rfl ?_⟩
    exact fun b hb => absurd hb List.not_mem_nil
  · rw [if_neg hlt]
    constructor
    · refine iff_of_false ?_ (by omega)
      rintro ⟨s, hs, -, hover⟩
      obtain rfl := Option.some_inj.1 hs
      cases hover
    · rw [Option.map_some, Option.some_inj]
      exact ofNat_take_eq_iff (by omega) (by omega)

theorem getNumFromBuff_decodes_both :
    (Decodes #v[0x2A, 0x01, 0x02, 0x03] 3 ↔ (3 : Int) ≤ 3) ∧
      ((getNumFromBuff #v[0x2A, 0x01, 0x02, 0x03] 3).map NumLoop.ret =
          some (BitVec.ofNat 64 (ofLowFirst ([0x2A, 0x01, 0x02, 0x03].take 3))) ↔
        ∀ b ∈ (([0x2A, 0x01, 0x02, 0x03] : List Byte).take 3).drop 4, b = 0) :=
  getNumFromBuff_decodes_iff #v[0x2A, 0x01, 0x02, 0x03] 3 (by decide) (by decide) (by decide)

/-- The weight overflows in the fourth round, and the fifth byte is lost. -/
theorem getNumFromBuff_loses_byte :
    ¬ Decodes #v[0x00, 0x00, 0x00, 0x00] 4 ∧
      (getNumFromBuff #v[0x00, 0x00, 0x00, 0x00, 0x01] 5).map NumLoop.ret = some 0 ∧
      ofLowFirst [0x00, 0x00, 0x00, 0x00, 0x01] = 2 ^ 32 ∧
      ¬ Decodes #v[0x00, 0x00, 0x00, 0x00, 0x01] 5 := by
  refine ⟨?_, by decide, by decide, ?_⟩
  · rintro ⟨s, hs, -, hover⟩
    obtain rfl := Option.some_inj.1 (Eq.symm hs)
    revert hover
    decide
  · rintro ⟨s, hs, hret, -⟩
    obtain rfl := Option.some_inj.1 (Eq.symm hs)
    revert hret
    decide

end Sp2p.Tracker
