import Mathlib.Tactic.Common
import Sp2p.Lib.Framing

/-!
# Variable-length integers

A number of up to 64 bits in groups of seven, from the lowest; every byte but the last has its high
bit set. A number has many encodings, `encode` gives the shortest and `decode` takes any of at most
ten bytes.

Integers of 32 bits are written sign-extended to 64, so a negative one takes ten bytes, and are read
back by their low 32 bits.
-/

namespace Varint

open Framing

/-- The most bytes of a number. -/
def maxBytes : Nat := 10

/-- At most `k` groups of a number. -/
def encodeGroups : Nat → Nat → List Byte
  | 0, _ => []
  | k + 1, n =>
    if n < 128 then [UInt8.ofNat n]
    else UInt8.ofNat (n % 128 + 128) :: encodeGroups k (n / 128)

def encode (n : Nat) : List Byte := encodeGroups maxBytes n

/-- The number in at most `k` groups, and the bytes behind it. -/
def decodeGroups : Nat → List Byte → Option (Nat × List Byte)
  | 0, _ => none
  | _ + 1, [] => none
  | k + 1, b :: bs =>
    if b.toNat < 128 then some (b.toNat, bs)
    else (decodeGroups k bs).map fun r => (b.toNat - 128 + 128 * r.1, r.2)

/-- The low 64 bits of the number. -/
def decode (bs : List Byte) : Option (Nat × List Byte) :=
  (decodeGroups maxBytes bs).map fun r => (r.1 % 2 ^ 64, r.2)

/-! ### What was written is read -/

theorem decodeGroups_encodeGroups (k : Nat) :
    ∀ {n : Nat}, n < 128 ^ (k + 1) → ∀ rest,
      decodeGroups (k + 1) (encodeGroups (k + 1) n ++ rest) = some (n, rest) := by
  induction k with
  | zero =>
    intro n hn rest
    have hlt : n < 128 := by simpa using hn
    simp [encodeGroups, decodeGroups, hlt, Nat.mod_eq_of_lt (show n < 256 by omega)]
  | succ k ih =>
    intro n hn rest
    by_cases hlt : n < 128
    · simp [encodeGroups, decodeGroups, hlt, Nat.mod_eq_of_lt (show n < 256 by omega)]
    · have hbyte : (UInt8.ofNat (n % 128 + 128)).toNat = n % 128 + 128 := by
        rw [UInt8.toNat_ofNat']
        omega
      have hdiv : n / 128 < 128 ^ (k + 1) := by
        rw [Nat.pow_succ] at hn
        exact Nat.div_lt_of_lt_mul (by omega)
      rw [encodeGroups, if_neg hlt, List.cons_append, decodeGroups, hbyte, if_neg (by omega), ih hdiv,
        Option.map_some]
      simp only [Option.some.injEq, Prod.mk.injEq, and_true]
      omega

theorem decode_encode {n : Nat} (h : n < 2 ^ 64) (rest : List Byte) :
    decode (encode n ++ rest) = some (n, rest) := by
  have hfits : n < 128 ^ (9 + 1) := by omega
  rw [decode, encode, maxBytes, decodeGroups_encodeGroups 9 hfits, Option.map_some, Nat.mod_eq_of_lt h]

/-- A number takes at least one byte. -/
theorem length_decodeGroups (k : Nat) :
    ∀ {bs rest : List Byte} {n : Nat}, decodeGroups k bs = some (n, rest) → rest.length < bs.length := by
  induction k with
  | zero =>
    intro bs rest n h
    cases h
  | succ k ih =>
    intro bs rest n h
    cases bs with
    | nil => cases h
    | cons b bs =>
      rw [decodeGroups] at h
      split at h
      · cases h
        exact Nat.lt_succ_self _
      · obtain ⟨⟨m, r⟩, hr, heq⟩ := Option.map_eq_some_iff.1 h
        cases heq
        exact (ih hr).trans (Nat.lt_succ_self _)

theorem length_decode {bs rest : List Byte} {n : Nat} (h : decode bs = some (n, rest)) :
    rest.length < bs.length := by
  obtain ⟨⟨m, r⟩, hr, heq⟩ := Option.map_eq_some_iff.1 h
  cases heq
  exact length_decodeGroups maxBytes hr

/-! ### How long a number is -/

theorem length_encode_one {n : Nat} (h : n < 128) : (encode n).length = 1 := by
  rw [encode, maxBytes, encodeGroups, if_pos h]
  rfl

theorem length_encode_two {n : Nat} (hlow : 128 ≤ n) (hhigh : n < 2 ^ 14) :
    (encode n).length = 2 := by
  rw [encode, maxBytes, encodeGroups, if_neg (by omega), encodeGroups, if_pos (by omega)]
  rfl

/-! ### Signed integers -/

/-- The 64 bits of an integer. -/
def signExtend (v : Int) : Nat := (v % 2 ^ 64).toNat

theorem signExtend_lt (v : Int) : signExtend v < 2 ^ 64 := by
  unfold signExtend
  omega

theorem toInt32_signExtend {v : Int} (hlow : -2 ^ 31 ≤ v) (hhigh : v < 2 ^ 31) :
    toInt32 (signExtend v) = v := by
  rw [toInt32_eq_iff hlow hhigh]
  unfold signExtend
  omega

end Varint
