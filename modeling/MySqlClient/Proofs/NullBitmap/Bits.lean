import Mathlib.Data.Nat.Bitwise
import MySqlClient.NullBitmap

/-!
# A NULL bitmap as a number

The octets of a bitmap, least significant bit first, are the binary digits of a little-endian
number.

* `Bytes.testBit_toNat`: a digit of such a number is a bit of one octet.
* `NullBitmap.isNull_eq_testBit`: **a position is NULL where the digit behind the unused ones is
  set.**
-/

namespace MySqlClient

/-- A binary digit of a little-endian number is a bit of one of its octets. -/
theorem Bytes.testBit_toNat (octets : Bytes) (bit : Nat) :
    octets.toNat.testBit bit = (octets[bit / 8]?.getD 0).toNat.testBit (bit % 8) := by
  induction octets generalizing bit with
  | nil => simp
  | cons octet rest ih =>
    have hnumber : toNat (octet :: rest) = 2 ^ 8 * toNat rest + octet.toNat := by
      rw [toNat_cons]
      omega
    rw [hnumber, Nat.testBit_two_pow_mul_add _ octet.toNat_lt]
    split
    · next hlow => rw [Nat.div_eq_of_lt hlow, Nat.mod_eq_of_lt hlow, List.getElem?_cons_zero,
        Option.getD_some]
    · next hhigh =>
      have hdiv : bit / 8 = (bit - 8) / 8 + 1 := by omega
      have hmod : bit % 8 = (bit - 8) % 8 := by omega
      rw [ih, hdiv, hmod, List.getElem?_cons_succ]

/-- The digits that some octets hold do not depend on what is behind them. -/
theorem Bytes.testBit_toNat_append {front : Bytes} (back : Bytes) {bit : Nat}
    (h : bit / 8 < front.length) :
    (toNat (front ++ back)).testBit bit = front.toNat.testBit bit := by
  rw [testBit_toNat, testBit_toNat, List.getElem?_append_left h]

namespace NullBitmap

/-- What is left of an octet under the mask of a bit. -/
theorem and_mask_ne_zero (octet : UInt8) (bit : Nat) :
    (octet &&& mask bit != 0) = octet.toNat.testBit (bit % 8) := by
  have hmask : (mask bit).toNat = 2 ^ (bit % 8) := by
    have hlt : 2 ^ (bit % 8) < 2 ^ 8 := Nat.pow_lt_pow_right (by decide) (Nat.mod_lt _ (by decide))
    rw [mask, Nat.one_shiftLeft, UInt8.toNat_ofNat', Nat.mod_eq_of_lt hlt]
  have hand : (octet &&& mask bit).toNat =
      (octet.toNat.testBit (bit % 8)).toNat * 2 ^ (bit % 8) := by
    rw [UInt8.toNat_and, hmask, Nat.and_two_pow]
  have hpos := Nat.two_pow_pos (bit % 8)
  rw [Bool.eq_iff_iff, bne_iff_ne, ne_eq, ← UInt8.toNat_inj, hand]
  cases octet.toNat.testBit (bit % 8) <;> simp

/-- **A position is NULL where the number of the bitmap has a binary digit.** -/
theorem isNull_eq_testBit (offset : Nat) (octets : Bytes) (position : Nat) :
    (NullBitmap.mk offset octets).isNull position = octets.toNat.testBit (position + offset) := by
  rw [Bytes.testBit_toNat]
  dsimp only [isNull]
  cases octets[(position + offset) / 8]? with
  | none => simp
  | some octet => exact and_mask_ne_zero octet _

end NullBitmap

end MySqlClient
