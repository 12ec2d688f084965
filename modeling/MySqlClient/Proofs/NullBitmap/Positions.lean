import MySqlClient.Proofs.NullBitmap.Bits
import MySqlClient.Proofs.NullBitmap.Marks

/-!
# Positions set one after the other

What `isNull` tells of a bitmap is less than what its octets hold: the bits in front of the first
position and behind the last one belong to no position.  So setting a position is followed on the
binary digits of the octets first, where all bits are alike, and what it means for the positions is
read off these.

* `NullBitmap.testBit_setNull`: setting a position sets one digit, and changes no other.
* `NullBitmap.testBit_setAll`: the same of a list of positions, by induction on it.
* `NullBitmap.setAll_clear_exact`: **exactly the positions that were set are NULL**, no other bit is
  set, and the octets are read back as this bitmap.
-/

namespace MySqlClient.NullBitmap

/-- Make some positions NULL, one after the other. -/
def setAll (bitmap : NullBitmap) (positions : List Nat) : NullBitmap :=
  positions.foldl setNull bitmap

@[simp] theorem setAll_nil (bitmap : NullBitmap) : bitmap.setAll [] = bitmap := rfl

@[simp] theorem setAll_cons (bitmap : NullBitmap) (position : Nat) (positions : List Nat) :
    bitmap.setAll (position :: positions) = (bitmap.setNull position).setAll positions := rfl

@[simp] theorem offset_setAll (bitmap : NullBitmap) (positions : List Nat) :
    (bitmap.setAll positions).offset = bitmap.offset := by
  induction positions generalizing bitmap with
  | nil => rfl
  | cons position positions ih => rw [setAll_cons, ih, offset_setNull]

@[simp] theorem length_setAll (bitmap : NullBitmap) (positions : List Nat) :
    (bitmap.setAll positions).bytes.length = bitmap.bytes.length := by
  induction positions generalizing bitmap with
  | nil => rfl
  | cons position positions ih => rw [setAll_cons, ih, length_setNull]

/-! ## Digits -/

/-- Without unused bits in front, every digit stands for a position. -/
theorem testBit_eq_isNull (octets : Bytes) (bit : Nat) :
    octets.toNat.testBit bit = (NullBitmap.mk 0 octets).isNull bit :=
  (isNull_eq_testBit 0 octets bit).symm

/-- A bitmap in which no position is NULL has no digit. -/
theorem testBit_clear (count offset bit : Nat) :
    (clear count offset).bytes.toNat.testBit bit = false := by
  have hoctet : (clear count offset).bytes[bit / 8]?.getD 0 = 0 := by
    rw [clear, List.getElem?_replicate]
    split <;> rfl
  rw [Bytes.testBit_toNat, hoctet]
  exact Nat.zero_testBit _

/-- **Setting a position sets the digit that stands for it**, and changes no other. -/
theorem testBit_setNull {bitmap : NullBitmap} {position : Nat}
    (h : (position + bitmap.offset) / 8 < bitmap.bytes.length) (bit : Nat) :
    (bitmap.setNull position).bytes.toNat.testBit bit =
      (bitmap.bytes.toNat.testBit bit || position + bitmap.offset == bit) := by
  have hwhole (other : Nat) : ((NullBitmap.mk 0 bitmap.bytes).setNull
      (position + bitmap.offset)).isNull other =
        ((NullBitmap.mk 0 bitmap.bytes).isNull other || position + bitmap.offset == other) := by
    apply isNull_setNull
    exact h
  rw [testBit_eq_isNull, testBit_eq_isNull]
  exact hwhole bit

/-- **Setting positions sets the digits that stand for them**, and changes no other. -/
theorem testBit_setAll {bitmap : NullBitmap} {positions : List Nat}
    (h : ∀ position ∈ positions, (position + bitmap.offset) / 8 < bitmap.bytes.length) (bit : Nat) :
    (bitmap.setAll positions).bytes.toNat.testBit bit = true ↔
      bitmap.bytes.toNat.testBit bit = true ∨
        ∃ position ∈ positions, position + bitmap.offset = bit := by
  induction positions generalizing bitmap with
  | nil => simp
  | cons position positions ih =>
    obtain ⟨hfirst, hrest⟩ := List.forall_mem_cons.mp h
    have hnext : ∀ other ∈ positions, (other + (bitmap.setNull position).offset) / 8 <
        (bitmap.setNull position).bytes.length := by
      simpa using hrest
    rw [setAll_cons, ih hnext, testBit_setNull hfirst, offset_setNull, Bool.or_eq_true, beq_iff_eq,
      or_assoc]
    simp only [List.mem_cons, exists_eq_or_imp]

/-! ## Octets -/

/-- The octets of a bitmap have room for its positions. -/
theorem div_lt_byteLength {position count : Nat} (h : position < count) (offset : Nat) :
    (position + offset) / 8 < byteLength count offset := by
  rw [byteLength]
  omega

/-- **Exactly the positions that were set are NULL.**  The octets are as many as the count asks for,
no bit of them is set but those that stand for the positions, so that none is in front of the first
position or behind the last one; and with anything behind them they are read back as the bitmap that
they were made for. -/
theorem setAll_clear_exact {count offset : Nat} {positions : List Nat}
    (h : ∀ position ∈ positions, position < count) (rest : Bytes) :
    let bitmap := (clear count offset).setAll positions
    (∀ position, bitmap.isNull position = true ↔ position ∈ positions) ∧
      bitmap.bytes.length = (count + 7 + offset) / 8 ∧
      (∀ bit, bitmap.bytes.toNat.testBit bit = true ↔
        ∃ position ∈ positions, position + offset = bit) ∧
      (∀ bit, bitmap.bytes.toNat.testBit bit = true → offset ≤ bit ∧ bit < offset + count) ∧
      reader count offset (bitmap.bytes ++ rest) = .ok bitmap rest := by
  intro bitmap
  have hroom : ∀ position ∈ positions, (position + (clear count offset).offset) / 8 <
      (clear count offset).bytes.length := by
    intro position hmem
    rw [length_clear]
    exact div_lt_byteLength (h position hmem) offset
  have hdigits (bit : Nat) : bitmap.bytes.toNat.testBit bit = true ↔
      ∃ position ∈ positions, position + offset = bit := by
    rw [testBit_setAll hroom, testBit_clear]
    exact or_iff_right Bool.false_ne_true
  have hoffset : bitmap.offset = offset := offset_setAll _ _
  have hlength : bitmap.bytes.length = byteLength count offset := by
    rw [length_setAll, length_clear]
  refine ⟨fun position => ?_, hlength, hdigits, fun bit hbit => ?_, ?_⟩
  · have hbit : bitmap.isNull position = bitmap.bytes.toNat.testBit (position + bitmap.offset) :=
      isNull_eq_testBit bitmap.offset bitmap.bytes position
    rw [hbit, hoffset, hdigits]
    constructor
    · rintro ⟨other, hmem, heq⟩
      rwa [← Nat.add_right_cancel heq]
    · exact fun hmem => ⟨position, hmem, rfl⟩
  · obtain ⟨position, hmem, rfl⟩ := (hdigits bit).mp hbit
    have hlt := h position hmem
    omega
  · exact reads_reader hoffset hlength rest

/-- The bitmap of a row of nineteen columns, in whose last octet three bits are for no column. -/
theorem setAll_clear_exact_nineteenColumns :
    let positions := [0, 3, 7, 8, 15, 18]
    let bitmap := (clear 19 rowOffset).setAll positions
    (∀ position ∈ positions, position < 19) ∧ bitmap.bytes = [0x24, 0x06, 0x12] ∧
      (bitmap.isNull 8 = true ∧ bitmap.isNull 9 = false) ∧
      (∀ bit, bitmap.bytes.toNat.testBit bit = true → 2 ≤ bit ∧ bit < 21) ∧
      reader 19 rowOffset (bitmap.bytes ++ [0xFF]) = .ok bitmap [0xFF] := by
  intro positions bitmap
  have hbelow : ∀ position ∈ positions, position < 19 := by
    decide
  obtain ⟨hnull, -, -, hbits, hread⟩ := @setAll_clear_exact 19 rowOffset positions hbelow [0xFF]
  refine ⟨hbelow, by decide, ⟨(hnull 8).mpr (by decide), ?_⟩, hbits, hread⟩
  exact eq_false_of_ne_true fun h => absurd ((hnull 9).mp h) (by decide)

end MySqlClient.NullBitmap
