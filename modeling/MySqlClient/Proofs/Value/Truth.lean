import MySqlClient.Proofs.Value.Integers

/-!
# Integers as truth values

Behind a prepared statement an integer is a truth value by way of its reading as an integer with
sign, whether its column has a sign or not.  An integer that is too large for that, as the upper
half of the words of eight octets without sign is, has no truth value, although it is read as an
integer without sign.

* `Sent.Word`: what a column of an integer type holds behind a prepared statement, by its octets;
  `Sent.Word.number`: the integer that it denotes.
* `Sent.Word.exists_integer`: every word is the binary form of an integer of the column.
* `Sent.Word.toBool?_value`: the truth value of a word, by the integer that it denotes.
* `Sent.Word.truth_exact`: **a word is zero or not, unless its integer is too large**, with what
  that means for the two readings as an integer.
-/

namespace MySqlClient

/-- The integer types have the widths of words. -/
theorem ColumnType.hasWord_of_fixedLength {type : ColumnType} {width : Nat}
    (hinteger : type.isInteger = true) (hwidth : type.fixedLength = some width) :
    type.HasWord width := by
  cases type with
  | tiny => cases hwidth; exact .tiny
  | short => cases hwidth; exact .short
  | year => cases hwidth; exact .year
  | int24 => cases hwidth; exact .int24
  | long => cases hwidth; exact .long
  | longLong => cases hwidth; exact .longLong
  | _ => cases hinteger

/-- No word has more than 64 bits. -/
theorem ColumnType.HasWord.capacity_le {type : ColumnType} {width : Nat} (h : type.HasWord width) :
    Bytes.capacity width ≤ 2 ^ 64 := by
  cases h <;> decide

/-- Only the widest words without sign hold integers that need all of their 64 bits. -/
theorem HoldsInteger.of_le {type : ColumnType} {width : Nat} {unsigned : Bool} {n : Int}
    (h : HoldsInteger width unsigned n) (hword : type.HasWord width) (hlarge : 2 ^ 63 ≤ n) :
    type = .longLong ∧ unsigned = true := by
  have hcapacity := hword.capacity_le
  have hwide : type = .longLong ∨ Bytes.capacity width ≤ 2 ^ 32 := by
    cases hword with
    | longLong => exact Or.inl rfl
    | _ => exact Or.inr (by decide)
  unfold HoldsInteger at h
  cases unsigned with
  | true =>
    rw [if_pos rfl] at h
    exact ⟨hwide.resolve_right (by omega), rfl⟩
  | false =>
    rw [if_neg (by decide)] at h
    omega

namespace Sent

/-- What a column of an integer type holds behind a prepared statement: octets of the width of the
type. -/
structure Word where
  type : ColumnType
  /-- Whether the column has no sign. -/
  unsigned : Bool
  octets : Bytes
  isInteger : type.isInteger = true
  hasWidth : type.fixedLength = some octets.length

namespace Word

/-- The value of the column, as it comes in a row. -/
def value (w : Word) : Value :=
  ⟨w.type, .binary, w.unsigned, some w.octets⟩

/-- The integer that the word denotes.  Where the column has a sign the upper half of the words
stands for the negative integers. -/
def number (w : Word) : Int :=
  if w.unsigned = true ∨ 2 * w.octets.toNat < Bytes.capacity w.octets.length then w.octets.toNat
  else w.octets.toNat - Bytes.capacity w.octets.length

theorem hasWord (w : Word) : w.type.HasWord w.octets.length :=
  ColumnType.hasWord_of_fixedLength w.isInteger w.hasWidth

/-- The word holds its integer. -/
theorem holdsInteger (w : Word) : HoldsInteger w.octets.length w.unsigned w.number := by
  have hlt := Bytes.toNat_lt w.octets
  unfold HoldsInteger number
  cases w.unsigned with
  | true =>
    rw [if_pos rfl, if_pos (Or.inl rfl)]
    omega
  | false =>
    simp only [Bool.false_eq_true, false_or, if_false]
    split <;> omega

/-- The octets of a word are its integer in two's complement. -/
theorem ofInt_number (w : Word) : Bytes.ofInt w.octets.length w.number = w.octets := by
  have hlt := Bytes.toNat_lt w.octets
  have hnatural : Bytes.ofInt w.octets.length w.octets.toNat = w.octets := by
    rw [Bytes.ofInt_natCast hlt, Bytes.ofNat_toNat]
  unfold number
  split
  · exact hnatural
  · -- a turn of the word more or less leaves the octets as they are
    rw [Bytes.ofInt, Int.sub_emod_right]
    exact hnatural

/-- **Every word is the binary form of an integer of its column.** -/
theorem exists_integer (w : Word) :
    ∃ n : Integer, n.number = w.number ∧ w.value = n.fetched .binary 0 := by
  refine ⟨⟨w.type, w.octets.length, w.unsigned, w.number, w.hasWord, w.holdsInteger⟩, rfl, ?_⟩
  show w.value =
    ⟨w.type, .binary, w.unsigned, some (Bytes.ofInt w.octets.length w.number)⟩
  rw [ofInt_number]
  rfl

/-- The integer of a word is one of 64 bits, with sign or without. -/
theorem number_bounds (w : Word) : -2 ^ 63 ≤ w.number ∧ w.number < 2 ^ 64 := by
  have hheld := w.holdsInteger
  have hcapacity := w.hasWord.capacity_le
  unfold HoldsInteger at hheld
  split at hheld <;> omega

/-! ## Readings -/

/-- A word is read as an integer with sign, unless its integer is too large for that. -/
theorem toInt?_value (w : Word) :
    w.value.toInt? = if w.number < 2 ^ 63 then some w.number else none := by
  obtain ⟨n, hnumber, hvalue⟩ := w.exists_integer
  rw [hvalue, n.toInt?_fetched, hnumber]
  simp only [w.number_bounds.1, true_and]

/-- A word is read as an integer without sign, unless its integer is negative. -/
theorem toNat?_value (w : Word) :
    w.value.toNat? = if 0 ≤ w.number then some w.number.toNat else none := by
  obtain ⟨n, hnumber, hvalue⟩ := w.exists_integer
  rw [hvalue, n.toNat?_fetched, hnumber]
  simp only [w.number_bounds.2, and_true]

/-- **The truth value of a word** is whether its integer differs from zero, unless that is too
large. -/
theorem toBool?_value (w : Word) :
    w.value.toBool? = if w.number < 2 ^ 63 then some (w.number != 0) else none := by
  show w.value.toInt?.map (· != 0) = _
  rw [toInt?_value]
  split <;> rfl

/-- The words that have no truth value. -/
theorem two_pow_le_number_iff (w : Word) :
    2 ^ 63 ≤ w.number ↔ w.type = .longLong ∧ w.unsigned = true ∧ 2 ^ 63 ≤ w.octets.toNat := by
  constructor
  · intro hlarge
    obtain ⟨htype, hunsigned⟩ := w.holdsInteger.of_le w.hasWord hlarge
    refine ⟨htype, hunsigned, ?_⟩
    rw [number, if_pos (Or.inl hunsigned)] at hlarge
    omega
  · rintro ⟨-, hunsigned, hlarge⟩
    rw [number, if_pos (Or.inl hunsigned)]
    omega

/-- **A word is true if its integer differs from zero, and false if not, unless the integer is too
large.**  Too large are the integers of eight octets without sign whose highest bit is set: these
have no truth value, although they are read as integers without sign.  Whatever is read of a word as
an integer with sign agrees with its truth value, and what is read without sign agrees with it
exactly if it is not too large. -/
theorem truth_exact (w : Word) :
    (w.value.toBool? = if w.number < 2 ^ 63 then some (w.number != 0) else none) ∧
      (w.value.toBool? = none ↔
        w.type = .longLong ∧ w.unsigned = true ∧ 2 ^ 63 ≤ w.octets.toNat) ∧
      (∀ n, w.value.toInt? = some n → n = w.number ∧ w.value.toBool? = some (n != 0)) ∧
      ∀ n, w.value.toNat? = some n →
        n = w.number ∧ (w.value.toBool? = some (n != 0) ↔ n < 2 ^ 63) := by
  refine ⟨w.toBool?_value, ?_, fun n hread => ?_, fun n hread => ?_⟩
  · rw [toBool?_value, ← two_pow_le_number_iff, ← Int.not_lt]
    split
    · next hsmall => exact iff_of_false nofun fun hlarge => hlarge hsmall
    · next hlarge => exact iff_of_true rfl hlarge
  · rw [toInt?_value] at hread
    obtain ⟨hsmall, hn⟩ := Option.ite_none_right_eq_some.mp hread
    cases hn
    rw [toBool?_value, if_pos hsmall]
    exact ⟨rfl, rfl⟩
  · rw [toNat?_value] at hread
    obtain ⟨hnatural, hn⟩ := Option.ite_none_right_eq_some.mp hread
    have hnumber : (n : Int) = w.number := by
      rw [← Option.some.inj hn, Int.toNat_of_nonneg hnatural]
    have hzero : (w.number != 0) = (n != 0) := by
      rw [← hnumber]
      cases n <;> rfl
    have hsmall : w.number < 2 ^ 63 ↔ n < 2 ^ 63 := by
      omega
    refine ⟨hnumber, ?_⟩
    simp only [toBool?_value, hzero, hsmall]
    exact ⟨fun h => (Option.ite_none_right_eq_some.mp h).1, fun h => if_pos h⟩

/-- The largest integer of eight octets without sign has no truth value, the same octets in a column
with sign have one, and so has the largest integer of four octets without sign. -/
theorem truth_exact_allOnes :
    let natural : Word := ⟨.longLong, true, List.replicate 8 0xFF, rfl, rfl⟩
    let negative : Word := ⟨.longLong, false, List.replicate 8 0xFF, rfl, rfl⟩
    let short : Word := ⟨.long, true, List.replicate 4 0xFF, rfl, rfl⟩
    natural.value.toNat? = some (2 ^ 64 - 1) ∧ natural.value.toBool? = none ∧
      negative.value.toInt? = some (-1) ∧ negative.value.toBool? = some true ∧
      short.value.toNat? = some (2 ^ 32 - 1) ∧ short.value.toBool? = some true := by
  intro natural negative short
  obtain ⟨-, hnatural, -, -⟩ := truth_exact natural
  obtain ⟨-, -, hnegative, -⟩ := truth_exact negative
  obtain ⟨-, -, -, hshort⟩ := truth_exact short
  have hone : negative.value.toInt? = some (-1) := by
    decide
  have hlong : short.value.toNat? = some (2 ^ 32 - 1) := by
    decide
  exact ⟨by decide, hnatural.mpr (by decide), hone, (hnegative _ hone).2, hlong,
    (hshort _ hlong).2.mpr (by decide)⟩

end Word

end Sent

end MySqlClient
