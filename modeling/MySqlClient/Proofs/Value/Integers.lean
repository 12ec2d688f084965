import Mathlib.Algebra.Group.Int.Defs
import Mathlib.Algebra.Group.Nat.Defs
import MySqlClient.Proofs.Text.Numerals
import MySqlClient.Proofs.Wire.Terminated
import MySqlClient.Value

/-!
# Integers in both protocols

An integer of a column comes as a numeral in the text protocol, and in the binary protocol as a
little-endian word of the width of its type, in two's complement where the column has a sign.  The
sign of a word is not in the word: the column tells it.

* `Bytes.ofInt`: words in two's complement; `Value.signedWord_ofInt`, `Bytes.toNat_ofInt_of_le`: what
  they denote.
* `ColumnType.HasWord`: the integer types with their widths; `Sent.Integer`: what a column of such
  a type can hold, with `octets` and `text`, and `fetched` in either format.
* `Sent.Integer.toInt?_fetched`, `Sent.Integer.toNat?_fetched`: both readings, in either format.
* `MachineInteger`: the integers that a value can be made of, which are `Sent.Integer`s too.
* `Sent.Integer.read_in_either_format`: **an integer is read back exactly if it fits.**
-/

namespace MySqlClient

/-! ## Words -/

namespace Bytes

/-- The octets of an integer in two's complement. -/
def ofInt (width : Nat) (n : Int) : Bytes :=
  ofNat width (n % capacity width).toNat

theorem capacity_pos (width : Nat) : 0 < capacity width := by
  induction width with
  | zero => decide
  | succ width ih =>
    rw [capacity_succ]
    omega

@[simp] theorem length_ofInt (width : Nat) (n : Int) : (ofInt width n).length = width :=
  length_ofNat width _

/-- Octets in two's complement denote the integer up to what fits in them. -/
theorem toNat_ofInt (width : Nat) (n : Int) : ((ofInt width n).toNat : Int) = n % capacity width := by
  have hpos : (0 : Int) < capacity width := Int.natCast_pos.mpr (capacity_pos width)
  have hlow := Int.emod_nonneg n (Int.ne_of_gt hpos)
  have hhigh := Int.emod_lt_of_pos n hpos
  have hlt : (n % capacity width).toNat < capacity width := by omega
  rw [ofInt, toNat_ofNat, Nat.mod_eq_of_lt hlt, Int.toNat_of_nonneg hlow]

/-- An integer without sign is its octets. -/
theorem toNat_ofInt_of_le {width : Nat} {n : Int} (hlow : 0 ≤ n) (hhigh : n < capacity width) :
    ((ofInt width n).toNat : Int) = n := by
  rw [toNat_ofInt, Int.emod_eq_of_lt hlow hhigh]

/-- The two's complement of the integer that a machine word denotes is the machine word. -/
theorem ofInt_toInt {bits width : Nat} (h : capacity width = 2 ^ bits) (x : BitVec bits) :
    ofInt width x.toInt = ofNat width x.toNat := by
  have hword : x.toInt % (2 ^ bits : Nat) = x.toNat := by
    rw [BitVec.toInt_eq_toNat_bmod, Int.bmod_emod, ← Int.natCast_emod, Nat.mod_eq_of_lt x.isLt]
  rw [ofInt, h, hword, Int.toNat_natCast]

theorem ofInt_natCast {width n : Nat} (h : n < capacity width) : ofInt width n = ofNat width n := by
  rw [ofInt, ← Int.natCast_emod, Int.toNat_natCast, Nat.mod_eq_of_lt h]

end Bytes

/-- **Octets in two's complement are read as the integer**, if it has a place among the numbers with
sign. -/
theorem Value.signedWord_ofInt {width : Nat} {n : Int} (hlow : -(Bytes.capacity width : Int) ≤ 2 * n)
    (hhigh : 2 * n < Bytes.capacity width) : signedWord (Bytes.ofInt width n) = n := by
  rw [signedWord, Bytes.length_ofInt, Bytes.toNat_ofInt, Int.emod_bmod]
  exact Int.bmod_eq_of_le (by omega) (by omega)

/-! ## Integers of a column -/

/-- The integer types, with the octets of their words. -/
inductive ColumnType.HasWord : ColumnType → Nat → Prop
  | tiny : HasWord .tiny 1
  | short : HasWord .short 2
  | year : HasWord .year 2
  | int24 : HasWord .int24 4
  | long : HasWord .long 4
  | longLong : HasWord .longLong 8

namespace ColumnType.HasWord

variable {type : ColumnType} {width : Nat}

theorem isDecimal_eq_false (h : type.HasWord width) : type.isDecimal = false := by
  cases h <;> rfl

/-- The width is the one that is asked for. -/
theorem hasIntegerWidth (h : type.HasWord width) {octets : Bytes} (hlength : octets.length = width) :
    Value.hasIntegerWidth type octets = true := by
  rw [Value.hasIntegerWidth, hlength]
  cases h <;> rfl

end ColumnType.HasWord

/-- The integers that a word of some octets can hold, where it has a sign or none. -/
def HoldsInteger (width : Nat) (unsigned : Bool) (n : Int) : Prop :=
  if unsigned then 0 ≤ n ∧ n < Bytes.capacity width
  else -(Bytes.capacity width : Int) ≤ 2 * n ∧ 2 * n < Bytes.capacity width

namespace Sent

/-- An integer in a column of an integer type. -/
structure Integer where
  type : ColumnType
  /-- The octets of the type's words. -/
  width : Nat
  /-- Whether the column has no sign. -/
  unsigned : Bool
  number : Int
  hasWord : type.HasWord width
  isHeld : HoldsInteger width unsigned number

namespace Integer

/-- The binary form: a word in two's complement. -/
def octets (n : Integer) : Bytes :=
  Bytes.ofInt n.width n.number

/-- The text: a numeral, which may be filled up with zeros where it has no sign. -/
def text (zeros : Nat) (n : Integer) : String :=
  String.ofList (Decimal.integer zeros n.number)

/-- The value of the column, as it comes in a row of one of the two protocols. -/
def fetched (n : Integer) (format : Format) (zeros : Nat) : Value :=
  ⟨n.type, format, n.unsigned, some <| match format with
    | .binary => n.octets
    | .text => Bytes.ofString (n.text zeros)⟩

/-! ## Readings -/

/-- **The word denotes the integer**, by the sign of the column. -/
theorem binaryInteger?_fetched (n : Integer) (zeros : Nat) :
    (n.fetched .binary zeros).binaryInteger? = some n.number := by
  have hheld := n.isHeld
  have hword : (n.fetched .binary zeros).integerWord? =
      some (if n.unsigned then (n.octets.toNat : Int) else Value.signedWord n.octets) :=
    if_pos (n.hasWord.hasIntegerWidth (Bytes.length_ofInt _ _))
  rw [Value.binaryInteger?, if_neg (by simp [fetched, n.hasWord.isDecimal_eq_false]), hword]
  unfold HoldsInteger at hheld
  cases hunsigned : n.unsigned with
  | true =>
    rw [hunsigned, if_pos rfl] at hheld
    exact congrArg some (Bytes.toNat_ofInt_of_le hheld.1 hheld.2)
  | false =>
    rw [hunsigned, if_neg (by decide)] at hheld
    exact congrArg some (Value.signedWord_ofInt hheld.1 hheld.2)

/-- The octets of the text are the text. -/
theorem utf8?_fetched (n : Integer) (zeros : Nat) :
    (n.fetched .text zeros).utf8? = some (n.text zeros) := by
  have hdata : (n.fetched .text zeros).data = some (Bytes.ofString (n.text zeros)) := rfl
  rw [Value.utf8?, hdata, Option.bind_some, Utf8.decode?_ofString]

/-- **As an integer with sign**, in either format. -/
theorem toInt?_fetched (n : Integer) (format : Format) (zeros : Nat) :
    (n.fetched format zeros).toInt? =
      if -2 ^ 63 ≤ n.number ∧ n.number < 2 ^ 63 then some n.number else none := by
  cases format with
  | binary =>
    show (n.fetched .binary zeros).binaryInteger?.bind Value.fitSigned = _
    rw [binaryInteger?_fetched]
    rfl
  | text =>
    show (n.fetched .text zeros).signedText? = _
    rw [Value.signedText?, utf8?_fetched, Option.bind_some, text, String.toList_ofList,
      Decimal.signed?_integer]
    rfl

/-- **As an integer without sign**, in either format. -/
theorem toNat?_fetched (n : Integer) (format : Format) (zeros : Nat) :
    (n.fetched format zeros).toNat? =
      if 0 ≤ n.number ∧ n.number < 2 ^ 64 then some n.number.toNat else none := by
  cases format with
  | binary =>
    show (n.fetched .binary zeros).binaryInteger?.bind Value.fitUnsigned = _
    rw [binaryInteger?_fetched]
    rfl
  | text =>
    show (n.fetched .text zeros).unsignedText? = _
    rw [Value.unsignedText?, utf8?_fetched, Option.bind_some, text, String.toList_ofList,
      Decimal.unsigned?_integer]
    rfl

end Integer

end Sent

/-! ## Integers that values are made of -/

/-- A machine integer, of which a value can be made. -/
inductive MachineInteger where
  | int8 (n : Int8)
  | uint8 (n : UInt8)
  | int16 (n : Int16)
  | uint16 (n : UInt16)
  | int32 (n : Int32)
  | uint32 (n : UInt32)
  | int64 (n : Int64)
  | uint64 (n : UInt64)

namespace MachineInteger

/-- The integer that it denotes. -/
def number : MachineInteger → Int
  | int8 n => n.toInt
  | uint8 n => n.toNat
  | int16 n => n.toInt
  | uint16 n => n.toNat
  | int32 n => n.toInt
  | uint32 n => n.toNat
  | int64 n => n.toInt
  | uint64 n => n.toNat

/-- The value that is made of it. -/
def value : MachineInteger → Value
  | int8 n => Value.ofInt8 n
  | uint8 n => Value.ofUInt8 n
  | int16 n => Value.ofInt16 n
  | uint16 n => Value.ofUInt16 n
  | int32 n => Value.ofInt32 n
  | uint32 n => Value.ofUInt32 n
  | int64 n => Value.ofInt64 n
  | uint64 n => Value.ofUInt64 n

/-- A machine word is what a column with a sign can hold. -/
theorem exists_sent_signed {type : ColumnType} {width bits : Nat} (hword : type.HasWord width)
    (hbits : Bytes.capacity width = 2 ^ bits) (x : BitVec bits) :
    ∃ n : Sent.Integer, n.number = x.toInt ∧
      Value.ofBinary type false (Bytes.ofNat width x.toNat) = n.fetched .binary 0 := by
  have hlow := BitVec.le_two_mul_toInt (x := x)
  have hhigh := BitVec.two_mul_toInt_lt (x := x)
  have hheld : HoldsInteger width false x.toInt := by
    rw [HoldsInteger, if_neg (by decide), hbits]
    exact ⟨by exact_mod_cast hlow, by exact_mod_cast hhigh⟩
  refine ⟨⟨type, width, false, x.toInt, hword, hheld⟩, rfl, ?_⟩
  rw [← Bytes.ofInt_toInt hbits]
  rfl

/-- A machine word without sign is what a column without one can hold. -/
theorem exists_sent_unsigned {type : ColumnType} {width k : Nat} (hword : type.HasWord width)
    (hk : k < Bytes.capacity width) :
    ∃ n : Sent.Integer, n.number = k ∧
      Value.ofBinary type true (Bytes.ofNat width k) = n.fetched .binary 0 := by
  have hheld : HoldsInteger width true k := by
    rw [HoldsInteger, if_pos rfl]
    omega
  refine ⟨⟨type, width, true, k, hword, hheld⟩, rfl, ?_⟩
  rw [← Bytes.ofInt_natCast hk]
  rfl

/-- **A value that is made of a machine integer is one that a column of its type could send.** -/
theorem exists_sent (k : MachineInteger) :
    ∃ n : Sent.Integer, n.number = k.number ∧ k.value = n.fetched .binary 0 := by
  cases k with
  | int8 n => exact exists_sent_signed .tiny rfl n.toBitVec
  | uint8 n => exact exists_sent_unsigned .tiny n.toNat_lt
  | int16 n => exact exists_sent_signed .short rfl n.toBitVec
  | uint16 n => exact exists_sent_unsigned .short n.toNat_lt
  | int32 n => exact exists_sent_signed .long rfl n.toBitVec
  | uint32 n => exact exists_sent_unsigned .long n.toNat_lt
  | int64 n => exact exists_sent_signed .longLong rfl n.toBitVec
  | uint64 n => exact exists_sent_unsigned .longLong n.toNat_lt

end MachineInteger

/-- **An integer is read back exactly if it fits**, be it fetched in one format or the other, with
zeros in front of its numeral or not, or made of a machine integer. -/
theorem Sent.Integer.read_in_either_format (n : Sent.Integer) (format : Format) (zeros : Nat)
    (k : MachineInteger) :
    (n.fetched format zeros).toInt? =
        (if -2 ^ 63 ≤ n.number ∧ n.number < 2 ^ 63 then some n.number else none) ∧
      (n.fetched format zeros).toNat? =
        (if 0 ≤ n.number ∧ n.number < 2 ^ 64 then some n.number.toNat else none) ∧
      k.value.toInt? =
        (if -2 ^ 63 ≤ k.number ∧ k.number < 2 ^ 63 then some k.number else none) ∧
      k.value.toNat? =
        (if 0 ≤ k.number ∧ k.number < 2 ^ 64 then some k.number.toNat else none) := by
  obtain ⟨sent, hnumber, hvalue⟩ := k.exists_sent
  rw [hvalue, ← hnumber]
  exact ⟨n.toInt?_fetched format zeros, n.toNat?_fetched format zeros,
    sent.toInt?_fetched .binary 0, sent.toNat?_fetched .binary 0⟩

/-- One octet, of a column with sign and of one without. -/
example : (Value.ofBinary .tiny false [0xFF]).toInt? = some (-1) ∧
    (Value.ofBinary .tiny true [0xFF]).toInt? = some 255 := by
  decide

end MySqlClient
