import MySqlClient.Column
import MySqlClient.Number.Binary64
import MySqlClient.Temporal
import MySqlClient.Wire.Writer

/-!
# Values

A value is what one parameter or one field of a row is on the wire: its octets, with the type, the
format and the signedness that say how to read them.

* `Value.ofInt8` to `Value.ofTemporal`: values for binding as parameters.
* `Value.toInt?`, `toNat?`, `toBinary64?`, `toBool?`, `toTemporal?`, `toText?`: readings of a
  value.  A reading that does not apply, or does not fit, is `none`.
* `Value.encodeParameter`: the octets of a bound parameter.

Integers of the text protocol are decimal numerals; those of the binary protocol are little-endian
words of the width of their type.  Decimals are text in both.
-/

namespace MySqlClient

/-- How the octets of a value are to be read. -/
inductive Format where
  /-- Prepared statements. -/
  | binary
  /-- Plain queries: every value is its text. -/
  | text
  deriving DecidableEq

/-- One parameter or field. -/
structure Value where
  type : ColumnType
  format : Format
  /-- Whether an integer has no sign. -/
  unsigned : Bool
  /-- The octets; `none` is SQL NULL. -/
  data : Option Bytes
  deriving DecidableEq

namespace Value

/-! ## Values for binding -/

/-- SQL NULL. -/
def null : Value := ⟨.null, .binary, false, none⟩

/-- A value in the binary format. -/
def ofBinary (type : ColumnType) (unsigned : Bool) (octets : Bytes) : Value :=
  ⟨type, .binary, unsigned, some octets⟩

def ofInt8 (n : Int8) : Value := ofBinary .tiny false (Bytes.ofNat 1 n.toUInt8.toNat)
def ofUInt8 (n : UInt8) : Value := ofBinary .tiny true (Bytes.ofNat 1 n.toNat)
def ofInt16 (n : Int16) : Value := ofBinary .short false (Bytes.ofNat 2 n.toUInt16.toNat)
def ofUInt16 (n : UInt16) : Value := ofBinary .short true (Bytes.ofNat 2 n.toNat)
def ofInt32 (n : Int32) : Value := ofBinary .long false (Bytes.ofNat 4 n.toUInt32.toNat)
def ofUInt32 (n : UInt32) : Value := ofBinary .long true (Bytes.ofNat 4 n.toNat)
def ofInt64 (n : Int64) : Value := ofBinary .longLong false (Bytes.ofNat 8 n.toUInt64.toNat)
def ofUInt64 (n : UInt64) : Value := ofBinary .longLong true (Bytes.ofNat 8 n.toNat)

/-- A single-precision number, by its bit pattern. -/
def ofBinary32 (bits : UInt32) : Value := ofBinary .float false (Bytes.ofNat 4 bits.toNat)

/-- A double. -/
def ofBinary64 (x : Binary64) : Value := ofBinary .double false (Bytes.ofNat 8 x.bits.toNat)

def ofBool (b : Bool) : Value := ofBinary .tiny false [if b then 1 else 0]
def ofString (text : String) : Value := ofBinary .varString false (Bytes.ofString text)
def ofBytes (octets : Bytes) : Value := ofBinary .blob false octets

/-- A date, a time or a point in time; its type follows from the parts that are present. -/
def ofTemporal (t : Temporal) : Value :=
  let type : ColumnType :=
    match t.hasDate, t.hasTime || t.microsecond.isSome with
    | true, false => .date
    | false, true => .time
    | _, _ => .datetime
  ofBinary type false t.encode

/-- A value that may be missing. -/
def ofOption {α : Type} (value : α → Value) : Option α → Value
  | some a => value a
  | none => null

/-! ## Readings -/

def isNull (v : Value) : Bool :=
  v.data.isNone

/-- The octets as text, if they are well-formed. -/
def utf8? (v : Value) : Option String :=
  v.data.bind Utf8.decode?

/-- The value as text.  Binary values that are not text in themselves have none. -/
def toText? (v : Value) : Option String :=
  if v.format = .binary ∧ (v.type.fixedLength.isSome ∨ v.type.isTemporal) then none
  else v.utf8?

/-- Whether some octets have the width of an integer type. -/
def hasIntegerWidth (type : ColumnType) (octets : Bytes) : Bool :=
  type.isInteger && type.fixedLength == some octets.length

/-- The number a two's-complement word of some octets denotes. -/
def signedWord (octets : Bytes) : Int :=
  Int.bmod octets.toNat (Bytes.capacity octets.length)

/-- An integer that fits in 64 bits with sign. -/
def fitSigned (n : Int) : Option Int :=
  if -0x8000000000000000 ≤ n ∧ n < 0x8000000000000000 then some n else none

/-- An integer that fits in 64 bits without sign. -/
def fitUnsigned (n : Int) : Option Nat :=
  if 0 ≤ n ∧ n < UInt64.size then some n.toNat else none

/-- The decimal text of the value as an integer of 64 bits with sign. -/
def signedText? (v : Value) : Option Int :=
  v.utf8?.bind fun text => Decimal.signed? 0x8000000000000000 text.toList

/-- The decimal text of the value as an integer of 64 bits without sign. -/
def unsignedText? (v : Value) : Option Nat :=
  v.utf8?.bind fun text => Decimal.unsigned? UInt64.size text.toList

/-- The integer of a binary value of an integer type, by its own signedness. -/
def integerWord? (v : Value) : Option Int :=
  v.data.bind fun octets =>
    if hasIntegerWidth v.type octets then
      some (if v.unsigned then (octets.toNat : Int) else signedWord octets)
    else none

/-- The integer of a binary value.  A decimal without fraction is one too, unless it is marked as
having no sign. -/
def binaryInteger? (v : Value) : Option Int :=
  if v.type.isDecimal then if v.unsigned then none else v.signedText?
  else v.integerWord?

/-- The value as an integer of 64 bits with sign. -/
def toInt? (v : Value) : Option Int :=
  match v.format with
  | .text => v.signedText?
  | .binary => v.binaryInteger?.bind fitSigned

/-- The value as an integer of 64 bits without sign. -/
def toNat? (v : Value) : Option Nat :=
  match v.format with
  | .text => v.unsignedText?
  | .binary => v.binaryInteger?.bind fitUnsigned

/-- The decimal text of the value as a double. -/
def binary64Text? (v : Value) : Option Binary64 :=
  v.utf8?.bind fun text => Binary64.parse? text.toList

/-- The value as the nearest double. -/
def toBinary64? (v : Value) : Option Binary64 :=
  match v.format, v.type, v.data with
  | _, _, none => none
  | .text, _, _ => v.binary64Text?
  | .binary, .double, some octets =>
    if octets.length = 8 then some ⟨UInt64.ofNat octets.toNat⟩ else none
  | .binary, .float, some octets =>
    if octets.length = 4 then some (Binary64.ofBinary32 (UInt32.ofNat octets.toNat)) else none
  | .binary, type, some _ =>
    if type.isDecimal then v.binary64Text? else v.integerWord?.map Binary64.ofInt

/-- The texts of a truth value. -/
def boolOfText? (text : String) : Option Bool :=
  if ["1", "true", "TRUE"].contains text then some true
  else if ["0", "false", "FALSE"].contains text then some false
  else none

/-- The value as a truth value: a known word, or an integer that differs from zero or not. -/
def toBool? (v : Value) : Option Bool :=
  match v.format with
  | .text => v.toText?.bind boolOfText?
  | .binary => v.toInt?.map (· != 0)

/-- The value as a date, a time or both. -/
def toTemporal? (v : Value) : Option Temporal :=
  match v.format with
  | .text => v.utf8?.bind Temporal.parse?
  | .binary =>
    if v.type.isTemporal then v.data.bind fun octets => (Temporal.decode octets).toOption
    else none

/-! ## Parameters -/

/-- The octets of a bound parameter.  NULL has none, since the bitmap of the parameters says it;
values of a fixed width have no length in front. -/
def encodeParameter (v : Value) : Bytes :=
  match v.data with
  | none => []
  | some octets =>
    if v.format = .binary ∧ v.type.fixedLength.isSome then octets else Wire.lenEncBytes octets

/-- The type a parameter is announced with. -/
def parameterType (v : Value) : ColumnType :=
  if v.isNull then .null else v.type

end Value

end MySqlClient
