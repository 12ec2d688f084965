import MySqlClient.Wire.Reader

/-!
# Columns

* `ColumnType`: the type tags of columns and parameters.  `ColumnType.fixedLength` tells which
  types have a fixed width in the binary protocol; all others are length-encoded.
* `ColumnFlags`: the flags of a column.
* `Column`: the definition of a column of a result set, read by `Column.reader`.
-/

namespace MySqlClient

/-- The type of a column or parameter. -/
inductive ColumnType where
  | decimal | tiny | short | long | float | double | null | timestamp | longLong | int24
  | date | time | datetime | year | newDate | varchar | bit | timestamp2 | datetime2 | time2
  | vector | json | newDecimal | enum | set | tinyBlob | mediumBlob | longBlob | blob
  | varString | string | geometry
  deriving DecidableEq

namespace ColumnType

/-- The tag of a type on the wire. -/
def tag : ColumnType → UInt8
  | decimal => 0x00 | tiny => 0x01 | short => 0x02 | long => 0x03 | float => 0x04
  | double => 0x05 | null => 0x06 | timestamp => 0x07 | longLong => 0x08 | int24 => 0x09
  | date => 0x0A | time => 0x0B | datetime => 0x0C | year => 0x0D | newDate => 0x0E
  | varchar => 0x0F | bit => 0x10 | timestamp2 => 0x11 | datetime2 => 0x12 | time2 => 0x13
  | vector => 0xF2 | json => 0xF5 | newDecimal => 0xF6 | enum => 0xF7 | set => 0xF8
  | tinyBlob => 0xF9 | mediumBlob => 0xFA | longBlob => 0xFB | blob => 0xFC
  | varString => 0xFD | string => 0xFE | geometry => 0xFF

/-- The name of a type. -/
def name : ColumnType → String
  | decimal => "Decimal" | tiny => "Tiny" | short => "Short" | long => "Long"
  | float => "Float" | double => "Double" | null => "Null" | timestamp => "Timestamp"
  | longLong => "LongLong" | int24 => "Int24" | date => "Date" | time => "Time"
  | datetime => "Datetime" | year => "Year" | newDate => "NewDate" | varchar => "Varchar"
  | bit => "Bit" | timestamp2 => "Timestamp2" | datetime2 => "Datetime2" | time2 => "Time2"
  | vector => "Vector" | json => "Json" | newDecimal => "NewDecimal" | enum => "Enum"
  | set => "Set" | tinyBlob => "TinyBlob" | mediumBlob => "MediumBlob" | longBlob => "LongBlob"
  | blob => "Blob" | varString => "VarString" | string => "String" | geometry => "Geometry"

/-- All types. -/
def all : List ColumnType :=
  [decimal, tiny, short, long, float, double, null, timestamp, longLong, int24, date, time,
    datetime, year, newDate, varchar, bit, timestamp2, datetime2, time2, vector, json,
    newDecimal, enum, set, tinyBlob, mediumBlob, longBlob, blob, varString, string, geometry]

/-- The type with a tag. -/
def ofTag? (tag : UInt8) : Option ColumnType :=
  all.find? fun type => type.tag == tag

/-- The width of a type in the binary protocol, in octets, where it is fixed. -/
def fixedLength : ColumnType → Option Nat
  | null => some 0
  | tiny => some 1
  | short | year => some 2
  | long | int24 | float => some 4
  | longLong | double => some 8
  | _ => none

def isInteger : ColumnType → Bool
  | tiny | short | long | int24 | longLong | year => true
  | _ => false

def isTemporal : ColumnType → Bool
  | timestamp | date | time | datetime | newDate | timestamp2 | datetime2 | time2 => true
  | _ => false

/-- Whether values of the type are decimal text in both protocols. -/
def isDecimal : ColumnType → Bool
  | decimal | newDecimal => true
  | _ => false

/-- The tag of a type stands for the type. -/
@[simp] theorem ofTag?_tag (type : ColumnType) : ofTag? type.tag = some type := by
  cases type <;> rfl

/-- Only the tag of a type stands for it. -/
theorem tag_of_ofTag? {tag : UInt8} {type : ColumnType} (h : ofTag? tag = some type) :
    type.tag = tag := by
  simpa using List.find?_some h

/-- Read a type tag. -/
def reader : Reader ColumnType := do
  let tag ← Reader.u8
  match ofTag? tag with
  | some type => return type
  | none => throw (.decode (.columnType tag))

end ColumnType

/-- The flags of a column. -/
structure ColumnFlags where
  bits : UInt16
  deriving DecidableEq

namespace ColumnFlags

/-- Whether all bits of a mask are present. -/
def contains (flags : ColumnFlags) (mask : UInt16) : Bool :=
  flags.bits &&& mask == mask

def isNotNull (flags : ColumnFlags) : Bool :=
  flags.contains 0x0001

def isPrimaryKey (flags : ColumnFlags) : Bool :=
  flags.contains 0x0002

def isUnsigned (flags : ColumnFlags) : Bool :=
  flags.contains 0x0020

end ColumnFlags

/-- The definition of a column. -/
structure Column where
  schema : String
  /-- The name of the table in the statement. -/
  table : String
  /-- The name of the table in the schema. -/
  orgTable : String
  name : String
  orgName : String
  charset : UInt16
  /-- The display length. -/
  length : UInt32
  type : ColumnType
  flags : ColumnFlags
  decimals : UInt8
  deriving DecidableEq

namespace Column

def isUnsigned (column : Column) : Bool :=
  column.flags.isUnsigned

/-- Read a column definition: the catalog, which is always the same and dropped; five names; the
length of the rest; and the rest. -/
def reader : Reader Column := do
  let _catalog ← Reader.lenEncText
  let schema ← Reader.lenEncText
  let table ← Reader.lenEncText
  let orgTable ← Reader.lenEncText
  let name ← Reader.lenEncText
  let orgName ← Reader.lenEncText
  let _length ← Reader.lenEncCount
  let charset ← Reader.u16
  let length ← Reader.u32
  let type ← ColumnType.reader
  let flags ← Reader.u16
  let decimals ← Reader.u8
  return { schema, table, orgTable, name, orgName, charset, length, type, flags := ⟨flags⟩,
           decimals }

/-- The column definition in a packet. -/
def parse (payload : Bytes) : Outcome Column :=
  reader.parse payload

end Column

end MySqlClient
