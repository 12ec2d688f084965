import MySqlClient.NullBitmap
import MySqlClient.Value

/-!
# Rows

A row of a result set has one field for each column of the set: its octets, or `none` for NULL.

* `Row.decodeText`: a row of the text protocol, one length-encoded string after the other.
* `Row.decodeBinary`: a row of the binary protocol: a zero octet, a bitmap of the NULL fields, and
  the other fields, each with the width of its type or behind its length.
* `Row.value?`: a field with what its column says about it.

Whatever follows the last field is ignored.
-/

namespace MySqlClient

/-- One row, with the columns of its result set. -/
structure Row where
  columns : List Column
  fields : List (Option Bytes)
  format : Format
  deriving DecidableEq

namespace Row

/-- Read one length-encoded field for each column. -/
def textFields : List Column → Reader (List (Option Bytes))
  | [] => return []
  | _ :: columns => do
    let field ← Reader.lenEncBytes
    return field :: (← textFields columns)

/-- Read a row of the text protocol. -/
def textReader (columns : List Column) : Reader Row := do
  return ⟨columns, ← textFields columns, .text⟩

/-- The row of the text protocol in a packet. -/
def decodeText (columns : List Column) (payload : Bytes) : Outcome Row :=
  (textReader columns).parse payload

/-- Read the octets of a field that is not NULL. -/
def fieldReader (column : Column) : Reader Bytes := do
  match column.type.fixedLength with
  | some width => Reader.take width
  | none =>
    match ← Reader.lenEncBytes with
    | some octets => return octets
    | none => Reader.fail (.nullInColumn column.name)

/-- Read the fields of the columns from position `position` on. -/
def binaryFields (nulls : NullBitmap) (position : Nat) :
    List Column → Reader (List (Option Bytes))
  | [] => return []
  | column :: columns => do
    let field ← if nulls.isNull position then pure none else some <$> fieldReader column
    return field :: (← binaryFields nulls (position + 1) columns)

/-- Read a row of the binary protocol. -/
def binaryReader (columns : List Column) : Reader Row := do
  if (← Reader.u8) != 0 then
    Reader.fail .rowLead
  let nulls ← NullBitmap.reader columns.length NullBitmap.rowOffset
  return ⟨columns, ← binaryFields nulls 0 columns, .binary⟩

/-- The row of the binary protocol in a packet. -/
def decodeBinary (columns : List Column) (payload : Bytes) : Outcome Row :=
  (binaryReader columns).parse payload

/-! ## Access -/

/-- The position of the first column with a name, in a table if one is given.  The table may be
named as in the statement or as in the schema. -/
def indexOf? (row : Row) (name : String) (table : Option String := none) : Option Nat :=
  row.columns.findIdx? fun column =>
    column.name == name && table.all fun t => column.table == t || column.orgTable == t

/-- The value at a position. -/
def value? (row : Row) (index : Nat) : Option Value := do
  let column ← row.columns[index]?
  let field ← row.fields[index]?
  return ⟨column.type, row.format, column.isUnsigned, field⟩

/-- The value of the first column with a name, in a table if one is given. -/
def column? (row : Row) (name : String) (table : Option String := none) : Option Value := do
  row.value? (← row.indexOf? name table)

/-- Whether a position holds NULL, or nothing at all. -/
def isNull (row : Row) (index : Nat) : Bool :=
  (row.fields[index]?.join).isNone

end Row

end MySqlClient
