import MySqlClient.Wire.Reader

/-!
# NULL bitmaps

Rows and parameter lists of the binary protocol say in advance which of their values are NULL, one
bit each, least significant bit first.  In rows the first two bits are unused.
-/

namespace MySqlClient

/-- One bit for each position, behind `offset` unused bits. -/
structure NullBitmap where
  offset : Nat
  bytes : Bytes
  deriving DecidableEq

namespace NullBitmap

/-- The unused bits at the front of a row's bitmap. -/
def rowOffset : Nat := 2

/-- The unused bits at the front of a parameter list's bitmap. -/
def parameterOffset : Nat := 0

/-- The length of a bitmap for `count` positions. -/
def byteLength (count offset : Nat) : Nat :=
  (count + 7 + offset) / 8

/-- A bitmap in which no position is NULL. -/
def clear (count offset : Nat) : NullBitmap :=
  ⟨offset, List.replicate (byteLength count offset) 0⟩

/-- Read a bitmap for `count` positions. -/
def reader (count offset : Nat) : Reader NullBitmap := do
  return ⟨offset, ← Reader.take (byteLength count offset)⟩

/-- The octet with only the given bit. -/
def mask (bit : Nat) : UInt8 :=
  UInt8.ofNat (1 <<< (bit % 8))

/-- Whether a position is NULL.  Positions beyond the bitmap are not. -/
def isNull (bitmap : NullBitmap) (position : Nat) : Bool :=
  let bit := position + bitmap.offset
  match bitmap.bytes[bit / 8]? with
  | some octet => octet &&& mask bit != 0
  | none => false

/-- Make a position NULL.  Positions beyond the bitmap change nothing. -/
def setNull (bitmap : NullBitmap) (position : Nat) : NullBitmap :=
  let bit := position + bitmap.offset
  { bitmap with bytes := bitmap.bytes.modify (bit / 8) (· ||| mask bit) }

/-- The bitmap in which exactly the marked positions are NULL. -/
def ofMarks (offset : Nat) (marks : List Bool) : NullBitmap :=
  marks.zipIdx.foldl
    (fun bitmap (marked, position) => if marked then bitmap.setNull position else bitmap)
    (clear marks.length offset)

/-! ## Laws -/

@[simp] theorem length_clear (count offset : Nat) :
    (clear count offset).bytes.length = byteLength count offset := by
  simp [clear]

@[simp] theorem length_setNull (bitmap : NullBitmap) (position : Nat) :
    (bitmap.setNull position).bytes.length = bitmap.bytes.length := by
  simp [setNull]

@[simp] theorem offset_setNull (bitmap : NullBitmap) (position : Nat) :
    (bitmap.setNull position).offset = bitmap.offset := rfl

end NullBitmap

end MySqlClient
