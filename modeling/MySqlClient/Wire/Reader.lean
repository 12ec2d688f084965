import MySqlClient.Error

/-!
# Reading wire primitives

A reader takes octets from the front of what is left of a packet.  It answers a value and the rest,
or an error and what it had not yet taken when it failed, so that a caller can see how far it came.

* `Reader.u8`, `u16`, `u24`, `u32`, `u64`: fixed-width little-endian numbers.
* `Reader.take`: a given number of octets, all or none.
* `Reader.lenEncInt`, `lenEncCount`, `lenEncBytes`, `lenEncText`: length-encoded numbers and
  strings; the lead octet `0xFB` is SQL NULL.
* `Reader.nulTerminated`: octets up to a NUL, or all of them if there is none.
* `Reader.parse`: run a reader on a packet and drop what it left.
-/

namespace MySqlClient

/-- A computation that reads from the front of some octets and may fail. -/
abbrev Reader (α : Type) : Type := EStateM Error Bytes α

namespace Reader

/-- Fail with a protocol error. -/
def fail {α : Type} (fault : ProtocolFault) : Reader α :=
  throw (.protocol fault)

/-- The next octet. -/
def u8 : Reader UInt8
  | [] => .error (.protocol .missingByte) []
  | b :: rest => .ok b rest

/-- The next `n` octets; if there are fewer, none is taken. -/
def take (n : Nat) : Reader Bytes := fun octets =>
  if octets.hasAtLeast n then .ok (octets.take n) (octets.drop n)
  else .error (.protocol (.missingBytes n)) octets

/-- A little-endian number of `width` octets. -/
def number (width : Nat) : Reader Nat := do
  return (← take width).toNat

def u16 : Reader UInt16 := do
  return UInt16.ofNat (← number 2)

/-- A number of three octets. -/
def u24 : Reader UInt32 := do
  return UInt32.ofNat (← number 3)

def u32 : Reader UInt32 := do
  return UInt32.ofNat (← number 4)

def u64 : Reader UInt64 := do
  return UInt64.ofNat (← number 8)

/-- A length-encoded number; `none` is SQL NULL. -/
def lenEncInt : Reader (Option UInt64) := do
  let lead ← u8
  if lead == 0xFB then return none
  else if lead == 0xFC then return some (UInt64.ofNat (← number 2))
  else if lead == 0xFD then return some (UInt64.ofNat (← number 3))
  else if lead == 0xFE then return some (UInt64.ofNat (← number 8))
  else if lead == 0xFF then fail .lengthLead
  else return some (UInt64.ofNat lead.toNat)

/-- A length-encoded number where SQL NULL has no meaning. -/
def lenEncCount : Reader UInt64 := do
  match ← lenEncInt with
  | some n => return n
  | none => fail .nullLength

/-- A length-encoded string; `none` is SQL NULL. -/
def lenEncBytes : Reader (Option Bytes) := do
  match ← lenEncInt with
  | none => return none
  | some n => return some (← take n.toNat)

/-- A length-encoded text; SQL NULL reads as the empty text. -/
def lenEncText : Reader String := do
  return Utf8.decodeLossy ((← lenEncBytes).getD [])

/-- The octets before the next NUL, which is taken too.  Without a NUL all octets are taken. -/
def nulTerminated : Reader Bytes := fun octets =>
  .ok (octets.takeWhile (· != 0)) ((octets.dropWhile (· != 0)).drop 1)

/-- Everything that is left. -/
def remainder : Reader Bytes := fun octets => .ok octets []

/-- Look at what is left without taking it. -/
def peek : Reader Bytes := fun octets => .ok octets octets

/-- Run a reader on a whole packet; what it leaves is dropped. -/
def parse {α : Type} (reader : Reader α) (octets : Bytes) : Outcome α :=
  match reader octets with
  | .ok value _ => .ok value
  | .error e _ => .error e

/-! ## Laws -/

@[simp] theorem u8_cons (b : UInt8) (rest : Bytes) : u8 (b :: rest) = .ok b rest := rfl

@[simp] theorem u8_nil : u8 [] = .error (.protocol .missingByte) [] := rfl

theorem take_of_le {n : Nat} {octets : Bytes} (h : n ≤ octets.length) :
    take n octets = .ok (octets.take n) (octets.drop n) := by
  simp [take, h]

theorem take_of_lt {n : Nat} {octets : Bytes} (h : octets.length < n) :
    take n octets = .error (.protocol (.missingBytes n)) octets := by
  simp [take, Nat.not_le.mpr h]

@[simp] theorem take_append (front rest : Bytes) :
    take front.length (front ++ rest) = .ok front rest := by
  rw [take_of_le (by simp), List.take_left, List.drop_left]

end Reader

end MySqlClient
