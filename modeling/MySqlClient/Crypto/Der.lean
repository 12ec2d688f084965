import MySqlClient.Bytes

/-!
# DER

Just enough of the distinguished encoding to read RSA keys: elements with a one-octet tag and a
length in its shortest form, sequences, and non-negative integers in their shortest form.

A reader of this module takes an element off the front of some octets, and answers it with the
rest.
-/

namespace MySqlClient.Der

/-- The tags of the elements. -/
def integerTag : UInt8 := 0x02
def bitStringTag : UInt8 := 0x03
def nullTag : UInt8 := 0x05
def objectIdentifierTag : UInt8 := 0x06
def sequenceTag : UInt8 := 0x30

/-- A length of `width` octets in its shortest form. -/
def longLength? (width : Nat) (octets : Bytes) : Option (Nat × Bytes) :=
  let length := Bytes.toNatBig (octets.take width)
  if octets.hasAtLeast width ∧ 0x80 ≤ length ∧ Bytes.capacity (width - 1) ≤ length ∧
      length < 1 <<< 28 then
    some (length, octets.drop width)
  else none

/-- A length. -/
def length? : Bytes → Option (Nat × Bytes)
  | [] => none
  | lead :: rest =>
    if lead < 0x80 then some (lead.toNat, rest)
    else if 0x81 ≤ lead ∧ lead ≤ 0x84 then longLength? (lead.toNat - 0x80) rest
    else none

/-- The contents of an element with a given tag. -/
def element? (tag : UInt8) : Bytes → Option (Bytes × Bytes)
  | [] => none
  | lead :: rest => do
    let (length, rest) ← length? rest
    if lead = tag ∧ Bytes.hasAtLeast length rest then some (rest.take length, rest.drop length)
    else none

/-- The contents of an element with a given tag that is all there is. -/
def whole? (tag : UInt8) (octets : Bytes) : Option Bytes :=
  match element? tag octets with
  | some (contents, []) => some contents
  | _ => none

/-- A non-negative integer. -/
def natural? (octets : Bytes) : Option (Nat × Bytes) := do
  let (contents, rest) ← element? integerTag octets
  match contents with
  | [] => none
  | [b] => if b < 0x80 then some (b.toNat, rest) else none
  | first :: second :: _ =>
    if (first = 0 ∧ 0x80 ≤ second) ∨ (0 < first ∧ first < 0x80) then
      some (Bytes.toNatBig contents, rest)
    else none

end MySqlClient.Der
