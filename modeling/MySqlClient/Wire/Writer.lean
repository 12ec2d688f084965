import MySqlClient.Bytes

/-!
# Writing wire primitives

* `lenEncInt`: a number in the shortest of the length-encoded forms; `lenEncSize` is its length.
* `lenEncBytes`: a string behind its length.
* `nulTerminated`: a string before a NUL.
-/

namespace MySqlClient.Wire

/-- The number of octets of a length-encoded number. -/
def lenEncSize (n : UInt64) : Nat :=
  if n < 251 then 1
  else if n < 65536 then 3
  else if n < 16777216 then 4
  else 9

/-- A length-encoded number. -/
def lenEncInt (n : UInt64) : Bytes :=
  if n < 251 then Bytes.ofNat 1 n.toNat
  else if n < 65536 then 0xFC :: Bytes.ofNat 2 n.toNat
  else if n < 16777216 then 0xFD :: Bytes.ofNat 3 n.toNat
  else 0xFE :: Bytes.ofNat 8 n.toNat

/-- A length-encoded string. -/
def lenEncBytes (octets : Bytes) : Bytes :=
  lenEncInt (UInt64.ofNat octets.length) ++ octets

/-- A string with a NUL behind it. -/
def nulTerminated (octets : Bytes) : Bytes :=
  octets ++ [0]

/-- The length that `lenEncSize` announces is the length written. -/
theorem length_lenEncInt (n : UInt64) : (lenEncInt n).length = lenEncSize n := by
  unfold lenEncInt lenEncSize
  split
  · simp
  · split
    · simp
    · split <;> simp

end MySqlClient.Wire
