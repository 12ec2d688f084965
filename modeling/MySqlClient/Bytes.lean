/-!
# Byte strings

A byte string is a list of octets.  Lists keep every law of the protocol an induction on the data,
and share their tails, so that cutting a message into its fields copies only the fields.

* `Bytes.capacity`: how many numbers fit in some octets.
* `Bytes.ofNat`, `Bytes.toNat`: fixed-width little-endian numbers, with `toNat_ofNat` (the value
  modulo the width), `ofNat_toNat` and `length_ofNat`.
* `Bytes.ofNatBig`, `Bytes.toNatBig`: the same most significant octet first.
* `Bytes.hasAtLeast`: a length test that looks at no more octets than it has to.
* `Bytes.ofString`: the UTF-8 form of a text.
-/

namespace MySqlClient

/-- A string of octets. -/
abbrev Bytes : Type := List UInt8

namespace Bytes

/-! ## Little-endian numbers -/

/-- How many numbers fit in `width` octets. -/
def capacity : Nat → Nat
  | 0 => 1
  | width + 1 => 256 * capacity width

/-- The `width` least significant octets of `n`, least significant first. -/
def ofNat : Nat → Nat → Bytes
  | 0, _ => []
  | width + 1, n => UInt8.ofNat n :: ofNat width (n / 256)

/-- The number whose little-endian octets are given. -/
def toNat : Bytes → Nat
  | [] => 0
  | b :: rest => b.toNat + 256 * toNat rest

@[simp] theorem capacity_zero : capacity 0 = 1 := rfl

theorem capacity_succ (width : Nat) : capacity (width + 1) = 256 * capacity width := rfl

@[simp] theorem ofNat_zero (n : Nat) : ofNat 0 n = [] := rfl

theorem ofNat_succ (width n : Nat) :
    ofNat (width + 1) n = UInt8.ofNat n :: ofNat width (n / 256) := rfl

@[simp] theorem toNat_nil : toNat [] = 0 := rfl

@[simp] theorem toNat_cons (b : UInt8) (rest : Bytes) :
    toNat (b :: rest) = b.toNat + 256 * toNat rest := rfl

@[simp] theorem length_ofNat (width n : Nat) : (ofNat width n).length = width := by
  induction width generalizing n with
  | zero => rfl
  | succ width ih => simp [ofNat_succ, ih]

/-- Reading back a number written in `width` octets gives its value modulo what fits in them. -/
theorem toNat_ofNat (width n : Nat) : toNat (ofNat width n) = n % capacity width := by
  induction width generalizing n with
  | zero => simp [Nat.mod_one]
  | succ width ih =>
    have h : (UInt8.ofNat n).toNat = n % 256 := by simp
    rw [ofNat_succ, toNat_cons, ih, h, capacity_succ, Nat.mod_mul]

theorem toNat_lt (bytes : Bytes) : toNat bytes < capacity bytes.length := by
  induction bytes with
  | nil => simp
  | cons b rest ih =>
    have h := b.toNat_lt
    rw [toNat_cons, List.length_cons, capacity_succ]
    omega

/-- Writing the number that some octets denote gives the octets back. -/
theorem ofNat_toNat (bytes : Bytes) : ofNat bytes.length (toNat bytes) = bytes := by
  induction bytes with
  | nil => rfl
  | cons b rest ih =>
    have h := b.toNat_lt
    have hdiv : (b.toNat + 256 * toNat rest) / 256 = toNat rest := by omega
    have hmod : UInt8.ofNat (b.toNat + 256 * toNat rest) = b := by
      apply UInt8.toNat_inj.mp
      simp
    rw [List.length_cons, ofNat_succ, toNat_cons, hdiv, hmod, ih]

/-! ## Big-endian numbers -/

/-- The `width` least significant octets of `n`, most significant first. -/
def ofNatBig (width n : Nat) : Bytes :=
  (ofNat width n).reverse

/-- The number whose big-endian octets are given. -/
def toNatBig (bytes : Bytes) : Nat :=
  toNat bytes.reverse

@[simp] theorem length_ofNatBig (width n : Nat) : (ofNatBig width n).length = width := by
  simp [ofNatBig]

/-! ## Lengths and text -/

/-- Whether at least `n` octets are present. -/
def hasAtLeast : Nat → Bytes → Bool
  | 0, _ => true
  | _ + 1, [] => false
  | n + 1, _ :: rest => hasAtLeast n rest

@[simp] theorem hasAtLeast_eq (n : Nat) (bytes : Bytes) :
    hasAtLeast n bytes = decide (n ≤ bytes.length) := by
  induction n generalizing bytes with
  | zero => simp [hasAtLeast]
  | succ n ih => cases bytes <;> simp [hasAtLeast, ih]

/-- The octets in pieces of `size`; the last piece may be shorter. -/
def pieces (size : Nat) (octets : Bytes) : List Bytes :=
  if _h : 0 < size ∧ octets ≠ [] then octets.take size :: pieces size (octets.drop size)
  else []
termination_by octets.length
decreasing_by
  have := List.length_pos_iff.mpr _h.2
  simp only [List.length_drop]
  omega

/-- Octet by octet, the bits that differ. -/
def xor (left right : Bytes) : Bytes :=
  List.zipWith (· ^^^ ·) left right

/-- The UTF-8 octets of a text. -/
def ofString (text : String) : Bytes :=
  text.toList.flatMap String.utf8EncodeChar

end Bytes

end MySqlClient
