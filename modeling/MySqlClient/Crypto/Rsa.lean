import MySqlClient.Crypto.Der
import MySqlClient.Crypto.Pem
import MySqlClient.Crypto.Sha1

/-!
# RSA

Encryption with a public key, padded by OAEP with SHA-1 and an empty label.

* `PublicKey.ofPem?`: a key from PEM, in either of two formats; `PublicKey.isUsable` bounds its size
  and exponent.
* `PublicKey.encrypt?`: encryption, with the random octets of the padding as an argument.
-/

namespace MySqlClient.Rsa

/-! ## Arithmetic -/

/-- `base ^ exponent` modulo `modulus`, by repeated squaring. -/
def powMod (base exponent modulus : Nat) : Nat :=
  if h : exponent = 0 then 1 % modulus
  else
    let half := powMod (base * base % modulus) (exponent / 2) modulus
    if exponent % 2 = 1 then half * base % modulus else half
termination_by exponent
decreasing_by exact Nat.div_lt_self (Nat.pos_of_ne_zero h) (by decide)

/-- The number of octets of a number. -/
def byteSize (n : Nat) : Nat :=
  if n = 0 then 0 else n.log2 / 8 + 1

/-! ## Padding -/

/-- The length of the hash. -/
def hashLength : Nat := 20

/-- The hash of the label, which is empty. -/
def labelHash : Bytes := Sha1.digest []

/-- `length` octets generated from a seed. -/
def mask (seed : Bytes) (length : Nat) : Bytes :=
  let count := (length + hashLength - 1) / hashLength
  ((List.range count).flatMap fun i => Sha1.digest (seed ++ Bytes.ofNatBig 4 i)).take length

/-- As many octets as the hash has, from random ones. -/
def paddingSeed (entropy : Bytes) : Bytes :=
  (entropy ++ List.replicate hashLength 0).take hashLength

/-- Fill up a message to `size` octets.  There has to be room for two hashes and two octets. -/
def pad? (entropy message : Bytes) (size : Nat) : Option Bytes :=
  if message.length + 2 * hashLength + 2 ≤ size then
    let zeros := List.replicate (size - message.length - 2 * hashLength - 2) 0
    let block := labelHash ++ zeros ++ 0x01 :: message
    let seed := paddingSeed entropy
    let maskedBlock := Bytes.xor block (mask seed (size - hashLength - 1))
    some (0x00 :: Bytes.xor seed (mask maskedBlock hashLength) ++ maskedBlock)
  else none

/-! ## Keys -/

/-- The name of the algorithm. -/
def objectIdentifier : Bytes :=
  [0x2A, 0x86, 0x48, 0x86, 0xF7, 0x0D, 0x01, 0x01, 0x01]

/-- Read the algorithm of a key, which has to be RSA without parameters. -/
def algorithm? (octets : Bytes) : Option Bytes := do
  let (algorithm, rest) ← Der.element? Der.sequenceTag octets
  let (name, parameters) ← Der.element? Der.objectIdentifierTag algorithm
  if name = objectIdentifier ∧ Der.whole? Der.nullTag parameters = some [] then some rest
  else none

/-- A public key. -/
structure PublicKey where
  modulus : Nat
  exponent : Nat
  deriving DecidableEq

namespace PublicKey

/-- Whether a key has a size and an exponent that it is worth computing with. -/
def isUsable (key : PublicKey) : Bool :=
  key.modulus < 1 <<< 4096 && key.modulus % 2 == 1 && key.exponent % 2 == 1 &&
    2 ≤ key.exponent && key.exponent < 1 <<< 33 && key.exponent < key.modulus

/-- A key as the sequence of its two numbers. -/
def ofDer? (octets : Bytes) : Option PublicKey := do
  let contents ← Der.whole? Der.sequenceTag octets
  let (modulus, rest) ← Der.natural? contents
  let (exponent, rest) ← Der.natural? rest
  let key := ⟨modulus, exponent⟩
  if rest.isEmpty ∧ key.isUsable then some key else none

/-- A key behind the name of its algorithm. -/
def ofSubjectInfo? (octets : Bytes) : Option PublicKey := do
  let rest ← algorithm? (← Der.whole? Der.sequenceTag octets)
  match ← Der.whole? Der.bitStringTag rest with
  | 0 :: key => ofDer? key
  | _ => none

/-- The key in a PEM text. -/
def ofPem? (text : List Char) : Option PublicKey :=
  ((Pem.decode? "PUBLIC KEY" text).bind ofSubjectInfo?).or
    ((Pem.decode? "RSA PUBLIC KEY" text).bind ofDer?)

/-- The number of octets of what the key encrypts. -/
def size (key : PublicKey) : Nat :=
  byteSize key.modulus

/-- Encrypt a message; messages that are too long for the key are refused. -/
def encrypt? (entropy : Bytes) (key : PublicKey) (message : Bytes) : Option Bytes := do
  let block ← pad? entropy message key.size
  return Bytes.ofNatBig key.size (powMod (Bytes.toNatBig block) key.exponent key.modulus)

/-- What a key encrypts is as long as its modulus. -/
theorem length_encrypt? {entropy message cipher : Bytes} {key : PublicKey}
    (h : key.encrypt? entropy message = some cipher) : cipher.length = key.size := by
  unfold encrypt? at h
  cases hpad : pad? entropy message key.size with
  | none => simp [hpad] at h
  | some block =>
    simp only [hpad, Option.pure_def, Option.bind_eq_bind, Option.bind_some,
      Option.some.injEq] at h
    rw [← h, Bytes.length_ofNatBig]

end PublicKey

end MySqlClient.Rsa
