import MySqlClient.Crypto.Padding

/-!
# SHA-1

The hash function of the older authentication plugin, and of the padding of encrypted passwords.
-/

namespace MySqlClient.Sha1

/-- The chaining value. -/
structure State where
  a : UInt32
  b : UInt32
  c : UInt32
  d : UInt32
  e : UInt32
  deriving DecidableEq

/-- Where hashing starts. -/
def initial : State :=
  ⟨0x67452301, 0xEFCDAB89, 0x98BADCFE, 0x10325476, 0xC3D2E1F0⟩

/-- Rotate a word to the left. -/
def rotateLeft (x n : UInt32) : UInt32 :=
  (x <<< n) ||| (x >>> (32 - n))

/-- The word of the schedule that follows sixteen others. -/
def nextWord (window : List UInt32) : UInt32 :=
  rotateLeft (window.getD 13 0 ^^^ window.getD 8 0 ^^^ window.getD 2 0 ^^^ window.getD 0 0) 1

/-- The mixing function and the constant of a round. -/
def mix (round : Nat) (b c d : UInt32) : UInt32 × UInt32 :=
  if round < 20 then ((b &&& c) ||| (~~~b &&& d), 0x5A827999)
  else if round < 40 then (b ^^^ c ^^^ d, 0x6ED9EBA1)
  else if round < 60 then ((b &&& c) ||| (b &&& d) ||| (c &&& d), 0x8F1BBCDC)
  else (b ^^^ c ^^^ d, 0xCA62C1D6)

/-- One round. -/
def step (s : State) (word : UInt32 × Nat) : State :=
  let (f, k) := mix word.2 s.b s.c s.d
  ⟨rotateLeft s.a 5 + f + s.e + k + word.1, s.a, rotateLeft s.b 30, s.c, s.d⟩

/-- Take one block into the chaining value. -/
def compress (s : State) (block : Bytes) : State :=
  let words := Digest.schedule nextWord 80 (Digest.words block)
  let t := words.zipIdx.foldl step s
  ⟨s.a + t.a, s.b + t.b, s.c + t.c, s.d + t.d, s.e + t.e⟩

/-- The hash of a message: twenty octets. -/
def digest (message : Bytes) : Bytes :=
  let s := (Digest.blocks message).foldl compress initial
  [s.a, s.b, s.c, s.d, s.e].flatMap Digest.wordBytes

theorem length_digest (message : Bytes) : (digest message).length = 20 := by
  simp [digest, Digest.wordBytes]

end MySqlClient.Sha1
