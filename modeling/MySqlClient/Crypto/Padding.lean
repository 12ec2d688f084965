import MySqlClient.Bytes

/-!
# Messages in blocks

What the two hash functions share: the message is filled up with a one bit, zeros and its length in
bits to a multiple of 64 octets; a block is sixteen big-endian words; and the words of the schedule
continue those of the block.
-/

namespace MySqlClient.Digest

/-- The number of octets in a block. -/
def blockLength : Nat := 64

/-- The message, a one bit, as few zeros as possible, and the length of the message in bits. -/
def padded (message : Bytes) : Bytes :=
  let zeros := (2 * blockLength - 9 - message.length % blockLength) % blockLength
  message ++ 0x80 :: List.replicate zeros 0 ++ Bytes.ofNatBig 8 (8 * message.length)

/-- The blocks of a message. -/
def blocks (message : Bytes) : List Bytes :=
  Bytes.pieces blockLength (padded message)

/-- The words of a block. -/
def words (block : Bytes) : List UInt32 :=
  (Bytes.pieces 4 block).map fun piece => UInt32.ofNat (Bytes.toNatBig piece)

/-- The octets of a word. -/
def wordBytes (word : UInt32) : Bytes :=
  Bytes.ofNatBig 4 word.toNat

/-- `count` words of the schedule that starts with the window: each further word follows from the
sixteen before it. -/
def schedule (next : List UInt32 → UInt32) : Nat → List UInt32 → List UInt32
  | 0, _ => []
  | count + 1, window =>
    window.headD 0 :: schedule next count (window.tail ++ [next window])

end MySqlClient.Digest
