import MySqlClient.Bytes

/-!
# Packets

A packet is one message of the protocol, in either direction.  Its first octet, the header, tells
most kinds apart; an end of a result set also has to be shorter than a row could be.
-/

namespace MySqlClient

/-- One message, with the sequence number of its first frame. -/
structure Packet where
  sequence : UInt8
  payload : Bytes
  deriving DecidableEq

namespace Packet

/-- The header of an OK packet. -/
def okHeader : UInt8 := 0x00

/-- The header of further data during authentication. -/
def authMoreDataHeader : UInt8 := 0x01

/-- The header of a request for a local file. -/
def localInfileHeader : UInt8 := 0xFB

/-- The header of an EOF packet, of an OK packet that ends a result set, and of a request to switch
the authentication plugin. -/
def eofHeader : UInt8 := 0xFE

/-- The header of an ERR packet. -/
def errHeader : UInt8 := 0xFF

/-- The largest payload of one frame. -/
def maxFramePayload : Nat := 0xFFFFFF

/-- The first octet, if there is one. -/
def header (packet : Packet) : Option UInt8 :=
  packet.payload.head?

def isOk (packet : Packet) : Bool :=
  packet.header == some okHeader

def isErr (packet : Packet) : Bool :=
  packet.header == some errHeader

/-- An EOF packet has at most eight octets. -/
def isEof (packet : Packet) : Bool :=
  packet.header == some eofHeader && !packet.payload.hasAtLeast 9

theorem isEof_iff (packet : Packet) :
    packet.isEof = true ↔ packet.header = some eofHeader ∧ packet.payload.length < 9 := by
  rw [isEof, Bool.and_eq_true, beq_iff_eq, Bytes.hasAtLeast_eq, Bool.not_eq_true',
    decide_eq_false_iff_not, Nat.not_le]

/-- What ends a result set is an EOF packet or an OK packet with the same header.  A row with that
lead octet holds a string too long for one frame. -/
def isResultSetEnd (packet : Packet) : Bool :=
  packet.header == some eofHeader && !packet.payload.hasAtLeast maxFramePayload

theorem isResultSetEnd_iff (packet : Packet) :
    packet.isResultSetEnd = true ↔
      packet.header = some eofHeader ∧ packet.payload.length < maxFramePayload := by
  rw [isResultSetEnd, Bool.and_eq_true, beq_iff_eq, Bytes.hasAtLeast_eq, Bool.not_eq_true',
    decide_eq_false_iff_not, Nat.not_le]

end Packet

end MySqlClient
