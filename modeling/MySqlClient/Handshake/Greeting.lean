import MySqlClient.Capabilities
import MySqlClient.Handshake.ServerVersion
import MySqlClient.Wire.Reader

/-!
# The server's greeting

The first packet of a session.  The seed for authentication comes in two pieces, and the capability
words come in three: two halves of the standard word, and MariaDB's extension word in reserved
octets, which it uses exactly if it does not offer `longPassword`.
-/

namespace MySqlClient

/-- The server's greeting. -/
structure Greeting where
  protocolVersion : UInt8
  serverVersion : String
  connectionId : UInt32
  /-- The seed of the first authentication plugin, without the NUL at its end. -/
  seed : Bytes
  capabilities : Capabilities
  charset : UInt8 := 0
  status : StatusFlags := .none
  /-- The first authentication plugin; empty if the server names none. -/
  plugin : String := ""
  deriving DecidableEq

namespace Greeting

/-- The protocol version of all servers since 3.21. -/
def knownVersion : UInt8 := 10

/-- The number of octets in the first piece of the seed. -/
def firstPieceLength : Nat := 8

/-- The number of octets in the second piece of the seed, with its NUL, where the greeting tells
the length of both. -/
def secondPieceLength (announced : UInt8) : Nat :=
  max (announced.toNat - firstPieceLength) 13

/-- Read MariaDB's extension word, or pass over the octets it does not use. -/
def readExtension (standard : UInt32) : Reader UInt32 := do
  if standard &&& Capabilities.longPassword.standardWord == 0 then Reader.u32
  else
    let _reserved ← Reader.take 4
    return 0

/-- Read the second piece of the seed. -/
def readSecondPiece (capabilities : Capabilities) (announced : UInt8) : Reader Bytes := do
  if capabilities.contains .secureConnection then
    if capabilities.contains .pluginAuth then
      Reader.take (secondPieceLength announced)
    else
      let piece ← Reader.take 12
      let _filler ← Reader.u8
      return piece
  else return []

/-- The seed without the NUL at its end.  A seed of the usual length has none, and ends in zero
only by chance. -/
def trimSeed (seed : Bytes) : Bytes :=
  if seedLength < seed.length ∧ seed.getLast? = some 0 then seed.dropLast else seed

/-- Read the name of the first plugin. -/
def readPlugin (capabilities : Capabilities) : Reader String := do
  if capabilities.contains .pluginAuth then
    return Utf8.decodeLossy (← Reader.nulTerminated)
  else return ""

/-- Read what follows the lower half of the standard capability word. -/
def readExtended (greeting : Greeting) (low : UInt16) : Reader Greeting := do
  let charset ← Reader.u8
  let status ← Reader.u16
  let high ← Reader.u16
  let announced ← Reader.u8
  let _reserved ← Reader.take 6
  let standard := low.toUInt32 ||| (high.toUInt32 <<< 16)
  let capabilities := Capabilities.ofWords standard (← readExtension standard)
  let piece ← readSecondPiece capabilities announced
  let plugin ← readPlugin capabilities
  return { greeting with
    seed := trimSeed (greeting.seed ++ piece)
    capabilities
    charset
    status := ⟨status⟩
    plugin }

/-- Read a greeting.  It may end after the lower half of the standard capability word. -/
def reader : Reader Greeting := do
  let protocolVersion ← Reader.u8
  if protocolVersion != knownVersion then
    throw (.unsupportedServer (.handshakeVersion protocolVersion))
  let serverVersion := Utf8.decodeLossy (← Reader.nulTerminated)
  let connectionId ← Reader.u32
  let seed ← Reader.take firstPieceLength
  let _filler ← Reader.u8
  let low ← Reader.u16
  let capabilities := Capabilities.ofWords low.toUInt32 0
  let greeting := { protocolVersion, serverVersion, connectionId, seed, capabilities }
  if (← Reader.peek).isEmpty then return greeting
  else readExtended greeting low

/-- The greeting in a packet. -/
def parse (payload : Bytes) : Outcome Greeting :=
  reader.parse payload

/-- The version of the server. -/
def version? (greeting : Greeting) : Option ServerVersion :=
  ServerVersion.parse? greeting.serverVersion

end Greeting

end MySqlClient
