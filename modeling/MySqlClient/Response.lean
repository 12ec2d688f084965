import MySqlClient.Capabilities
import MySqlClient.Packet
import MySqlClient.Wire.Reader

/-!
# Responses

The packets a server answers with, other than columns and rows.

* `Summary`: what an OK packet says about a finished statement; `Summary.reader`.
* `EofPacket`: what ended a group of packets before OK packets did; `EofPacket.reader`.
* `Summary.parseEnd`: the end of a result set, in whichever of the two forms it has.
* `ServerError.reader`: ERR packets; `isProgressReport` tells the ones that are none.
* `AuthSwitch`, `PrepareOk`: the request to switch the authentication plugin, and the answer to a
  prepared statement.
-/

namespace MySqlClient

/-- Read a header octet that has to have a given value. -/
def Reader.header (expected : UInt8) (fault : ProtocolFault) : Reader Unit := do
  if (← Reader.u8) != expected then
    Reader.fail fault

/-! ## Ends of statements -/

/-- What the server says about a finished statement. -/
structure Summary where
  affectedRows : UInt64 := 0
  lastInsertId : UInt64 := 0
  status : StatusFlags := .none
  warnings : UInt16 := 0
  info : String := ""
  deriving DecidableEq

namespace Summary

/-- Read the status and the number of warnings, which servers before 4.1 do not send. -/
def readStatus (capabilities : Capabilities) (summary : Summary) : Reader Summary := do
  if capabilities.contains .protocol41 then
    let status ← Reader.u16
    let warnings ← Reader.u16
    return { summary with status := ⟨status⟩, warnings }
  else return summary

/-- Read the text at the end.  Where changes of the session may follow it, it is length-encoded,
or missing; they are left. -/
def readInfo (capabilities : Capabilities) (summary : Summary) : Reader Summary := do
  if capabilities.contains .sessionTrack then
    if (← Reader.peek).isEmpty then return summary
    else return { summary with info := ← Reader.lenEncText }
  else return { summary with info := Utf8.decodeLossy (← Reader.remainder) }

/-- Read an OK packet. -/
def reader (capabilities : Capabilities) : Reader Summary := do
  let header ← Reader.u8
  if header != Packet.okHeader && header != Packet.eofHeader then
    Reader.fail (.notOk header)
  let affectedRows ← Reader.lenEncCount
  let lastInsertId ← Reader.lenEncCount
  readInfo capabilities (← readStatus capabilities { affectedRows, lastInsertId })

/-- The summary in an OK packet. -/
def parse (capabilities : Capabilities) (payload : Bytes) : Outcome Summary :=
  (reader capabilities).parse payload

end Summary

/-- What an EOF packet says. -/
structure EofPacket where
  warnings : UInt16 := 0
  status : StatusFlags := .none
  deriving DecidableEq

namespace EofPacket

/-- Read an EOF packet. -/
def reader (capabilities : Capabilities) : Reader EofPacket := do
  Reader.header Packet.eofHeader .notEof
  if capabilities.contains .protocol41 then
    let warnings ← Reader.u16
    let status ← Reader.u16
    return { warnings, status := ⟨status⟩ }
  else return {}

/-- The contents of an EOF packet. -/
def parse (capabilities : Capabilities) (payload : Bytes) : Outcome EofPacket :=
  (reader capabilities).parse payload

end EofPacket

/-- The summary at the end of a result set: an OK packet where EOF packets are deprecated and the
packet is long enough for one, an EOF packet otherwise. -/
def Summary.parseEnd (capabilities : Capabilities) (payload : Bytes) : Outcome Summary :=
  if capabilities.contains .deprecateEof && Bytes.hasAtLeast 6 payload then
    Summary.parse capabilities payload
  else do
    let eof ← EofPacket.parse capabilities payload
    return { status := eof.status, warnings := eof.warnings }

/-! ## Errors -/

namespace ServerError

/-- The octet in front of an SQLSTATE. -/
def sqlStateMark : UInt8 := 0x23

/-- The length of an SQLSTATE. -/
def sqlStateLength : Nat := 5

/-- Read the SQLSTATE, if there is one. -/
def readSqlState (capabilities : Capabilities) : Reader (Option String) := do
  if capabilities.contains .protocol41 && (← Reader.peek).head? == some sqlStateMark then
    let _mark ← Reader.u8
    return some (Utf8.decodeLossy (← Reader.take sqlStateLength))
  else return none

/-- Read an ERR packet. -/
def reader (capabilities : Capabilities) : Reader ServerError := do
  Reader.header Packet.errHeader .notErr
  let code ← Reader.u16
  let sqlState ← readSqlState capabilities
  let message := Utf8.decodeLossy (← Reader.remainder)
  return { code, sqlState, message }

/-- The report in an ERR packet. -/
def parse (capabilities : Capabilities) (payload : Bytes) : Outcome ServerError :=
  (reader capabilities).parse payload

end ServerError

/-- Whether a packet with the form of an ERR packet only reports progress. -/
def isProgressReport (capabilities : Capabilities) (payload : Bytes) : Bool :=
  capabilities.contains .mariaDbProgress &&
    match payload with
    | header :: low :: high :: _ =>
      header == Packet.errHeader &&
        UInt16.ofNat (Bytes.toNat [low, high]) == ServerError.progressReportCode
    | _ => false

/-! ## Other answers -/

/-- The server wants another authentication plugin. -/
structure AuthSwitch where
  plugin : String
  seed : Bytes
  deriving DecidableEq

namespace AuthSwitch

/-- Drop one NUL at the end, if there is one. -/
def dropFinalNul (octets : Bytes) : Bytes :=
  if octets.getLast? = some 0 then octets.dropLast else octets

/-- Read a request to switch the plugin. -/
def reader : Reader AuthSwitch := do
  Reader.header Packet.eofHeader .notAuthSwitch
  let plugin := Utf8.decodeLossy (← Reader.nulTerminated)
  let seed := dropFinalNul (← Reader.remainder)
  return { plugin, seed }

/-- The request in a packet. -/
def parse (payload : Bytes) : Outcome AuthSwitch :=
  reader.parse payload

end AuthSwitch

/-- A statement has been prepared. -/
structure PrepareOk where
  statementId : UInt32
  columns : UInt16
  parameters : UInt16
  warnings : UInt16
  deriving DecidableEq

namespace PrepareOk

/-- Read the number of warnings, if it is there. -/
def readWarnings : Reader UInt16 := do
  if (← Reader.peek).hasAtLeast 2 then Reader.u16 else return 0

/-- Read the answer to a prepared statement. -/
def reader : Reader PrepareOk := do
  Reader.header Packet.okHeader .notPrepareOk
  let statementId ← Reader.u32
  let columns ← Reader.u16
  let parameters ← Reader.u16
  let _reserved ← Reader.u8
  let warnings ← readWarnings
  return { statementId, columns, parameters, warnings }

/-- The answer in a packet. -/
def parse (payload : Bytes) : Outcome PrepareOk :=
  reader.parse payload

end PrepareOk

end MySqlClient
