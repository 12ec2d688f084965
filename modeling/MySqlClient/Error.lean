import MySqlClient.Text.Decimal
import MySqlClient.Text.Utf8

/-!
# Errors

What can go wrong in a session, by cause.

* `Error`: the kinds of failure, each with its cause; `Error.message` is the only place that puts
  a failure into words.
* `ServerError`: what an ERR packet reports; `ServerError.toError` sorts it into a kind.
* `Error.isConnectionFatal`: whether the session is over, or only the command that failed.

Each cause has an `other` case, for causes that an extension of the library words itself.
-/

namespace MySqlClient

/-! ## What the server reports -/

/-- The report of an ERR packet. -/
structure ServerError where
  code : UInt16
  /-- The five-character SQLSTATE; servers before 4.1 send none. -/
  sqlState : Option String
  message : String
  deriving DecidableEq

namespace ServerError

/-- A unique key was violated. -/
def duplicateEntryCodes : List UInt16 := [1062, 1586]

/-- The statement does not parse. -/
def syntaxCodes : List UInt16 := [1064, 1149]

/-- Codes after which the server has dropped the session, or is about to: too many connections,
shutdown, aborted connections, packets too large or out of order, killed sessions and idle
clients. -/
def connectionFatalCodes : List UInt16 :=
  [1040, 1053, 1152, 1153, 1156, 1184, 1927, 4031]

/-- The code that marks an ERR packet as a progress report. -/
def progressReportCode : UInt16 := 0xFFFF

/-- The report in words. -/
def text (e : ServerError) : String :=
  match e.sqlState with
  | some state => s!"{e.code.toNat} ({state}): {e.message}"
  | none => s!"{e.code.toNat}: {e.message}"

end ServerError

/-! ## Causes -/

/-- The frames of the byte stream are not what they have to be. -/
inductive FramingFault where
  | sequenceMismatch (expected received : UInt8)
  | closedMidPacket
  | other (text : String)
  deriving DecidableEq

/-- The two groups of definitions that an EOF packet may end. -/
inductive Definitions where
  | parameters
  | columns
  deriving DecidableEq

/-- A packet body is malformed, or a packet does not belong where it came. -/
inductive ProtocolFault where
  | missingByte
  | missingBytes (wanted : Nat)
  | lengthLead
  | nullLength
  | notOk (header : UInt8)
  | notEof
  | notErr
  | notAuthSwitch
  | notPrepareOk
  | rowLead
  | nullInColumn (column : String)
  | nativeMoreData
  | moreDataAfterFinal
  | authPacket (header : UInt8)
  | emptyAuthPacket
  | unexpectedEvent (event state : String)
  | pingResponse
  | localInfile
  | noColumns
  | emptyQueryResponse
  | emptyExecuteResponse
  | missingEof (behind : Definitions)
  | afterQuery (header : Option UInt8)
  | afterPrepared (header : Option UInt8)
  | noStatement
  | beforeSession
  | noCommandInFlight (header : Option UInt8)
  | noActiveCommand
  | exchangeFailed (command reason : String)
  | commandFailed (command reason : String)
  | other (text : String)
  deriving DecidableEq

/-- Authentication cannot go on. -/
inductive AuthFault where
  | seedLength (plugin : String) (length : Nat)
  | emptySeed
  | keyNotText (fault : Utf8.Fault)
  | keyUnreadable
  | encryption
  | moreDataStatus (status : Option UInt8)
  | other (text : String)
  deriving DecidableEq

/-- The transport cannot be made private. -/
inductive TlsFault where
  | disabled
  | serverName (name : String)
  | handshake
  | other (text : String)
  deriving DecidableEq

/-- The server speaks a protocol that is too old. -/
inductive ServerFault where
  | handshakeVersion (version : UInt8)
  | missingCapabilities (serverVersion : String)
  | other (text : String)
  deriving DecidableEq

/-- A column value is not of its type. -/
inductive DecodeFault where
  | columnType (tag : UInt8)
  | temporalLength (length : Nat)
  | other (text : String)
  deriving DecidableEq

/-- The bound parameters do not fit the statement. -/
inductive ParameterFault where
  | count (expected bound : Nat)
  | other (text : String)
  deriving DecidableEq

/-- A failure. -/
inductive Error where
  | io (text : String)
  | framing (fault : FramingFault)
  | protocol (fault : ProtocolFault)
  | server (report : ServerError)
  | duplicateEntry (report : ServerError)
  | invalidSyntax (report : ServerError)
  | unsupportedServer (fault : ServerFault)
  | unsupportedAuthPlugin (name : String)
  | secureConnectionRequired
  | auth (fault : AuthFault)
  | tls (fault : TlsFault)
  | closed
  /-- A row handler failed; reported once the exchange has drained. -/
  | rowHandler (text : String)
  | decode (fault : DecodeFault)
  | parameterMismatch (fault : ParameterFault)
  | timeout
  deriving DecidableEq

/-- What a computation answers, or why it fails. -/
abbrev Outcome (α : Type) : Type := Except Error α

namespace Outcome

variable {α β : Type}

@[simp] theorem ok_bind (value : α) (next : α → Outcome β) :
    ((Except.ok value : Outcome α) >>= next) = next value := rfl

@[simp] theorem error_bind (error : Error) (next : α → Outcome β) :
    ((Except.error error : Outcome α) >>= next) = .error error := rfl

/-- A chain that succeeds does so step by step. -/
theorem bind_eq_ok {outcome : Outcome α} {next : α → Outcome β} {result : β}
    (h : (outcome >>= next) = .ok result) :
    ∃ value, outcome = .ok value ∧ next value = .ok result := by
  cases outcome with
  | error error => cases h
  | ok value => exact ⟨value, rfl, h⟩

@[simp] theorem pure_eq (value : α) : (pure value : Outcome α) = .ok value := rfl

@[simp] theorem throw_eq (error : Error) : (throw error : Outcome α) = .error error := rfl

end Outcome

/-! ## Words -/

/-- A header octet in words. -/
def headerText (header : UInt8) : String :=
  "0x" ++ Hex.padded 2 header.toNat

/-- An octet that may be missing, in words. -/
def optionalText : Option UInt8 → String
  | none => "None"
  | some b => s!"Some({b.toNat})"

def FramingFault.message : FramingFault → String
  | sequenceMismatch expected received =>
    s!"packet sequence mismatch: expected {expected.toNat}, got {received.toNat}"
  | closedMidPacket => "connection closed mid-packet"
  | other text => text

def Definitions.name : Definitions → String
  | parameters => "parameter definitions"
  | columns => "column definitions"

def ProtocolFault.message : ProtocolFault → String
  | missingByte => "packet too short reading u8"
  | missingBytes wanted => s!"packet too short reading {wanted} bytes"
  | lengthLead => "invalid length-encoded integer prefix 0xff"
  | nullLength => "unexpected NULL length-encoded integer"
  | notOk header => s!"expected OK packet, got header {headerText header}"
  | notEof => "expected EOF packet"
  | notErr => "expected ERR packet"
  | notAuthSwitch => "expected AuthSwitchRequest"
  | notPrepareOk => "expected COM_STMT_PREPARE_OK"
  | rowLead => "binary row must start with 0x00"
  | nullInColumn column => s!"NULL length for non-null column {column}"
  | nativeMoreData => "mysql_native_password received unexpected auth data"
  | moreDataAfterFinal =>
    "unexpected auth data after final caching_sha2_password response"
  | authPacket header => s!"unexpected packet {headerText header} during authentication"
  | emptyAuthPacket => "empty packet during authentication"
  | unexpectedEvent event state => s!"unexpected {event} in state {state}"
  | pingResponse => "unexpected response to COM_PING"
  | localInfile => "server requested LOCAL INFILE, which is not supported"
  | noColumns => "result set with zero columns"
  | emptyQueryResponse => "empty packet in query response"
  | emptyExecuteResponse => "empty packet in execute response"
  | missingEof behind => s!"expected EOF after {behind.name}"
  | afterQuery header => s!"unexpected packet {optionalText header} for finished query"
  | afterPrepared header =>
    s!"unexpected packet {optionalText header} for finished prepared query"
  | noStatement => "no statement id before execute"
  | beforeSession => "command packet before the session was established"
  | noCommandInFlight header =>
    s!"unexpected packet {optionalText header} with no command in flight"
  | noActiveCommand => "active command missing from queue"
  | exchangeFailed command reason => s!"{command} exchange failed: {reason}"
  | commandFailed command reason => s!"{command} failed: {reason}"
  | other text => text

/-- The length of the seed that both authentication plugins expect. -/
def seedLength : Nat := 20

def AuthFault.message : AuthFault → String
  | seedLength plugin length =>
    s!"{plugin} expects a {MySqlClient.seedLength}-byte seed, got {length}"
  | emptySeed => "empty auth seed"
  | keyNotText fault => s!"public key is not valid PEM: {fault.message}"
  | keyUnreadable => "failed to parse RSA public key"
  | encryption => "RSA encryption failed"
  | moreDataStatus status =>
    s!"missing or invalid auth more data status: {optionalText status}"
  | other text => text

def TlsFault.message : TlsFault → String
  | disabled => "server asked for TLS but it is disabled"
  | serverName name => s!"invalid server name: {name}"
  | handshake => "handshake failed"
  | other text => text

def ServerFault.message : ServerFault → String
  | handshakeVersion version => s!"unsupported handshake protocol version {version.toNat}"
  | missingCapabilities serverVersion =>
    s!"server {serverVersion} lacks CLIENT_PROTOCOL_41 or CLIENT_SECURE_CONNECTION"
  | other text => text

def DecodeFault.message : DecodeFault → String
  | columnType tag => s!"unknown column type {headerText tag}"
  | temporalLength length => s!"invalid temporal value length {length}"
  | other text => text

def ParameterFault.message : ParameterFault → String
  | count expected bound =>
    s!"statement expects {expected} parameters, {bound} were bound"
  | other text => text

namespace Error

/-- A failure in words. -/
def message : Error → String
  | io text => s!"IO error: {text}"
  | framing fault => s!"Framing error: {fault.message}"
  | protocol fault => s!"Protocol error: {fault.message}"
  | server report => s!"Server error: {report.text}"
  | duplicateEntry report => s!"Duplicate entry: {report.text}"
  | invalidSyntax report => s!"Invalid syntax: {report.text}"
  | unsupportedServer fault => s!"Unsupported server: {fault.message}"
  | unsupportedAuthPlugin name => s!"Unsupported auth plugin: {name}"
  | secureConnectionRequired =>
    "Server does not support TLS but a secure connection is required"
  | auth fault => s!"Auth error: {fault.message}"
  | tls fault => s!"TLS error: {fault.message}"
  | closed => "Connection closed"
  | rowHandler text => s!"Row handler failed: {text}"
  | decode fault => s!"Decode error: {fault.message}"
  | parameterMismatch fault => s!"Parameter mismatch: {fault.message}"
  | timeout => "Timeout"

/-! ## Reach of a failure -/

/-- The server's report that a failure carries. -/
def serverError? : Error → Option ServerError
  | server report => some report
  | duplicateEntry report => some report
  | invalidSyntax report => some report
  | _ => none

/-- Whether the session cannot be used after the failure.  Lost or unreadable transports end it,
and so do the reports of a server that gives it up. -/
def isConnectionFatal : Error → Bool
  | io _ | framing _ | protocol _ | tls _ | closed | timeout => true
  | e => e.serverError?.any fun report => ServerError.connectionFatalCodes.contains report.code

end Error

/-- Sort the server's report into the kind of failure its code stands for. -/
def ServerError.toError (report : ServerError) : Error :=
  if duplicateEntryCodes.contains report.code then .duplicateEntry report
  else if syntaxCodes.contains report.code then .invalidSyntax report
  else .server report

@[simp] theorem ServerError.serverError?_toError (report : ServerError) :
    report.toError.serverError? = some report := by
  unfold toError
  split
  · rfl
  · split <;> rfl

end MySqlClient
