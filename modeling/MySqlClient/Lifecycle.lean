import MySqlClient.Auth.Exchange
import MySqlClient.Config
import MySqlClient.Handshake.Greeting
import MySqlClient.Handshake.Response
import MySqlClient.Request
import MySqlClient.Response

/-!
# The life of a session

`start → awaitingGreeting → [awaitingTls] → authenticating → ready → closed`

The lifecycle is a machine without effects: `Lifecycle.onEvent` takes an event to the next state and
to the actions that whoever owns the transport has to carry out.

* `Login`: what the client brings along; `Session`: what the server told about itself.
* `Lifecycle.Event`, `Lifecycle.Action`: what the machine is told, and what it asks for.
* `Lifecycle.onGreeting`, `Lifecycle.onAuthPacket`: the packets it understands itself.  Packets of
  the command phase are not its business.
-/

namespace MySqlClient

/-- What a client brings to a session. -/
structure Login where
  username : String
  password : Bytes
  database : Option String
  tlsMode : TlsMode
  /-- Whether the transport is private from the start. -/
  secureTransport : Bool
  charset : UInt8
  maxPacketSize : UInt32
  attributes : List (String × String)
  /-- What to ask the server for. -/
  capabilities : Capabilities
  /-- The random octets for an encryption. -/
  entropy : Bytes
  deriving DecidableEq

/-- What every client tells about itself. -/
def Login.defaultAttributes : List (String × String) :=
  [("_client_name", "qail-mysql"), ("_client_version", "0.15.0"), ("_os", "linux"),
    ("_platform", "x86_64")]

/-- What the server told about a session. -/
structure Session where
  connectionId : UInt32
  serverVersion : String
  capabilities : Capabilities
  status : StatusFlags
  deriving DecidableEq

/-- Where a session stands. -/
inductive Lifecycle where
  | start
  | awaitingGreeting
  | awaitingTls (greeting : Greeting) (capabilities : Capabilities)
  | authenticating (exchange : AuthExchange) (session : Session)
  /-- Commands may flow. -/
  | ready (capabilities : Capabilities)
  | closed
  deriving DecidableEq

namespace Lifecycle

/-- What the machine is told. -/
inductive Event where
  | transportActive
  | packet (packet : Packet)
  | tlsEstablished
  | close
  | transportClosed
  | failed (error : Error)
  deriving DecidableEq

/-- What the machine asks for. -/
inductive Action where
  /-- Wait for the next packet. -/
  | read
  /-- Write a packet; with `resequence` it starts a new exchange. -/
  | send (payload : Bytes) (resequence : Bool)
  /-- Make the transport private, and tell when that is done. -/
  | startTls
  /-- Authentication is over. -/
  | established (session : Session)
  /-- Close the transport. -/
  | shutdown
  /-- The session is dead; fail whatever waits for it. -/
  | fail (error : Error)
  deriving DecidableEq

/-- A state and the actions on the way to it. -/
abbrev Transition : Type := Lifecycle × List Action

/-! ## Names -/

def name : Lifecycle → String
  | start => "start"
  | awaitingGreeting => "awaiting_greeting"
  | awaitingTls _ _ => "waiting_for_tls"
  | authenticating _ _ => "authenticating"
  | ready _ => "ready"
  | closed => "closed"

def Event.name : Event → String
  | transportActive => "transport activation"
  | packet _ => "packet"
  | tlsEstablished => "TLS completion"
  | close => "close"
  | transportClosed => "transport close"
  | failed _ => "error"

def isReady : Lifecycle → Bool
  | ready _ => true
  | _ => false

def isClosed : Lifecycle → Bool
  | closed => true
  | _ => false

theorem eq_closed_of_isClosed {state : Lifecycle} (h : state.isClosed = true) : state = closed := by
  cases state with
  | closed => rfl
  | _ => cases h

/-- What was agreed on, once commands may flow. -/
def capabilities? : Lifecycle → Option Capabilities
  | ready capabilities => some capabilities
  | _ => none

/-! ## Transitions -/

/-- The session fails. -/
def failWith (error : Error) : Transition :=
  (closed, [.fail error])

/-- What a step answers; if it fails, the session does. -/
def orFail : Outcome Transition → Transition
  | .ok transition => transition
  | .error error => failWith error

/-- The client's header under the agreed capabilities. -/
def clientHeader (login : Login) (capabilities : Capabilities) : ClientHeader :=
  { capabilities, maxPacketSize := login.maxPacketSize, charset := login.charset }

/-- The plugin to start with: the one the server names, or the older one. -/
def firstPlugin (greeting : Greeting) : String :=
  if greeting.plugin.isEmpty then AuthPlugin.native.name else greeting.plugin

/-- Answer the greeting, over a transport that is private or not. -/
def respond (login : Login) (greeting : Greeting) (capabilities : Capabilities)
    (secure : Bool) : Outcome Transition := do
  let (exchange, proof) ←
    AuthExchange.start (firstPlugin greeting) login.password greeting.seed secure login.entropy
  let response : HandshakeResponse :=
    { header := clientHeader login capabilities
      username := login.username
      proof
      database := login.database
      plugin := exchange.plugin.name
      attributes := login.attributes }
  let session : Session :=
    { connectionId := greeting.connectionId
      serverVersion := greeting.serverVersion
      capabilities
      status := greeting.status }
  return (authenticating exchange session, [.send response.encode false, .read])

/-- What client and server agree on. -/
def negotiate (login : Login) (offered : Capabilities) : Outcome Capabilities :=
  let agreed := login.capabilities.intersection offered
  match login.tlsMode with
  | .disable => .ok (agreed.difference .ssl)
  | .prefer => .ok agreed
  | .require =>
    if agreed.contains .ssl then .ok agreed else .error .secureConnectionRequired

/-- Take the server's greeting: ask for TLS if that was agreed on, or answer at once. -/
def onGreeting (login : Login) (packet : Packet) : Outcome Transition := do
  if packet.isErr then
    let report ← ServerError.parse .protocol41 packet.payload
    throw report.toError
  let greeting ← Greeting.parse packet.payload
  if !greeting.capabilities.contains .required then
    throw (.unsupportedServer (.missingCapabilities greeting.serverVersion))
  let capabilities ← negotiate login greeting.capabilities
  if capabilities.contains .ssl then
    let request := (clientHeader login capabilities).encode
    return (awaitingTls greeting capabilities, [.send request false, .startTls])
  respond login greeting capabilities login.secureTransport

/-- The session after the server's OK.  An OK that does not parse keeps the status of the
greeting. -/
def acceptedSession (session : Session) (payload : Bytes) : Session :=
  match Summary.parse session.capabilities payload with
  | .ok summary => { session with status := summary.status }
  | .error _ => session

/-- Take a packet of the authentication. -/
def onAuthPacket (exchange : AuthExchange) (session : Session) (packet : Packet) :
    Outcome Transition :=
  match packet.payload with
  | [] => .error (.protocol .emptyAuthPacket)
  | header :: data =>
    if header = Packet.okHeader then
      let session := acceptedSession session packet.payload
      .ok (ready session.capabilities, [.established session])
    else if header = Packet.errHeader then do
      let report ← ServerError.parse session.capabilities packet.payload
      throw report.toError
    else if header = Packet.eofHeader then do
      let request ← AuthSwitch.parse packet.payload
      let (exchange, proof) ← exchange.switch request.plugin request.seed
      return (authenticating exchange session, [.send proof false, .read])
    else if header = Packet.authMoreDataHeader then do
      let (exchange, reply) ← exchange.moreData data
      return (authenticating exchange session,
        (reply.map fun octets => Action.send octets false).toList ++ [.read])
    else .error (.protocol (.authPacket header))

/-- Advance by one event. -/
def onEvent (login : Login) (state : Lifecycle) (event : Event) : Transition :=
  match state, event with
  | closed, _ => (closed, [])
  | _, .failed error => failWith error
  | _, .transportClosed => failWith .closed
  | start, .transportActive => (awaitingGreeting, [.read])
  | awaitingGreeting, .packet packet => orFail (onGreeting login packet)
  | awaitingTls greeting capabilities, .tlsEstablished =>
    orFail (respond login greeting capabilities true)
  | authenticating exchange session, .packet packet =>
    orFail (onAuthPacket exchange session packet)
  | ready _, .close => (closed, [.send Request.quit.encode true, .shutdown])
  | _, .close => (closed, [.shutdown, .fail .closed])
  | state, event => failWith (.protocol (.unexpectedEvent event.name state.name))

@[simp] theorem onEvent_closed (login : Login) (event : Event) :
    onEvent login closed event = (closed, []) := rfl

end Lifecycle

end MySqlClient
