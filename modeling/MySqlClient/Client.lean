import MySqlClient.Command.Builtin
import MySqlClient.Connection
import MySqlClient.Config
import MySqlClient.ServerName

/-!
# Clients

A client is a connection together with the caller who opened it: it connects under a time limit,
turns what the caller asks for into commands, and turns completed commands into replies.

* `Client.connect`: begin to connect.
* `Client.ask`: ask for something; the `Demand` says what, and the reply bears its ticket.
* `Client.receive`, `Client.elapse` and so on: what else can happen.
* `Report`: what the caller gets to know in a step.

The connection is released, and ends, when the caller has given up or dropped the handle and no
demand is unanswered.
-/

namespace MySqlClient

/-- What a caller asks for. -/
inductive Demand where
  /-- The rows of plain SQL. -/
  | rows (sql : String)
  /-- The combined summary of plain SQL. -/
  | execute (sql : String)
  /-- Rows and summary of a prepared statement. -/
  | query (sql : String) (parameters : List Value)
  /-- The same, with the caller's own handlers. -/
  | queryWith (sql : String) (parameters : List Value) (sink : Sink Collected)
  | ping
  | close

/-- What a caller gets. -/
inductive Reply where
  | rows (result : Outcome (List Row))
  | summary (result : Outcome Summary)
  | query (result : Outcome (List Row × Summary))
  /-- The rows that the caller's handler kept, also if the query failed. -/
  | queryWith (kept : List Row) (result : Outcome Summary)
  | done (result : Outcome Unit)

namespace Demand

/-- The command that does what is asked for; the end of the session takes none. -/
def command? : Demand → Option (Builtin Collected)
  | rows sql | execute sql => some (.query { sql, delivery := ⟨Collected.sink, {}, none⟩ })
  | query sql parameters =>
    some (.prepared { sql, parameters, delivery := ⟨Collected.sink, {}, none⟩ })
  | queryWith sql parameters sink =>
    some (.prepared { sql, parameters, delivery := ⟨sink, {}, none⟩ })
  | ping => some (.ping {})
  | close => none

/-- The reply, from what the handlers collected and from how the command ended. -/
def reply (demand : Demand) (collected : Collected) (result : Outcome Unit) : Reply :=
  let summary := Collected.combined collected.summaries
  match demand with
  | rows _ => .rows (result.map fun _ => collected.rows)
  | execute _ => .summary (result.map fun _ => summary)
  | query _ _ => .query (result.map fun _ => (collected.rows, summary))
  | queryWith _ _ _ => .queryWith collected.rows (result.map fun _ => summary)
  | ping | close => .done result

end Demand

/-- Where the caller stands. -/
inductive Caller where
  | connecting
  | holding
  /-- Connecting failed, or the handle has been dropped. -/
  | gone
  deriving DecidableEq

/-- A caller and the connection. -/
structure Client where
  connection : Connection (Builtin Collected)
  caller : Caller := .connecting
  /-- The seconds that connecting may still take.  It is given up when more than these pass. -/
  patience : Nat
  /-- What has not been answered, by ticket. -/
  unanswered : List (Nat × Demand) := []

/-- What the caller gets to know. -/
structure Report where
  /-- How connecting came out. -/
  connected : Option (Outcome Session) := none
  replies : List (Nat × Reply) := []

namespace Client

/-! ## Hearing -/

/-- Answer a demand, if it is not answered yet. -/
def answer (client : Client) (report : Report) (ticket : Nat) (collected : Collected)
    (result : Outcome Unit) : Client × Report :=
  match client.unanswered.lookup ticket with
  | none => (client, report)
  | some demand =>
    ({ client with unanswered := client.unanswered.filter fun entry => entry.1 ≠ ticket },
      { report with replies := report.replies ++ [(ticket, demand.reply collected result)] })

/-- The caller's side of a notice. -/
def hear (client : Client) (report : Report) : Notice (Builtin Collected) → Client × Report
  | .entered _ => (client, report)
  | .established result =>
    if client.caller = .connecting then
      ({ client with caller := if result.isOk then .holding else .gone },
        { report with connected := some result })
    else (client, report)
  | .completed completion =>
    client.answer report completion.ticket (completion.command.collected?.getD {})
      completion.result
  | .closed waiter => client.answer report waiter {} (.ok ())

/-- Hear all that the connection has told. -/
def hearAll (client : Client) (report : Report) : Client × Report :=
  let silent := { client with connection := { client.connection with notices := [] } }
  client.connection.notices.foldl (fun (client, report) => client.hear report) (silent, report)

/-- Whether a handle is there: the caller's, or one that an unanswered demand keeps. -/
def isHeld (client : Client) : Bool :=
  client.caller ≠ .gone || !client.unanswered.isEmpty

/-- Hear the connection, and let it end when no handle is left. -/
def settle (client : Client) (report : Report) : Client × Report :=
  let (client, report) := client.hearAll report
  if client.isHeld then (client, report)
  else
    let connection := (client.connection.step .release).step .serve
    { client with connection }.hearAll report

/-- Let something happen to the connection. -/
def advance (client : Client) (inputs : List (Connection.Input (Builtin Collected))) :
    Client × Report :=
  { client with connection := inputs.foldl Connection.step client.connection }.settle {}

/-- Let the connection read octets that have arrived; those that it does not read are answered. -/
def receive (client : Client) (octets : Bytes) : (Client × Report) × Bytes :=
  let (connection, unread) := client.connection.readArrived octets
  ({ client with connection }.settle {}, unread)

/-! ## Connecting -/

/-- What the client brings to a session. -/
def login (config : Config) (entropy : Bytes) : Login where
  username := config.user
  password := .ofString (config.password.getD "")
  database := config.database
  tlsMode := config.tlsMode
  secureTransport := false
  charset := config.charset
  maxPacketSize := config.maxPacketSize
  attributes := Login.defaultAttributes ++ config.attributes
  capabilities := config.desiredCapabilities
  entropy

/-- What TLS needs: the certificates to trust, unless any will do, and a name that a certificate
can bear.  `load` reads a file of certificates. -/
def checkTls (config : Config) (load : String → Outcome Unit) : Outcome Unit := do
  if !config.acceptInvalidCerts then
    config.rootCertPath.forM load
  if !ServerName.isValid config.serverName then
    throw (.tls (.serverName config.serverName))

/-- Give up connecting, if it still goes on. -/
def giveUp (client : Client) : Client × Report :=
  if client.caller = .connecting then
    { client with caller := .gone }.settle { connected := some (.error .timeout) }
  else (client, {})

/-- Begin to connect over an open transport that is not private.  Nothing is begun without what
TLS needs. -/
def connect (config : Config) (load : String → Outcome Unit) (entropy : Bytes) :
    Outcome Client := do
  let wantsTls : Bool := config.tlsMode ≠ .disable
  if wantsTls then checkTls config load
  let connection := Connection.begin (login config entropy) wantsTls
  return { connection, patience := config.connectTimeout.toNat }

/-- Let time pass. -/
def elapse (client : Client) (seconds : Nat) : Client × Report :=
  if seconds ≤ client.patience then
    ({ client with patience := client.patience - seconds }, {})
  else client.giveUp

/-! ## Asking -/

/-- Whether the caller holds a handle. -/
def hasHandle (client : Client) : Bool :=
  client.caller = .holding

/-- Whether nothing can be submitted any more. -/
def isClosed (client : Client) : Bool :=
  client.connection.finished

/-- Ask for something over the handle.  Once the connection has ended, every demand fails but the
one for the end. -/
def ask (client : Client) (ticket : Nat) (demand : Demand) : Client × Report :=
  let waiting := { client with unanswered := client.unanswered ++ [(ticket, demand)] }
  let submission : Submission (Builtin Collected) :=
    match demand.command? with
    | some command => .command ⟨ticket, command⟩
    | none => .close ticket
  if client.isClosed then
    let result : Outcome Unit := if demand.command?.isSome then .error .closed else .ok ()
    (client, { replies := [(ticket, demand.reply {} result)] })
  else waiting.advance [.submit submission, .serve]

/-- Drop the handle. -/
def drop (client : Client) : Client × Report :=
  if client.hasHandle then { client with caller := .gone }.settle {} else (client, {})

end Client

end MySqlClient
