import MySqlClient.Connection.Transport
import MySqlClient.Framing
import MySqlClient.Lifecycle
import MySqlClient.Queue

/-!
# Connections

A connection owns the transport, the framing, the lifecycle and the queue of a session and ties
them together: octets from the server become packets, packets go to the lifecycle or, once the
session is established, to the queue, and what these ask for is carried out.

* `Connection.Input`, `Connection.step`: everything that can happen to a connection.
* `Connection.dispatch`: feed an event to the lifecycle, carry out the actions, and feed the events
  that come of it, until there are none.
* `Connection.consume`: take packets off some octets, until no whole packet is left.
* `Connection.readArrived`: read what has arrived, as much at a time as the inbox has room for.
* `Notice`: what a connection tells those who wait for it, in order.

While a TLS upgrade runs the connection neither reads nor takes submissions.  Octets that are in
the inbox then stay there, and are taken up when the upgrade is over.
-/

namespace MySqlClient

/-- What the holder of a handle submits. -/
inductive Submission (σ : Type) where
  | command (entry : Entry σ)
  /-- End the session; the waiter is told when it has ended. -/
  | close (waiter : Nat)

/-- What a connection tells those who wait for it. -/
inductive Notice (σ : Type) where
  /-- The lifecycle has come to a state of another kind.  Nobody waits for that: it is for the
  log. -/
  | entered (lifecycle : Lifecycle)
  | completed (completion : Completion σ)
  /-- How establishing the session came out. -/
  | established (result : Outcome Session)
  /-- The session that a waiter asked to end has ended. -/
  | closed (waiter : Nat)

/-- What waits for a running TLS upgrade. -/
structure Suspension where
  actions : List Lifecycle.Action
  events : List Lifecycle.Event

/-- The state of a connection. -/
structure Connection (σ : Type) where
  login : Login
  /-- Whether the client can do TLS. -/
  tlsAvailable : Bool
  lifecycle : Lifecycle := .start
  framing : Framing := {}
  /-- Octets that have arrived and are in no packet yet. -/
  inbox : Bytes := []
  queue : Queue σ := {}
  transport : Transport := {}
  /-- What has been submitted and not been taken yet. -/
  submissions : List (Submission σ) := []
  /-- Nobody holds a handle any more. -/
  released : Bool := false
  /-- Somebody waits for the session to be established. -/
  establishing : Bool := true
  /-- Who waits for the session to end. -/
  closeWaiters : List Nat := []
  /-- Set while a TLS upgrade runs. -/
  suspension : Option Suspension := none
  /-- The connection has ended and has told everybody. -/
  finished : Bool := false
  /-- What has been told so far. -/
  notices : List (Notice σ) := []

/-- The octets of several writes, and the framing after them. -/
def Outbound.encodeAll (framing : Framing) : List Outbound → Bytes × Framing
  | [] => ([], framing)
  | outbound :: rest =>
    let start := if outbound.resequence then framing.restart else framing
    let (octets, next) := start.encodeEach outbound.packets
    let (more, last) := encodeAll next rest
    (octets ++ more, last)

namespace Connection

variable {σ : Type} [Command σ]

/-! ## Telling and writing -/

/-- Tell something. -/
def tell (connection : Connection σ) (news : List (Notice σ)) : Connection σ :=
  { connection with notices := connection.notices ++ news }

/-- Tell that commands are complete. -/
def complete (connection : Connection σ) (completions : List (Completion σ)) : Connection σ :=
  connection.tell (completions.map .completed)

/-- Tell how establishing the session came out, if that has not been told. -/
def tellEstablished (connection : Connection σ) (result : Outcome Session) : Connection σ :=
  if connection.establishing then
    { connection with establishing := false }.tell [.established result]
  else connection

/-- Complete all commands of the queue, because the session is over. -/
def failQueue (connection : Connection σ) : Connection σ :=
  let effect := connection.queue.failAll
  { connection with queue := effect.queue }.complete effect.completions

/-- Write packets. -/
def write (connection : Connection σ) (outbound : List Outbound) :
    Connection σ × Outcome Unit :=
  if outbound.isEmpty then (connection, .ok ())
  else
    let (octets, framing) := Outbound.encodeAll connection.framing outbound
    let (transport, result) := connection.transport.write octets
    ({ connection with framing, transport }, result)

/-! ## The lifecycle -/

/-- Let the lifecycle come to a state. -/
def enter (connection : Connection σ) (lifecycle : Lifecycle) : Connection σ :=
  let next := { connection with lifecycle }
  if lifecycle.name = connection.lifecycle.name then next else next.tell [.entered lifecycle]

/-- Carry out one action.  An upgrade is only begun, and how shutting down comes out is not looked
at. -/
def perform (connection : Connection σ) : Lifecycle.Action → Connection σ × Outcome Unit
  | .read => (connection, .ok ())
  | .send payload resequence => connection.write [⟨[payload], resequence⟩]
  | .startTls =>
    (connection, if connection.tlsAvailable then .ok () else .error (.tls .disabled))
  | .established session =>
    let effect := connection.queue.start session.capabilities
    let started := { connection with queue := effect.queue }.complete effect.completions
    (started.tellEstablished (.ok session)).write effect.outbound
  | .shutdown => ({ connection with transport := connection.transport.shutDown.1 }, .ok ())
  | .fail error => ((connection.tellEstablished (.error error)).failQueue, .ok ())

/-- How carrying out actions came out. -/
inductive Ending where
  | done
  /-- An action failed; those behind it are not carried out. -/
  | failed (error : Error)
  /-- A TLS upgrade has begun; the actions behind it wait. -/
  | upgrading (rest : List Lifecycle.Action)

/-- Carry out actions. -/
def carryOut (connection : Connection σ) : List Lifecycle.Action → Connection σ × Ending
  | [] => (connection, .done)
  | action :: rest =>
    match connection.perform action with
    | (next, .error error) => (next, .failed error)
    | (next, .ok ()) => if action = .startTls then (next, .upgrading rest) else next.carryOut rest

/-- The event that comes of a failed action. -/
def Ending.followUp : Ending → List Lifecycle.Event
  | failed error => [.failed error]
  | _ => []

/-- After actions that came out in some way, feed at most `fuel` events to the lifecycle.  The
events that are left are answered too. -/
def drain (fuel : Nat) (connection : Connection σ) (ending : Ending)
    (events : List Lifecycle.Event) : Connection σ × List Lifecycle.Event :=
  match ending with
  | .upgrading actions => ({ connection with suspension := some ⟨actions, events⟩ }, [])
  | _ =>
    match fuel, events ++ ending.followUp with
    | _, [] => (connection, [])
    | 0, left => (connection, left)
    | fuel + 1, event :: left =>
      let (lifecycle, actions) := connection.lifecycle.onEvent connection.login event
      let (next, ending) := (connection.enter lifecycle).carryOut actions
      drain fuel next ending left

/-- No event gives rise to more events than this, with itself: a greeting leads to a TLS upgrade,
the end of the upgrade to a write, and a failed write to the end of the session. -/
def dispatchBound : Nat := 3

/-- Feed an event to the lifecycle. -/
def dispatch (connection : Connection σ) (event : Lifecycle.Event) : Connection σ :=
  (connection.drain dispatchBound .done [event]).1

/-- Go on after a TLS upgrade. -/
def resume (connection : Connection σ) (suspension : Suspension) (result : Outcome Unit) :
    Connection σ :=
  let awake := { connection with suspension := none }
  match result with
  | .error error => (awake.drain dispatchBound (.failed error) suspension.events).1
  | .ok () =>
    let (next, ending) := awake.carryOut suspension.actions
    (next.drain dispatchBound ending (suspension.events ++ [.tlsEstablished])).1

/-! ## Packets -/

/-- Write packets; the session is over if that fails. -/
def writeOrFail (connection : Connection σ) (outbound : List Outbound) : Connection σ :=
  match connection.write outbound with
  | (next, .ok ()) => next
  | (next, .error error) => next.dispatch (.failed error)

/-- Take a packet of the server. -/
def take (connection : Connection σ) (packet : Packet) : Connection σ :=
  if connection.lifecycle.isReady then
    let handled := connection.queue.handle packet
    let next := { connection with queue := handled.queue }.complete handled.completions
    match handled.result with
    | .ok outbound => next.writeOrFail outbound
    | .error error => next.dispatch (.failed error)
  else connection.dispatch (.packet packet)

/-- Whether packets are taken: not after the end, and not during a TLS upgrade. -/
def isAttentive (connection : Connection σ) : Bool :=
  !connection.lifecycle.isClosed && connection.suspension.isNone

/-- Take packets off some octets.  What is left goes to the inbox. -/
def consume (connection : Connection σ) (octets : Bytes) : Connection σ :=
  if connection.isAttentive then
    match _h : connection.framing.decode octets with
    | ⟨.ok none, framing, rest⟩ => { connection with framing, inbox := rest }
    | ⟨.error error, framing, rest⟩ =>
      { connection with framing, inbox := rest }.dispatch (.failed error)
    | ⟨.ok (some packet), framing, rest⟩ =>
      consume ({ connection with framing, inbox := rest }.take packet) rest
  else { connection with inbox := octets }
termination_by octets.length
decreasing_by exact Framing.length_lt_of_decode (by assumption)

/-! ## Inputs -/

/-- What can happen to a connection. -/
inductive Input (σ : Type) where
  | submit (submission : Submission σ)
  /-- The last handle is gone. -/
  | release
  /-- Take the next submission, or note that there will be none. -/
  | serve
  | receive (octets : Bytes)
  | endOfStream
  | readFailed (error : Error)
  /-- The TLS upgrade is over. -/
  | upgraded (result : Outcome Unit)

/-- Take the next submission.  When there is none and there will be none, the session ends. -/
def serve (connection : Connection σ) : Connection σ :=
  match connection.submissions with
  | .command entry :: rest =>
    let effect := connection.queue.push entry
    ({ connection with submissions := rest, queue := effect.queue }.complete
      effect.completions).writeOrFail effect.outbound
  | .close waiter :: rest =>
    { connection with
      submissions := rest
      closeWaiters := connection.closeWaiters ++ [waiter] }.dispatch .close
  | [] => if connection.released then connection.dispatch .close else connection

/-- The event for the end of the server's octets.  In the middle of a packet it is an error. -/
def endOfStreamEvent (connection : Connection σ) : Lifecycle.Event :=
  if connection.framing.unfinished.isSome || !connection.inbox.isEmpty then
    .failed (.framing .closedMidPacket)
  else .transportClosed

/-- The command of a submission that is never taken. -/
def Submission.refused : Submission σ → Option (Completion σ)
  | .command entry => some ⟨entry.ticket, entry.command, .error .closed⟩
  | .close _ => none

/-- The waiter of a submission that is never taken. -/
def Submission.waiter : Submission σ → Option Nat
  | .command _ => none
  | .close waiter => some waiter

/-- End, once the session is over: complete every command, those in the queue first, tell whoever
waits for the session, and last tell those who asked for the end. -/
def finish (connection : Connection σ) : Connection σ :=
  let refused := connection.submissions.filterMap Submission.refused
  let waiters := connection.closeWaiters ++ connection.submissions.filterMap Submission.waiter
  let told := (connection.failQueue.complete refused).tellEstablished (.error .closed)
  { told with
    submissions := []
    closeWaiters := []
    finished := true
    transport := told.transport.close }.tell (waiters.map .closed)

/-- End, if the session is over and that has not been done. -/
def settle (connection : Connection σ) : Connection σ :=
  if connection.lifecycle.isClosed && connection.suspension.isNone && !connection.finished then
    connection.finish
  else connection

/-- Take an input that a connection takes only while no TLS upgrade runs. -/
def whenAwake (connection : Connection σ) (next : Connection σ) : Connection σ :=
  if connection.isAttentive then next.settle else connection

/-- Take an input. -/
def step (connection : Connection σ) : Input σ → Connection σ
  | .submit submission =>
    if connection.finished || connection.released then connection
    else { connection with submissions := connection.submissions ++ [submission] }
  | .release => { connection with released := true }
  | .serve => connection.whenAwake connection.serve
  | .receive octets => connection.whenAwake (connection.consume (connection.inbox ++ octets))
  | .endOfStream => connection.whenAwake (connection.dispatch connection.endOfStreamEvent)
  | .readFailed error => connection.whenAwake (connection.dispatch (.failed error))
  | .upgraded result =>
    match connection.suspension with
    | none => connection
    | some suspension =>
      let next := connection.resume suspension result
      (next.consume next.inbox).settle

/-- The room that the inbox has at first. -/
def inboxSize : Nat := 16 * 1024

/-- How many octets a read takes at most.  The inbox has more room than at first, and at least twice
as much, if the frame that has begun needs it. -/
def room (connection : Connection σ) : Nat :=
  let size :=
    match Frame.announcedSize? connection.inbox with
    | some n => if n ≤ inboxSize then inboxSize else max (2 * inboxSize) n
    | none => inboxSize
  max 1 (size - connection.inbox.length)

/-- Read octets that have arrived, as long as the connection reads.  What it does not read, because
a TLS upgrade runs or the session is over, is answered too. -/
def readArrived (connection : Connection σ) (octets : Bytes) : Connection σ × Bytes :=
  if octets.isEmpty || !connection.isAttentive then (connection, octets)
  else
    let front := octets.take connection.room
    (connection.step (.receive front)).readArrived (octets.drop connection.room)
termination_by octets.length
decreasing_by
  have hne : octets ≠ [] := by
    rintro rfl
    simp_all
  have hpos := List.length_pos_iff.2 hne
  have hroom : 1 ≤ connection.room := Nat.le_max_left ..
  rw [List.length_drop]
  omega

/-- A new connection, whose transport is open. -/
def begin (login : Login) (tlsAvailable : Bool) : Connection σ :=
  { login, tlsAvailable : Connection σ }.dispatch .transportActive

end Connection

end MySqlClient
