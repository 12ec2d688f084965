import MySqlClient.Command

/-!
# The command queue

Commands wait in the order of their submission.  At most one, the head, is active: it has been
activated and is not done.  The next one is activated in the same step that completes it.

* `Queue.push`, `Queue.start`: submit a command; begin once the session is established.
* `Queue.handle`: route a packet to the head.  An error means that the session cannot be used any
  more; the head has been completed then, and the others wait for `Queue.failAll`.
* `Completion`: a command that has left the queue, with its result.

The queue performs nothing: it answers what has to be written and which commands are complete.
-/

namespace MySqlClient

/-- Packets to write; with `resequence` they start a new exchange. -/
structure Outbound where
  packets : List Bytes
  resequence : Bool
  deriving DecidableEq

/-- A command in the queue, with the ticket that its submitter holds. -/
structure Entry (σ : Type) where
  ticket : Nat
  command : σ
  deriving DecidableEq

/-- A command that is complete. -/
structure Completion (σ : Type) where
  ticket : Nat
  /-- The command as it was at the end. -/
  command : σ
  result : Outcome Unit

/-- The commands in order. -/
structure Queue (σ : Type) where
  entries : List (Entry σ) := []
  /-- The head has been activated. -/
  active : Bool := false
  /-- What was agreed on, once the session is established. -/
  capabilities : Option Capabilities := none

/-- The packets of a turn as a write, if there are any. -/
def Outbound.ofPackets (packets : List Bytes) (resequence : Bool) : List Outbound :=
  if packets.isEmpty then [] else [⟨packets, resequence⟩]

namespace Queue

variable {σ : Type} [Command σ]

/-- What comes of a call: the queue, what to write, and the commands that became complete. -/
structure Effect (σ : Type) where
  queue : Queue σ
  outbound : List Outbound := []
  completions : List (Completion σ) := []

/-- Complete an entry whose command ended in a given state. -/
def complete (entry : Entry σ) (command : σ) (result : Outcome Unit) : Completion σ :=
  ⟨entry.ticket, command, result⟩

/-- Activate the first of some waiting commands that does not finish by being activated. -/
def activateFirst (capabilities : Capabilities) : List (Entry σ) → Effect σ
  | [] => { queue := { entries := [], active := false, capabilities } }
  | entry :: rest =>
    match Command.activate capabilities entry.command with
    | (.error error, command) =>
      let effect := activateFirst capabilities rest
      { effect with
        completions := complete entry command (.error error) :: effect.completions }
    | (.ok turn, command) =>
      let outbound := Outbound.ofPackets turn.packets true
      if turn.done then
        let effect := activateFirst capabilities rest
        { effect with
          outbound := outbound ++ effect.outbound
          completions := complete entry command turn.result :: effect.completions }
      else
        { queue := { entries := { entry with command } :: rest, active := true, capabilities }
          outbound }

/-- Activate the head, if the session is established and no command is active. -/
def activateHead (queue : Queue σ) : Effect σ :=
  match queue.active, queue.capabilities with
  | false, some capabilities => activateFirst capabilities queue.entries
  | _, _ => { queue }

/-- Submit a command. -/
def push (queue : Queue σ) (entry : Entry σ) : Effect σ :=
  { queue with entries := queue.entries ++ [entry] }.activateHead

/-- The session is established. -/
def start (queue : Queue σ) (capabilities : Capabilities) : Effect σ :=
  { queue with capabilities := some capabilities }.activateHead

/-- The commands behind the head, which is complete. -/
def withoutHead (queue : Queue σ) (rest : List (Entry σ)) : Queue σ :=
  { queue with entries := rest, active := false }

/-- The error that ends the session because a command failed, if its failure is such. -/
def fatalError? (command : σ) (failure : Option Error) : Option Error :=
  (failure.filter Error.isConnectionFatal).map fun error =>
    match error.serverError? with
    | some report => report.toError
    | none => .protocol (.commandFailed (Command.name command) error.message)

/-- What comes of routing a packet: as `Effect`, and the error that ends the session. -/
structure Handled (σ : Type) where
  queue : Queue σ
  result : Outcome (List Outbound)
  completions : List (Completion σ) := []

/-- A packet that no command waits for. -/
def unsolicited (capabilities : Capabilities) (packet : Packet) : Error :=
  if packet.isErr then
    match ServerError.parse capabilities packet.payload with
    | .ok report => report.toError
    | .error error => error
  else .protocol (.noCommandInFlight packet.header)

/-- Let the head take a packet. -/
def handleHead (queue : Queue σ) (capabilities : Capabilities) (packet : Packet)
    (entry : Entry σ) (rest : List (Entry σ)) : Handled σ :=
  match Command.handle capabilities packet entry.command with
  | (.error error, command) =>
    { queue := queue.withoutHead rest
      result := .error <|
        .protocol (.exchangeFailed (Command.name entry.command) error.message)
      completions := [complete entry command (.error error)] }
  | (.ok turn, command) =>
    let outbound := Outbound.ofPackets turn.packets turn.resequence
    if turn.done then
      let completion := complete entry command turn.result
      match fatalError? entry.command turn.failure with
      | some error =>
        { queue := queue.withoutHead rest, result := .error error, completions := [completion] }
      | none =>
        let effect := (queue.withoutHead rest).activateHead
        { queue := effect.queue
          result := .ok (outbound ++ effect.outbound)
          completions := completion :: effect.completions }
    else
      { queue := { queue with entries := { entry with command } :: rest }
        result := .ok outbound }

/-- Route a packet to the head.  Progress reports are for nobody. -/
def handle (queue : Queue σ) (packet : Packet) : Handled σ :=
  match queue.capabilities with
  | none => { queue, result := .error (.protocol .beforeSession) }
  | some capabilities =>
    if isProgressReport capabilities packet.payload then { queue, result := .ok [] }
    else if !queue.active then
      { queue, result := .error (unsolicited capabilities packet) }
    else match queue.entries with
      | [] => { queue, result := .error (.protocol .noActiveCommand) }
      | entry :: rest => queue.handleHead capabilities packet entry rest

/-- Complete all commands, the head first, because the session is over. -/
def failAll (queue : Queue σ) : Effect σ :=
  { queue := { queue with entries := [], active := false }
    completions := queue.entries.map fun entry => complete entry entry.command (.error .closed) }

end Queue

end MySqlClient
