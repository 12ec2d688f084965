import MySqlClient.Request
import MySqlClient.Response

/-!
# Commands

A command is one exchange of the command phase: a machine that is activated when its turn comes and
then takes every packet of the server until it says that it is done.

* `Turn`: what a command asks for after a call.
* `Command`: the type class of such machines.  A call answers a turn, or an error, which means that
  the server broke the protocol; either way the command goes on in a new state.
* `Turn.keepOnError`: the usual case of a step that changes nothing when it fails.
-/

namespace MySqlClient

/-- What a command asks for after a call. -/
structure Turn where
  /-- Packets to write, in order. -/
  packets : List Bytes := []
  /-- The exchange is over. -/
  done : Bool := false
  /-- The packets start a new request, whose frames count from zero. -/
  resequence : Bool := false
  /-- How the command failed, if it did; only of meaning when it is done. -/
  failure : Option Error := none
  deriving DecidableEq

namespace Turn

/-- Keep reading. -/
def wait : Turn := {}

/-- Write a packet that starts a request. -/
def request (r : Request) : Turn :=
  { packets := [r.encode], resequence := true }

/-- The exchange is over. -/
def finished (failure : Option Error := none) : Turn :=
  { done := true, failure }

/-- What a command answers that is done with. -/
def result (turn : Turn) : Outcome Unit :=
  match turn.failure with
  | none => .ok ()
  | some error => .error error

/-- A step that fails leaves the command as it was. -/
def keepOnError {σ : Type} (command : σ) (step : Outcome (Turn × σ)) : Outcome Turn × σ :=
  match step with
  | .ok (turn, next) => (.ok turn, next)
  | .error error => (.error error, command)

end Turn

/-- A machine for one exchange. -/
class Command (σ : Type) where
  /-- What the command is called in errors. -/
  name : σ → String
  /-- The command's turn has come. -/
  activate : Capabilities → σ → Outcome Turn × σ
  /-- Take a packet of the server. -/
  handle : Capabilities → Packet → σ → Outcome Turn × σ

/-- The failure that an ERR packet stands for. -/
def serverFailure (capabilities : Capabilities) (packet : Packet) : Outcome Error := do
  return (← ServerError.parse capabilities packet.payload).toError

/-- A request to see whether the server is there. -/
structure Ping where
  deriving DecidableEq

namespace Ping

/-- Answer the only packet of the exchange. -/
def step (capabilities : Capabilities) (packet : Packet) : Outcome Turn :=
  if packet.isOk then .ok .finished
  else if packet.isErr then do return .finished (← serverFailure capabilities packet)
  else .error (.protocol .pingResponse)

instance : Command Ping where
  name _ := "ping"
  activate _ ping := (.ok (.request .ping), ping)
  handle capabilities packet ping := (step capabilities packet, ping)

end Ping

end MySqlClient
