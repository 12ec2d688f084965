import MySqlClient.Command.PreparedQuery
import MySqlClient.Command.TextQuery

/-!
# The built-in commands

The sum of the commands that the library brings along.
-/

namespace MySqlClient

/-- A command of the library. -/
inductive Builtin (η : Type) where
  | ping (ping : Ping)
  | query (query : TextQuery η)
  | prepared (query : PreparedQuery η)

namespace Builtin

variable {η : Type}

/-- What the handlers of a command hold. -/
def collected? : Builtin η → Option η
  | ping _ => none
  | query q => some q.delivery.state
  | prepared q => some q.delivery.state

def name : Builtin η → String
  | ping p => Command.name p
  | query q => Command.name q
  | prepared q => Command.name q

def activate (capabilities : Capabilities) : Builtin η → Outcome Turn × Builtin η
  | ping p => (Command.activate capabilities p).map id ping
  | query q => (Command.activate capabilities q).map id query
  | prepared q => (Command.activate capabilities q).map id prepared

def handle (capabilities : Capabilities) (packet : Packet) :
    Builtin η → Outcome Turn × Builtin η
  | ping p => (Command.handle capabilities packet p).map id ping
  | query q => (Command.handle capabilities packet q).map id query
  | prepared q => (Command.handle capabilities packet q).map id prepared

instance : Command (Builtin η) where
  name := name
  activate := activate
  handle := handle

end Builtin

end MySqlClient
