import MySqlClient.Error

/-!
# The way to the server

A transport takes the octets of the client, write by write.  Any write may fail; one that fails is
taken to have sent nothing, because nothing is written after it.  Shutting it down may fail too; then
the client's end stays as it is until the transport is given up.

* `Transport.write`: write some octets.
* `Transport.shutDown`: close the client's end in an orderly way, if that succeeds.
* `Transport.close`: close the client's end, which the server gets to see.
-/

namespace MySqlClient

/-- The client's end of a stream, as far as writing goes. -/
structure Transport where
  /-- How the write with a given number fails, if it does. -/
  fault : Nat → Option Error := fun _ => none
  /-- How shutting down fails, if it does. -/
  shutDownFault : Option Error := none
  /-- The number of writes so far, with those that failed. -/
  attempts : Nat := 0
  /-- What was written, write by write. -/
  sent : List Bytes := []
  /-- Whether the client's end is closed. -/
  closed : Bool := false

namespace Transport

/-- Write some octets. -/
def write (transport : Transport) (octets : Bytes) : Transport × Outcome Unit :=
  let tried := { transport with attempts := transport.attempts + 1 }
  match transport.fault transport.attempts with
  | some error => (tried, .error error)
  | none => ({ tried with sent := transport.sent ++ [octets] }, .ok ())

/-- Shut down: the client's end is closed if that succeeds. -/
def shutDown (transport : Transport) : Transport × Outcome Unit :=
  let result : Outcome Unit :=
    match transport.shutDownFault with
    | some error => .error error
    | none => .ok ()
  ({ transport with closed := transport.closed || transport.shutDownFault.isNone }, result)

/-- Close the client's end. -/
def close (transport : Transport) : Transport :=
  { transport with closed := true }

end Transport

end MySqlClient
