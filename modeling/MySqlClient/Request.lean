import MySqlClient.NullBitmap
import MySqlClient.Value

/-!
# Requests

The packets of the command phase, each behind the octet that names the command.
-/

namespace MySqlClient

/-- A request of the command phase. -/
inductive Request where
  | quit
  | query (sql : String)
  | ping
  | prepare (sql : String)
  | execute (statementId : UInt32) (parameters : List Value)
  | close (statementId : UInt32)
  deriving DecidableEq

namespace Request

/-- The octet that names the command. -/
def code : Request → UInt8
  | quit => 0x01
  | query _ => 0x03
  | ping => 0x0E
  | prepare _ => 0x16
  | execute _ _ => 0x17
  | close _ => 0x19

/-- The flag of a parameter without sign. -/
def unsignedFlag : UInt8 := 0x80

/-- The type of a parameter as it is announced: tag and signedness. -/
def announcement (parameter : Value) : Bytes :=
  [parameter.parameterType.tag, if parameter.unsigned then unsignedFlag else 0]

/-- Which parameters are NULL, what their types are, and their values. -/
def parameterBlock (parameters : List Value) : Bytes :=
  if parameters.isEmpty then []
  else
    (NullBitmap.ofMarks NullBitmap.parameterOffset (parameters.map Value.isNull)).bytes ++
      [1] ++ parameters.flatMap announcement ++ parameters.flatMap Value.encodeParameter

/-- The octets of a statement's number. -/
def statementField (statementId : UInt32) : Bytes :=
  Bytes.ofNat 4 statementId.toNat

/-- What follows the octet that names the command.  An execution asks for no cursor and is done
once. -/
def body : Request → Bytes
  | quit => []
  | query sql => Bytes.ofString sql
  | ping => []
  | prepare sql => Bytes.ofString sql
  | execute statementId parameters =>
    statementField statementId ++ [0] ++ Bytes.ofNat 4 1 ++ parameterBlock parameters
  | close statementId => statementField statementId

/-- The packet of a request. -/
def encode (request : Request) : Bytes :=
  request.code :: request.body

end Request

end MySqlClient
