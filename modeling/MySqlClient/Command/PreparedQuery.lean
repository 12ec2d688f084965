import MySqlClient.Command
import MySqlClient.Command.Delivery

/-!
# Prepared queries

A statement is prepared, executed once with its parameters, and closed, as one command:

`prepare OK, parameter × P, [EOF], column × C, [EOF]`, then execute,
`(OK | column count, column × N, [EOF], row*, (EOF | OK with the header of EOF))+`, then close.

The execution is requested only when the answer to the preparation is complete, so that the
sequence numbers of both stay apart.  The columns that come with the rows count, not the ones of the
preparation.  Whatever happens once the server has named a statement, the last thing written is one
request to close it.
-/

namespace MySqlClient

/-- How far the exchange has come. -/
inductive PreparedStage where
  | idle
  | prepareOk
  | parameters (remaining : Nat)
  | parametersEof
  | columns (remaining : Nat)
  | columnsEof
  | columnCount
  /-- Columns are still to come, behind the ones that are there. -/
  | resultColumns (remaining : Nat) (seen : List Column)
  | resultColumnsEof (columns : List Column)
  | rows (columns : List Column)
  | done
  deriving DecidableEq

/-- A query with parameters. -/
structure PreparedQuery (η : Type) where
  sql : String
  parameters : List Value
  delivery : Delivery η
  stage : PreparedStage := .idle
  /-- What the server answered to the preparation. -/
  statement : Option PrepareOk := none
  /-- The statement has been closed. -/
  released : Bool := false
  /-- The parameters do not fit the statement. -/
  mismatch : Option ParameterFault := none

namespace PreparedQuery

variable {η : Type}

/-- Go on in a stage. -/
def inStage (query : PreparedQuery η) (stage : PreparedStage) : Turn × PreparedQuery η :=
  (.wait, { query with stage })

/-- The command is over; a statement that is open is closed. -/
def finish (query : PreparedQuery η) (failure : Option Error) : Turn × PreparedQuery η :=
  let query := { query with stage := .done }
  match query.statement, query.released with
  | some statement, false =>
    ({ Turn.finished failure with
        packets := [(Request.close statement.statementId).encode]
        resequence := true },
      { query with released := true })
  | _, _ => (.finished failure, query)

/-- The answer to the preparation is complete: execute, or give up if the parameters do not fit. -/
def prepared (query : PreparedQuery η) : Outcome (Turn × PreparedQuery η) :=
  match query.mismatch, query.statement with
  | some fault, _ =>
    .ok ({ query with mismatch := none }.finish (some (.parameterMismatch fault)))
  | none, none => .error (.protocol .noStatement)
  | none, some statement =>
    .ok (.request (.execute statement.statementId query.parameters),
      { query with stage := .columnCount })

/-- The definitions of the parameters are complete. -/
def parametersDone (query : PreparedQuery η) : Outcome (Turn × PreparedQuery η) :=
  let columns := (query.statement.map (·.columns.toNat)).getD 0
  if 0 < columns then .ok (query.inStage (.columns columns)) else query.prepared

/-- Compare the number of parameters with what the statement wants. -/
def checkParameters (query : PreparedQuery η) (statement : PrepareOk) : PreparedQuery η :=
  let expected := statement.parameters.toNat
  let bound := query.parameters.length
  if expected = bound then query else { query with mismatch := some (.count expected bound) }

/-- Take the answer to the preparation. -/
def onPrepareOk (query : PreparedQuery η) (packet : Packet) :
    Outcome (Turn × PreparedQuery η) := do
  let statement ← PrepareOk.parse packet.payload
  let query := { query with statement := some statement }.checkParameters statement
  if 0 < statement.parameters then
    return query.inStage (.parameters statement.parameters.toNat)
  else query.parametersDone

/-- Take the definition of a parameter.  Definitions are read and dropped. -/
def onParameter (query : PreparedQuery η) (capabilities : Capabilities) (packet : Packet)
    (remaining : Nat) : Outcome (Turn × PreparedQuery η) := do
  let _definition ← Column.parse packet.payload
  if 1 < remaining then return query.inStage (.parameters (remaining - 1))
  else if capabilities.contains .deprecateEof then query.parametersDone
  else return query.inStage .parametersEof

/-- Take the definition of a column of the preparation, which is dropped too. -/
def onColumn (query : PreparedQuery η) (capabilities : Capabilities) (packet : Packet)
    (remaining : Nat) : Outcome (Turn × PreparedQuery η) := do
  let _definition ← Column.parse packet.payload
  if 1 < remaining then return query.inStage (.columns (remaining - 1))
  else if capabilities.contains .deprecateEof then query.prepared
  else return query.inStage .columnsEof

/-- A result is over, and perhaps the command. -/
def resultDone (query : PreparedQuery η) (summary : Summary) : Turn × PreparedQuery η :=
  let delivery := query.delivery.summary summary
  if summary.status.moreResults then (.wait, { query with delivery, stage := .columnCount })
  else { query with delivery := delivery.reported }.finish delivery.failure

/-- Take the first packet of a result. -/
def onColumnCount (query : PreparedQuery η) (capabilities : Capabilities) (packet : Packet) :
    Outcome (Turn × PreparedQuery η) :=
  match packet.header with
  | none => .error (.protocol .emptyExecuteResponse)
  | some header =>
    if header = Packet.okHeader then do
      return query.resultDone (← Summary.parse capabilities packet.payload)
    else do
      let count ← Reader.lenEncCount.parse packet.payload
      if count = 0 then return query.inStage (.rows [])
      else return query.inStage (.resultColumns count.toNat [])

/-- The stage behind the last column of a result. -/
def afterColumns (capabilities : Capabilities) (columns : List Column) : PreparedStage :=
  if capabilities.contains .deprecateEof then .rows columns else .resultColumnsEof columns

/-- Take a column of a result. -/
def onResultColumn (query : PreparedQuery η) (capabilities : Capabilities) (packet : Packet)
    (remaining : Nat) (seen : List Column) : Outcome (Turn × PreparedQuery η) := do
  let seen := seen ++ [← Column.parse packet.payload]
  if 1 < remaining then return query.inStage (.resultColumns (remaining - 1) seen)
  else return query.inStage (afterColumns capabilities seen)

/-- Take a row, or the end of the rows. -/
def onRow (query : PreparedQuery η) (capabilities : Capabilities) (packet : Packet)
    (columns : List Column) : Outcome (Turn × PreparedQuery η) := do
  if packet.isResultSetEnd then
    return query.resultDone (← Summary.parseEnd capabilities packet.payload)
  else
    let row ← Row.decodeBinary columns packet.payload
    return (.wait, { query with delivery := query.delivery.row row })

/-- Go on behind an EOF packet. -/
def expectEof (packet : Packet) (behind : Definitions)
    (next : Outcome (Turn × PreparedQuery η)) : Outcome (Turn × PreparedQuery η) :=
  if packet.isEof then next else .error (.protocol (.missingEof behind))

/-- Take a packet that is not an ERR packet. -/
def onPacket (query : PreparedQuery η) (capabilities : Capabilities) (packet : Packet) :
    Outcome (Turn × PreparedQuery η) :=
  match query.stage with
  | .prepareOk => query.onPrepareOk packet
  | .parameters remaining => query.onParameter capabilities packet remaining
  | .parametersEof => expectEof packet .parameters query.parametersDone
  | .columns remaining => query.onColumn capabilities packet remaining
  | .columnsEof => expectEof packet .columns query.prepared
  | .columnCount => query.onColumnCount capabilities packet
  | .resultColumns remaining seen => query.onResultColumn capabilities packet remaining seen
  | .resultColumnsEof columns => expectEof packet .columns (.ok (query.inStage (.rows columns)))
  | .rows columns => query.onRow capabilities packet columns
  | .idle | .done => .error (.protocol (.afterPrepared packet.header))

/-- Take a packet.  An ERR packet ends the command in every stage. -/
def handle (capabilities : Capabilities) (packet : Packet) (query : PreparedQuery η) :
    Outcome Turn × PreparedQuery η :=
  Turn.keepOnError query <|
    if packet.isErr ∧ query.stage ≠ .done then do
      return query.finish (← serverFailure capabilities packet)
    else query.onPacket capabilities packet

instance : Command (PreparedQuery η) where
  name _ := "prepared_query"
  activate _ query := (.ok (.request (.prepare query.sql)), { query with stage := .prepareOk })
  handle := handle

end PreparedQuery

end MySqlClient
