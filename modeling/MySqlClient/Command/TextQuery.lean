import MySqlClient.Command
import MySqlClient.Command.Delivery

/-!
# Plain queries

A query is answered statement by statement:

`OK | ERR | column count, column × N, [EOF], row*, (EOF | OK with the header of EOF)`

The summary that ends a statement tells whether another statement's answer follows.  Without
`deprecateEof` the columns are followed by an EOF packet.
-/

namespace MySqlClient

/-- How far the answer has come. -/
inductive TextStage where
  | idle
  | columnCount
  /-- Columns are still to come, behind the ones that are there. -/
  | columns (remaining : Nat) (seen : List Column)
  | columnsEof (columns : List Column)
  | rows (columns : List Column)
  | done
  deriving DecidableEq

/-- A plain query. -/
structure TextQuery (η : Type) where
  sql : String
  delivery : Delivery η
  stage : TextStage := .idle

namespace TextQuery

variable {η : Type}

/-- Go on in a stage. -/
def inStage (query : TextQuery η) (stage : TextStage) : Turn × TextQuery η :=
  (.wait, { query with stage })

/-- A statement is over, and perhaps the query. -/
def statementDone (query : TextQuery η) (summary : Summary) : Turn × TextQuery η :=
  let delivery := query.delivery.summary summary
  if summary.status.moreResults then (.wait, { query with delivery, stage := .columnCount })
  else
    (.finished delivery.failure, { query with delivery := delivery.reported, stage := .done })

/-- The stage behind the last column. -/
def afterColumns (capabilities : Capabilities) (columns : List Column) : TextStage :=
  if capabilities.contains .deprecateEof then .rows columns else .columnsEof columns

/-- Take the first packet of a statement's answer. -/
def onColumnCount (query : TextQuery η) (capabilities : Capabilities) (packet : Packet) :
    Outcome (Turn × TextQuery η) :=
  match packet.header with
  | none => .error (.protocol .emptyQueryResponse)
  | some header =>
    if header = Packet.okHeader then do
      return query.statementDone (← Summary.parse capabilities packet.payload)
    else if header = Packet.localInfileHeader then .error (.protocol .localInfile)
    else do
      let count ← Reader.lenEncCount.parse packet.payload
      if count = 0 then throw (.protocol .noColumns)
      return query.inStage (.columns count.toNat [])

/-- Take a column. -/
def onColumn (query : TextQuery η) (capabilities : Capabilities) (packet : Packet)
    (remaining : Nat) (seen : List Column) : Outcome (Turn × TextQuery η) := do
  let seen := seen ++ [← Column.parse packet.payload]
  if remaining = 1 then return query.inStage (afterColumns capabilities seen)
  else return query.inStage (.columns (remaining - 1) seen)

/-- Take a row, or the end of the rows. -/
def onRow (query : TextQuery η) (capabilities : Capabilities) (packet : Packet)
    (columns : List Column) : Outcome (Turn × TextQuery η) := do
  if packet.isResultSetEnd then
    return query.statementDone (← Summary.parseEnd capabilities packet.payload)
  else
    let row ← Row.decodeText columns packet.payload
    return (.wait, { query with delivery := query.delivery.row row })

/-- Take a packet that is not an ERR packet. -/
def onPacket (query : TextQuery η) (capabilities : Capabilities) (packet : Packet) :
    Outcome (Turn × TextQuery η) :=
  match query.stage with
  | .columnCount => query.onColumnCount capabilities packet
  | .columns remaining seen => query.onColumn capabilities packet remaining seen
  | .columnsEof columns =>
    if packet.isEof then .ok (query.inStage (.rows columns))
    else .error (.protocol (.missingEof .columns))
  | .rows columns => query.onRow capabilities packet columns
  | .idle | .done => .error (.protocol (.afterQuery packet.header))

/-- Take a packet.  An ERR packet ends the query in every stage. -/
def handle (capabilities : Capabilities) (packet : Packet) (query : TextQuery η) :
    Outcome Turn × TextQuery η :=
  if packet.isErr ∧ query.stage ≠ .done then
    ((serverFailure capabilities packet).map fun error => .finished error,
      { query with stage := .done })
  else Turn.keepOnError query (query.onPacket capabilities packet)

instance : Command (TextQuery η) where
  name _ := "query"
  activate _ query := (.ok (.request (.query query.sql)), { query with stage := .columnCount })
  handle := handle

end TextQuery

end MySqlClient
