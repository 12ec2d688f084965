import MySqlClient.Command.Builtin
import MySqlClient.Queue
import MySqlClient.Request
import MySqlClient.Proofs.Response.Layout
import MySqlClient.Proofs.Row.Layout

/-!
# Answers, and what they mean for commands

A server answers each request with one answer, which is data here: what it says, and whether an ERR
packet takes the place of one of its packets and ends it.  From the answers alone follows what every
command has to come to, without a look at how commands work.

* `Sent.Result`, `Sent.Prepared`, `Sent.Body`: what an answer says.
* `Sent.Answer`: the answer with its cut; `Sent.Answer.packets` are its packets, and
  `Sent.Answer.delivered` is what handlers of the caller's have to be given.
* `Sent.Answer.Suits`: it is an answer that the protocol allows to a request.
* `Builtin.conclude`: what a command has to come to; `Builtin.settle`: **what the commands of a
  session have to come to**, one after the other, each by the answers to its own requests.
-/

namespace MySqlClient

/-! ## Handing over -/

/-- Something that a handler of the caller's is given. -/
inductive Delivered where
  | row (row : Row)
  | summary (summary : Summary)

namespace Delivery

variable {η : Type}

/-- Hand over one thing. -/
def hand (delivery : Delivery η) : Delivered → Delivery η
  | .row row => delivery.row row
  | .summary summary => delivery.summary summary

/-- Hand over one thing after the other. -/
def handAll (delivery : Delivery η) (things : List Delivered) : Delivery η :=
  things.foldl hand delivery

@[simp] theorem handAll_nil (delivery : Delivery η) : delivery.handAll [] = delivery := rfl

@[simp] theorem handAll_append (delivery : Delivery η) (things more : List Delivered) :
    delivery.handAll (things ++ more) = (delivery.handAll things).handAll more :=
  List.foldl_append

@[simp] theorem handAll_singleton (delivery : Delivery η) (thing : Delivered) :
    delivery.handAll [thing] = delivery.hand thing := rfl

theorem summary_handAll (delivery : Delivery η) (things : List Delivered) (summary : Summary) :
    (delivery.handAll things).summary summary =
      delivery.handAll (things ++ [.summary summary]) := by
  rw [handAll_append, handAll_singleton]
  rfl

end Delivery

namespace Sent

/-- A packet of an answer, and what the caller is given because of it. -/
structure Item where
  payload : Bytes
  delivered : Option Delivered := none

/-! ## Results of a statement -/

/-- The answer to a statement that has no rows, or the rows. -/
inductive Result where
  | done (ok : Ok)
  | rows (columns : List Column) (columnsEnd : EofPacket) (rows : List (List (Option Bytes)))
      (ending : Ok)

/-- The EOF packet behind a group of definitions, unless it is deprecated. -/
def eofItems (capabilities : Capabilities) (eof : EofPacket) : List Item :=
  if capabilities.contains .deprecateEof then [] else [⟨eof.encode capabilities, none⟩]

/-- The packet of a definition. -/
def Column.item (column : Column) : Item :=
  ⟨column.encode, none⟩

/-- The packet of a row. -/
def rowItem (format : Format) (columns : List MySqlClient.Column) (fields : List (Option Bytes)) :
    Item :=
  ⟨Row.encode format columns fields, some (.row ⟨columns, fields, format⟩)⟩

namespace Result

/-- What the server says at the end of the result. -/
def summary (capabilities : Capabilities) : Result → Summary
  | done ok => ok.summary capabilities
  | rows _ _ _ ending => ending.endSummary capabilities

/-- The packets: an OK packet, or the number of columns, the columns, the rows and the end. -/
def items (format : Format) (capabilities : Capabilities) : Result → List Item
  | done ok => [⟨ok.encode Packet.okHeader capabilities, some (.summary (ok.summary capabilities))⟩]
  | rows columns columnsEnd records ending =>
    ⟨Wire.lenEncInt (UInt64.ofNat columns.length), none⟩ ::
      (columns.map Column.item ++ (eofItems capabilities columnsEnd ++
        (records.map (rowItem format (columns.map Column.definition)) ++
          [⟨ending.encodeEnd capabilities, some (.summary (ending.endSummary capabilities))⟩])))

/-- There is a column, every row has its fields, and all lengths can be written. -/
def Valid (format : Format) (capabilities : Capabilities) : Result → Prop
  | done ok => ok.Fits
  | rows columns _ records ending =>
    columns ≠ [] ∧ columns.length < UInt64.size ∧ (∀ column ∈ columns, column.Fits) ∧
      (∀ fields ∈ records, Row.Fits format (columns.map Column.definition) fields) ∧
      ending.Ends capabilities

/-- Every result but the last tells that there are more. -/
def Chained (capabilities : Capabilities) : List Result → Prop
  | [] => False
  | result :: results =>
    if (result.summary capabilities).status.moreResults then Chained capabilities results
    else results = []

end Result

/-! ## Prepared statements -/

/-- The answer to a preparation. -/
structure Prepared where
  statementId : UInt32
  warnings : UInt16 := 0
  /-- What follows the number of warnings. -/
  more : Bytes := []
  parameters : List Column := []
  parametersEnd : EofPacket := {}
  columns : List Column := []
  columnsEnd : EofPacket := {}

namespace Prepared

/-- The first packet, as a client understands it. -/
def statement (prepared : Prepared) : PrepareOk where
  statementId := prepared.statementId
  columns := UInt16.ofNat prepared.columns.length
  parameters := UInt16.ofNat prepared.parameters.length
  warnings := prepared.warnings

/-- A group of definitions, which has an end if it is not empty. -/
def groupItems (capabilities : Capabilities) (columns : List Column) (eof : EofPacket) :
    List Item :=
  if columns.isEmpty then [] else columns.map Column.item ++ eofItems capabilities eof

/-- The packets. -/
def items (capabilities : Capabilities) (prepared : Prepared) : List Item :=
  ⟨prepared.statement.encode prepared.more, none⟩ ::
    (groupItems capabilities prepared.parameters prepared.parametersEnd ++
      groupItems capabilities prepared.columns prepared.columnsEnd)

/-- The numbers of definitions and the lengths of texts can be written. -/
def Valid (prepared : Prepared) : Prop :=
  prepared.parameters.length < UInt16.size ∧ prepared.columns.length < UInt16.size ∧
    (∀ column ∈ prepared.parameters, column.Fits) ∧ ∀ column ∈ prepared.columns, column.Fits

end Prepared

/-! ## Answers -/

/-- What an answer says. -/
inductive Body where
  | pong (ok : Ok)
  | prepared (prepared : Prepared)
  | results (format : Format) (results : List Result)

namespace Body

/-- The packets. -/
def items (capabilities : Capabilities) : Body → List Item
  | pong ok => [⟨ok.encode Packet.okHeader capabilities, none⟩]
  | prepared statement => statement.items capabilities
  | results format answers => answers.flatMap (Result.items format capabilities)

/-- The octet in front of the requests that are answered so. -/
def requestCode : Body → UInt8
  | pong _ => 0x0E
  | prepared _ => 0x16
  | results .text _ => 0x03
  | results .binary _ => 0x17

/-- The body has the documented form. -/
def Valid (capabilities : Capabilities) : Body → Prop
  | pong ok => ok.Fits
  | prepared statement => statement.Valid
  | results format answers =>
    Result.Chained capabilities answers ∧ ∀ result ∈ answers, result.Valid format capabilities

end Body

/-- An answer.  With a cut, an ERR packet comes in the place of the packet with the given index, and
nothing behind it. -/
structure Answer where
  body : Body
  cut : Option (Nat × Err) := none

/-- The ERR packet fails the command alone. -/
def Err.IsPassing (capabilities : Capabilities) (err : Err) : Prop :=
  err.Fits capabilities ∧ err.code ∉ ServerError.connectionFatalCodes ∧
    isProgressReport capabilities err.encode = false

namespace Answer

/-- The packets, with what the caller is given. -/
def items (capabilities : Capabilities) (answer : Answer) : List Item :=
  match answer.cut with
  | none => answer.body.items capabilities
  | some (index, err) => (answer.body.items capabilities).take index ++ [⟨err.encode, none⟩]

/-- The packets. -/
def packets (capabilities : Capabilities) (answer : Answer) : List Bytes :=
  (answer.items capabilities).map Item.payload

/-- What the caller is given. -/
def delivered (capabilities : Capabilities) (answer : Answer) : List Delivered :=
  (answer.items capabilities).filterMap Item.delivered

/-- What the ERR packet reports. -/
def failure (answer : Answer) : Option Error :=
  answer.cut.map fun cut => cut.2.report.toError

/-- The ERR packet has a place, and fails the command alone. -/
def CutFits (capabilities : Capabilities) (answer : Answer) : Prop :=
  ∀ index err, answer.cut = some (index, err) →
    index < (answer.body.items capabilities).length ∧ err.IsPassing capabilities

/-- The protocol allows the answer to the request. -/
def Suits (capabilities : Capabilities) (request : Bytes) (answer : Answer) : Prop :=
  request.head? = some answer.body.requestCode ∧ answer.body.Valid capabilities ∧
    answer.CutFits capabilities

/-- The statement that an answer tells about, if it does so to the end. -/
def prepared? (answer : Answer) : Option Prepared :=
  match answer.body, answer.cut with
  | .prepared prepared, none => some prepared
  | _, _ => none

end Answer

/-- A request with its answer. -/
structure Exchange where
  request : Bytes
  answer : Answer

end Sent

/-- Requests to close a statement are not answered. -/
def Request.isUnanswered (request : Bytes) : Prop :=
  request.head? = some 0x19

/-! ## What commands come to -/

/-- What the submitter of a command gets to know: what the handlers hold, and how it ended. -/
abbrev Conclusion (η : Type) : Type := Option η × Outcome Unit

/-- How something ended that failed or not. -/
def Outcome.ofFailure : Option Error → Outcome Unit
  | none => .ok ()
  | some error => .error error

/-- Everything in the answer is handed over, and the command fails if the server says so or a
handler of rows does. -/
def Delivery.conclude {η : Type} (capabilities : Capabilities) (delivery : Delivery η)
    (answer : Sent.Answer) : Conclusion η :=
  let after := delivery.handAll (answer.delivered capabilities)
  (some after.state, .ofFailure (answer.failure.or after.failure))

namespace Builtin

variable {η : Type}

/-- A command that has not been begun. -/
def Fresh : Builtin η → Prop
  | ping _ => True
  | query q => q.stage = .idle
  | prepared q =>
    q.stage = .idle ∧ q.statement = none ∧ q.released = false ∧ q.mismatch = none

/-- What a command comes to, by the first of some answers, and the exchanges that are left.  All
answers have to be answers to the command's own requests. -/
def conclude (capabilities : Capabilities) :
    Builtin η → List Sent.Exchange → Option (Conclusion η × List Sent.Exchange)
  | ping _, ⟨request, answer⟩ :: rest =>
    if request = Request.ping.encode then some ((none, .ofFailure answer.failure), rest) else none
  | query q, ⟨request, answer⟩ :: rest =>
    if request = (Request.query q.sql).encode then
      some (q.delivery.conclude capabilities answer, rest)
    else none
  | prepared q, ⟨request, answer⟩ :: rest =>
    if request = (Request.prepare q.sql).encode then
      match answer.prepared? with
      | none => some ((some q.delivery.state, .ofFailure answer.failure), rest)
      | some statement =>
        let expected := statement.parameters.length
        if expected ≠ q.parameters.length then
          some ((some q.delivery.state,
            .error (.parameterMismatch (.count expected q.parameters.length))), rest)
        else match rest with
          | ⟨request, answer⟩ :: rest =>
            if request = (Request.execute statement.statementId q.parameters).encode then
              some (q.delivery.conclude capabilities answer, rest)
            else none
          | [] => none
    else none
  | _, [] => none

/-- **What the commands of a session come to**, in order, each with its ticket: as many of them as
the exchanges settle. -/
def settle (capabilities : Capabilities) :
    List (Entry (Builtin η)) → List Sent.Exchange → List (Nat × Conclusion η)
  | [], _ => []
  | entry :: entries, exchanges =>
    match entry.command.conclude capabilities exchanges with
    | some (conclusion, rest) => (entry.ticket, conclusion) :: settle capabilities entries rest
    | none => []

end Builtin

end MySqlClient
