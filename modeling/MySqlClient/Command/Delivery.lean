import MySqlClient.Response
import MySqlClient.Row

/-!
# Delivery of rows

Rows and summaries go to handlers of the caller's.  A handler of rows may fail; the exchange is
drained all the same, no further row is handed over, and the failure is reported at the end.

* `Sink`: the handlers, over a state of their own.
* `Delivery`: the handlers, their state, and the failure so far.
* `Collected`: handlers that keep everything.
-/

namespace MySqlClient

/-- Where rows and summaries go. -/
structure Sink (η : Type) where
  /-- Take a row; the handler may fail with a text. -/
  onRow : Row → η → η × Option String
  /-- Take the summary of a statement. -/
  onSummary : Summary → η → η

/-- Handlers, their state, and how the handler of rows failed, if it did. -/
structure Delivery (η : Type) where
  sink : Sink η
  state : η
  refusal : Option String := none

namespace Delivery

variable {η : Type}

/-- Hand over a row, unless the handler has failed before. -/
def row (delivery : Delivery η) (row : Row) : Delivery η :=
  match delivery.refusal with
  | some _ => delivery
  | none =>
    let (state, refusal) := delivery.sink.onRow row delivery.state
    { delivery with state, refusal }

/-- Hand over a summary. -/
def summary (delivery : Delivery η) (summary : Summary) : Delivery η :=
  { delivery with state := delivery.sink.onSummary summary delivery.state }

/-- How an exchange ends that the server did not fail. -/
def failure (delivery : Delivery η) : Option Error :=
  delivery.refusal.map .rowHandler

/-- Forget the failure, once it is reported. -/
def reported (delivery : Delivery η) : Delivery η :=
  { delivery with refusal := none }

end Delivery

/-- Everything that was handed over. -/
structure Collected where
  rows : List Row := []
  summaries : List Summary := []
  deriving DecidableEq

namespace Collected

/-- Handlers that keep everything and never fail. -/
def sink : Sink Collected where
  onRow row collected := ({ collected with rows := collected.rows ++ [row] }, none)
  onSummary summary collected :=
    { collected with summaries := collected.summaries ++ [summary] }

/-- A sum that stops at the largest word of the given size. -/
def saturatedSum (bound : Nat) (terms : List Nat) : Nat :=
  terms.foldl (fun sum n => min (sum + n) (bound - 1)) 0

/-- One summary for all statements: affected rows and warnings are summed, and the rest comes from
the last one. -/
def combined (summaries : List Summary) : Summary :=
  let affected := saturatedSum UInt64.size (summaries.map (·.affectedRows.toNat))
  let warnings := saturatedSum UInt16.size (summaries.map (·.warnings.toNat))
  { summaries.getLast?.getD {} with
    affectedRows := UInt64.ofNat affected
    warnings := UInt16.ofNat warnings }

end Collected

end MySqlClient
