import MySqlClient.Proofs.Dialogue.Answer

/-!
# Answers as a client receives them

The documented grammar of answers over received packets, whoever sent them.  What a packet is, a
client can only tell by reading it, and so it is said here by what its reader makes of it.  Nothing
is said about how commands go about it.

* `Received.Defines`, `Received.Counts`, `Received.Holds`, `Received.EndsResult`: a packet is the
  definition of a column, a number of columns, a row, the end of a result set.
* `Received.IsGroup`: some definitions, with the EOF packet behind them where there has to be one.
* `Received.IsPreparation`: the answer to a preparation.
* `Received.Result`: what a result says; `Received.IsResult`: the packets of a result.
* `Received.AreResults`: the results of a request, one behind the other.
* `Sink.called`: what handlers of the caller's hold when they have been called.
-/

namespace MySqlClient

namespace Received

variable {capabilities : Capabilities} {format : Format}

/-! ## Packets -/

/-- The packet is the definition of the column. -/
def Defines (packet : Packet) (column : Column) : Prop :=
  Column.parse packet.payload = .ok column

/-- The packet is the number of columns of a result.  With the header of an OK packet it is an OK
packet, whatever number could be read in it; and rows of text have a column. -/
def Counts (format : Format) (packet : Packet) (number : Nat) : Prop :=
  packet.header ≠ some Packet.okHeader ∧
    (∃ count, Reader.lenEncCount.parse packet.payload = .ok count ∧ count.toNat = number) ∧
    (format = .text → number ≠ 0)

/-- The packet is the row.  Rows of text can be told from the end of the result set by their length
alone. -/
def Holds (format : Format) (columns : List Column) (packet : Packet) (row : Row) : Prop :=
  Row.decode format columns packet.payload = .ok row ∧
    (format = .text → packet.isResultSetEnd = false)

/-- The packet is the end of a result set. -/
def EndsResult (capabilities : Capabilities) (packet : Packet) (summary : Summary) : Prop :=
  packet.isResultSetEnd = true ∧ Summary.parseEnd capabilities packet.payload = .ok summary

/-- The packet is an OK packet. -/
def Confirms (capabilities : Capabilities) (packet : Packet) (summary : Summary) : Prop :=
  packet.header = some Packet.okHeader ∧
    Summary.parse capabilities packet.payload = .ok summary

/-! ## Groups of definitions -/

/-- What stands behind definitions: an EOF packet, unless it is deprecated. -/
def IsGroupEnd (capabilities : Capabilities) (packets : List Packet) : Prop :=
  if capabilities.contains .deprecateEof then packets = []
  else ∃ eof, packets = [eof] ∧ eof.isEof = true

/-- Definitions, one for each column, and their end.  Where there is no column there is no end. -/
def IsGroup (capabilities : Capabilities) (columns : List Column) (packets : List Packet) : Prop :=
  if columns = [] then packets = []
  else
    ∃ definitions ends, packets = definitions ++ ends ∧
      List.Forall₂ Defines definitions columns ∧ IsGroupEnd capabilities ends

/-- The answer to a preparation: what it says about the statement, and as many definitions of
parameters and of columns as it announces. -/
def IsPreparation (capabilities : Capabilities) (statement : PrepareOk) (packets : List Packet) :
    Prop :=
  ∃ first parameters parameterPackets columns columnPackets,
    packets = first :: (parameterPackets ++ columnPackets) ∧
    PrepareOk.parse first.payload = .ok statement ∧
    parameters.length = statement.parameters.toNat ∧
    IsGroup capabilities parameters parameterPackets ∧
    columns.length = statement.columns.toNat ∧
    IsGroup capabilities columns columnPackets

/-- The statement that the first packet names.  Only the answer to a preparation begins so. -/
def named? (packets : List Packet) : Option PrepareOk :=
  packets.head?.bind fun packet => (PrepareOk.parse packet.payload).toOption

/-! ## Results -/

/-- What a result says. -/
inductive Result where
  | done (summary : Summary)
  | rows (columns : List Column) (records : List Row) (summary : Summary)

namespace Result

/-- What the server says at the end. -/
def summary : Result → Summary
  | done summary => summary
  | rows _ _ summary => summary

/-- Other results follow. -/
def isFollowed (result : Result) : Bool :=
  result.summary.status.moreResults

/-- What handlers of the caller's are given: the rows, and then the summary. -/
def delivered : Result → List Delivered
  | done summary => [.summary summary]
  | rows _ records summary => records.map .row ++ [.summary summary]

end Result

/-- The packets of a result: an OK packet, or the number of columns, their definitions, the rows and
the end. -/
inductive IsResult (format : Format) (capabilities : Capabilities) : Result → List Packet → Prop
  | done {packet : Packet} {summary : Summary} (h : Confirms capabilities packet summary) :
      IsResult format capabilities (.done summary) [packet]
  | rows {count last : Packet} {columnPackets rowPackets : List Packet} {columns : List Column}
      {records : List Row} {summary : Summary} (hcount : Counts format count columns.length)
      (hcolumns : IsGroup capabilities columns columnPackets)
      (hrows : List.Forall₂ (Holds format columns) rowPackets records)
      (hlast : EndsResult capabilities last summary) :
      IsResult format capabilities (.rows columns records summary)
        (count :: (columnPackets ++ (rowPackets ++ [last])))

/-- The packets of some results, of which the last one and no other one tells that nothing
follows. -/
inductive AreResults (format : Format) (capabilities : Capabilities) :
    List Result → List Packet → Prop
  | last {result : Result} {packets : List Packet}
      (h : IsResult format capabilities result packets) (hlast : result.isFollowed = false) :
      AreResults format capabilities [result] packets
  | more {result : Result} {results : List Result} {packets rest : List Packet}
      (h : IsResult format capabilities result packets) (hmore : result.isFollowed = true)
      (hrest : AreResults format capabilities results rest) :
      AreResults format capabilities (result :: results) (packets ++ rest)

theorem isGroup_nil_iff {packets : List Packet} :
    IsGroup capabilities [] packets ↔ packets = [] := by
  rw [IsGroup, if_pos rfl]

theorem IsResult.ne_nil {result : Result} {packets : List Packet}
    (h : IsResult format capabilities result packets) : packets ≠ [] := by
  cases h <;> exact List.cons_ne_nil _ _

theorem named?_cons (packet : Packet) (packets : List Packet) :
    named? (packet :: packets) = (PrepareOk.parse packet.payload).toOption := rfl

theorem IsPreparation.ne_nil {statement : PrepareOk} {packets : List Packet}
    (h : IsPreparation capabilities statement packets) : packets ≠ [] := by
  obtain ⟨_, _, _, _, _, rfl, -⟩ := h
  exact List.cons_ne_nil _ _

theorem IsPreparation.named?_append {statement : PrepareOk} {packets : List Packet}
    (h : IsPreparation capabilities statement packets) (more : List Packet) :
    named? (packets ++ more) = some statement := by
  obtain ⟨first, _, _, _, _, rfl, hfirst, -⟩ := h
  rw [List.cons_append, named?_cons, hfirst]
  rfl

end Received

/-! ## Handlers -/

namespace Sink

variable {η : Type}

/-- The handler of rows never fails. -/
def Succeeds (sink : Sink η) : Prop :=
  ∀ row state, (sink.onRow row state).2 = none

/-- What the handlers hold when they have been given one thing after the other. -/
def called (sink : Sink η) (things : List Delivered) (state : η) : η :=
  things.foldl
    (fun state thing =>
      match thing with
      | .row row => (sink.onRow row state).1
      | .summary summary => sink.onSummary summary state)
    state

/-- **Handlers that never fail are called for everything that is handed over.** -/
theorem Succeeds.handAll {sink : Sink η} (h : sink.Succeeds) (things : List Delivered)
    (state : η) :
    (⟨sink, state, none⟩ : Delivery η).handAll things =
      ⟨sink, sink.called things state, none⟩ := by
  induction things generalizing state with
  | nil => rfl
  | cons thing things ih =>
    have hhand : (⟨sink, state, none⟩ : Delivery η).hand thing =
        ⟨sink, sink.called [thing] state, none⟩ := by
      cases thing with
      | row row =>
        show (⟨sink, (sink.onRow row state).1, (sink.onRow row state).2⟩ : Delivery η) = _
        rw [h row state]
        rfl
      | summary summary => rfl
    calc (⟨sink, state, none⟩ : Delivery η).handAll (thing :: things)
        = ((⟨sink, state, none⟩ : Delivery η).hand thing).handAll things := rfl
      _ = ⟨sink, sink.called things (sink.called [thing] state), none⟩ := by rw [hhand, ih]
      _ = ⟨sink, sink.called (thing :: things) state, none⟩ := rfl

end Sink

/-- The handlers that keep everything never fail. -/
theorem Collected.succeeds_sink : Collected.sink.Succeeds :=
  fun _ _ => rfl

/-- A row of the binary form is not taken for the end of its result set. -/
theorem Row.isResultSetEnd_of_decodeBinary {columns : List Column} {packet : Packet} {row : Row}
    (h : Row.decodeBinary columns packet.payload = .ok row) : packet.isResultSetEnd = false := by
  unfold Packet.isResultSetEnd Packet.header
  cases hpayload : packet.payload with
  | nil => rfl
  | cons lead rest =>
    have hlead : lead = 0 := by
      by_contra hne
      rw [Row.decodeBinary, Reader.parse, Row.binaryReader, hpayload,
        Reader.bind_of_ok (Reader.u8_cons lead rest), if_pos (by simpa using hne)] at h
      cases h
    rw [hlead]
    rfl

end MySqlClient
