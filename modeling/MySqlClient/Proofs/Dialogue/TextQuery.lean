import MySqlClient.Proofs.Dialogue.Grammar
import MySqlClient.Proofs.Dialogue.Hearing

/-!
# Pings and plain queries take their answers

* `Ping.exists_takes`, `TextQuery.exists_takes`: **the command takes the answer to its request, from
  the first packet to the last, and ends as the answer says.**
* `TextQuery.follows`: what a plain query does at every place of its answer.
* `ResultPlace.Ahead.onward`, `ResultPlace.Ahead.onward_behindResult`: packets inside a result, and
  the one that ends it, for any command that takes results.
-/

namespace MySqlClient

open Sent (Item)

/-! ## ERR packets and others -/

theorem Packet.isErr_eq_false {payload : Bytes} (h : payload.head? ≠ some Packet.errHeader)
    (sequence : UInt8) : (Packet.mk sequence payload).isErr = false :=
  beq_eq_false_iff_ne.mpr h

theorem Packet.isErr_encode (err : Sent.Err) (sequence : UInt8) :
    (Packet.mk sequence err.encode).isErr = true := rfl

/-- The failure that a command sees in an ERR packet. -/
theorem serverFailure_encode {capabilities : Capabilities} {err : Sent.Err}
    (h : err.IsPassing capabilities) (sequence : UInt8) :
    serverFailure capabilities ⟨sequence, err.encode⟩ = .ok err.report.toError := by
  show (ServerError.parse capabilities err.encode >>= _) = _
  rw [Sent.Err.parse_encode h.1]
  rfl

theorem Hears.of_head?_ne {σ : Type} [Command σ] {capabilities : Capabilities} {command next : σ}
    {payload : Bytes} {turn : Turn} (h : payload.head? ≠ some Packet.errHeader)
    (hhandle : ∀ sequence, Command.handle capabilities ⟨sequence, payload⟩ command =
      (.ok turn, next)) : Hears capabilities command payload turn next :=
  ⟨isProgressReport_of_head?_ne h, hhandle⟩

/-! ## Pings -/

namespace Ping

/-- A ping waits for one packet. -/
theorem follows (capabilities : Capabilities) (ping : Ping) :
    Follows capabilities
      (fun (_ : Unit) items =>
        ∃ ok : Sent.Ok, items = [⟨ok.encode Packet.okHeader capabilities, none⟩])
      (fun _ _ => ping)
      (fun _ failure turn _ => turn = .finished failure) where
  item := by
    rintro - item items ⟨ok, hitems⟩ told
    cases hitems
    refine Or.inl ⟨rfl, .finished, ping, rfl, Hears.of_head?_ne ?_ fun _ => rfl⟩
    rw [Sent.Ok.head?_encode]
    decide
  cut := by
    rintro - item items - told err herr
    refine ⟨_, ping, rfl, herr.2.2, fun sequence => ?_⟩
    show (step capabilities _, ping) = _
    have hok : (Packet.mk sequence err.encode).isOk = false := rfl
    rw [step, hok, Packet.isErr_encode, serverFailure_encode herr]
    rfl

/-- **A ping takes the answer to its request.** -/
theorem exists_takes {capabilities : Capabilities} {answer : Sent.Answer} {ok : Sent.Ok}
    (hbody : answer.body = .pong ok) (hcut : answer.CutFits capabilities) (ping : Ping) :
    ∃ final, Takes capabilities ping (answer.packets capabilities) (.finished answer.failure)
      final := by
  have hitems : answer.body.items capabilities =
      [⟨ok.encode Packet.okHeader capabilities, none⟩] := by
    rw [hbody]
    rfl
  have hne : answer.body.items capabilities ≠ [] := by
    rw [hitems]
    exact List.cons_ne_nil _ _
  obtain ⟨turn, final, rfl, htakes⟩ :=
    (follows capabilities ping).exists_takes () ⟨ok, hitems⟩ hne hcut
  exact ⟨final, htakes⟩

end Ping

/-! ## Results -/

section

variable {σ : Type} [Command σ] {capabilities : Capabilities} {format : Format}
  {state : ResultPlace → List Delivered → σ}
  {Ends : List Delivered → Option Error → Turn → σ → Prop} {told : List Delivered} {command : σ}
  {payload : Bytes} {items : List Item}

/-- A packet that ends nothing. -/
theorem ResultPlace.Ahead.onward {next : ResultPlace} (h : next.Ahead capabilities format items)
    (hne : next ≠ .past) (hhears : Hears capabilities command payload .wait (state next told)) :
    Onward capabilities (ResultPlace.Ahead capabilities format) state Ends told command payload
      items :=
  Or.inr ⟨h.ne_nil_iff.mpr hne, next, h, hhears⟩

/-- The packet that ends a result ends the answer too, if it does not tell of more results. -/
theorem ResultPlace.Ahead.onward_behindResult {summary : Summary}
    (h : (ResultPlace.behindResult summary).Ahead capabilities format items)
    (hmore : summary.status.moreResults = true →
      Hears capabilities command payload .wait (state .first told))
    (hlast : summary.status.moreResults = false →
      ∃ turn final, Ends told none turn final ∧ Hears capabilities command payload turn final) :
    Onward capabilities (ResultPlace.Ahead capabilities format) state Ends told command payload
      items := by
  unfold ResultPlace.behindResult at h
  split at h
  · next hstatus => exact h.onward (by simp) (hmore hstatus)
  · next hstatus =>
    cases h
    exact Or.inl ⟨rfl, hlast (by simpa using hstatus)⟩

end

/-- The number of columns does not look like an OK packet, or like a request for a file. -/
theorem Packet.exists_header_lenEncInt {count : UInt64} (h : count ≠ 0) (sequence : UInt8) :
    ∃ lead, (Packet.mk sequence (Wire.lenEncInt count)).header = some lead ∧
      lead ≠ Packet.okHeader ∧ lead ≠ Packet.localInfileHeader := by
  obtain ⟨lead, rest, hlead, -, hinfile, hzero, -⟩ := Wire.exists_lenEncInt_eq_cons count
  refine ⟨lead, ?_, fun heq => h (hzero heq), hinfile⟩
  show (Wire.lenEncInt count).head? = _
  rw [hlead]
  rfl

/-! ## Plain queries -/

/-- The stage of a plain query at a place. -/
def ResultPlace.text : ResultPlace → TextStage
  | first => .columnCount
  | columns remaining seen => .columns remaining seen
  | columnsEnd seen => .columnsEof seen
  | rows seen => .rows seen
  | past => .done

namespace TextQuery

variable {η : Type} {capabilities : Capabilities} {items : List Item}

/-- The query at a place, when things have been handed over. -/
def reached (query : TextQuery η) (place : ResultPlace) (told : List Delivered) : TextQuery η :=
  { query with delivery := query.delivery.handAll told, stage := place.text }

/-- How an answer may leave the query. -/
def Ends (query : TextQuery η) (told : List Delivered) (failure : Option Error) (turn : Turn)
    (final : TextQuery η) : Prop :=
  turn = .finished (failure.or (query.delivery.handAll told).failure) ∧
    final.delivery.state = (query.delivery.handAll told).state

/-- What a packet does that is no ERR packet. -/
theorem hears_of_onPacket {query next : TextQuery η} {payload : Bytes} {turn : Turn}
    (h : payload.head? ≠ some Packet.errHeader)
    (hpacket : ∀ sequence, query.onPacket capabilities ⟨sequence, payload⟩ = .ok (turn, next)) :
    Hears capabilities query payload turn next := by
  refine Hears.of_head?_ne h fun sequence => ?_
  show handle capabilities _ query = _
  rw [handle, Packet.isErr_eq_false h, if_neg (by simp), hpacket]
  rfl

/-- The end of a result. -/
theorem onward_of_statementDone {query : TextQuery η} {place : ResultPlace} {payload : Bytes}
    {summary : Summary} {told : List Delivered}
    (hhead : payload.head? ≠ some Packet.errHeader)
    (hnext : (ResultPlace.behindResult summary).Ahead capabilities .text items)
    (h : ∀ sequence, (query.reached place told).onPacket capabilities ⟨sequence, payload⟩ =
      .ok ((query.reached place told).statementDone summary)) :
    Onward capabilities (ResultPlace.Ahead capabilities .text) query.reached query.Ends
      (told ++ [.summary summary]) (query.reached place told) payload items := by
  refine hnext.onward_behindResult (fun hmore => ?_) fun hlast => ?_
  · refine hears_of_onPacket hhead fun sequence => ?_
    rw [h sequence, statementDone, if_pos hmore]
    simp only [reached, Delivery.summary_handAll, ResultPlace.text]
  · let final : TextQuery η :=
      { query with
        delivery := (query.delivery.handAll (told ++ [.summary summary])).reported
        stage := .done }
    refine ⟨_, final, ⟨rfl, rfl⟩, hears_of_onPacket hhead fun sequence => ?_⟩
    rw [h sequence, statementDone, if_neg (by simp [hlast])]
    simp only [reached, Delivery.summary_handAll]
    rfl

/-- **What a plain query does at every place of its answer.** -/
theorem follows (capabilities : Capabilities) (query : TextQuery η) :
    Follows capabilities (ResultPlace.Ahead capabilities .text) query.reached query.Ends where
  item := by
    intro place item items hahead told
    have hhead := hahead.head?_ne
    cases hahead with
    | @done ok _ hok hnext =>
      refine onward_of_statementDone hhead hnext fun sequence => ?_
      show (query.reached .first told).onColumnCount capabilities
        ⟨sequence, ok.encode Packet.okHeader capabilities⟩ = _
      have hheader : (Packet.mk sequence (ok.encode Packet.okHeader capabilities)).header =
        some Packet.okHeader := rfl
      simp [onColumnCount, hheader, Sent.Ok.parse_encode (Or.inl rfl) hok]
    | @count count _ hcount hnext =>
      refine hnext.onward (by simp) (hears_of_onPacket hhead fun sequence => ?_)
      show onColumnCount _ capabilities _ = _
      obtain ⟨lead, hheader, hok, hinfile⟩ := Packet.exists_header_lenEncInt hcount sequence
      simp [onColumnCount, hheader, hok, hinfile, hcount, reached, inStage, ResultPlace.text,
        (Reader.reads_lenEncCount count).parse]
    | column hcolumn hnext =>
      refine hnext.onward (by simp) (hears_of_onPacket hhead fun sequence => ?_)
      show onColumn _ capabilities _ _ _ = _
      simp [onColumn, Sent.Column.item, Sent.Column.parse_encode hcolumn, reached, inStage,
        ResultPlace.text]
    | lastColumn hcolumn hnext =>
      refine hnext.onward (ResultPlace.behindColumns_ne_past _ _) (hears_of_onPacket hhead
        fun sequence => ?_)
      show onColumn _ capabilities _ _ _ = _
      simp only [onColumn, Sent.Column.item, Sent.Column.parse_encode hcolumn, Outcome.ok_bind,
        Outcome.pure_eq, if_true, ResultPlace.behindColumns, afterColumns]
      split <;> simp [reached, inStage, ResultPlace.text]
    | columnsEnd hnext =>
      refine hnext.onward (by simp) (hears_of_onPacket hhead fun sequence => ?_)
      show (if _ then _ else _) = _
      rw [if_pos (EofPacket.isEof_encode _ _ _)]
      simp [reached, inStage, ResultPlace.text]
    | @row columns fields _ hcolumns hfields hnext =>
      refine hnext.onward (by simp) (hears_of_onPacket hhead fun sequence => ?_)
      show onRow _ capabilities _ _ = _
      have hend := Row.isResultSetEnd_encode hfields sequence
      have hdecode : Row.decodeText columns (Row.encode .text columns fields) = _ :=
        Row.decode_encode hfields
      simp [onRow, Sent.rowItem, hend, hdecode, reached, ResultPlace.text, Delivery.hand]
    | ending hok hnext =>
      refine onward_of_statementDone hhead hnext fun sequence => ?_
      show onRow _ capabilities _ _ = _
      simp [onRow, Sent.Ok.isResultSetEnd_encodeEnd hok, Sent.Ok.parseEnd_encodeEnd hok]
  cut := by
    intro place item items hahead told err herr
    let final : TextQuery η :=
      { query with delivery := query.delivery.handAll told, stage := .done }
    refine ⟨_, final, ⟨rfl, rfl⟩, herr.2.2, fun sequence => ?_⟩
    show handle capabilities _ _ = _
    have hstage : (query.reached place told).stage ≠ .done := by
      cases hahead <;> simp [reached, ResultPlace.text]
    rw [handle, if_pos ⟨Packet.isErr_encode err sequence, hstage⟩, serverFailure_encode herr]
    rfl

/-- **A plain query takes the answer to its request.** -/
theorem exists_takes {answer : Sent.Answer} {results : List Sent.Result}
    (hbody : answer.body = .results .text results) (hvalid : answer.body.Valid capabilities)
    (hcut : answer.CutFits capabilities) (query : TextQuery η) :
    ∃ turn final,
      query.Ends (answer.delivered capabilities) answer.failure turn final ∧
      Takes capabilities { query with stage := .columnCount } (answer.packets capabilities) turn
        final := by
  rw [hbody] at hvalid
  have hahead : ResultPlace.first.Ahead capabilities .text (answer.body.items capabilities) := by
    rw [hbody]
    exact ResultPlace.ahead_results hvalid.1 hvalid.2
  have hne : answer.body.items capabilities ≠ [] := hahead.ne_nil_iff.mpr (by simp)
  exact (follows capabilities query).exists_takes .first hahead hne hcut

end TextQuery

end MySqlClient
