import MySqlClient.Proofs.Dialogue.TextQuery

/-!
# Prepared queries take their answers

* `PreparedQuery.exists_takes_preparation`: **a prepared query takes the answer to its first
  request, and executes the statement, or gives up if the parameters do not fit or the server
  refuses.**
* `PreparedQuery.exists_takes_execution`: **it takes the answer to its second request**, and ends.
* `Turn.Closes`: the last turn, which writes nothing but the request to close the statement.
-/

namespace MySqlClient

open Sent (Item)

/-- The command is over, and nothing is written but a request to close a statement. -/
def Turn.Closes (turn : Turn) (failure : Option Error) : Prop :=
  turn.done = true ∧ turn.failure = failure ∧
    (turn.packets = [] ∨
      turn.resequence = true ∧ ∃ statementId, turn.packets = [(Request.close statementId).encode])

theorem Turn.closes_finished (failure : Option Error) : (Turn.finished failure).Closes failure :=
  ⟨rfl, rfl, Or.inl rfl⟩

/-- The stage of a prepared query at a place of the results. -/
def ResultPlace.prepared : ResultPlace → PreparedStage
  | first => .columnCount
  | columns remaining seen => .resultColumns remaining seen
  | columnsEnd seen => .resultColumnsEof seen
  | rows seen => .rows seen
  | past => .done

/-- The stage of a prepared query at a place of the answer to the preparation. -/
def PreparePlace.stage : PreparePlace → PreparedStage
  | first => .prepareOk
  | parameters remaining => .parameters remaining
  | parametersEnd => .parametersEof
  | columns remaining => .columns remaining
  | columnsEnd => .columnsEof
  | past => .done

namespace PreparedQuery

variable {η : Type} {capabilities : Capabilities} {items : List Item}

/-- **Whatever ends a prepared query, it closes.** -/
theorem finish_closes (query : PreparedQuery η) (failure : Option Error) :
    (query.finish failure).1.Closes failure ∧
      (query.finish failure).2.delivery = query.delivery := by
  unfold finish
  dsimp only
  split
  · next statement _ _ => exact ⟨⟨rfl, rfl, Or.inr ⟨rfl, statement.statementId, rfl⟩⟩, rfl⟩
  · exact ⟨Turn.closes_finished failure, rfl⟩

/-- What a packet does that is no ERR packet. -/
theorem hears_of_onPacket {query next : PreparedQuery η} {payload : Bytes} {turn : Turn}
    (h : payload.head? ≠ some Packet.errHeader)
    (hpacket : ∀ sequence, query.onPacket capabilities ⟨sequence, payload⟩ = .ok (turn, next)) :
    Hears capabilities query payload turn next := by
  refine Hears.of_head?_ne h fun sequence => ?_
  show handle capabilities _ query = _
  rw [handle, Packet.isErr_eq_false h, if_neg (by simp), hpacket]
  rfl

/-- What an ERR packet does. -/
theorem hears_err {query : PreparedQuery η} {err : Sent.Err} (herr : err.IsPassing capabilities)
    (hstage : query.stage ≠ .done) :
    Hears capabilities query err.encode (query.finish (some err.report.toError)).1
      (query.finish (some err.report.toError)).2 := by
  refine ⟨herr.2.2, fun sequence => ?_⟩
  show handle capabilities _ _ = _
  rw [handle, if_pos ⟨Packet.isErr_encode err sequence, hstage⟩, serverFailure_encode herr]
  rfl

/-! ## The preparation -/

/-- The query once the server has named the statement. -/
def named (query : PreparedQuery η) (statement : PrepareOk) : PreparedQuery η :=
  { query with
    statement := some statement
    mismatch :=
      if statement.parameters.toNat = query.parameters.length then query.mismatch
      else some (.count statement.parameters.toNat query.parameters.length) }

theorem checkParameters_eq (query : PreparedQuery η) (statement : PrepareOk) :
    { query with statement := some statement }.checkParameters statement =
      query.named statement := by
  unfold checkParameters named
  dsimp only
  split <;> rfl

/-- The query at a place of the answer to the preparation. -/
def preparing (statement : PrepareOk) (query : PreparedQuery η) (place : PreparePlace)
    (_told : List Delivered) : PreparedQuery η :=
  match place with
  | .first => { query with stage := .prepareOk }
  | place => { query.named statement with stage := place.stage }

/-- How the answer to the preparation may leave the query. -/
def EndsPreparation (statement : PrepareOk) (query : PreparedQuery η) (_told : List Delivered)
    (failure : Option Error) (turn : Turn) (final : PreparedQuery η) : Prop :=
  final.delivery = query.delivery ∧
    match failure with
    | some error => turn.Closes (some error)
    | none =>
      if statement.parameters.toNat = query.parameters.length then
        turn = .request (.execute statement.statementId query.parameters) ∧
          final = { query with statement := some statement, stage := .columnCount }
      else
        turn.Closes (some
          (.parameterMismatch (.count statement.parameters.toNat query.parameters.length)))

/-- Behind the definitions, the statement is executed if the parameters fit. -/
theorem exists_prepared {query : PreparedQuery η} (h : query.mismatch = none)
    (statement : PrepareOk) (stage : PreparedStage) (told : List Delivered) :
    ∃ turn final, query.EndsPreparation statement told none turn final ∧
      { query.named statement with stage }.prepared = .ok (turn, final) := by
  unfold EndsPreparation prepared named
  by_cases hfit : statement.parameters.toNat = query.parameters.length
  · simp only [if_pos hfit, h]
    exact ⟨_, { query with statement := some statement, stage := .columnCount, mismatch := none },
      ⟨rfl, rfl, by rw [← h]⟩, rfl⟩
  · simp only [if_neg hfit]
    let fault : ParameterFault := .count statement.parameters.toNat query.parameters.length
    obtain ⟨hcloses, hdelivery⟩ := finish_closes
      { query with statement := some statement, stage, mismatch := none }
      (some (.parameterMismatch fault))
    exact ⟨_, _, ⟨hdelivery, hcloses⟩, rfl⟩

/-- What a packet of the answer to the preparation does. -/
abbrev PrepareStep (capabilities : Capabilities) (statement : PrepareOk) (query : PreparedQuery η)
    (told : List Delivered) (current : PreparedQuery η) (payload : Bytes) (items : List Item) :
    Prop :=
  Onward capabilities (PreparePlace.Ahead capabilities statement) (preparing statement query)
    (query.EndsPreparation statement) told current payload items

/-- A packet behind which other definitions come. -/
theorem prepareStep_wait {statement : PrepareOk} {query current : PreparedQuery η}
    {told : List Delivered} {payload : Bytes} {next : PreparePlace}
    (hhead : payload.head? ≠ some Packet.errHeader)
    (hnext : next.Ahead capabilities statement items) (hne : next ≠ .past) (hfirst : next ≠ .first)
    (h : ∀ sequence, current.onPacket capabilities ⟨sequence, payload⟩ =
      .ok (.wait, { query.named statement with stage := next.stage })) :
    PrepareStep capabilities statement query told current payload items := by
  refine Or.inr ⟨hnext.ne_nil_iff.mpr hne, next, hnext, hears_of_onPacket hhead fun sequence => ?_⟩
  rw [h sequence]
  cases next <;> first | rfl | exact absurd rfl hfirst

/-- The last packet. -/
theorem prepareStep_over {statement : PrepareOk} {query current : PreparedQuery η}
    {told : List Delivered} {payload : Bytes} {stage : PreparedStage}
    (hmismatch : query.mismatch = none) (hhead : payload.head? ≠ some Packet.errHeader)
    (hnext : PreparePlace.past.Ahead capabilities statement items)
    (h : ∀ sequence, current.onPacket capabilities ⟨sequence, payload⟩ =
      { query.named statement with stage }.prepared) :
    PrepareStep capabilities statement query told current payload items := by
  obtain ⟨turn, final, hends, hprepared⟩ := exists_prepared hmismatch statement stage told
  cases hnext
  refine Or.inl ⟨rfl, turn, final, hends, hears_of_onPacket hhead fun sequence => ?_⟩
  rw [h sequence, hprepared]

/-- The last packet in front of the columns. -/
theorem prepareStep_parametersDone {statement : PrepareOk} {query current : PreparedQuery η}
    {told : List Delivered} {payload : Bytes} {stage : PreparedStage}
    (hmismatch : query.mismatch = none) (hhead : payload.head? ≠ some Packet.errHeader)
    (hnext : (PreparePlace.behindParameters statement).Ahead capabilities statement items)
    (h : ∀ sequence, current.onPacket capabilities ⟨sequence, payload⟩ =
      { query.named statement with stage }.parametersDone) :
    PrepareStep capabilities statement query told current payload items := by
  unfold PreparePlace.behindParameters at hnext
  have hdone : { query.named statement with stage }.parametersDone =
      if 0 < statement.columns.toNat then
        .ok (.wait, { query.named statement with stage := .columns statement.columns.toNat })
      else { query.named statement with stage }.prepared := rfl
  rw [hdone] at h
  split at hnext
  · next hcolumns =>
    simp only [if_pos hcolumns] at h
    exact prepareStep_wait hhead hnext (by simp) (by simp) h
  · next hcolumns =>
    simp only [if_neg hcolumns] at h
    exact prepareStep_over hmismatch hhead hnext h

/-- The first packet, which names the statement. -/
theorem prepareStep_first {statement : PrepareOk} {query : PreparedQuery η} {told : List Delivered}
    {more : Bytes} (hmismatch : query.mismatch = none)
    (hhead : (statement.encode more).head? ≠ some Packet.errHeader)
    (hnext : (PreparePlace.behindFirst statement).Ahead capabilities statement items) :
    PrepareStep capabilities statement query told (preparing statement query .first told)
      (statement.encode more) items := by
  have hpacket (sequence : UInt8) :
      (preparing statement query .first told).onPacket capabilities
        ⟨sequence, statement.encode more⟩ =
      if 0 < statement.parameters then
        .ok (inStage { query.named statement with stage := .prepareOk }
          (.parameters statement.parameters.toNat))
      else { query.named statement with stage := .prepareOk }.parametersDone := by
    show onPrepareOk _ _ = _
    rw [onPrepareOk, PrepareOk.parse_encode]
    rw [Outcome.ok_bind]
    dsimp only
    rw [checkParameters_eq]
    rfl
  have hzero : (0 < statement.parameters) = (0 < statement.parameters.toNat) := by
    rw [UInt16.lt_iff_toNat_lt]
    rfl
  unfold PreparePlace.behindFirst at hnext
  simp only [hzero] at hpacket
  split at hnext
  · next hparameters =>
    simp only [if_pos hparameters] at hpacket
    exact prepareStep_wait hhead hnext (by simp) (by simp) hpacket
  · next hparameters =>
    simp only [if_neg hparameters] at hpacket
    exact prepareStep_parametersDone hmismatch hhead hnext hpacket

/-- The last definition of a parameter. -/
theorem prepareStep_lastParameter {statement : PrepareOk} {query : PreparedQuery η}
    {told : List Delivered} {column : Sent.Column} (hmismatch : query.mismatch = none)
    (hcolumn : column.Fits) (hhead : column.item.payload.head? ≠ some Packet.errHeader)
    (hnext : (PreparePlace.behindLast capabilities .parametersEnd
      (PreparePlace.behindParameters statement)).Ahead capabilities statement items) :
    PrepareStep capabilities statement query told (preparing statement query (.parameters 1) told)
      column.item.payload items := by
  unfold PreparePlace.behindLast at hnext
  have hpacket (sequence : UInt8) :
      (preparing statement query (.parameters 1) told).onPacket capabilities
        ⟨sequence, column.item.payload⟩ =
      if capabilities.contains .deprecateEof then
        { query.named statement with stage := .parameters 1 }.parametersDone
      else .ok (inStage { query.named statement with stage := .parameters 1 } .parametersEof) := by
    show onParameter _ _ _ _ = _
    simp [onParameter, Sent.Column.item, Sent.Column.parse_encode hcolumn, preparing,
      PreparePlace.stage]
  split at hnext
  · next hdeprecated =>
    simp only [if_pos hdeprecated] at hpacket
    exact prepareStep_parametersDone hmismatch hhead hnext hpacket
  · next hdeprecated =>
    simp only [if_neg hdeprecated] at hpacket
    exact prepareStep_wait hhead hnext (by simp) (by simp) hpacket

/-- The last definition of a column. -/
theorem prepareStep_lastColumn {statement : PrepareOk} {query : PreparedQuery η}
    {told : List Delivered} {column : Sent.Column} (hmismatch : query.mismatch = none)
    (hcolumn : column.Fits) (hhead : column.item.payload.head? ≠ some Packet.errHeader)
    (hnext : (PreparePlace.behindLast capabilities .columnsEnd .past).Ahead capabilities statement
      items) :
    PrepareStep capabilities statement query told (preparing statement query (.columns 1) told)
      column.item.payload items := by
  unfold PreparePlace.behindLast at hnext
  have hpacket (sequence : UInt8) :
      (preparing statement query (.columns 1) told).onPacket capabilities
        ⟨sequence, column.item.payload⟩ =
      if capabilities.contains .deprecateEof then
        { query.named statement with stage := .columns 1 }.prepared
      else .ok (inStage { query.named statement with stage := .columns 1 } .columnsEof) := by
    show onColumn _ _ _ _ = _
    simp [onColumn, Sent.Column.item, Sent.Column.parse_encode hcolumn, preparing,
      PreparePlace.stage]
  split at hnext
  · next hdeprecated =>
    simp only [if_pos hdeprecated] at hpacket
    exact prepareStep_over hmismatch hhead hnext hpacket
  · next hdeprecated =>
    simp only [if_neg hdeprecated] at hpacket
    exact prepareStep_wait hhead hnext (by simp) (by simp) hpacket

/-- **What a prepared query does at every place of the answer to the preparation.** -/
theorem follows_preparation (capabilities : Capabilities) (statement : PrepareOk)
    {query : PreparedQuery η} (hmismatch : query.mismatch = none) :
    Follows capabilities (PreparePlace.Ahead capabilities statement)
      (preparing statement query) (query.EndsPreparation statement) where
  item := by
    intro place item items hahead told
    have hhead := hahead.head?_ne
    have htold : told ++ item.delivered.toList = told := by
      cases hahead <;> simp [Sent.Column.item]
    rw [htold]
    cases hahead with
    | first hnext => exact prepareStep_first hmismatch hhead hnext
    | parameter hcolumn hnext =>
      refine prepareStep_wait hhead hnext (by simp) (by simp) fun sequence => ?_
      show onParameter _ _ _ _ = _
      simp [onParameter, Sent.Column.item, Sent.Column.parse_encode hcolumn, preparing, inStage,
        PreparePlace.stage]
    | lastParameter hcolumn hnext => exact prepareStep_lastParameter hmismatch hcolumn hhead hnext
    | @parametersEnd eof _ hnext =>
      have hpacket (sequence : UInt8) :
          (preparing statement query .parametersEnd told).onPacket capabilities
            ⟨sequence, eof.encode capabilities⟩ =
          { query.named statement with stage := .parametersEof }.parametersDone :=
        if_pos (EofPacket.isEof_encode _ _ _)
      exact prepareStep_parametersDone hmismatch hhead hnext hpacket
    | column hcolumn hnext =>
      refine prepareStep_wait hhead hnext (by simp) (by simp) fun sequence => ?_
      show onColumn _ _ _ _ = _
      simp [onColumn, Sent.Column.item, Sent.Column.parse_encode hcolumn, preparing, inStage,
        PreparePlace.stage]
    | lastColumn hcolumn hnext => exact prepareStep_lastColumn hmismatch hcolumn hhead hnext
    | @columnsEnd eof _ hnext =>
      have hpacket (sequence : UInt8) :
          (preparing statement query .columnsEnd told).onPacket capabilities
            ⟨sequence, eof.encode capabilities⟩ =
          { query.named statement with stage := .columnsEof }.prepared :=
        if_pos (EofPacket.isEof_encode _ _ _)
      exact prepareStep_over hmismatch hhead hnext hpacket
  cut := by
    intro place item items hahead told err herr
    have hstage : (preparing statement query place told).stage ≠ .done := by
      cases hahead <;> simp [preparing, PreparePlace.stage]
    have hdelivery : (preparing statement query place told).delivery = query.delivery := by
      cases hahead <;> rfl
    obtain ⟨hcloses, hfinish⟩ := finish_closes (preparing statement query place told)
      (some err.report.toError)
    exact ⟨_, _, ⟨by rw [hfinish, hdelivery], hcloses⟩, hears_err herr hstage⟩

/-- **A prepared query takes the answer to its first request.** -/
theorem exists_takes_preparation {answer : Sent.Answer} {prepared : Sent.Prepared}
    (hbody : answer.body = .prepared prepared) (hvalid : answer.body.Valid capabilities)
    (hcut : answer.CutFits capabilities) {query : PreparedQuery η}
    (hmismatch : query.mismatch = none) :
    ∃ turn final,
      query.EndsPreparation prepared.statement (answer.delivered capabilities) answer.failure turn
        final ∧
      Takes capabilities { query with stage := .prepareOk } (answer.packets capabilities) turn
        final := by
  rw [hbody] at hvalid
  have hahead : PreparePlace.first.Ahead capabilities prepared.statement
      (answer.body.items capabilities) := by
    rw [hbody]
    exact PreparePlace.ahead_items hvalid
  exact (follows_preparation capabilities prepared.statement hmismatch).exists_takes .first hahead
    (hahead.ne_nil_iff.mpr (by simp)) hcut

/-! ## The execution -/

/-- The query at a place of the results, when things have been handed over. -/
def reached (query : PreparedQuery η) (place : ResultPlace) (told : List Delivered) :
    PreparedQuery η :=
  { query with delivery := query.delivery.handAll told, stage := place.prepared }

/-- How an answer may leave the query. -/
def Ends (query : PreparedQuery η) (told : List Delivered) (failure : Option Error) (turn : Turn)
    (final : PreparedQuery η) : Prop :=
  turn.Closes (failure.or (query.delivery.handAll told).failure) ∧
    final.delivery.state = (query.delivery.handAll told).state

/-- The end of a result. -/
theorem onward_of_resultDone {query : PreparedQuery η} {place : ResultPlace} {payload : Bytes}
    {summary : Summary} {told : List Delivered}
    (hhead : payload.head? ≠ some Packet.errHeader)
    (hnext : (ResultPlace.behindResult summary).Ahead capabilities .binary items)
    (h : ∀ sequence, (query.reached place told).onPacket capabilities ⟨sequence, payload⟩ =
      .ok ((query.reached place told).resultDone summary)) :
    Onward capabilities (ResultPlace.Ahead capabilities .binary) query.reached query.Ends
      (told ++ [.summary summary]) (query.reached place told) payload items := by
  refine hnext.onward_behindResult (fun hmore => ?_) fun hlast => ?_
  · refine hears_of_onPacket hhead fun sequence => ?_
    rw [h sequence, resultDone, if_pos hmore]
    simp only [reached, Delivery.summary_handAll, ResultPlace.prepared]
  · let last := query.delivery.handAll (told ++ [.summary summary])
    let current : PreparedQuery η :=
      { query with delivery := last.reported, stage := place.prepared }
    obtain ⟨hcloses, hfinish⟩ := finish_closes current last.failure
    refine ⟨_, (current.finish last.failure).2, ⟨hcloses, ?_⟩,
      hears_of_onPacket hhead fun sequence => ?_⟩
    · rw [hfinish]
      rfl
    · rw [h sequence, resultDone, if_neg (by simp [hlast])]
      simp only [reached, Delivery.summary_handAll]
      rfl

/-- **What a prepared query does at every place of its results.** -/
theorem follows (capabilities : Capabilities) (query : PreparedQuery η) :
    Follows capabilities (ResultPlace.Ahead capabilities .binary) query.reached query.Ends where
  item := by
    intro place item items hahead told
    have hhead := hahead.head?_ne
    cases hahead with
    | @done ok _ hok hnext =>
      refine onward_of_resultDone hhead hnext fun sequence => ?_
      show (query.reached .first told).onColumnCount capabilities
        ⟨sequence, ok.encode Packet.okHeader capabilities⟩ = _
      have hheader : (Packet.mk sequence (ok.encode Packet.okHeader capabilities)).header =
        some Packet.okHeader := rfl
      simp [onColumnCount, hheader, Sent.Ok.parse_encode (Or.inl rfl) hok]
    | @count count _ hcount hnext =>
      refine hnext.onward (by simp) (hears_of_onPacket hhead fun sequence => ?_)
      show onColumnCount _ capabilities _ = _
      obtain ⟨lead, hheader, hok, -⟩ := Packet.exists_header_lenEncInt hcount sequence
      simp [onColumnCount, hheader, hok, hcount, reached, inStage, ResultPlace.prepared,
        (Reader.reads_lenEncCount count).parse]
    | column hcolumn hnext =>
      refine hnext.onward (by simp) (hears_of_onPacket hhead fun sequence => ?_)
      show onResultColumn _ capabilities _ _ _ = _
      simp [onResultColumn, Sent.Column.item, Sent.Column.parse_encode hcolumn, reached, inStage,
        ResultPlace.prepared]
    | lastColumn hcolumn hnext =>
      refine hnext.onward (ResultPlace.behindColumns_ne_past _ _) (hears_of_onPacket hhead
        fun sequence => ?_)
      show onResultColumn _ capabilities _ _ _ = _
      simp only [onResultColumn, Sent.Column.item, Sent.Column.parse_encode hcolumn,
        Outcome.ok_bind, Outcome.pure_eq, Nat.lt_irrefl, if_false, ResultPlace.behindColumns,
        afterColumns]
      split <;> simp [reached, inStage, ResultPlace.prepared]
    | columnsEnd hnext =>
      refine hnext.onward (by simp) (hears_of_onPacket hhead fun sequence => ?_)
      show expectEof _ _ _ = _
      rw [expectEof, if_pos (EofPacket.isEof_encode _ _ _)]
      simp [reached, inStage, ResultPlace.prepared]
    | @row columns fields _ hcolumns hfields hnext =>
      refine hnext.onward (by simp) (hears_of_onPacket hhead fun sequence => ?_)
      show onRow _ capabilities _ _ = _
      have hend := Row.isResultSetEnd_encode hfields sequence
      have hdecode : Row.decodeBinary columns (Row.encode .binary columns fields) = _ :=
        Row.decode_encode hfields
      simp [onRow, Sent.rowItem, hend, hdecode, reached, ResultPlace.prepared, Delivery.hand]
    | ending hok hnext =>
      refine onward_of_resultDone hhead hnext fun sequence => ?_
      show onRow _ capabilities _ _ = _
      simp [onRow, Sent.Ok.isResultSetEnd_encodeEnd hok, Sent.Ok.parseEnd_encodeEnd hok]
  cut := by
    intro place item items hahead told err herr
    have hstage : (query.reached place told).stage ≠ .done := by
      cases hahead <;> simp [reached, ResultPlace.prepared]
    obtain ⟨hcloses, hfinish⟩ := finish_closes (query.reached place told)
      (some err.report.toError)
    exact ⟨_, _, ⟨hcloses, by rw [hfinish]; rfl⟩, hears_err herr hstage⟩

/-- **A prepared query takes the answer to its second request.** -/
theorem exists_takes_execution {answer : Sent.Answer} {results : List Sent.Result}
    (hbody : answer.body = .results .binary results) (hvalid : answer.body.Valid capabilities)
    (hcut : answer.CutFits capabilities) (query : PreparedQuery η) :
    ∃ turn final,
      query.Ends (answer.delivered capabilities) answer.failure turn final ∧
      Takes capabilities { query with stage := .columnCount } (answer.packets capabilities) turn
        final := by
  rw [hbody] at hvalid
  have hahead : ResultPlace.first.Ahead capabilities .binary (answer.body.items capabilities) := by
    rw [hbody]
    exact ResultPlace.ahead_results hvalid.1 hvalid.2
  have hne : answer.body.items capabilities ≠ [] := hahead.ne_nil_iff.mpr (by simp)
  exact (follows capabilities query).exists_takes .first hahead hne hcut

end PreparedQuery

end MySqlClient
