import MySqlClient.Proofs.Dialogue.PreparedQuery
import MySqlClient.Proofs.Exchange.Documented
import MySqlClient.Proofs.Exchange.Walk

/-!
# Prepared queries accept their grammar

* `PreparedQuery.onPacket_reached_iff`, `PreparedQuery.walks`: a prepared query walks along the
  results of its execution.
* `PreparedQuery.onPacket_first_iff`, `PreparedQuery.onPacket_preparing_iff`: it goes along the
  answer to its preparation; `PreparedQuery.leave` is what comes behind that.
* `PreparedQuery.completes_iff_isPreparation`: **a prepared query completes with exactly the packets
  of a preparation that wants as many parameters as there are, and of one or more results behind
  it**, and its handlers have been given the rows and summaries of these results, in order.
-/

namespace MySqlClient

open Received

namespace PreparePlace

variable {capabilities : Capabilities} {statement : PrepareOk} {place : PreparePlace}
  {packet : Packet}

/-- A packet is waited for at the place, which is behind the first packet. -/
def IsInside : PreparePlace → Prop
  | .parameters remaining | .columns remaining => 0 < remaining
  | .parametersEnd | .columnsEnd => True
  | .first | .past => False

theorem isInside_behindParameters (h : behindParameters statement ≠ .past) :
    (behindParameters statement).IsInside := by
  unfold behindParameters at *
  split
  · next hcolumns => exact hcolumns
  · next hcolumns => exact absurd (if_neg hcolumns) h

/-- Every packet leads to a place where another one is waited for, or past the answer. -/
theorem Step.isInside {next : PreparePlace} (h : Step capabilities statement place packet next)
    (hnext : next ≠ .past) : next.IsInside := by
  cases h with
  | first =>
    unfold behindFirst at *
    split
    · next hparameters => exact hparameters
    · next hparameters => exact isInside_behindParameters (by rwa [if_neg hparameters] at hnext)
  | parameter => exact Nat.succ_pos _
  | lastParameter =>
    unfold behindLast at *
    split
    · next hdeprecated => exact isInside_behindParameters (by rwa [if_pos hdeprecated] at hnext)
    · trivial
  | parametersEnd => exact isInside_behindParameters hnext
  | column => exact Nat.succ_pos _
  | lastColumn =>
    unfold behindLast at *
    split
    · next hdeprecated => exact absurd (if_pos hdeprecated) hnext
    · trivial
  | columnsEnd => exact absurd rfl hnext

end PreparePlace

namespace PreparedQuery

variable {η : Type} {capabilities : Capabilities} {query : PreparedQuery η} {packet : Packet}
  {answer : Turn × PreparedQuery η}

/-! ## One packet of the results -/

theorem onColumnCount_iff : query.onColumnCount capabilities packet = .ok answer ↔
    (∃ summary, Confirms capabilities packet summary ∧ answer = query.resultDone summary) ∨
      ∃ number, Counts .binary packet number ∧
        answer =
          if number = 0 then query.inStage (.rows [])
          else query.inStage (.resultColumns number []) := by
  unfold onColumnCount Confirms Counts
  cases hheader : packet.header with
  | none =>
    have hnil : packet.payload = [] := List.head?_eq_none_iff.mp hheader
    simp only [hnil, reduceCtorEq, false_and, exists_false, false_or, false_iff]
    rintro ⟨number, ⟨-, ⟨count, hcount, -⟩, -⟩, -⟩
    cases hcount
  | some header =>
    by_cases hok : header = Packet.okHeader
    · subst hok
      simp only [if_true, Outcome.bind_eq_ok_iff, Outcome.pure_eq, Except.ok.injEq, true_and,
        ne_eq, not_true, false_and, exists_false, or_false]
      exact exists_congr fun _ => and_congr_right fun _ => eq_comm
    · have hne : some header ≠ some Packet.okHeader := fun heq => hok (Option.some.inj heq)
      simp only [if_neg hok, hne, false_and, exists_false, false_or, ne_eq, not_false_iff, true_and,
        reduceCtorEq, false_implies, and_true]
      rw [Outcome.bind_eq_ok_iff]
      constructor
      · rintro ⟨count, hcount, h⟩
        refine ⟨count.toNat, ⟨count, hcount, rfl⟩, ?_⟩
        have hzero : count = 0 ↔ count.toNat = 0 := UInt64.toNat_inj.symm
        simp only [hzero] at h
        split at h
        · next hcount => rw [if_pos hcount, ← Except.ok.inj h]
        · next hcount => rw [if_neg hcount, ← Except.ok.inj h]
      · rintro ⟨number, ⟨count, hcount, rfl⟩, rfl⟩
        refine ⟨count, hcount, ?_⟩
        have hzero : count = 0 ↔ count.toNat = 0 := UInt64.toNat_inj.symm
        simp only [hzero]
        split <;> rfl

theorem onResultColumn_iff {remaining : Nat} {seen : List Column} :
    query.onResultColumn capabilities packet remaining seen = .ok answer ↔
      ∃ column, Defines packet column ∧
        answer =
          if 1 < remaining then query.inStage (.resultColumns (remaining - 1) (seen ++ [column]))
          else query.inStage (afterColumns capabilities (seen ++ [column])) := by
  unfold onResultColumn Defines
  rw [Outcome.bind_eq_ok_iff]
  refine exists_congr fun column => and_congr_right fun _ => ?_
  split <;> rw [Outcome.pure_eq, Except.ok.injEq] <;> exact eq_comm

theorem onRow_iff {columns : List Column} :
    query.onRow capabilities packet columns = .ok answer ↔
      (∃ summary, EndsResult capabilities packet summary ∧ answer = query.resultDone summary) ∨
        ∃ row, Holds .binary columns packet row ∧
          answer = (.wait, { query with delivery := query.delivery.row row }) := by
  unfold onRow EndsResult Holds
  cases hend : packet.isResultSetEnd with
  | true =>
    have hrow (row : Row) : Row.decode .binary columns packet.payload ≠ .ok row := by
      intro hdecode
      rw [Row.isResultSetEnd_of_decodeBinary hdecode] at hend
      cases hend
    simp only [if_true, Outcome.bind_eq_ok_iff, Outcome.pure_eq, Except.ok.injEq, true_and, hrow,
      false_and, exists_false, or_false]
    exact exists_congr fun _ => and_congr_right fun _ => eq_comm
  | false =>
    simp only [Bool.false_eq_true, if_false, Outcome.bind_eq_ok_iff, Outcome.pure_eq,
      Except.ok.injEq, false_and, exists_false, false_or, implies_true, and_true]
    exact exists_congr fun _ => and_congr_right fun _ => eq_comm

/-! ## Places in the results -/

/-- What a prepared query comes to behind its results. -/
def close (query : PreparedQuery η) (told : List Delivered) : Turn × PreparedQuery η :=
  let delivery := query.delivery.handAll told
  { query with delivery := delivery.reported }.finish delivery.failure

/-- What a prepared query comes to at a place that a packet of the results leads to. -/
def arrive (query : PreparedQuery η) (behind : ResultPlace) (told : List Delivered) :
    Turn × PreparedQuery η :=
  if behind = .past then query.close told else (.wait, query.reached behind told)

variable {place : ResultPlace} {told : List Delivered}

theorem resultDone_reached (summary : Summary) :
    (query.reached place told).resultDone summary =
      query.arrive (.behindResult summary) (told ++ [.summary summary]) := by
  unfold resultDone arrive close ResultPlace.behindResult reached
  simp only [Delivery.summary_handAll]
  split
  · rfl
  · rfl

theorem afterColumns_eq (columns : List Column) :
    afterColumns capabilities columns =
      (ResultPlace.behindColumns capabilities columns).prepared := by
  unfold afterColumns ResultPlace.behindColumns
  split <;> rfl

theorem inStage_reached {behind : ResultPlace} (h : behind ≠ .past) :
    (query.reached place told).inStage behind.prepared =
      query.arrive behind (told ++ (none : Option Delivered).toList) := by
  rw [arrive, if_neg h, Option.toList_none, List.append_nil]
  rfl

/-- **A prepared query takes a packet at a place of the results exactly if the packet leads on from
there.** -/
theorem onPacket_reached_iff (hplace : place.IsOpen) :
    (query.reached place told).onPacket capabilities packet = .ok answer ↔
      ∃ given behind, ResultPlace.Step capabilities .binary place packet given behind ∧
        answer = query.arrive behind (told ++ given.toList) := by
  cases place with
  | first =>
    rw [ResultPlace.exists_step_first_iff]
    refine onColumnCount_iff.trans (or_congr ?_ (exists_congr fun number =>
      and_congr_right fun _ => ?_))
    · simp only [resultDone_reached, Option.toList_some]
    · by_cases hzero : number = 0
      · rw [if_pos hzero, if_pos hzero, ← inStage_reached (by simp)]
        rfl
      · rw [if_neg hzero, if_neg hzero, ← inStage_reached (by simp)]
        rfl
  | columns remaining seen =>
    rw [ResultPlace.exists_step_columns_iff hplace]
    refine onResultColumn_iff.trans (exists_congr fun column => and_congr_right fun _ => ?_)
    by_cases hlast : remaining = 1
    · rw [if_neg (by omega), if_pos hlast, afterColumns_eq,
        inStage_reached (ResultPlace.behindColumns_ne_past _ _)]
    · have hmore : 1 < remaining := Nat.lt_of_le_of_ne hplace (Ne.symm hlast)
      rw [if_pos hmore, if_neg hlast, ← inStage_reached (by simp)]
      rfl
  | columnsEnd columns =>
    rw [ResultPlace.exists_step_columnsEnd_iff, ← inStage_reached (by simp)]
    exact Outcome.ite_eq_ok_iff
  | rows columns =>
    rw [ResultPlace.exists_step_rows_iff]
    refine onRow_iff.trans (or_congr ?_ (exists_congr fun row => and_congr_right fun _ => ?_))
    · simp only [resultDone_reached, Option.toList_some]
    · rw [arrive, if_neg (by simp)]
      simp [reached, ResultPlace.prepared, Delivery.hand]
  | past => exact hplace.elim

/-- What a prepared query does with a packet that is no ERR packet. -/
theorem handle_eq_ok_iff (h : packet.isErr = false) :
    Command.handle capabilities packet query = (.ok answer.1, answer.2) ↔
      query.onPacket capabilities packet = .ok answer := by
  show handle capabilities packet query = _ ↔ _
  rw [handle, h, if_neg (by simp)]
  cases query.onPacket capabilities packet with
  | error error => simp [Turn.keepOnError]
  | ok answer => simp [Turn.keepOnError, Prod.ext_iff]

/-- **A prepared query walks along the results of its execution.** -/
theorem walks (capabilities : Capabilities) (query : PreparedQuery η) :
    ResultPlace.Walks capabilities .binary query.reached query.close where
  handle_iff hplace hpacket := (handle_eq_ok_iff hpacket).trans (onPacket_reached_iff hplace)
  close_done _ := (finish_closes _ _).1.1

/-! ## One packet of the preparation -/

/-- The query when its execution is requested. -/
def executing (statement : PrepareOk) (query : PreparedQuery η) : PreparedQuery η :=
  { query with statement := some statement, stage := .columnCount }

/-- What a prepared query comes to behind the answer to its preparation. -/
def leave (statement : PrepareOk) (query : PreparedQuery η) : Turn × PreparedQuery η :=
  if statement.parameters.toNat = query.parameters.length then
    (.request (.execute statement.statementId query.parameters), query.executing statement)
  else
    { query with statement := some statement }.finish
      (some (.parameterMismatch (.count statement.parameters.toNat query.parameters.length)))

/-- What a prepared query comes to at a place that a packet of the preparation leads to. -/
def advance (statement : PrepareOk) (query : PreparedQuery η) (behind : PreparePlace) :
    Turn × PreparedQuery η :=
  if behind = .past then query.leave statement
  else (.wait, { query.named statement with stage := behind.stage })

theorem prepared_named {statement : PrepareOk} (h : query.mismatch = none)
    (stage : PreparedStage) :
    { query.named statement with stage }.prepared = .ok (query.leave statement) := by
  unfold prepared leave named executing
  by_cases hfit : statement.parameters.toNat = query.parameters.length
  · simp only [if_pos hfit, h]
  · simp only [if_neg hfit]
    congr 1
    unfold finish
    rw [h]

theorem parametersDone_named {statement : PrepareOk} (h : query.mismatch = none)
    (stage : PreparedStage) :
    { query.named statement with stage }.parametersDone =
      .ok (query.advance statement (.behindParameters statement)) := by
  have hdone : { query.named statement with stage }.parametersDone =
      if 0 < statement.columns.toNat then
        .ok ({ query.named statement with stage }.inStage (.columns statement.columns.toNat))
      else { query.named statement with stage }.prepared := rfl
  rw [hdone, prepared_named h, advance, PreparePlace.behindParameters]
  by_cases hcolumns : 0 < statement.columns.toNat
  · rw [if_pos hcolumns, if_pos hcolumns, if_neg (by simp)]
    rfl
  · rw [if_neg hcolumns, if_neg hcolumns, if_pos rfl]

/-- **The first packet names a statement.** -/
theorem onPacket_first_iff (h : query.mismatch = none) :
    { query with stage := .prepareOk }.onPacket capabilities packet = .ok answer ↔
      ∃ statement, PrepareOk.parse packet.payload = .ok statement ∧
        answer = query.advance statement (.behindFirst statement) := by
  show onPrepareOk _ packet = _ ↔ _
  rw [onPrepareOk, Outcome.bind_eq_ok_iff]
  refine exists_congr fun statement => and_congr_right fun _ => ?_
  have hcheck : { { query with stage := .prepareOk } with
      statement := some statement }.checkParameters statement =
      { query.named statement with stage := .prepareOk } :=
    checkParameters_eq { query with stage := .prepareOk } statement
  have hzero : 0 < statement.parameters ↔ 0 < statement.parameters.toNat :=
    UInt16.lt_iff_toNat_lt
  dsimp only
  rw [hcheck, parametersDone_named h, PreparePlace.behindFirst]
  simp only [hzero]
  split
  · rw [advance, if_neg (by simp), Outcome.pure_eq, Except.ok.injEq]
    exact eq_comm
  · rw [Except.ok.injEq]
    exact eq_comm

/-- The definition of a parameter. -/
theorem onParameter_named_iff {statement : PrepareOk} (h : query.mismatch = none)
    {stage : PreparedStage} {remaining : Nat} :
    { query.named statement with stage }.onParameter capabilities packet remaining = .ok answer ↔
      (∃ column, Defines packet column) ∧
        answer = query.advance statement
          (if 1 < remaining then .parameters (remaining - 1)
          else .behindLast capabilities .parametersEnd (.behindParameters statement)) := by
  unfold onParameter Defines PreparePlace.behindLast
  rw [Outcome.bind_eq_ok_iff, exists_and_right]
  refine and_congr_right fun _ => ?_
  rw [parametersDone_named h]
  split
  · rw [advance, if_neg (by simp), Outcome.pure_eq, Except.ok.injEq]
    exact eq_comm
  · split
    · rw [Except.ok.injEq]
      exact eq_comm
    · rw [advance, if_neg (by simp), Outcome.pure_eq, Except.ok.injEq]
      exact eq_comm

/-- The definition of a column. -/
theorem onColumn_named_iff {statement : PrepareOk} (h : query.mismatch = none)
    {stage : PreparedStage} {remaining : Nat} :
    { query.named statement with stage }.onColumn capabilities packet remaining = .ok answer ↔
      (∃ column, Defines packet column) ∧
        answer = query.advance statement
          (if 1 < remaining then .columns (remaining - 1)
          else .behindLast capabilities .columnsEnd .past) := by
  unfold onColumn Defines PreparePlace.behindLast
  rw [Outcome.bind_eq_ok_iff, exists_and_right]
  refine and_congr_right fun _ => ?_
  rw [prepared_named h]
  split
  · rw [advance, if_neg (by simp), Outcome.pure_eq, Except.ok.injEq]
    exact eq_comm
  · split
    · rw [advance, if_pos rfl, Except.ok.injEq]
      exact eq_comm
    · rw [advance, if_neg (by simp), Outcome.pure_eq, Except.ok.injEq]
      exact eq_comm

/-! ## Places in the preparation -/

/-- **A prepared query takes a packet of the preparation exactly if it leads on from where the query
is.** -/
theorem onPacket_preparing_iff {statement : PrepareOk} (h : query.mismatch = none)
    {place : PreparePlace} (hplace : place.IsInside) :
    { query.named statement with stage := place.stage }.onPacket capabilities packet = .ok answer ↔
      ∃ behind, PreparePlace.Step capabilities statement place packet behind ∧
        answer = query.advance statement behind := by
  have hparameters := PreparePlace.isGroupPlace_parameters capabilities statement
  have hcolumns := PreparePlace.isGroupPlace_columns capabilities statement
  cases place with
  | first => exact hplace.elim
  | parameters remaining =>
    refine (onParameter_named_iff h).trans ?_
    obtain _ | _ | remaining := remaining
    · exact (Nat.lt_irrefl 0 hplace).elim
    · simp [hparameters.last]
    · simp [hparameters.more]
  | parametersEnd =>
    show expectEof packet .parameters (parametersDone _) = _ ↔ _
    rw [parametersDone_named h, expectEof, Outcome.ite_eq_ok_iff]
    simp [hparameters.ends]
  | columns remaining =>
    refine (onColumn_named_iff h).trans ?_
    obtain _ | _ | remaining := remaining
    · exact (Nat.lt_irrefl 0 hplace).elim
    · simp [hcolumns.last]
    · simp [hcolumns.more]
  | columnsEnd =>
    show expectEof packet .columns (prepared _) = _ ↔ _
    rw [prepared_named h, expectEof, Outcome.ite_eq_ok_iff]
    simp [hcolumns.ends, advance]
  | past => exact hplace.elim

/-- The packets lead past the answer to the preparation, the parameters fit, and the execution
completes with what is left. -/
def Executes (capabilities : Capabilities) (statement : PrepareOk) (query : PreparedQuery η)
    (place : PreparePlace) (packets : List Packet) (final : PreparedQuery η) : Prop :=
  ∃ front back, packets = front ++ back ∧
    PreparePlace.Path capabilities statement place front ∧
    statement.parameters.toNat = query.parameters.length ∧
    Command.Completes capabilities (query.executing statement) back final

variable {statement : PrepareOk} {place : PreparePlace} {packets : List Packet}
  {final : PreparedQuery η}

theorem executes_past_iff :
    query.Executes capabilities statement .past packets final ↔
      statement.parameters.toNat = query.parameters.length ∧
        Command.Completes capabilities (query.executing statement) packets final := by
  constructor
  · rintro ⟨front, back, rfl, hpath, hfit, hback⟩
    cases PreparePlace.path_past_iff.mp hpath
    exact ⟨hfit, hback⟩
  · rintro ⟨hfit, hback⟩
    exact ⟨[], packets, rfl, .past, hfit, hback⟩

theorem executes_cons_iff (hplace : place ≠ .past) :
    query.Executes capabilities statement place (packet :: packets) final ↔
      ∃ behind, PreparePlace.Step capabilities statement place packet behind ∧
        query.Executes capabilities statement behind packets final := by
  constructor
  · rintro ⟨front, back, heq, hpath, hrest⟩
    cases hpath with
    | past => exact absurd rfl hplace
    | step hstep hpath =>
      obtain ⟨rfl, rfl⟩ := List.cons.inj heq
      exact ⟨_, hstep, _, back, rfl, hpath, hrest⟩
  · rintro ⟨behind, hstep, front, back, rfl, hpath, hrest⟩
    exact ⟨packet :: front, back, rfl, .step hstep hpath, hrest⟩

theorem not_executes_nil (hplace : place ≠ .past) :
    ¬ query.Executes capabilities statement place [] final := by
  rintro ⟨front, back, hnil, hpath, -⟩
  obtain ⟨rfl, rfl⟩ := List.nil_eq_append_iff.mp hnil
  exact hplace (PreparePlace.path_nil_iff.mp hpath)

/-- Behind a packet of the preparation. -/
theorem completesSince_advance_iff {behind : PreparePlace} {packets : List Packet}
    (hinside : behind ≠ .past →
      (Command.Completes capabilities { query.named statement with stage := behind.stage } packets
        final ↔ query.Executes capabilities statement behind packets final)) :
    Command.CompletesSince capabilities packets final (query.advance statement behind) ↔
      query.Executes capabilities statement behind packets final := by
  unfold advance Command.CompletesSince
  by_cases hpast : behind = .past
  · subst hpast
    rw [if_pos rfl, executes_past_iff, leave]
    by_cases hfit : statement.parameters.toNat = query.parameters.length
    · rw [if_pos hfit]
      exact (and_iff_right hfit).symm
    · -- the query fails behind the preparation, whatever comes then
      rw [if_neg hfit]
      obtain ⟨⟨hdone, hfailure, -⟩, -⟩ := finish_closes { query with statement := some statement }
        (some (.parameterMismatch (.count statement.parameters.toNat query.parameters.length)))
      rw [if_pos hdone, hfailure]
      exact iff_of_false (by simp) fun h => hfit h.1
  · rw [if_neg hpast]
    exact hinside hpast

/-- What becomes of a prepared query within the answer to its preparation. -/
theorem completes_preparing_iff (h : query.mismatch = none) (hplace : place.IsInside)
    (hpackets : ∀ packet ∈ packets, packet.isErr = false) :
    Command.Completes capabilities { query.named statement with stage := place.stage } packets
        final ↔
      query.Executes capabilities statement place packets final := by
  have hne : place ≠ .past := by
    rintro rfl
    exact hplace
  -- packet by packet
  induction packets generalizing place with
  | nil => exact iff_of_false Command.not_completes_nil (not_executes_nil hne)
  | cons packet packets ih =>
    rw [List.forall_mem_cons] at hpackets
    rw [Command.completes_cons_iff, executes_cons_iff hne]
    simp only [handle_eq_ok_iff hpackets.1, onPacket_preparing_iff h hplace]
    have hbehind {behind : PreparePlace}
        (hstep : PreparePlace.Step capabilities statement place packet behind) :
        Command.CompletesSince capabilities packets final (query.advance statement behind) ↔
          query.Executes capabilities statement behind packets final :=
      completesSince_advance_iff fun hpast => ih (hstep.isInside hpast) hpackets.2 hpast
    constructor
    · rintro ⟨answer, ⟨behind, hstep, rfl⟩, hrest⟩
      exact ⟨behind, hstep, (hbehind hstep).mp hrest⟩
    · rintro ⟨behind, hstep, hrest⟩
      exact ⟨_, ⟨behind, hstep, rfl⟩, (hbehind hstep).mpr hrest⟩

/-! ## The grammar -/

/-- What becomes of a prepared query that has asked for the preparation. -/
theorem completes_prepareOk_iff (h : query.mismatch = none)
    (hpackets : ∀ packet ∈ packets, packet.isErr = false) :
    Command.Completes capabilities { query with stage := .prepareOk } packets final ↔
      ∃ statement, query.Executes capabilities statement .first packets final := by
  cases packets with
  | nil =>
    refine iff_of_false Command.not_completes_nil ?_
    rintro ⟨statement, hexecutes⟩
    exact not_executes_nil (by simp) hexecutes
  | cons packet packets =>
    rw [List.forall_mem_cons] at hpackets
    rw [Command.completes_cons_iff]
    have hfirst : PreparePlace.first ≠ .past := by simp
    simp only [handle_eq_ok_iff hpackets.1, onPacket_first_iff h, executes_cons_iff hfirst]
    have hbehind {statement : PrepareOk} {behind : PreparePlace}
        (hstep : PreparePlace.Step capabilities statement .first packet behind) :
        Command.CompletesSince capabilities packets final (query.advance statement behind) ↔
          query.Executes capabilities statement behind packets final :=
      completesSince_advance_iff fun hpast =>
        completes_preparing_iff h (hstep.isInside hpast) hpackets.2
    constructor
    · rintro ⟨answer, ⟨statement, hstatement, rfl⟩, hrest⟩
      exact ⟨statement, _, .first hstatement, (hbehind (.first hstatement)).mp hrest⟩
    · rintro ⟨statement, behind, ⟨hstatement⟩, hrest⟩
      exact ⟨_, ⟨statement, hstatement, rfl⟩, (hbehind (.first hstatement)).mpr hrest⟩

/-- **A prepared query completes with exactly the packets of its grammar**: a preparation that wants
as many parameters as there are, and behind it one or more results, of which the last one and no
other one tells that nothing follows.  Its handlers have then been given the rows and the summaries,
in order, and the statement is closed. -/
theorem completes_iff_isPreparation (capabilities : Capabilities) (sql : String)
    (parameters : List Value) {sink : Sink η} (hsink : sink.Succeeds) (state : η)
    {packets : List Packet} (hpackets : ∀ packet ∈ packets, packet.isErr = false)
    (final : PreparedQuery η) :
    Command.Completes capabilities
        (Command.activate capabilities
          { sql, parameters, delivery := { sink, state } : PreparedQuery η }).2
        packets final ↔
      ∃ statement front results back, packets = front ++ back ∧
        IsPreparation capabilities statement front ∧
        statement.parameters.toNat = parameters.length ∧
        AreResults .binary capabilities results back ∧
        final =
          { sql, parameters
            delivery := { sink, state := sink.called (results.flatMap Result.delivered) state }
            stage := .done
            statement := some statement
            released := true } := by
  let query : PreparedQuery η := { sql, parameters, delivery := { sink, state } }
  have hclose (statement : PrepareOk) (told : List Delivered) :
      (query.executing statement).close told =
        ({ Turn.finished with
            packets := [(Request.close statement.statementId).encode], resequence := true },
          { sql, parameters
            delivery := { sink, state := sink.called told state }
            stage := .done
            statement := some statement
            released := true }) := by
    rw [close, executing, hsink.handAll]
    rfl
  have hexecution (statement : PrepareOk) {back : List Packet}
      (hback : ∀ packet ∈ back, packet.isErr = false) :=
    (walks capabilities (query.executing statement)).completes_first_iff
      (fun told => by rw [hclose]; rfl) hback final
  simp only [hclose] at hexecution
  show Command.Completes capabilities { query with stage := .prepareOk } packets final ↔ _
  rw [completes_prepareOk_iff rfl hpackets]
  constructor
  · rintro ⟨statement, front, back, rfl, hpath, hfit, hback⟩
    rw [List.forall_mem_append] at hpackets
    obtain ⟨results, hresults, hfinal⟩ := (hexecution statement hpackets.2).mp hback
    exact ⟨statement, front, results, back, rfl, PreparePlace.path_first_iff.mp hpath, hfit,
      hresults, hfinal⟩
  · rintro ⟨statement, front, results, back, rfl, hpreparation, hfit, hresults, hfinal⟩
    rw [List.forall_mem_append] at hpackets
    exact ⟨statement, front, back, rfl, PreparePlace.path_first_iff.mpr hpreparation, hfit,
      (hexecution statement hpackets.2).mpr ⟨results, hresults, hfinal⟩⟩

/-- The answer to a preparation that wants one parameter and will give one column. -/
def samplePrepared : Sent.Prepared where
  statementId := 7
  parameters := [Sent.textColumn]
  columns := [Sent.textColumn]

/-- The packets of that answer, and of two results behind it. -/
def samplePackets : List Packet :=
  Sent.packetsOf (samplePrepared.items .protocol41) ++
    Sent.packetsOf (Sent.twoResults.flatMap (Sent.Result.items .binary .protocol41))

/-- A statement with one parameter, and two results of which the second one has a row, with EOF
packets. -/
theorem completes_samplePackets :
    Collected.sink.Succeeds ∧ (∀ packet ∈ samplePackets, packet.isErr = false) ∧
      Command.Completes .protocol41
        (Command.activate .protocol41
          { sql := "CALL p(?)", parameters := [.ofBool true],
            delivery := { sink := Collected.sink, state := {} } : PreparedQuery Collected }).2
        samplePackets
        { sql := "CALL p(?)"
          parameters := [.ofBool true]
          delivery :=
            { sink := Collected.sink
              state :=
                { rows := [⟨[Sent.textColumn.definition], [some [0x61]], .binary⟩]
                  summaries := [{ status := .moreResultsExist }, {}] } }
          stage := .done
          statement := some samplePrepared.statement
          released := true } := by
  have hpackets : ∀ packet ∈ samplePackets, packet.isErr = false := by decide +kernel
  have hvalid : samplePrepared.Valid :=
    ⟨by decide, by decide, List.forall_mem_singleton.mpr Sent.fits_textColumn,
      List.forall_mem_singleton.mpr Sent.fits_textColumn⟩
  exact ⟨Collected.succeeds_sink, hpackets,
    (completes_iff_isPreparation .protocol41 _ _ Collected.succeeds_sink {} hpackets _).mpr
      ⟨samplePrepared.statement, _, _, _, rfl,
        Sent.Prepared.isPreparation hvalid (Sent.carry_packetsOf _), rfl,
        Sent.areResults_twoResults .binary, by rw [Sent.called_twoResults]⟩⟩

end PreparedQuery

end MySqlClient
