import MySqlClient.Proofs.Dialogue.PreparedQuery
import MySqlClient.Proofs.Exchange.Handings

/-!
# Reactions to packets

What a command makes of a packet does not depend on the handlers of its caller, but for the failure
of the handler of rows, which is reported at the end.

* `Builtin.under`: the command with other handlers.
* `Reaction`: what a command makes of a packet, whatever its handlers are; `Reaction.Fits` says what
  such a reaction can be, and `Reaction.IsOf` that it is the command's.
* `Uniform`: a step of a command that is one reaction under all handlers; `Uniform.error`,
  `Uniform.bind`, `Uniform.ite`, `Uniform.waits` and `Uniform.ends` put such steps together.
* `TextQuery.exists_reaction`, `PreparedQuery.exists_reaction`, `Builtin.exists_reaction`: **every
  command reacts so to every packet.**
-/

namespace MySqlClient

/-! ## Other handlers -/

section

variable {η τ : Type}

/-- The query with other handlers. -/
def TextQuery.under (query : TextQuery η) (delivery : Delivery τ) : TextQuery τ where
  sql := query.sql
  delivery := delivery
  stage := query.stage

theorem TextQuery.under_stage (query : TextQuery η) (delivery : Delivery τ) :
    (query.under delivery).stage = query.stage := rfl

/-- The query with other handlers. -/
def PreparedQuery.under (query : PreparedQuery η) (delivery : Delivery τ) : PreparedQuery τ where
  sql := query.sql
  parameters := query.parameters
  delivery := delivery
  stage := query.stage
  statement := query.statement
  released := query.released
  mismatch := query.mismatch

theorem PreparedQuery.under_stage (query : PreparedQuery η) (delivery : Delivery τ) :
    (query.under delivery).stage = query.stage := rfl

/-- The execution is not requested yet. -/
def PreparedStage.isPreparing : PreparedStage → Bool
  | .idle | .prepareOk | .parameters _ | .parametersEof | .columns _ | .columnsEof => true
  | _ => false

/-- The row that a packet is among rows of the columns. -/
def Packet.row? (format : Format) (columns : List Column) (packet : Packet) : Option Row :=
  if packet.isErr || packet.isResultSetEnd then none
  else (Row.decode format columns packet.payload).toOption

namespace Packet

variable {packet : Packet}

theorem row?_of_isErr (h : packet.isErr = true) (format : Format) (columns : List Column) :
    packet.row? format columns = none := by
  rw [row?, h, Bool.true_or, if_pos rfl]

theorem row?_of_isResultSetEnd (h : packet.isResultSetEnd = true) (format : Format)
    (columns : List Column) : packet.row? format columns = none := by
  rw [row?, h, Bool.or_true, if_pos rfl]

theorem row?_of_other (herr : packet.isErr = false) (hend : ¬ packet.isResultSetEnd = true)
    (format : Format) (columns : List Column) :
    packet.row? format columns = (Row.decode format columns packet.payload).toOption := by
  rw [row?, if_neg (by simp [herr, hend])]

end Packet

end

namespace Builtin

variable {η τ : Type}

/-- The command with other handlers.  A ping has none. -/
def under (command : Builtin η) (delivery : Delivery τ) : Builtin τ :=
  match command with
  | ping p => ping p
  | query q => query (q.under delivery)
  | prepared q => prepared (q.under delivery)

/-- The row that a packet is to the command. -/
def row? (packet : Packet) : Builtin η → Option Row
  | query { stage := .rows columns, .. } => packet.row? .text columns
  | prepared { stage := .rows columns, .. } => packet.row? .binary columns
  | _ => none

/-- No handler is called any more. -/
def isSilent : Builtin η → Bool
  | ping _ => true
  | query q => q.stage == .done
  | prepared q => q.stage == .done

/-- Nothing has been handed over yet, since there is nothing that could have been. -/
def isUntold : Builtin η → Bool
  | ping _ => true
  | query _ => false
  | prepared q => q.stage.isPreparing

theorem row?_of_isErr {packet : Packet} (h : packet.isErr = true) (command : Builtin η) :
    command.row? packet = none := by
  unfold row?
  split
  · exact Packet.row?_of_isErr h _ _
  · exact Packet.row?_of_isErr h _ _
  · rfl

end Builtin

/-- The failure that an ERR packet stands for is what it reports. -/
theorem exists_report_of_serverFailure {capabilities : Capabilities} {packet : Packet}
    {failure : Error} (h : serverFailure capabilities packet = .ok failure) :
    ∃ report, ServerError.parse capabilities packet.payload = .ok report ∧
      failure = report.toError := by
  obtain ⟨report, hreport, heq⟩ := Outcome.bind_eq_ok h
  exact ⟨report, hreport, (Except.ok.inj heq).symm⟩

theorem Turn.keepOnError_map {σ τ : Type} (f : σ → τ) (command : σ)
    (step : Outcome (Turn × σ)) :
    (Turn.keepOnError command step).map id f =
      Turn.keepOnError (f command) (step.map (Prod.map id f)) := by
  cases step <;> rfl

/-! ## Reactions -/

section

variable {ε : Type} {capabilities : Capabilities} {packet : Packet} {command : Builtin ε}

/-- What a command makes of a packet, whatever its handlers are. -/
structure Reaction (ε : Type) where
  /-- The answer, in which a failure of the handler is missing. -/
  answer : Outcome Turn
  /-- What is handed over. -/
  things : List Delivered := []
  /-- The command ends without a failure of its own, and reports the handler's. -/
  reports : Bool := false
  /-- The command behind the packet. -/
  next : Builtin ε

namespace Reaction

/-- The answer when the handler has failed so. -/
def answerWith (failure : Option Error) (reaction : Reaction ε) : Outcome Turn :=
  if reaction.reports then reaction.answer.map fun turn => { turn with failure }
  else reaction.answer

/-- The reaction under some handlers. -/
def under {τ : Type} (reaction : Reaction ε) (delivery : Delivery τ) :
    Outcome Turn × Builtin τ :=
  let after := delivery.handAll reaction.things
  (reaction.answerWith after.failure,
    reaction.next.under (if reaction.reports then after.reported else after))

/-- How a command can answer.  `untold` says that nothing has been handed over yet; what is handed
over now and whether the failure of the handler is reported come last. -/
inductive Answers (capabilities : Capabilities) (packet : Packet) (untold : Bool) :
    Outcome Turn → List Delivered → Bool → Prop
  /-- The server broke the protocol. -/
  | fails {error : Error} : Answers capabilities packet untold (.error error) [] false
  /-- The exchange goes on. -/
  | waits {turn : Turn} {things : List Delivered} (hdone : turn.done = false)
      (hfailure : turn.failure = none) :
      Answers capabilities packet untold (.ok turn) things false
  /-- The server has failed the command. -/
  | isFailed {turn : Turn} {report : ServerError} (herr : packet.isErr = true)
      (hreport : ServerError.parse capabilities packet.payload = .ok report)
      (hdone : turn.done = true) (hfailure : turn.failure = some report.toError) :
      Answers capabilities packet untold (.ok turn) [] false
  /-- The command is over before there was anything to hand over. -/
  | endsEarly {turn : Turn} (herr : packet.isErr = false) (huntold : untold = true)
      (hdone : turn.done = true)
      (hfailure : turn.failure = none ∨
        ∃ fault, turn.failure = some (.parameterMismatch fault)) :
      Answers capabilities packet untold (.ok turn) [] false
  /-- The exchange has come to its end. -/
  | ends {turn : Turn} {things : List Delivered} (herr : packet.isErr = false)
      (hdone : turn.done = true) (hfailure : turn.failure = none) :
      Answers capabilities packet untold (.ok turn) things true

/-- What a reaction of a command to a packet can be. -/
structure Fits (capabilities : Capabilities) (packet : Packet) (command : Builtin ε)
    (reaction : Reaction ε) : Prop where
  /-- A row that comes is handed over, and no other one. -/
  rows : reaction.things.filterMap Delivered.row? = (command.row? packet).toList
  /-- Something is handed over only when there can be something. -/
  untold : reaction.next.isUntold = true → command.isUntold = true ∧ reaction.things = []
  /-- A command that calls no handler any more goes on so. -/
  silent : command.isSilent = true →
    reaction.next.isSilent = true ∧ reaction.things = [] ∧ reaction.reports = false
  /-- It has come to this with its last turn. -/
  silenced : ∀ turn, reaction.answer = .ok turn → turn.done = true → reaction.next.isSilent = true
  answers : Answers capabilities packet command.isUntold reaction.answer reaction.things
    reaction.reports

/-- The reaction of a command to a packet, under all handlers. -/
structure IsOf (capabilities : Capabilities) (packet : Packet) (command : Builtin ε)
    (reaction : Reaction ε) : Prop extends reaction.Fits capabilities packet command where
  handle_eq : ∀ (τ : Type) (delivery : Delivery τ),
    Command.handle capabilities packet (command.under delivery) = reaction.under delivery

/-- A packet that breaks the protocol. -/
theorem fits_error {next : Builtin ε} (hrow : command.row? packet = none)
    (huntold : next.isUntold = true → command.isUntold = true)
    (hsilent : command.isSilent = true → next.isSilent = true) (error : Error) :
    Fits capabilities packet command { answer := .error error, next } where
  rows := by
    rw [hrow]
    rfl
  untold h := ⟨huntold h, rfl⟩
  silent h := ⟨hsilent h, rfl, rfl⟩
  silenced _ h := by cases h
  answers := .fails

/-- The last turn of a command that does not ask its handler. -/
theorem fits_done {next : Builtin ε} (turn : Turn) (hrow : command.row? packet = none)
    (huntold : next.isUntold = true → command.isUntold = true) (hsilent : next.isSilent = true)
    (h : Answers capabilities packet command.isUntold (.ok turn) [] false) :
    Fits capabilities packet command { answer := .ok turn, next } where
  rows := by
    rw [hrow]
    rfl
  untold h := ⟨huntold h, rfl⟩
  silent _ := ⟨hsilent, rfl, rfl⟩
  silenced _ _ _ := hsilent
  answers := h

end Reaction

/-! ## Steps that are uniform in the handlers -/

/-- A step of a command is one reaction, whatever the handlers are.  The step of a query leads to
the query, which `wrap` makes a command again; if it fails, the command stays as it was. -/
def Uniform {σ : Type → Type} (capabilities : Capabilities) (packet : Packet)
    (command : Builtin ε) (wrap : ∀ τ : Type, σ τ → Builtin τ)
    (step : ∀ τ : Type, Delivery τ → Outcome (Turn × σ τ)) : Prop :=
  ∃ reaction : Reaction ε, reaction.Fits capabilities packet command ∧
    ∀ (τ : Type) (delivery : Delivery τ),
      Turn.keepOnError (command.under delivery)
          ((step τ delivery).map (Prod.map id (wrap τ))) =
        reaction.under delivery

namespace Uniform

variable {σ : Type → Type} {wrap : ∀ τ : Type, σ τ → Builtin τ}

/-- A step that fails. -/
theorem error (hrow : command.row? packet = none) (error : Error) :
    Uniform capabilities packet command wrap (fun _ _ => .error error) :=
  ⟨{ answer := .error error, next := command }, Reaction.fits_error hrow id id error,
    fun _ _ => rfl⟩

/-- A step that first reads something in the packet. -/
theorem bind {α : Type} {outcome : Outcome α}
    {step : α → ∀ τ : Type, Delivery τ → Outcome (Turn × σ τ)}
    (herror : ∀ error, outcome = .error error → command.row? packet = none)
    (h : ∀ value, outcome = .ok value → Uniform capabilities packet command wrap (step value)) :
    Uniform capabilities packet command wrap
      (fun τ delivery => outcome >>= fun value => step value τ delivery) := by
  cases houtcome : outcome with
  | error fault => exact error (herror fault houtcome) fault
  | ok value => exact h value houtcome

/-- A step that depends on a test. -/
theorem ite {p : Prop} [Decidable p]
    {step other : ∀ τ : Type, Delivery τ → Outcome (Turn × σ τ)}
    (hthen : p → Uniform capabilities packet command wrap step)
    (helse : ¬ p → Uniform capabilities packet command wrap other) :
    Uniform capabilities packet command wrap
      (fun τ delivery => if p then step τ delivery else other τ delivery) := by
  by_cases hp : p
  · simpa only [if_pos hp] using hthen hp
  · simpa only [if_neg hp] using helse hp

/-- A step that goes on. -/
theorem waits {step : ∀ τ : Type, Delivery τ → Outcome (Turn × σ τ)} (turn : Turn)
    (things : List Delivered) (next : Builtin ε) (hdone : turn.done = false)
    (hfailure : turn.failure = none) (hsilent : command.isSilent = false)
    (huntold : next.isUntold = true → command.isUntold = true ∧ things = [])
    (hrows : things.filterMap Delivered.row? = (command.row? packet).toList)
    (hstep : ∀ (τ : Type) (delivery : Delivery τ),
      (step τ delivery).map (Prod.map id (wrap τ)) =
        .ok (turn, next.under (delivery.handAll things))) :
    Uniform capabilities packet command wrap step := by
  refine ⟨{ answer := .ok turn, things, next }, ⟨hrows, huntold, ?_, ?_, .waits hdone hfailure⟩,
    fun τ delivery => by rw [hstep]; rfl⟩
  · intro h
    rw [hsilent] at h
    cases h
  · rintro _ ⟨⟩ h
    rw [hdone] at h
    cases h

/-- A step that ends the exchange when nothing has failed but the handler, if at all. -/
theorem ends {step : ∀ τ : Type, Delivery τ → Outcome (Turn × σ τ)} (turn : Turn)
    (things : List Delivered) (next : Builtin ε) (hdone : turn.done = true)
    (hfailure : turn.failure = none) (hsilent : command.isSilent = false)
    (herr : packet.isErr = false) (hnext : next.isSilent = true) (huntold : next.isUntold = false)
    (hrows : things.filterMap Delivered.row? = (command.row? packet).toList)
    (hstep : ∀ (τ : Type) (delivery : Delivery τ),
      (step τ delivery).map (Prod.map id (wrap τ)) =
        .ok ({ turn with failure := (delivery.handAll things).failure },
          next.under (delivery.handAll things).reported)) :
    Uniform capabilities packet command wrap step := by
  refine ⟨{ answer := .ok turn, things, reports := true, next },
    ⟨hrows, ?_, ?_, fun _ _ _ => hnext, .ends herr hdone hfailure⟩,
    fun τ delivery => by rw [hstep]; rfl⟩
  · intro h
    rw [huntold] at h
    cases h
  · intro h
    rw [hsilent] at h
    cases h

end Uniform

/-! ## Plain queries -/

namespace TextQuery

variable (query : TextQuery ε)

section

variable (hsilent : command.isSilent = false) (hrow : command.row? packet = none)

include hsilent hrow

/-- A step to another stage. -/
theorem uniform_inStage (stage : TextStage) :
    Uniform capabilities packet command (fun _ => .query)
      (fun _ delivery => .ok ((query.under delivery).inStage stage)) := by
  refine .waits .wait [] (.query { query with stage }) rfl rfl hsilent ?_ ?_ fun _ _ => rfl
  · intro h
    cases h
  · rw [hrow]
    rfl

/-- The end of a statement. -/
theorem uniform_statementDone (herr : packet.isErr = false) (summary : Summary) :
    Uniform capabilities packet command (fun _ => .query)
      (fun _ delivery => .ok ((query.under delivery).statementDone summary)) := by
  have hrows : [Delivered.summary summary].filterMap Delivered.row? =
      (command.row? packet).toList := by
    rw [hrow]
    rfl
  cases hmore : summary.status.moreResults with
  | true =>
    refine .waits .wait [.summary summary] (.query { query with stage := .columnCount }) rfl rfl
      hsilent ?_ hrows fun _ _ => ?_
    · intro h
      cases h
    · rw [statementDone, if_pos hmore]
      rfl
  | false =>
    refine .ends .finished [.summary summary] (.query { query with stage := .done }) rfl rfl hsilent
      herr rfl rfl hrows fun _ _ => ?_
    rw [statementDone, if_neg (by simp [hmore])]
    rfl

/-- The first packet of a statement's answer. -/
theorem uniform_onColumnCount (herr : packet.isErr = false) :
    Uniform capabilities packet command (fun _ => .query)
      (fun _ delivery => (query.under delivery).onColumnCount capabilities packet) := by
  unfold onColumnCount
  cases packet.header with
  | none => exact .error hrow _
  | some header =>
    refine .ite (fun _ => ?_) fun _ => .ite (fun _ => .error hrow _) fun _ => ?_
    · exact .bind (fun _ _ => hrow) fun summary _ =>
        query.uniform_statementDone hsilent hrow herr summary
    · refine .bind (fun _ _ => hrow) fun count _ => .ite (fun _ => .error hrow _) fun _ => ?_
      exact query.uniform_inStage hsilent hrow _

/-- A column. -/
theorem uniform_onColumn (remaining : Nat) (seen : List Column) :
    Uniform capabilities packet command (fun _ => .query)
      (fun _ delivery => (query.under delivery).onColumn capabilities packet remaining seen) :=
  .bind (fun _ _ => hrow) fun _ _ =>
    .ite (fun _ => query.uniform_inStage hsilent hrow _)
      fun _ => query.uniform_inStage hsilent hrow _

end

/-- A row, or the end of the rows. -/
theorem uniform_onRow (hsilent : command.isSilent = false) {columns : List Column}
    (hrow : command.row? packet = packet.row? .text columns) (herr : packet.isErr = false) :
    Uniform capabilities packet command (fun _ => .query)
      (fun _ delivery => (query.under delivery).onRow capabilities packet columns) := by
  refine .ite (fun hend => ?_) fun hend => ?_
  · have hnone := hrow.trans (Packet.row?_of_isResultSetEnd hend _ _)
    exact .bind (fun _ _ => hnone) fun summary _ =>
      query.uniform_statementDone hsilent hnone herr summary
  · have hread : command.row? packet = (Row.decodeText columns packet.payload).toOption :=
      hrow.trans (Packet.row?_of_other herr hend _ _)
    refine .bind (fun error herror => ?_) fun row hok => ?_
    · rw [hread, herror]
      rfl
    · refine .waits .wait [.row row] (.query query) rfl rfl hsilent ?_ ?_ fun _ _ => rfl
      · intro h
        cases h
      · rw [hread, hok]
        rfl

/-- A packet that does not fail the query. -/
theorem uniform_onPacket (h : ¬ (packet.isErr = true ∧ query.stage ≠ .done)) :
    Uniform capabilities packet (.query query) (fun _ => .query)
      (fun _ delivery => (query.under delivery).onPacket capabilities packet) := by
  obtain ⟨sql, delivery, stage⟩ := query
  cases stage with
  | idle | done => exact .error rfl _
  | columnCount => exact uniform_onColumnCount _ rfl rfl (by simpa using h)
  | columns remaining seen => exact uniform_onColumn _ rfl rfl remaining seen
  | columnsEof columns =>
    exact .ite (fun _ => uniform_inStage ⟨sql, delivery, _⟩ rfl rfl _) fun _ => .error rfl _
  | rows columns => exact uniform_onRow _ rfl rfl (by simpa using h)

/-- **A plain query reacts to a packet in the same way, whatever its handlers are.** -/
theorem exists_reaction (capabilities : Capabilities) (packet : Packet) :
    ∃ reaction : Reaction ε, reaction.IsOf capabilities packet (.query query) := by
  have hhandle (τ : Type) (delivery : Delivery τ) :
      Command.handle capabilities packet ((Builtin.query query).under delivery) =
        ((query.under delivery).handle capabilities packet).map id .query := rfl
  by_cases hserver : packet.isErr = true ∧ query.stage ≠ .done
  · have hrow := Builtin.row?_of_isErr hserver.1 (.query query)
    let next : Builtin ε := .query { query with stage := .done }
    cases hfailure : serverFailure capabilities packet with
    | error error =>
      refine ⟨{ answer := .error error, next },
        Reaction.fits_error hrow (fun h => by cases h) (fun _ => rfl) error, fun τ delivery => ?_⟩
      rw [hhandle, handle, under_stage, if_pos hserver, hfailure]
      rfl
    | ok failure =>
      obtain ⟨report, hreport, rfl⟩ := exists_report_of_serverFailure hfailure
      refine ⟨{ answer := .ok (.finished (some report.toError)), next },
        Reaction.fits_done _ hrow (fun h => by cases h) rfl (.isFailed hserver.1 hreport rfl rfl),
        fun τ delivery => ?_⟩
      rw [hhandle, handle, under_stage, if_pos hserver, hfailure]
      rfl
  · obtain ⟨reaction, hfits, hunder⟩ : Uniform capabilities packet (.query query)
        (fun _ => .query) fun _ delivery => (query.under delivery).onPacket capabilities packet :=
      query.uniform_onPacket hserver
    refine ⟨reaction, hfits, fun τ delivery => ?_⟩
    rw [hhandle, handle, under_stage, if_neg hserver, Turn.keepOnError_map, ← hunder]
    rfl

end TextQuery

/-! ## Prepared queries -/

namespace PreparedQuery

variable (query : PreparedQuery ε)

/-- The last turn is the same under all handlers, its failure apart. -/
theorem finish_under {τ : Type} (delivery : Delivery τ) (failure : Option Error) :
    (query.under delivery).finish failure =
      ({ (query.finish none).1 with failure }, (query.finish none).2.under delivery) := by
  obtain ⟨sql, parameters, told, stage, _ | statement, _ | _, mismatch⟩ := query <;> rfl

theorem finish_none : (query.finish none).1.done = true ∧ (query.finish none).1.failure = none ∧
    (query.finish none).2.stage = .done := by
  obtain ⟨sql, parameters, told, stage, _ | statement, _ | _, mismatch⟩ := query <;>
    exact ⟨rfl, rfl, rfl⟩

/-- The query behind its last turn. -/
theorem isSilent_finish :
    (Builtin.prepared (query.finish none).2).isSilent = true ∧
      (Builtin.prepared (query.finish none).2).isUntold = false := by
  have hstage := query.finish_none.2.2
  rw [Builtin.isSilent, Builtin.isUntold, hstage]
  exact ⟨rfl, rfl⟩

section

variable (hsilent : command.isSilent = false) (hrow : command.row? packet = none)

include hsilent hrow

/-- A step to another stage. -/
theorem uniform_inStage {stage : PreparedStage}
    (huntold : stage.isPreparing = true → command.isUntold = true) :
    Uniform capabilities packet command (fun _ => .prepared)
      (fun _ delivery => .ok ((query.under delivery).inStage stage)) := by
  refine .waits .wait [] (.prepared { query with stage }) rfl rfl hsilent
    (fun h => ⟨huntold h, rfl⟩) ?_ fun _ _ => rfl
  rw [hrow]
  rfl

/-! ### The preparation -/

section

variable (herr : packet.isErr = false) (huntold : command.isUntold = true)

include herr huntold

/-- The answer to the preparation is complete. -/
theorem uniform_prepared :
    Uniform capabilities packet command (fun _ => .prepared)
      (fun _ delivery => (query.under delivery).prepared) := by
  obtain ⟨sql, parameters, told, stage, statement, released, _ | fault⟩ := query
  · cases statement with
    | none => exact .error hrow _
    | some statement =>
      let next : PreparedQuery ε :=
        ⟨sql, parameters, told, .columnCount, some statement, released, none⟩
      refine .waits (.request (.execute statement.statementId parameters)) [] (.prepared next) rfl
        rfl hsilent (fun h => by cases h) ?_ fun _ _ => rfl
      rw [hrow]
      rfl
  · let next : PreparedQuery ε := ⟨sql, parameters, told, stage, statement, released, none⟩
    obtain ⟨hdone, -⟩ := next.finish_none
    obtain ⟨hnext, hnextUntold⟩ := next.isSilent_finish
    let turn : Turn := { (next.finish none).1 with failure := some (.parameterMismatch fault) }
    refine ⟨_, Reaction.fits_done turn hrow (fun _ => huntold) hnext
      (.endsEarly herr huntold hdone (Or.inr ⟨fault, rfl⟩)), fun τ delivery => ?_⟩
    · show Turn.keepOnError _ ((Except.ok ((next.under delivery).finish _)).map _) = _
      rw [finish_under]
      rfl

/-- The definitions of the parameters are complete. -/
theorem uniform_parametersDone :
    Uniform capabilities packet command (fun _ => .prepared)
      (fun _ delivery => (query.under delivery).parametersDone) := by
  let columns := (query.statement.map (·.columns.toNat)).getD 0
  show Uniform _ _ _ _ fun _ delivery =>
    if 0 < columns then .ok ((query.under delivery).inStage (.columns columns))
    else (query.under delivery).prepared
  exact .ite (fun _ => query.uniform_inStage hsilent hrow fun _ => huntold)
    fun _ => query.uniform_prepared hsilent hrow herr huntold

/-- The first packet. -/
theorem uniform_onPrepareOk :
    Uniform capabilities packet command (fun _ => .prepared)
      (fun _ delivery => (query.under delivery).onPrepareOk packet) := by
  refine .bind (fun _ _ => hrow) fun statement _ => ?_
  have hcheck (τ : Type) (delivery : Delivery τ) :
      { query.under delivery with statement := some statement }.checkParameters statement =
        (query.named statement).under delivery :=
    checkParameters_eq (query.under delivery) statement
  simp only [hcheck]
  exact .ite (fun _ => uniform_inStage _ hsilent hrow fun _ => huntold)
    fun _ => uniform_parametersDone _ hsilent hrow herr huntold

/-- The definition of a parameter. -/
theorem uniform_onParameter (remaining : Nat) :
    Uniform capabilities packet command (fun _ => .prepared)
      (fun _ delivery => (query.under delivery).onParameter capabilities packet remaining) :=
  .bind (fun _ _ => hrow) fun _ _ =>
    .ite (fun _ => query.uniform_inStage hsilent hrow fun _ => huntold) fun _ =>
      .ite (fun _ => query.uniform_parametersDone hsilent hrow herr huntold)
        fun _ => query.uniform_inStage hsilent hrow fun _ => huntold

/-- The definition of a column of the preparation. -/
theorem uniform_onColumn (remaining : Nat) :
    Uniform capabilities packet command (fun _ => .prepared)
      (fun _ delivery => (query.under delivery).onColumn capabilities packet remaining) :=
  .bind (fun _ _ => hrow) fun _ _ =>
    .ite (fun _ => query.uniform_inStage hsilent hrow fun _ => huntold) fun _ =>
      .ite (fun _ => query.uniform_prepared hsilent hrow herr huntold)
        fun _ => query.uniform_inStage hsilent hrow fun _ => huntold

end

/-! ### The results -/

/-- The end of a result. -/
theorem uniform_resultDone (herr : packet.isErr = false) (summary : Summary) :
    Uniform capabilities packet command (fun _ => .prepared)
      (fun _ delivery => .ok ((query.under delivery).resultDone summary)) := by
  have hrows : [Delivered.summary summary].filterMap Delivered.row? =
      (command.row? packet).toList := by
    rw [hrow]
    rfl
  cases hmore : summary.status.moreResults with
  | true =>
    refine .waits .wait [.summary summary] (.prepared { query with stage := .columnCount }) rfl
      rfl hsilent (fun h => by cases h) hrows fun _ _ => ?_
    rw [resultDone, if_pos hmore]
    rfl
  | false =>
    obtain ⟨hdone, hfailure, -⟩ := query.finish_none
    obtain ⟨hnext, huntold⟩ := query.isSilent_finish
    refine .ends (query.finish none).1 [.summary summary] (.prepared (query.finish none).2) hdone
      hfailure hsilent herr hnext huntold hrows fun _ delivery => ?_
    have hlast : (query.under delivery).resultDone summary =
        (query.under (delivery.summary summary).reported).finish
          (delivery.summary summary).failure := by
      rw [resultDone, if_neg (by simp [hmore])]
      rfl
    rw [hlast, finish_under]
    rfl

/-- The first packet of a result. -/
theorem uniform_onColumnCount (herr : packet.isErr = false) :
    Uniform capabilities packet command (fun _ => .prepared)
      (fun _ delivery => (query.under delivery).onColumnCount capabilities packet) := by
  unfold onColumnCount
  cases packet.header with
  | none => exact .error hrow _
  | some header =>
    refine .ite (fun _ => .bind (fun _ _ => hrow) fun summary _ =>
      query.uniform_resultDone hsilent hrow herr summary) fun _ => ?_
    exact .bind (fun _ _ => hrow) fun count _ =>
      .ite (fun _ => query.uniform_inStage hsilent hrow fun h => by cases h)
        fun _ => query.uniform_inStage hsilent hrow fun h => by cases h

omit hsilent hrow in
theorem isPreparing_afterColumns (capabilities : Capabilities) (columns : List Column) :
    (afterColumns capabilities columns).isPreparing = false := by
  unfold afterColumns
  split <;> rfl

/-- A column of a result. -/
theorem uniform_onResultColumn (remaining : Nat) (seen : List Column) :
    Uniform capabilities packet command (fun _ => .prepared)
      (fun _ delivery =>
        (query.under delivery).onResultColumn capabilities packet remaining seen) := by
  refine .bind (fun _ _ => hrow) fun column _ =>
    .ite (fun _ => query.uniform_inStage hsilent hrow fun h => by cases h)
      fun _ => query.uniform_inStage hsilent hrow fun h => ?_
  rw [isPreparing_afterColumns] at h
  cases h

end

/-- A row, or the end of the rows. -/
theorem uniform_onRow (hsilent : command.isSilent = false) {columns : List Column}
    (hrow : command.row? packet = packet.row? .binary columns) (herr : packet.isErr = false)
    (hstage : query.stage.isPreparing = false) :
    Uniform capabilities packet command (fun _ => .prepared)
      (fun _ delivery => (query.under delivery).onRow capabilities packet columns) := by
  refine .ite (fun hend => ?_) fun hend => ?_
  · have hnone := hrow.trans (Packet.row?_of_isResultSetEnd hend _ _)
    exact .bind (fun _ _ => hnone) fun summary _ =>
      query.uniform_resultDone hsilent hnone herr summary
  · have hread : command.row? packet = (Row.decodeBinary columns packet.payload).toOption :=
      hrow.trans (Packet.row?_of_other herr hend _ _)
    refine .bind (fun error herror => ?_) fun row hok => ?_
    · rw [hread, herror]
      rfl
    · refine .waits .wait [.row row] (.prepared query) rfl rfl hsilent (fun h => ?_) ?_
        fun _ _ => rfl
      · rw [Builtin.isUntold, hstage] at h
        cases h
      · rw [hread, hok]
        rfl

/-! ### All packets -/

/-- A packet that does not fail the query. -/
theorem uniform_onPacket (h : ¬ (packet.isErr = true ∧ query.stage ≠ .done)) :
    Uniform capabilities packet (.prepared query) (fun _ => .prepared)
      (fun _ delivery => (query.under delivery).onPacket capabilities packet) := by
  obtain ⟨sql, parameters, told, stage, statement, released, mismatch⟩ := query
  cases stage with
  | idle | done => exact .error rfl _
  | prepareOk => exact uniform_onPrepareOk _ rfl rfl (by simpa using h) rfl
  | parameters remaining => exact uniform_onParameter _ rfl rfl (by simpa using h) rfl remaining
  | parametersEof =>
    exact .ite (fun _ => uniform_parametersDone
      ⟨sql, parameters, told, .parametersEof, statement, released, mismatch⟩ rfl rfl
      (by simpa using h) rfl) fun _ => .error rfl _
  | columns remaining => exact uniform_onColumn _ rfl rfl (by simpa using h) rfl remaining
  | columnsEof =>
    exact .ite (fun _ => uniform_prepared
      ⟨sql, parameters, told, .columnsEof, statement, released, mismatch⟩ rfl rfl
      (by simpa using h) rfl) fun _ => .error rfl _
  | columnCount => exact uniform_onColumnCount _ rfl rfl (by simpa using h)
  | resultColumns remaining seen => exact uniform_onResultColumn _ rfl rfl remaining seen
  | resultColumnsEof columns =>
    exact .ite (fun _ => uniform_inStage
      ⟨sql, parameters, told, .resultColumnsEof columns, statement, released, mismatch⟩ rfl rfl
      fun h => by cases h) fun _ => .error rfl _
  | rows columns => exact uniform_onRow _ rfl rfl (by simpa using h) rfl

/-- **A prepared query reacts to a packet in the same way, whatever its handlers are.** -/
theorem exists_reaction (capabilities : Capabilities) (packet : Packet) :
    ∃ reaction : Reaction ε, reaction.IsOf capabilities packet (.prepared query) := by
  have hhandle (τ : Type) (delivery : Delivery τ) :
      Command.handle capabilities packet ((Builtin.prepared query).under delivery) =
        ((query.under delivery).handle capabilities packet).map id .prepared := rfl
  have hserve : Uniform capabilities packet (.prepared query) (fun _ => .prepared)
      (fun _ delivery =>
        if packet.isErr ∧ query.stage ≠ .done then do
          return (query.under delivery).finish (← serverFailure capabilities packet)
        else (query.under delivery).onPacket capabilities packet) := by
    refine .ite (fun hserver => ?_) fun hserver => query.uniform_onPacket hserver
    have hrow := Builtin.row?_of_isErr hserver.1 (.prepared query)
    refine .bind (fun _ _ => hrow) fun failure hfailure => ?_
    obtain ⟨report, hreport, rfl⟩ := exists_report_of_serverFailure hfailure
    obtain ⟨hdone, -⟩ := query.finish_none
    obtain ⟨hnext, huntold⟩ := query.isSilent_finish
    let turn : Turn := { (query.finish none).1 with failure := some report.toError }
    refine ⟨_, Reaction.fits_done turn hrow (fun h => ?_) hnext
      (.isFailed hserver.1 hreport hdone rfl), fun τ delivery => ?_⟩
    · rw [huntold] at h
      cases h
    · show Turn.keepOnError _ ((Except.ok ((query.under delivery).finish _)).map _) = _
      rw [finish_under]
      rfl
  obtain ⟨reaction, hfits, hunder⟩ := hserve
  refine ⟨reaction, hfits, fun τ delivery => ?_⟩
  rw [hhandle, handle, Turn.keepOnError_map, under_stage, ← hunder]
  rfl

end PreparedQuery

/-! ## All commands -/

/-- A ping has no handlers. -/
theorem Ping.exists_reaction (capabilities : Capabilities) (packet : Packet) (ping : Ping) :
    ∃ reaction : Reaction ε, reaction.IsOf capabilities packet (.ping ping) := by
  let next : Builtin ε := .ping ping
  suffices h : ∃ reaction : Reaction ε, reaction.Fits capabilities packet (.ping ping) ∧
      ∀ (τ : Type) (delivery : Delivery τ),
        (step capabilities packet, .ping ping) = reaction.under delivery by
    obtain ⟨reaction, hfits, hunder⟩ := h
    exact ⟨reaction, hfits, hunder⟩
  unfold step
  by_cases hok : packet.isOk = true
  · have herr : packet.isErr = false := by
      rw [Packet.isErr, eq_of_beq hok]
      rfl
    rw [if_pos hok]
    exact ⟨{ answer := .ok .finished, next },
      Reaction.fits_done _ rfl id rfl (.endsEarly herr rfl rfl (Or.inl rfl)), fun _ _ => rfl⟩
  · rw [if_neg hok]
    by_cases herr : packet.isErr = true
    · rw [if_pos herr]
      cases hfailure : serverFailure capabilities packet with
      | error error =>
        exact ⟨{ answer := .error error, next }, Reaction.fits_error rfl id id error,
          fun _ _ => rfl⟩
      | ok failure =>
        obtain ⟨report, hreport, rfl⟩ := exists_report_of_serverFailure hfailure
        exact ⟨{ answer := .ok (.finished (some report.toError)), next },
          Reaction.fits_done _ rfl id rfl (.isFailed herr hreport rfl rfl), fun _ _ => rfl⟩
    · rw [if_neg herr]
      exact ⟨{ answer := .error _, next }, Reaction.fits_error rfl id id _, fun _ _ => rfl⟩

/-- **A command reacts to a packet in the same way, whatever its handlers are.** -/
theorem Builtin.exists_reaction (capabilities : Capabilities) (packet : Packet)
    (command : Builtin ε) :
    ∃ reaction : Reaction ε, reaction.IsOf capabilities packet command := by
  cases command with
  | ping p => exact p.exists_reaction capabilities packet
  | query q => exact q.exists_reaction capabilities packet
  | prepared q => exact q.exists_reaction capabilities packet

end

end MySqlClient
