import MySqlClient.Proofs.Exchange.Asking
import MySqlClient.Proofs.Queue.Course

/-!
# Built-in commands that are under way

* `Builtin.IsOngoing`: the command waits for a packet, and if it waits for rows of text then they
  have a column.
* `TextQuery.goesOn_onPacket`, `PreparedQuery.goesOn_onPacket`: packets leave it so, as long as the
  command goes on.
* `Builtin.keeps_isOngoing`: **built-in commands come to be under way by their activation, and stay
  so while they go on.**
-/

namespace MySqlClient

/-- The query waits for a packet.  Rows of text have a column. -/
def TextStage.IsOngoing : TextStage → Prop
  | .idle | .done => False
  | .columnCount | .columns _ _ => True
  | .columnsEof seen | .rows seen => seen ≠ []

/-- The query waits for a packet. -/
def PreparedStage.IsOngoing : PreparedStage → Prop
  | .idle | .done => False
  | _ => True

/-- The command is under way. -/
def Builtin.IsOngoing {η : Type} : Builtin η → Prop
  | ping _ => True
  | query q => q.stage.IsOngoing
  | prepared q => q.stage.IsOngoing

variable {η : Type} {capabilities : Capabilities} {packet : Packet}

/-! ## Plain queries -/

namespace TextQuery

/-- The query is under way. -/
def IsOngoing (query : TextQuery η) : Prop := query.stage.IsOngoing

theorem goesOn_statementDone (query : TextQuery η) (summary : Summary) :
    Turn.GoesOn IsOngoing (.ok (query.statementDone summary)) := by
  unfold statementDone
  dsimp only
  split
  · exact .of_next trivial
  · exact .of_done rfl

theorem isOngoing_afterColumns (capabilities : Capabilities) {columns : List Column}
    (h : columns ≠ []) : (afterColumns capabilities columns).IsOngoing := by
  unfold afterColumns
  split <;> exact h

theorem goesOn_onColumnCount (query : TextQuery η) :
    Turn.GoesOn IsOngoing (query.onColumnCount capabilities packet) := by
  unfold onColumnCount
  split
  · exact .error _
  · exact .ite (.bind fun summary => query.goesOn_statementDone summary)
      (.ite (.error _) (.bind fun _ => .ite (.error _) (.of_next trivial)))

theorem goesOn_onColumn (query : TextQuery η) (remaining : Nat) (seen : List Column) :
    Turn.GoesOn IsOngoing (query.onColumn capabilities packet remaining seen) :=
  .bind fun _ => .ite (.of_next (isOngoing_afterColumns _ (by simp))) (.of_next trivial)

theorem goesOn_onRow {query : TextQuery η} (h : query.IsOngoing) (columns : List Column) :
    Turn.GoesOn IsOngoing (query.onRow capabilities packet columns) :=
  .ite (.bind fun summary => query.goesOn_statementDone summary) (.bind fun _ => .of_next h)

theorem goesOn_onPacket {query : TextQuery η} (h : query.IsOngoing) :
    Turn.GoesOn IsOngoing (query.onPacket capabilities packet) := by
  unfold onPacket
  split
  · exact query.goesOn_onColumnCount
  · exact query.goesOn_onColumn _ _
  · next hstage =>
    rw [IsOngoing, hstage] at h
    exact .ite (.of_next h) (.error _)
  · exact goesOn_onRow h _
  · exact .error _
  · exact .error _

theorem keeps_isOngoing : Command.Keeps (IsOngoing : TextQuery η → Prop) where
  activate h _ := by
    cases h
    trivial
  handle := by
    intro capabilities packet query next turn hquery hhandle hdone
    have heq : Command.handle capabilities packet query = query.handle capabilities packet := rfl
    rw [heq, handle] at hhandle
    split at hhandle
    · cases hfailure : serverFailure capabilities packet <;> rw [hfailure] at hhandle <;>
        cases hhandle
      cases hdone
    · exact (goesOn_onPacket hquery).keepOnError hhandle hdone

end TextQuery

/-! ## Prepared queries -/

namespace PreparedQuery

/-- The query is under way. -/
def IsOngoing (query : PreparedQuery η) : Prop := query.stage.IsOngoing

theorem goesOn_inStage (query : PreparedQuery η) {stage : PreparedStage} (h : stage.IsOngoing) :
    Turn.GoesOn IsOngoing (.ok (query.inStage stage)) :=
  .of_next h

theorem goesOn_finish (query : PreparedQuery η) (failure : Option Error) :
    Turn.GoesOn IsOngoing (.ok (query.finish failure)) :=
  .of_done (query.finish_closes failure).1.1

theorem goesOn_prepared (query : PreparedQuery η) :
    Turn.GoesOn IsOngoing query.prepared := by
  unfold prepared
  split
  · exact goesOn_finish _ _
  · exact .error _
  · exact .of_next trivial

theorem goesOn_parametersDone (query : PreparedQuery η) :
    Turn.GoesOn IsOngoing query.parametersDone :=
  .ite (goesOn_inStage _ trivial) query.goesOn_prepared

theorem goesOn_resultDone (query : PreparedQuery η) (summary : Summary) :
    Turn.GoesOn IsOngoing (.ok (query.resultDone summary)) := by
  unfold resultDone
  dsimp only
  split
  · exact .of_next trivial
  · exact goesOn_finish _ _

theorem isOngoing_afterColumns (capabilities : Capabilities) (columns : List Column) :
    (afterColumns capabilities columns).IsOngoing := by
  unfold afterColumns
  split <;> trivial

theorem goesOn_onColumnCount (query : PreparedQuery η) :
    Turn.GoesOn IsOngoing (query.onColumnCount capabilities packet) := by
  unfold onColumnCount
  split
  · exact .error _
  · exact .ite (.bind fun summary => query.goesOn_resultDone summary)
      (.bind fun _ => .ite (goesOn_inStage _ trivial) (goesOn_inStage _ trivial))

theorem goesOn_expectEof {next : Outcome (Turn × PreparedQuery η)}
    (h : Turn.GoesOn IsOngoing next) (behind : Definitions) :
    Turn.GoesOn IsOngoing (expectEof packet behind next) :=
  .ite h (.error _)

theorem goesOn_onPacket {query : PreparedQuery η} (h : query.IsOngoing) :
    Turn.GoesOn IsOngoing (query.onPacket capabilities packet) := by
  unfold onPacket
  split
  · exact .bind fun _ => .ite (goesOn_inStage _ trivial) (goesOn_parametersDone _)
  · exact .bind fun _ => .ite (goesOn_inStage _ trivial)
      (.ite query.goesOn_parametersDone (goesOn_inStage _ trivial))
  · exact goesOn_expectEof query.goesOn_parametersDone _
  · exact .bind fun _ => .ite (goesOn_inStage _ trivial)
      (.ite query.goesOn_prepared (goesOn_inStage _ trivial))
  · exact goesOn_expectEof query.goesOn_prepared _
  · exact query.goesOn_onColumnCount
  · exact .bind fun _ => .ite (goesOn_inStage _ trivial)
      (goesOn_inStage _ (isOngoing_afterColumns _ _))
  · next columns _ =>
    have hrows : PreparedStage.IsOngoing (.rows columns) := trivial
    exact goesOn_expectEof (query.goesOn_inStage hrows) _
  · exact .ite (.bind fun summary => query.goesOn_resultDone summary) (.bind fun _ => .of_next h)
  · exact .error _
  · exact .error _

theorem keeps_isOngoing : Command.Keeps (IsOngoing : PreparedQuery η → Prop) where
  activate h _ := by
    cases h
    trivial
  handle hquery hhandle hdone :=
    Turn.GoesOn.keepOnError
      (.ite (.bind fun _ => goesOn_finish _ _) (goesOn_onPacket hquery)) hhandle hdone

end PreparedQuery

/-! ## All commands -/

/-- **Built-in commands are under way from their activation on, as long as they go on.** -/
theorem Builtin.keeps_isOngoing : Command.Keeps (IsOngoing : Builtin η → Prop) := by
  have hping : Command.Keeps fun p : Ping => IsOngoing (.ping p : Builtin η) :=
    ⟨fun _ _ => trivial, fun _ _ _ => trivial⟩
  have hquery : Command.Keeps fun q : TextQuery η => IsOngoing (.query q) :=
    TextQuery.keeps_isOngoing
  have hprepared : Command.Keeps fun q : PreparedQuery η => IsOngoing (.prepared q) :=
    PreparedQuery.keeps_isOngoing
  constructor
  case activate =>
    intro capabilities command next turn hactivate hdone
    cases command with
    | ping p => exact hping.activate_map respects_ping hactivate hdone
    | query q => exact hquery.activate_map respects_query hactivate hdone
    | prepared q => exact hprepared.activate_map respects_prepared hactivate hdone
  case handle =>
    intro capabilities packet command next turn hcommand hhandle hdone
    cases command with
    | ping p => exact hping.handle_map respects_ping hcommand hhandle hdone
    | query q => exact hquery.handle_map respects_query hcommand hhandle hdone
    | prepared q => exact hprepared.handle_map respects_prepared hcommand hhandle hdone

end MySqlClient
