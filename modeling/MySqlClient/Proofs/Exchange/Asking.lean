import MySqlClient.Proofs.Exchange.Release
import MySqlClient.Proofs.Exchange.TextGrammar
import MySqlClient.Proofs.Queue.Recorded

/-!
# What commands ask for while they go on

A command that has asked is handed packets, and goes on as long as none of its answers is the last
one.  A built-in command then waits, or ends, or asks a second time; and it asks a second time only
for what a preparation has named that it has been handed to the end, and only once.

* `Command.Goes`: a command has been handed packets and goes on; `Command.Goes.feed_concat`: what
  it is fed with one packet more.
* `Command.Goes.exists_map`: a map that goes with commands goes with how they go on.
* `TextQuery.handle_cases`, `Ping.handle_closes`: plain queries and pings ask once.
* `PreparedQuery.handle_cases`: **a prepared query asks to execute what has been prepared to the
  end, and that once.**
* `Builtin.handle_cases`: **so there are three things that a built-in command does with a packet.**
-/

namespace MySqlClient

open Received

namespace Command

variable {σ τ : Type} [Command σ] [Command τ] {capabilities : Capabilities} {command now next : σ}
  {packets : List Packet} {packet : Packet} {turns : List Turn} {turn : Turn}

/-- The command has been handed the packets, has answered with the turns, of which none was the
last one, and is now `now`. -/
inductive Goes (capabilities : Capabilities) : σ → List Packet → List Turn → σ → Prop
  | nil (command : σ) : Goes capabilities command [] [] command
  | cons {command next now : σ} {packet : Packet} {packets : List Packet} {turn : Turn}
      {turns : List Turn} (h : Command.handle capabilities packet command = (.ok turn, next))
      (hwaits : turn.done = false) (rest : Goes capabilities next packets turns now) :
      Goes capabilities command (packet :: packets) (turn :: turns) now

theorem Goes.concat (h : Goes capabilities command packets turns now)
    (hhandle : Command.handle capabilities packet now = (.ok turn, next))
    (hwaits : turn.done = false) :
    Goes capabilities command (packets ++ [packet]) (turns ++ [turn]) next := by
  induction h with
  | nil command => exact .cons hhandle hwaits (.nil next)
  | cons hfirst hfirstWaits _ ih => exact .cons hfirst hfirstWaits (ih hhandle)

theorem Goes.length_eq (h : Goes capabilities command packets turns now) :
    turns.length = packets.length := by
  induction h with
  | nil => rfl
  | cons _ _ _ ih => rw [List.length_cons, List.length_cons, ih]

theorem Goes.done_eq_false (h : Goes capabilities command packets turns now) :
    ∀ turn ∈ turns, turn.done = false := by
  induction h with
  | nil => simp
  | cons _ hwaits _ ih => exact List.forall_mem_cons.mpr ⟨hwaits, ih⟩

/-- **One packet more** gives one answer more. -/
theorem Goes.feed_concat (h : Goes capabilities command packets turns now)
    (hhandle : Command.handle capabilities packet now = (.ok turn, next)) :
    feed capabilities (packets ++ [packet]) command = (turns.map .ok ++ [.ok turn], next) := by
  induction h with
  | nil command =>
    show feed capabilities [packet] command = _
    rw [feed_of_ok hhandle]
    by_cases hdone : turn.done = true
    · rw [since_of_done hdone]
      rfl
    · rw [since_of_wait (by simpa using hdone)]
      rfl
  | cons hfirst hwaits _ ih =>
    rw [List.cons_append, feed_of_ok hfirst, since_of_wait hwaits, ih hhandle]
    rfl

/-- What a mapped command is that goes on. -/
theorem Goes.exists_map (command : σ) {f : σ → τ} (hf : Respects f) {now : τ}
    (h : Goes capabilities (f command) packets turns now) :
    ∃ other, now = f other ∧ Goes capabilities command packets turns other := by
  generalize hstart : f command = start at h
  induction h generalizing command with
  | nil => exact ⟨command, hstart.symm, .nil command⟩
  | cons hhandle hwaits _ ih =>
    subst hstart
    rw [hf.handle_eq, Prod.map, Prod.mk.injEq] at hhandle
    obtain ⟨other, hnow, hgoes⟩ := ih _ hhandle.2
    exact ⟨other, hnow, .cons (Prod.ext hhandle.1 rfl) hwaits hgoes⟩

end Command

/-! ## Commands that ask once -/

/-- A ping is over with the first packet. -/
theorem Ping.handle_closes {capabilities : Capabilities} {packet : Packet} {ping next : Ping}
    {turn : Turn} (h : Command.handle capabilities packet ping = (.ok turn, next)) :
    turn.Closes turn.failure := by
  have hstep : step capabilities packet = .ok turn := congrArg Prod.fst h
  unfold step at hstep
  split at hstep
  · cases hstep
    exact Turn.closes_finished none
  · split at hstep
    · obtain ⟨failure, -, hstep⟩ := Outcome.bind_eq_ok hstep
      cases hstep
      exact Turn.closes_finished (some failure)
    · cases hstep

namespace TextQuery

variable {η : Type} {capabilities : Capabilities} {query next : TextQuery η} {packet : Packet}
  {turn : Turn}

theorem statementDone_cases (query : TextQuery η) (summary : Summary) :
    (query.statementDone summary).1 = .wait ∨
      ∃ failure, (query.statementDone summary).1 = .finished failure := by
  unfold statementDone
  dsimp only
  split
  · exact Or.inl rfl
  · exact Or.inr ⟨_, rfl⟩

theorem onPacket_cases (h : query.onPacket capabilities packet = .ok (turn, next)) :
    turn = .wait ∨ ∃ failure, turn = .finished failure := by
  unfold onPacket at h
  split at h
  · rcases onColumnCount_iff.mp h with ⟨summary, -, hanswer⟩ | ⟨number, -, hanswer⟩
    · rw [show turn = _ from congrArg Prod.fst hanswer]
      exact statementDone_cases query summary
    · exact Or.inl (congrArg Prod.fst hanswer)
  · obtain ⟨column, -, hanswer⟩ := onColumn_iff.mp h
    left
    split at hanswer <;> exact congrArg Prod.fst hanswer
  · exact Or.inl (congrArg Prod.fst (Outcome.ite_eq_ok_iff.mp h).2)
  · rcases onRow_iff.mp h with ⟨summary, -, hanswer⟩ | ⟨row, -, hanswer⟩
    · rw [show turn = _ from congrArg Prod.fst hanswer]
      exact statementDone_cases query summary
    · exact Or.inl (congrArg Prod.fst hanswer)
  · cases h
  · cases h

/-- **A plain query waits or is over**, with nothing to write. -/
theorem handle_cases (h : Command.handle capabilities packet query = (.ok turn, next)) :
    turn = .wait ∨ turn.Closes turn.failure := by
  have hturn : turn = .wait ∨ ∃ failure, turn = .finished failure := by
    change handle capabilities packet query = _ at h
    unfold handle at h
    split at h
    · obtain ⟨hanswer, -⟩ := Prod.mk.inj h
      cases hfailure : serverFailure capabilities packet with
      | error error =>
        rw [hfailure] at hanswer
        cases hanswer
      | ok failure =>
        rw [hfailure] at hanswer
        exact Or.inr ⟨some failure, (Except.ok.inj hanswer).symm⟩
    · cases hpacket : query.onPacket capabilities packet with
      | error error =>
        rw [hpacket] at h
        cases h
      | ok answer =>
        rw [hpacket] at h
        cases h
        exact onPacket_cases hpacket
  rcases hturn with hwait | ⟨failure, rfl⟩
  · exact Or.inl hwait
  · exact Or.inr (Turn.closes_finished failure)

end TextQuery

/-! ## Prepared queries -/

namespace Turn

theorem Releases.closes {named : Option PrepareOk} {turn : Turn} (h : turn.Releases named) :
    turn.Closes turn.failure := by
  obtain ⟨hdone, hpackets, hresequence⟩ := h
  refine ⟨hdone, rfl, ?_⟩
  cases named with
  | none => exact Or.inl hpackets
  | some statement => exact Or.inr ⟨hresequence, statement.statementId, hpackets⟩

end Turn

namespace PreparedQuery

variable {η : Type} {capabilities : Capabilities} {query now next : PreparedQuery η}
  {packets : List Packet} {packet : Packet} {turns : List Turn} {turn : Turn}

/-- A turn that has asked to execute is counted in what has been written. -/
theorem length_filter_written_pos {statementId : UInt32} {parameters : List Value}
    {answers : List (Outcome Turn)} (h : .ok turn ∈ answers)
    (hturn : turn = .request (.execute statementId parameters)) :
    0 < ((Command.written answers).filter Request.isExecute).length := by
  subst hturn
  apply List.length_pos_of_mem (a := (Request.execute statementId parameters).encode)
  refine List.mem_filter.mpr ⟨List.mem_flatMap.mpr ⟨_, h, ?_⟩, rfl⟩
  exact List.mem_singleton_self _

/-- **A prepared query that has asked for a preparation** waits, or ends, or asks to execute what
has been prepared with the packets to the end; and then it has only waited before. -/
theorem handle_cases (hreleased : query.released = false) (hmismatch : query.mismatch = none)
    (hstatement : query.statement = none)
    (hgoes : Command.Goes capabilities { query with stage := .prepareOk } packets turns now)
    (hhandle : Command.handle capabilities packet now = (.ok turn, next)) :
    turn = .wait ∨ turn.Closes turn.failure ∨
      ∃ statement, IsPreparation capabilities statement (packets ++ [packet]) ∧
        turn = .request (.execute statement.statementId query.parameters) ∧
        ∀ earlier ∈ turns, earlier = .wait := by
  have hcourse : IsCourse capabilities query.parameters (packets ++ [packet])
      (Command.feed capabilities (packets ++ [packet]) { query with stage := .prepareOk }) :=
    isCourse_feed query hreleased hmismatch hstatement
  rw [hgoes.feed_concat hhandle] at hcourse
  have hlength : (turns.map Except.ok : List (Outcome Turn)).length = packets.length := by
    rw [List.length_map, hgoes.length_eq]
  have hlast : (turns.map Except.ok ++ [.ok turn] : List (Outcome Turn))[packets.length]? =
      some (.ok turn) := by
    rw [← hlength, List.getElem?_concat_length]
  rcases hcourse.turn_cases hlast with hwait | ⟨hreleases, -⟩ | ⟨statement, hfront, -, -, hturn⟩
  · exact Or.inl hwait
  · exact Or.inr (Or.inl hreleases.closes)
  · refine Or.inr (Or.inr ⟨statement, ?_, hturn, fun earlier hmem => ?_⟩)
    · rwa [List.take_of_length_le (by simp)] at hfront
    · -- it has not ended before, and does not execute twice
      obtain ⟨index, hindex⟩ := List.mem_iff_getElem?.mp (List.mem_map_of_mem (f := Except.ok) hmem)
      have hearlier : (turns.map Except.ok ++ [.ok turn] : List (Outcome Turn))[index]? =
          some (.ok earlier) := by
        rw [List.getElem?_append_left (List.getElem?_eq_some_iff.mp hindex).1]
        exact hindex
      rcases hcourse.turn_cases hearlier with hwait | ⟨hreleases, -⟩ | ⟨other, -, -, -, hother⟩
      · exact hwait
      · have hwaits := hgoes.done_eq_false earlier hmem
        rw [hreleases.1] at hwaits
        cases hwaits
      · have honce := hcourse.executes_once
        rw [Command.written_append, List.filter_append, List.length_append] at honce
        have hfirst := length_filter_written_pos (List.mem_map_of_mem (f := Except.ok) hmem) hother
        have hsecond := length_filter_written_pos
          (List.mem_singleton_self (.ok turn : Outcome Turn)) hturn
        omega

end PreparedQuery

/-! ## Built-in commands -/

namespace Builtin

variable {η : Type} {capabilities : Capabilities} {original start now next : Builtin η}
  {packets : List Packet} {packet : Packet} {turns : List Turn} {turn : Turn} {request : Request}

theorem respects_ping : Command.Respects (ping : Ping → Builtin η) :=
  ⟨fun _ => rfl, fun _ _ => rfl, fun _ _ _ => rfl⟩

theorem respects_query : Command.Respects (query : TextQuery η → Builtin η) :=
  ⟨fun _ => rfl, fun _ _ => rfl, fun _ _ _ => rfl⟩

theorem respects_prepared : Command.Respects (prepared : PreparedQuery η → Builtin η) :=
  ⟨fun _ => rfl, fun _ _ => rfl, fun _ _ _ => rfl⟩

/-- The request that a command begins with. -/
def firstRequest : Builtin η → Request
  | ping _ => .ping
  | query q => .query q.sql
  | prepared q => .prepare q.sql

/-- A command that has begun. -/
def begun : Builtin η → Builtin η
  | ping p => .ping p
  | query q => .query { q with stage := .columnCount }
  | prepared q => .prepared { q with stage := .prepareOk }

/-- **A command begins with its request.** -/
theorem activate_eq (capabilities : Capabilities) (command : Builtin η) :
    Command.activate capabilities command =
      (.ok (.request command.firstRequest), command.begun) := by
  cases command <;> rfl

/-- A built-in command asks again: it executes what has been prepared with the packets to the
end, and has only waited before. -/
def AsksAgain (capabilities : Capabilities) (original : Builtin η) (packets : List Packet)
    (turns : List Turn) (turn : Turn) : Prop :=
  ∃ sql statement parameters, original.firstRequest = .prepare sql ∧
    IsPreparation capabilities statement packets ∧
    turn = .request (.execute statement.statementId parameters) ∧
    ∀ earlier ∈ turns, earlier = .wait

/-- **A built-in command that has asked waits, or ends, or asks again.** -/
theorem handle_cases (hfresh : original.Fresh)
    (hgoes : Command.Goes capabilities original.begun packets turns now)
    (hhandle : Command.handle capabilities packet now = (.ok turn, next)) :
    turn = .wait ∨ turn.Closes turn.failure ∨
      AsksAgain capabilities original (packets ++ [packet]) turns turn := by
  cases original with
  | ping p =>
    obtain ⟨other, rfl, -⟩ := Command.Goes.exists_map p respects_ping hgoes
    rw [respects_ping.handle_eq, Prod.map, Prod.mk.injEq] at hhandle
    exact Or.inr (Or.inl (Ping.handle_closes (Prod.ext hhandle.1 rfl)))
  | query q =>
    obtain ⟨other, rfl, -⟩ := Command.Goes.exists_map { q with stage := .columnCount }
      respects_query hgoes
    rw [respects_query.handle_eq, Prod.map, Prod.mk.injEq] at hhandle
    exact (TextQuery.handle_cases (Prod.ext hhandle.1 rfl)).imp_right Or.inl
  | prepared q =>
    obtain ⟨-, hstatement, hreleased, hmismatch⟩ := hfresh
    obtain ⟨other, rfl, hother⟩ :=
      Command.Goes.exists_map { q with stage := .prepareOk } respects_prepared hgoes
    rw [respects_prepared.handle_eq, Prod.map, Prod.mk.injEq] at hhandle
    rcases PreparedQuery.handle_cases hreleased hmismatch hstatement hother
      (Prod.ext hhandle.1 rfl) with hwait | hcloses | ⟨statement, hfront, hturn, hwaits⟩
    · exact Or.inl hwait
    · exact Or.inr (Or.inl hcloses)
    · exact Or.inr (Or.inr ⟨q.sql, statement, q.parameters, rfl, hfront, hturn, hwaits⟩)

end Builtin

end MySqlClient
