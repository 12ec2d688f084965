import MySqlClient.Proofs.Connection.Cuts
import MySqlClient.Proofs.Connection.Queued
import MySqlClient.Proofs.Exchange.Ongoing

/-!
# Empty packets

Every packet of a server has a header.  One without any octets ends the session, whatever the
connection waits for: a greeting, the next packet of the authentication, or the answer to a command
in any of its stages.  In front of rows that takes what has come about before: rows of text have a
column, so that a row without octets lacks a field.

* `Builtin.exists_handle_empty`: **no command that is under way takes an empty packet.**
* `Queue.exists_handle_empty`: what a queue does with one.
* `Connection.Refuses`: the session is over because of a packet, and everybody has been told.
* `Connection.Reachable`: what a connection can come to, between two packets or two steps.
* `Connection.Reachable.refuses_empty`: **an empty packet always ends the session.**
-/

namespace MySqlClient

/-- A packet without octets. -/
def Packet.empty (sequence : UInt8) : Packet := ⟨sequence, []⟩

@[simp] theorem Packet.isErr_empty (sequence : UInt8) : (empty sequence).isErr = false := rfl

/-! ## Commands -/

section

variable {η : Type}

theorem TextQuery.exists_onPacket_empty {query : TextQuery η} (h : query.stage.IsOngoing)
    (capabilities : Capabilities) (sequence : UInt8) :
    ∃ error, query.onPacket capabilities (.empty sequence) = .error error := by
  unfold onPacket
  split
  · exact ⟨_, rfl⟩
  · exact ⟨_, rfl⟩
  · exact ⟨_, rfl⟩
  · next columns hstage =>
    rw [hstage] at h
    cases columns with
    | nil => exact absurd rfl h
    | cons column columns => exact ⟨_, rfl⟩
  · exact ⟨_, rfl⟩
  · exact ⟨_, rfl⟩

theorem PreparedQuery.exists_onPacket_empty (query : PreparedQuery η) (capabilities : Capabilities)
    (sequence : UInt8) : ∃ error, query.onPacket capabilities (.empty sequence) = .error error := by
  unfold onPacket
  split <;> exact ⟨_, rfl⟩

/-- **No command that is under way takes an empty packet**, and it stays as it is. -/
theorem Builtin.exists_handle_empty {command : Builtin η} (h : command.IsOngoing)
    (capabilities : Capabilities) (sequence : UInt8) :
    ∃ error, Command.handle capabilities (.empty sequence) command = (.error error, command) := by
  cases command with
  | ping p => exact ⟨_, rfl⟩
  | query q =>
    obtain ⟨error, hpacket⟩ := q.exists_onPacket_empty h capabilities sequence
    refine ⟨error, ?_⟩
    show (TextQuery.handle capabilities (.empty sequence) q).map id query = _
    rw [TextQuery.handle, if_neg (by simp), hpacket]
    rfl
  | prepared q =>
    obtain ⟨error, hpacket⟩ := q.exists_onPacket_empty capabilities sequence
    refine ⟨error, ?_⟩
    show (PreparedQuery.handle capabilities (.empty sequence) q).map id prepared = _
    rw [PreparedQuery.handle, if_neg (by simp), hpacket]
    rfl

end

/-! ## The queue -/

/-- The command is complete with an error. -/
def Completion.IsFailure {σ : Type} (completion : Completion σ) : Prop :=
  ∃ error, completion.result = .error error

namespace Queue

variable {η : Type}

theorem isFailure_failAll {σ : Type} (queue : Queue σ) :
    ∀ completion ∈ queue.failAll.completions, completion.IsFailure := by
  intro completion hmem
  obtain ⟨entry, -, rfl⟩ := List.mem_map.mp hmem
  exact ⟨.closed, rfl⟩

theorem entries_failAll {σ : Type} (queue : Queue σ) :
    queue.failAll.completions.map Completion.entry = queue.entries := by
  show (queue.entries.map _).map _ = _
  rw [List.map_map]
  exact List.map_id _

/-- **What a queue does with an empty packet**: it refuses it, and the head, if it is active, is
complete as it is, with an error. -/
theorem exists_handle_empty {queue : Queue (Builtin η)} (h : HeadHas Builtin.IsOngoing queue)
    (sequence : UInt8) :
    ∃ error, (queue.handle (.empty sequence)).result = .error error ∧
      (queue.handle (.empty sequence)).completions.map Completion.entry ++
        (queue.handle (.empty sequence)).queue.entries = queue.entries ∧
      ∀ completion ∈ (queue.handle (.empty sequence)).completions, completion.IsFailure := by
  obtain ⟨entries, active, agreed⟩ := queue
  cases agreed with
  | none => exact ⟨.protocol .beforeSession, rfl, rfl, List.forall_mem_nil _⟩
  | some capabilities =>
    have hreport : isProgressReport capabilities (Packet.empty sequence).payload = false :=
      Bool.and_false _
    cases active with
    | false =>
      simp only [handle, hreport, Bool.false_eq_true, if_false, Bool.not_false, if_true]
      exact ⟨_, rfl, rfl, List.forall_mem_nil _⟩
    | true =>
      obtain ⟨head, rest, hentries, hhead⟩ := h rfl
      dsimp only at hentries
      subst hentries
      obtain ⟨error, hhandle⟩ := Builtin.exists_handle_empty hhead capabilities sequence
      rw [handle_of_active hreport, handleHead, hhandle]
      exact ⟨_, rfl, rfl, List.forall_mem_singleton.mpr ⟨error, rfl⟩⟩

end Queue

/-! ## The lifecycle -/

namespace Lifecycle

/-- The server is to send a packet: its greeting, one of the authentication, or an answer. -/
def IsListening : Lifecycle → Prop
  | awaitingGreeting | authenticating _ _ | ready _ => True
  | start | awaitingTls _ _ | closed => False

theorem IsListening.isClosed_eq_false {state : Lifecycle} (h : state.IsListening) :
    state.isClosed = false := by
  cases state with
  | closed => exact h.elim
  | _ => rfl

/-- Before commands may flow, an empty packet is a failure. -/
theorem exists_onEvent_empty {state : Lifecycle} (hopen : state.isClosed = false)
    (hready : state.isReady = false) (login : Login) (sequence : UInt8) :
    ∃ error, onEvent login state (.packet (.empty sequence)) = failWith error := by
  cases state with
  | closed => cases hopen
  | ready => cases hready
  | _ => exact ⟨_, rfl⟩

end Lifecycle

/-! ## Connections -/

/-- The command that is complete. -/
def Notice.completion? {σ : Type} : Notice σ → Option (Completion σ)
  | completed completion => some completion
  | _ => none

namespace Connection

variable {σ : Type}

/-- A packet has been refused.  The session is over, and nothing has been written.  Whoever waits
for the session to be established has been told an error; and all commands of the queue have been
completed in order with errors, as they were. -/
structure Refuses (before after : Connection σ) : Prop where
  lifecycle : after.lifecycle = .closed
  sent : after.transport.sent = before.transport.sent
  entries : after.queue.entries = []
  establishing : after.establishing = false
  told : ∃ news, after.notices = before.notices ++ news ∧
    (∃ error, news.filterMap Notice.outcome? =
      if before.establishing then [.error error] else []) ∧
    (news.filterMap Notice.completion?).map Completion.entry = before.queue.entries ∧
    ∀ completion ∈ news.filterMap Notice.completion?, completion.IsFailure

/-! ### What is told -/

theorem exists_enter_eq (connection : Connection σ) (lifecycle : Lifecycle) :
    ∃ entered : List Lifecycle, connection.enter lifecycle =
      { connection with lifecycle, notices := connection.notices ++ entered.map .entered } := by
  unfold enter
  dsimp only
  split
  · exact ⟨[], by simp⟩
  · exact ⟨[lifecycle], rfl⟩

theorem tellEstablished_eq (connection : Connection σ) (result : Outcome Session) :
    connection.tellEstablished result =
      { connection with
        establishing := false
        notices := connection.notices ++
          if connection.establishing then [.established result] else [] } := by
  unfold tellEstablished
  cases hestablishing : connection.establishing with
  | true => rfl
  | false =>
    rw [if_neg (by simp), if_neg (by simp), List.append_nil, ← hestablishing]

theorem completions_completed (completions : List (Completion σ)) :
    (completions.map Notice.completed).filterMap Notice.completion? = completions := by
  rw [List.filterMap_map]
  exact List.filterMap_some

theorem filterMap_entered {α : Type} {f : Notice σ → Option α}
    (h : ∀ state, f (.entered state) = none)
    (entered : List Lifecycle) : (entered.map Notice.entered).filterMap f = [] := by
  rw [List.filterMap_eq_nil_iff]
  intro notice hmem
  obtain ⟨state, -, rfl⟩ := List.mem_map.mp hmem
  exact h state

variable [Command σ] {connection : Connection σ}

/-- An event that fails a session refuses whatever has come. -/
theorem refuses_dispatch_of_fails {event : Lifecycle.Event} {error : Error}
    (h : connection.lifecycle.onEvent connection.login event = Lifecycle.failWith error) :
    Refuses connection (connection.dispatch event) := by
  have hends := ends_dispatch_of_fails h
  have hreact : connection.react event =
      (((connection.enter .closed).tellEstablished (.error error)).failQueue, .done) := by
    rw [react, h]
    rfl
  obtain ⟨entered, henter⟩ := exists_enter_eq connection .closed
  rw [dispatch_of_done (by rw [hreact]), hreact, tellEstablished_eq, henter] at hends ⊢
  let outcome : List (Notice σ) :=
    if connection.establishing then [.established (.error error)] else []
  have houtcomes : outcome.filterMap Notice.outcome? =
      if connection.establishing then [.error error] else [] := by
    unfold outcome
    split <;> rfl
  have hcompletions : outcome.filterMap Notice.completion? = [] := by
    unfold outcome
    split <;> rfl
  refine ⟨hends.lifecycle, hends.sent, rfl, rfl, entered.map Notice.entered ++
    (outcome ++ connection.queue.failAll.completions.map Notice.completed), ?_, ⟨error, ?_⟩, ?_⟩
  · simp only [failQueue, complete, tell, List.append_assoc]
    rfl
  · rw [List.filterMap_append, List.filterMap_append, filterMap_entered (fun _ => rfl) entered,
      Notice.outcomes_completed, houtcomes, List.nil_append, List.append_nil]
  · rw [List.filterMap_append, List.filterMap_append, filterMap_entered (fun _ => rfl) entered,
      hcompletions, completions_completed, List.nil_append, List.nil_append]
    exact ⟨Queue.entries_failAll _, Queue.isFailure_failAll _⟩

/-- A refusal that comes behind a packet that the queue has handled. -/
theorem Refuses.of_handled {packet : Packet} {after : Connection σ}
    (h : Refuses (connection.handled packet) after)
    (hentries : (connection.queue.handle packet).completions.map Completion.entry ++
      (connection.queue.handle packet).queue.entries = connection.queue.entries)
    (hfailures : ∀ completion ∈ (connection.queue.handle packet).completions,
      completion.IsFailure) : Refuses connection after := by
  obtain ⟨hlifecycle, hsent, hempty, hestablishing, news, hnotices, ⟨error, houtcome⟩, htold,
    hfailed⟩ := h
  refine ⟨hlifecycle, hsent, hempty, hestablishing,
    (connection.queue.handle packet).completions.map .completed ++ news, ?_, ⟨error, ?_⟩, ?_⟩
  · rw [hnotices, ← List.append_assoc]
    rfl
  · rw [List.filterMap_append, Notice.outcomes_completed]
    exact houtcome
  · rw [List.filterMap_append, completions_completed, List.map_append, htold]
    exact ⟨hentries, List.forall_mem_append.mpr ⟨hfailures, hfailed⟩⟩

end Connection

namespace Connection

variable {η : Type} {connection : Connection (Builtin η)}

/-- **Unless the session is over, an empty packet is refused.** -/
theorem refuses_take_empty (hhead : Queue.HeadHas Builtin.IsOngoing connection.queue)
    (hopen : connection.lifecycle.isClosed = false) (sequence : UInt8) :
    Refuses connection (connection.take (.empty sequence)) := by
  cases hready : connection.lifecycle.isReady with
  | false =>
    obtain ⟨error, hevent⟩ :=
      Lifecycle.exists_onEvent_empty hopen hready connection.login sequence
    rw [take_of_not_isReady hready]
    exact refuses_dispatch_of_fails hevent
  | true =>
    obtain ⟨error, hresult, hentries, hfailures⟩ := Queue.exists_handle_empty hhead sequence
    have hfails : (connection.handled (.empty sequence)).lifecycle.onEvent
        (connection.handled (.empty sequence)).login (.failed error) =
          Lifecycle.failWith error := by
      show connection.lifecycle.onEvent connection.login (.failed error) = _
      cases hlifecycle : connection.lifecycle with
      | closed =>
        rw [hlifecycle] at hopen
        cases hopen
      | _ => rfl
    rw [take_of_error hready hresult]
    exact (refuses_dispatch_of_fails hfails).of_handled hentries hfailures

/-! ## What a connection can come to -/

/-- What a connection can come to: by steps, and within them by packets and by the end of an
upgrade. -/
inductive Reachable (login : Login) (tlsAvailable : Bool) (fault : Nat → Option Error) :
    Connection (Builtin η) → Prop
  | opened : Reachable login tlsAvailable fault (openOver login tlsAvailable fault)
  | step {connection : Connection (Builtin η)} (h : Reachable login tlsAvailable fault connection)
      (input : Input (Builtin η)) : Reachable login tlsAvailable fault (connection.step input)
  | taken {connection : Connection (Builtin η)} (h : Reachable login tlsAvailable fault connection)
      (hattentive : connection.isAttentive = true) {octets rest : Bytes} {framing : Framing}
      {packet : Packet}
      (hdecode : connection.framing.decode octets = ⟨.ok (some packet), framing, rest⟩) :
      Reachable login tlsAvailable fault
        (Connection.take { connection with framing, inbox := rest } packet)
  | resumed {connection : Connection (Builtin η)}
      (h : Reachable login tlsAvailable fault connection) {suspension : Suspension}
      (hsuspension : connection.suspension = some suspension) (result : Outcome Unit) :
      Reachable login tlsAvailable fault (connection.resume suspension result)

namespace Reachable

variable {login : Login} {tlsAvailable : Bool} {fault : Nat → Option Error}

theorem poised (h : Reachable login tlsAvailable fault connection) : connection.Poised := by
  induction h with
  | opened => exact (ledger_openOver login tlsAvailable fault).poised
  | step _ input ih => exact poised_step ih input
  | taken _ hattentive _ _ =>
    apply poised_take
    exact suspension_of_isAttentive hattentive
  | resumed _ hsuspension result ih => exact poised_resume ih hsuspension result

/-- **The command at the head of the queue is under way**, if it is active. -/
theorem headHas_isOngoing (h : Reachable login tlsAvailable fault connection) :
    Queue.HeadHas Builtin.IsOngoing connection.queue := by
  have hkept : Queue.IsKept (Queue.HeadHas (Builtin.IsOngoing : Builtin η → Prop)) :=
    Queue.isKept_headHas Builtin.keeps_isOngoing
  induction h with
  | opened => exact kept_dispatch hkept (Queue.headHas_of_inactive rfl) _
  | step h input ih => exact kept_step hkept ih h.poised input
  | taken _ _ _ ih =>
    apply kept_take hkept
    exact ih
  | resumed h hsuspension result ih => exact kept_resume hkept ih h.poised hsuspension result

theorem isAttentive (h : Reachable login tlsAvailable fault connection)
    (hlistening : connection.lifecycle.IsListening) : connection.isAttentive = true := by
  rcases h.poised with hawake | ⟨-, greeting, capabilities, hlifecycle⟩
  · exact isAttentive_of_open hawake hlistening.isClosed_eq_false
  · rw [hlifecycle] at hlistening
    exact hlistening.elim

/-- **An empty packet always ends the session.**  A connection waits for the greeting, for the next
packet of the authentication, or for answers to its commands, of which there may be any, in any
stage.  Then an empty packet is refused, whatever its number is; and so is one that is the first
in the octets that have arrived, whatever comes behind it. -/
theorem refuses_empty (h : Reachable login tlsAvailable fault connection)
    (hlistening : connection.lifecycle.IsListening) (sequence : UInt8) :
    Refuses connection (connection.take (.empty sequence)) ∧
      ∀ octets framing rest,
        connection.framing.decode octets = ⟨.ok (some (.empty sequence)), framing, rest⟩ →
        Refuses connection (connection.consume octets) := by
  have hopen := hlistening.isClosed_eq_false
  refine ⟨refuses_take_empty h.headHas_isOngoing hopen sequence, ?_⟩
  intro octets framing rest hdecode
  let read : Connection (Builtin η) := { connection with framing, inbox := rest }
  have hhead : Queue.HeadHas Builtin.IsOngoing read.queue := h.headHas_isOngoing
  have hread : read.lifecycle.isClosed = false := hopen
  have htake := refuses_take_empty hhead hread sequence
  have hclosed : (read.take (.empty sequence)).isAttentive = false :=
    isAttentive_of_closed (by rw [htake.lifecycle]; rfl)
  rw [consume_of_packet (h.isAttentive hlistening) hdecode, consume_of_inattentive hclosed]
  exact ⟨htake.lifecycle, htake.sent, htake.entries, htake.establishing, htake.told⟩

theorem run (h : Reachable login tlsAvailable fault connection)
    (inputs : List (Input (Builtin η))) :
    Reachable login tlsAvailable fault (inputs.foldl Connection.step connection) := by
  induction inputs generalizing connection with
  | nil => exact h
  | cons input inputs ih => exact ih (h.step input)

end Reachable

/-- A query waits for rows, of which one column has been told, and a ping waits behind it. -/
def rowsAndPing : List (Input (Builtin Collected)) :=
  [.receive tlsGreeting,
    .receive [0x07, 0x00, 0x00, 0x02, 0x00, 0x00, 0x00, 0x02, 0x00, 0x00, 0x00],
    .submit (.command ⟨1, .query ⟨"SELECT 1", ⟨Collected.sink, {}, none⟩, .idle⟩⟩), .serve,
    .submit (.command ⟨2, .ping {}⟩), .serve,
    .receive [0x01, 0x00, 0x00, 0x01, 0x01],
    .receive [0x17, 0x00, 0x00, 0x02, 0x03, 0x64, 0x65, 0x66, 0x00, 0x00, 0x00, 0x01, 0x31, 0x00,
      0x0C, 0x3F, 0x00, 0x01, 0x00, 0x00, 0x00, 0x08, 0x81, 0x00, 0x00, 0x00, 0x00]]

theorem refuses_empty_rowsAndPing :
    let connection := rowsAndPing.foldl step (openOver plainLogin false fun _ => none)
    connection.lifecycle.isReady = true ∧
      connection.queue.entries.map (fun entry => (entry.ticket, Command.name entry.command)) =
        [(1, "query"), (2, "ping")] ∧
      connection.framing.decode [0x00, 0x00, 0x00, 0x03] =
        ⟨.ok (some (.empty 3)), { sequence := 4 }, []⟩ ∧
      Refuses connection (connection.consume [0x00, 0x00, 0x00, 0x03]) := by
  intro connection
  have hready : connection.lifecycle.isReady = true := by
    decide +kernel
  have hlistening : connection.lifecycle.IsListening := by
    cases hlifecycle : connection.lifecycle with
    | ready => trivial
    | _ =>
      rw [hlifecycle] at hready
      cases hready
  have hdecode : connection.framing.decode [0x00, 0x00, 0x00, 0x03] =
      ⟨.ok (some (.empty 3)), { sequence := 4 }, []⟩ := by
    have hframing : connection.framing = { sequence := 3 } := by
      decide +kernel
    have hread : Frame.read? [0x00, 0x00, 0x00, 0x03] = some (⟨3, []⟩, []) := rfl
    rw [hframing]
    exact Framing.decode_of_last hread rfl rfl
  have hreachable : Reachable plainLogin false (fun _ => none) connection :=
    Reachable.opened.run rowsAndPing
  exact ⟨hready, by decide +kernel, hdecode,
    (hreachable.refuses_empty hlistening 3).2 _ _ _ hdecode⟩

end Connection

end MySqlClient
