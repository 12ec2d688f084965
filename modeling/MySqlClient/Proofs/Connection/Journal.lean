import MySqlClient.Proofs.Connection.Arrivals
import MySqlClient.Proofs.Connection.Written

/-!
# A journal of a connection

A journal stands beside a connection and notes, in order, what happens at it: what the lifecycle is
told, what is written, when commands may flow, which packets commands are handed, and which commands
are told to be complete.  Once commands may flow a write is read as the packets that it consists of,
and each of them is noted with the command that is in flight then.

* `Happening`: what is noted; `Happening.octets`: what is written with it.
* `Connection.tells`, `Connection.routes`, `Connection.attends`: what comes in; `Connection.happenings`:
  what comes of it, between two states of a connection.
* `Journal`, `Journal.step`: a connection goes on, and the journal with it; `Journal.openOver`: where
  it begins.
* `Journal.connection_run`: **the connection under the journal is the connection.**
* `Journal.Tallies.run`: **the journal notes the commands that are told to be complete.**
-/

namespace MySqlClient

/-- What is noted of a connection. -/
inductive Happening where
  /-- The lifecycle was told an event, and commands may not flow yet. -/
  | told (step : Lifecycle.Step)
  /-- Octets were written, and commands may not flow yet. -/
  | wrote (octets : Bytes)
  /-- From now on commands may flow. -/
  | ready (capabilities : Capabilities)
  /-- A packet was written, and the command with the ticket was in flight then. -/
  | asked (ticket : Option Nat) (payload : Bytes)
  /-- The command with the ticket was handed a packet. -/
  | handed (ticket : Nat) (packet : Packet)
  /-- The command with the ticket was told to be complete. -/
  | completed (ticket : Nat)
  deriving DecidableEq

namespace Happening

/-- What is written with it.  The frames of a packet count from zero. -/
def octets : Happening → Bytes
  | wrote octets => octets
  | asked _ payload => (Framing.encode {} payload).1
  | _ => []

/-- The step that the lifecycle made with it. -/
def step? : Happening → Option Lifecycle.Step
  | told step => some step
  | _ => none

/-- The command that is complete with it. -/
def completed? : Happening → Option Nat
  | completed ticket => some ticket
  | _ => none

/-- The packet that was written, once commands may flow. -/
def payload? : Happening → Option Bytes
  | asked _ payload => some payload
  | _ => none

theorem octets_asked (ticket : Option Nat) (payloads : List Bytes) :
    (payloads.map (asked ticket)).flatMap octets = Framing.writeRequests payloads := by
  rw [List.flatMap_map]
  rfl

theorem octets_wrote (writes : List Bytes) :
    (writes.map wrote).flatMap octets = writes.flatten := by
  rw [List.flatMap_map]
  exact List.flatMap_id

theorem octets_completed (tickets : List Nat) : (tickets.map completed).flatMap octets = [] := by
  rw [List.flatMap_map]
  simp [octets]

theorem completed?_completed (tickets : List Nat) :
    (tickets.map completed).filterMap completed? = tickets := by
  rw [List.filterMap_map]
  exact List.filterMap_some

theorem completed?_of_other {happenings : List Happening}
    (h : ∀ ticket, completed ticket ∉ happenings) : happenings.filterMap completed? = [] := by
  rw [List.filterMap_eq_nil_iff]
  intro happening hmem
  cases happening with
  | completed ticket => exact absurd hmem (h ticket)
  | _ => rfl

end Happening

variable {σ : Type}

/-- The command in flight: the head, once it is active. -/
def Queue.inFlight? (queue : Queue σ) : Option Nat :=
  if queue.active then queue.entries.head?.map Entry.ticket else none

/-- The command that a packet is handed to. -/
def Queue.hands (queue : Queue σ) (packet : Packet) : List Happening :=
  (queue.recipient? packet).toList.map fun entry => .handed entry.ticket packet

/-- Nothing is written when a packet is handed to a command. -/
theorem Queue.octets_hands (queue : Queue σ) (packet : Packet) :
    (queue.hands packet).flatMap Happening.octets = [] := by
  rw [hands, List.flatMap_map]
  simp [Happening.octets]

namespace Connection

/-- What the lifecycle is told, while commands may not flow yet.  The failure that comes of a failed
action ends the session, and is not noted. -/
def tells (connection : Connection σ) (event : Lifecycle.Event) : List Happening :=
  if connection.lifecycle.isReady then [] else [.told ⟨connection.lifecycle, event⟩]

/-- Who hears of a packet: the command in flight, or the lifecycle. -/
def routes (connection : Connection σ) (packet : Packet) : List Happening :=
  if connection.lifecycle.isReady then connection.queue.hands packet
  else connection.tells (.packet packet)

/-- What the lifecycle is told when the next submission is taken: only to close. -/
def attends (connection : Connection σ) : List Happening :=
  match connection.submissions with
  | .command _ :: _ => []
  | .close _ :: _ => connection.tells .close
  | [] => if connection.released then connection.tells .close else []

/-- Nothing is written when the lifecycle is told something. -/
theorem octets_tells (connection : Connection σ) (event : Lifecycle.Event) :
    (connection.tells event).flatMap Happening.octets = [] := by
  unfold tells
  split <;> rfl

theorem completed_notMem_tells (connection : Connection σ) (event : Lifecycle.Event)
    (ticket : Nat) : .completed ticket ∉ connection.tells event := by
  unfold tells
  split <;> simp

theorem completed_notMem_routes (connection : Connection σ) (packet : Packet) (ticket : Nat) :
    .completed ticket ∉ connection.routes packet := by
  unfold routes
  split
  · simp [Queue.hands]
  · exact connection.completed_notMem_tells _ ticket

theorem completed_notMem_attends (connection : Connection σ) (ticket : Nat) :
    .completed ticket ∉ connection.attends := by
  unfold attends
  split
  · exact List.not_mem_nil
  · exact connection.completed_notMem_tells _ ticket
  · split
    · exact connection.completed_notMem_tells _ ticket
    · exact List.not_mem_nil

/-- The commands that are told to be complete between two states. -/
def completedSince (before after : Connection σ) : List Nat :=
  (after.notices.drop before.notices.length).filterMap Notice.ticket?

/-- What is written between two states. -/
def writtenSince (before after : Connection σ) : List Bytes :=
  after.transport.sent.drop before.transport.sent.length

/-- The packets that are written between two states, as a peer reads them. -/
def askedSince (before after : Connection σ) : List Happening :=
  (requestsIn (before.writtenSince after)).map (.asked after.queue.inFlight?)

/-- What has happened between two states. -/
def happenings (before after : Connection σ) : List Happening :=
  let completed := (before.completedSince after).map .completed
  if before.lifecycle.isReady then completed ++ before.askedSince after
  else
    match after.lifecycle.capabilities? with
    | some capabilities => .ready capabilities :: (completed ++ before.askedSince after)
    | none => completed ++ (before.writtenSince after).map .wrote

end Connection

/-- A connection, and what has happened at it. -/
structure Journal (σ : Type) where
  connection : Connection σ
  log : List Happening

namespace Journal

/-- Something comes in, and the connection goes on. -/
def become (journal : Journal σ) (heard : List Happening) (next : Connection σ) : Journal σ where
  connection := next
  log := journal.log ++ (heard ++ journal.connection.happenings next)

/-- Settle, under the journal. -/
def settle (journal : Journal σ) : Journal σ :=
  journal.become [] journal.connection.settle

/-- What comes of an input that is taken only while no TLS upgrade runs. -/
def whenAwake (journal next : Journal σ) : Journal σ :=
  if journal.connection.isAttentive then next.settle else journal

variable [Command σ]

/-- Take packets off some octets, under the journal. -/
def consume (journal : Journal σ) (octets : Bytes) : Journal σ :=
  if journal.connection.isAttentive then
    match _h : journal.connection.framing.decode octets with
    | ⟨.ok (some packet), framing, rest⟩ =>
      let read : Connection σ := { journal.connection with framing, inbox := rest }
      (journal.become (journal.connection.routes packet) (read.take packet)).consume rest
    | ⟨.error error, _, _⟩ =>
      journal.become (journal.connection.tells (.failed error)) (journal.connection.consume octets)
    | ⟨.ok none, _, _⟩ => journal.become [] (journal.connection.consume octets)
  else journal.become [] (journal.connection.consume octets)
termination_by octets.length
decreasing_by exact Framing.length_lt_of_decode (by assumption)

/-- Take an input, under the journal. -/
def step (journal : Journal σ) : Connection.Input σ → Journal σ
  | .serve => journal.whenAwake (journal.become journal.connection.attends journal.connection.serve)
  | .receive octets => journal.whenAwake (journal.consume (journal.connection.inbox ++ octets))
  | .endOfStream =>
    let event := journal.connection.endOfStreamEvent
    journal.whenAwake
      (journal.become (journal.connection.tells event) (journal.connection.dispatch event))
  | .readFailed error =>
    journal.whenAwake (journal.become (journal.connection.tells (.failed error))
      (journal.connection.dispatch (.failed error)))
  | .upgraded result =>
    match journal.connection.suspension with
    | none => journal
    | some suspension =>
      let next := journal.become (journal.connection.tells (Connection.upgradeEvent result))
        (journal.connection.resume suspension result)
      (next.consume next.connection.inbox).settle
  | input => journal.become [] (journal.connection.step input)

/-- The journal of a new connection, whose lifecycle has been told that the transport is open. -/
def openOver (login : Login) (tlsAvailable : Bool) (fault : Nat → Option Error) : Journal σ where
  connection := Connection.openOver login tlsAvailable fault
  log := [.told ⟨.start, .transportActive⟩]

/-! ## The connection under the journal -/

theorem consume_of_packet {journal : Journal σ} {octets rest : Bytes} {framing : Framing}
    {packet : Packet} (h : journal.connection.isAttentive = true)
    (hdecode : journal.connection.framing.decode octets = ⟨.ok (some packet), framing, rest⟩) :
    journal.consume octets =
      (journal.become (journal.connection.routes packet)
        (Connection.take { journal.connection with framing, inbox := rest } packet)).consume
          rest := by
  rw [consume, if_pos h]
  split
  · next hread =>
    rw [hdecode] at hread
    cases hread
    rfl
  · next hread =>
    rw [hdecode] at hread
    cases hread
  · next hread =>
    rw [hdecode] at hread
    cases hread

theorem consume_of_error {journal : Journal σ} {octets rest : Bytes} {framing : Framing}
    {error : Error} (h : journal.connection.isAttentive = true)
    (hdecode : journal.connection.framing.decode octets = ⟨.error error, framing, rest⟩) :
    journal.consume octets =
      journal.become (journal.connection.tells (.failed error))
        (journal.connection.consume octets) := by
  rw [consume, if_pos h]
  split
  · next hread =>
    rw [hdecode] at hread
    cases hread
  · next hread =>
    rw [hdecode] at hread
    cases hread
    rfl
  · next hread =>
    rw [hdecode] at hread
    cases hread

/-- Nothing comes in while the connection is inattentive, or if no whole packet has arrived. -/
theorem consume_of_quiet {journal : Journal σ} {octets : Bytes}
    (h : journal.connection.isAttentive = true → ∃ framing rest,
      journal.connection.framing.decode octets = ⟨.ok none, framing, rest⟩) :
    journal.consume octets = journal.become [] (journal.connection.consume octets) := by
  rw [consume]
  split
  · next hattentive =>
    obtain ⟨framing, rest, hdecode⟩ := h hattentive
    split
    · next hread =>
      rw [hdecode] at hread
      cases hread
    · next hread =>
      rw [hdecode] at hread
      cases hread
    · rfl
  · rfl

/-- What can be shown of a journal packet by packet. -/
theorem consume_induction {P : Journal σ → Prop} {octets : Bytes}
    (hpacket : ∀ journal octets rest framing packet, P journal →
      journal.connection.isAttentive = true →
      journal.connection.framing.decode octets = ⟨.ok (some packet), framing, rest⟩ →
      P (journal.become (journal.connection.routes packet)
        (Connection.take { journal.connection with framing, inbox := rest } packet)))
    (herror : ∀ journal octets rest framing error, P journal →
      journal.connection.isAttentive = true →
      journal.connection.framing.decode octets = ⟨.error error, framing, rest⟩ →
      P (journal.become (journal.connection.tells (.failed error))
        (journal.connection.consume octets)))
    (hquiet : ∀ journal octets, P journal →
      (journal.connection.isAttentive = true → ∃ framing rest,
        journal.connection.framing.decode octets = ⟨.ok none, framing, rest⟩) →
      P (journal.become [] (journal.connection.consume octets)))
    {journal : Journal σ} (h : P journal) : P (journal.consume octets) := by
  induction hn : octets.length using Nat.strongRecOn generalizing journal octets with
  | ind n ih =>
    subst hn
    cases hattentive : journal.connection.isAttentive with
    | false =>
      have hnone : journal.connection.isAttentive = true → ∃ framing rest,
          journal.connection.framing.decode octets = ⟨.ok none, framing, rest⟩ := by
        simp [hattentive]
      rw [consume_of_quiet hnone]
      exact hquiet journal octets h hnone
    | true =>
      rcases hdecode : journal.connection.framing.decode octets with
        ⟨error | ⟨_ | packet⟩, framing, rest⟩
      · rw [consume_of_error hattentive hdecode]
        exact herror journal octets rest framing error h hattentive hdecode
      · rw [consume_of_quiet fun _ => ⟨framing, rest, hdecode⟩]
        exact hquiet journal octets h fun _ => ⟨framing, rest, hdecode⟩
      · rw [consume_of_packet hattentive hdecode]
        exact ih rest.length (Framing.length_lt_of_decode hdecode)
          (hpacket journal octets rest framing packet h hattentive hdecode) rfl

theorem connection_consume (journal : Journal σ) (octets : Bytes) :
    (journal.consume octets).connection = journal.connection.consume octets := by
  -- packet by packet
  induction hn : octets.length using Nat.strongRecOn generalizing journal octets with
  | ind n ih =>
    subst hn
    cases hattentive : journal.connection.isAttentive with
    | false =>
      rw [consume_of_quiet (by simp [hattentive])]
      rfl
    | true =>
      rcases hdecode : journal.connection.framing.decode octets with
        ⟨error | ⟨_ | packet⟩, framing, rest⟩
      · rw [consume_of_error hattentive hdecode]
        rfl
      · rw [consume_of_quiet fun _ => ⟨framing, rest, hdecode⟩]
        rfl
      · rw [consume_of_packet hattentive hdecode,
          ih rest.length (Framing.length_lt_of_decode hdecode) _ rest rfl,
          Connection.consume_of_packet hattentive hdecode]
        rfl

omit [Command σ] in
theorem connection_whenAwake (journal next : Journal σ) :
    (journal.whenAwake next).connection = journal.connection.whenAwake next.connection := by
  unfold whenAwake Connection.whenAwake
  split <;> rfl

theorem connection_step (journal : Journal σ) (input : Connection.Input σ) :
    (journal.step input).connection = journal.connection.step input := by
  cases input with
  | submit submission => rfl
  | release => rfl
  | serve => exact connection_whenAwake _ _
  | receive octets =>
    show (journal.whenAwake _).connection = _
    rw [connection_whenAwake, connection_consume]
    rfl
  | endOfStream => exact connection_whenAwake _ _
  | readFailed error => exact connection_whenAwake _ _
  | upgraded result =>
    cases hsuspension : journal.connection.suspension with
    | none =>
      rw [step, Connection.step, hsuspension]
    | some suspension =>
      rw [step, Connection.step, hsuspension]
      show Connection.settle (Journal.connection _) = _
      rw [connection_consume]
      rfl

/-- **The connection under the journal is the connection.** -/
theorem connection_run (journal : Journal σ) (inputs : List (Connection.Input σ)) :
    (inputs.foldl step journal).connection = inputs.foldl Connection.step journal.connection := by
  induction inputs generalizing journal with
  | nil => rfl
  | cons input inputs ih => rw [List.foldl_cons, ih, connection_step, List.foldl_cons]

/-! ## Completions -/

/-- The journal has noted all commands that were told to be complete. -/
def Tallies (journal : Journal σ) : Prop :=
  journal.log.filterMap Happening.completed? =
    journal.connection.notices.filterMap Notice.ticket?

omit [Command σ] in
theorem completed?_happenings (before after : Connection σ) :
    (before.happenings after).filterMap Happening.completed? = before.completedSince after := by
  have hasked : (before.askedSince after).filterMap Happening.completed? = [] :=
    Happening.completed?_of_other (by simp [Connection.askedSince])
  have hwrote : ((before.writtenSince after).map Happening.wrote).filterMap
      Happening.completed? = [] := Happening.completed?_of_other (by simp)
  unfold Connection.happenings
  dsimp only
  split
  · rw [List.filterMap_append, Happening.completed?_completed, hasked, List.append_nil]
  · split
    · rw [List.filterMap_cons_none rfl, List.filterMap_append, Happening.completed?_completed,
        hasked, List.append_nil]
    · rw [List.filterMap_append, Happening.completed?_completed, hwrote, List.append_nil]

omit [Command σ] in
theorem Tallies.become {journal : Journal σ} (h : journal.Tallies) {heard : List Happening}
    (hheard : ∀ ticket, .completed ticket ∉ heard) {next : Connection σ}
    (hnotices : journal.connection.notices <+: next.notices) :
    (journal.become heard next).Tallies := by
  obtain ⟨more, hmore⟩ := hnotices
  have hsince : journal.connection.completedSince next = more.filterMap Notice.ticket? := by
    rw [Connection.completedSince, ← hmore, List.drop_left]
  show (journal.log ++ (heard ++ journal.connection.happenings next)).filterMap _ =
    next.notices.filterMap _
  rw [List.filterMap_append, List.filterMap_append, Happening.completed?_of_other hheard,
    List.nil_append, completed?_happenings, hsince, ← hmore, List.filterMap_append]
  exact congrArg (· ++ _) h

omit [Command σ] in
theorem Tallies.settle {journal : Journal σ} (h : journal.Tallies) : journal.settle.Tallies := by
  refine h.become (by simp) ?_
  obtain ⟨more, hmore⟩ := Connection.Ledger.exists_notices_settle journal.connection
  exact ⟨more, hmore.symm⟩

omit [Command σ] in
theorem Tallies.whenAwake {journal next : Journal σ} (h : journal.Tallies) (hnext : next.Tallies) :
    (journal.whenAwake next).Tallies := by
  unfold Journal.whenAwake
  split
  · exact hnext.settle
  · exact h

theorem Tallies.consume {journal : Journal σ} (h : journal.Tallies) (octets : Bytes) :
    (journal.consume octets).Tallies := by
  refine consume_induction ?_ ?_ ?_ h
  · intro journal octets rest framing packet h _ _
    obtain ⟨news, hnotices, -⟩ := (Connection.advance_take
      { journal.connection with framing, inbox := rest } packet).news
    exact h.become (journal.connection.completed_notMem_routes packet) ⟨news, hnotices.symm⟩
  · intro journal octets rest framing error h _ _
    obtain ⟨news, hnotices, -⟩ := (Connection.advance_consume journal.connection octets).news
    exact h.become (journal.connection.completed_notMem_tells _) ⟨news, hnotices.symm⟩
  · intro journal octets h _
    obtain ⟨news, hnotices, -⟩ := (Connection.advance_consume journal.connection octets).news
    exact h.become (by simp) ⟨news, hnotices.symm⟩

theorem Tallies.dispatch {journal : Journal σ} (h : journal.Tallies) (event : Lifecycle.Event) :
    (journal.become (journal.connection.tells event)
      (journal.connection.dispatch event)).Tallies := by
  obtain ⟨news, hnotices, -⟩ := (Connection.advance_dispatch journal.connection event).news
  exact h.become (journal.connection.completed_notMem_tells event) ⟨news, hnotices.symm⟩

theorem notices_serve (connection : Connection σ) :
    connection.notices <+: connection.serve.notices := by
  unfold Connection.serve
  split
  · next entry rest _ =>
    obtain ⟨news, hnotices, -⟩ := (Connection.advance_writeOrFail
      ({ connection with
          submissions := rest
          queue := (connection.queue.push entry).queue }.complete
        (connection.queue.push entry).completions) (connection.queue.push entry).outbound).news
    exact (List.prefix_append _ _).trans ⟨news, hnotices.symm⟩
  · next waiter rest _ =>
    obtain ⟨news, hnotices, -⟩ := (Connection.advance_dispatch
      { connection with
        submissions := rest, closeWaiters := connection.closeWaiters ++ [waiter] } .close).news
    exact ⟨news, hnotices.symm⟩
  · split
    · obtain ⟨news, hnotices, -⟩ := (Connection.advance_dispatch connection .close).news
      exact ⟨news, hnotices.symm⟩
    · exact List.prefix_rfl

theorem Tallies.step {journal : Journal σ} (h : journal.Tallies)
    (hpoised : journal.connection.Poised) (input : Connection.Input σ) :
    (journal.step input).Tallies := by
  cases input with
  | submit submission =>
    refine h.become (by simp) ?_
    rw [Connection.step]
    split <;> exact List.prefix_rfl
  | release => exact h.become (by simp) List.prefix_rfl
  | serve =>
    exact h.whenAwake
      (h.become journal.connection.completed_notMem_attends (notices_serve journal.connection))
  | receive octets => exact h.whenAwake (h.consume _)
  | endOfStream => exact h.whenAwake (h.dispatch _)
  | readFailed error => exact h.whenAwake (h.dispatch _)
  | upgraded result =>
    rw [Journal.step]
    split
    · exact h
    · next suspension hsuspension =>
      obtain ⟨news, hnotices, -⟩ :=
        (Connection.advance_resume hpoised hsuspension result).news
      exact ((h.become (journal.connection.completed_notMem_tells _)
        ⟨news, hnotices.symm⟩).consume _).settle

/-- **The journal notes the commands that are told to be complete**, in that order. -/
theorem Tallies.run {journal : Journal σ} (h : journal.Tallies)
    (hpoised : journal.connection.Poised) (inputs : List (Connection.Input σ)) :
    (inputs.foldl Journal.step journal).Tallies := by
  induction inputs generalizing journal with
  | nil => exact h
  | cons input inputs ih =>
    refine ih (h.step hpoised input) ?_
    rw [connection_step]
    exact Connection.poised_step hpoised input

end Journal

end MySqlClient
