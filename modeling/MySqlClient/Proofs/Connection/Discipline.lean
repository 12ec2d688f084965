import MySqlClient.Proofs.Connection.Journal
import MySqlClient.Proofs.Dialogue.Situation
import MySqlClient.Proofs.Exchange.Asking

/-!
# The discipline of requests

Once commands may flow, every packet that is written is a request of the command phase, and a
request that expects a reply has to wait until the ones before it have been answered.  Here this is
said of what a journal notes, and shown of the queue: while it serves built-in commands, whatever it
is given to do keeps the discipline.

* `Request.IsAwaited`: a request expects a reply.
* `Answered`: an earlier request has been answered, its command is complete, or it was a
  preparation whose answer was read to the end.
* `Allowed`: what may happen behind what has happened; `Disciplined`: everything that has happened
  was allowed.
* `Settled`: all requests have been answered by the completion of their commands.
* `Queue.Serves`: what a queue is busy with, by what has happened.
* `Queue.exists_serves_activateHead`, `Queue.exists_serves_push`, `Queue.exists_serves_handle`:
  **a queue that serves commands asks in a disciplined way.**
-/

namespace MySqlClient

open Received

/-! ## Requests -/

namespace Request

/-- The server answers a request. -/
def expectsReply : Request → Bool
  | quit => false
  | close _ => false
  | _ => true

/-- The packet is a request that the server answers. -/
def IsAwaited (payload : Bytes) : Prop :=
  ∃ request : Request, request.expectsReply = true ∧ payload = request.encode

theorem isAwaited_encode_iff {request : Request} :
    IsAwaited request.encode ↔ request.expectsReply = true := by
  constructor
  · rintro ⟨other, hother, heq⟩
    have hcode : request.code = other.code := (List.cons.inj heq).1
    cases request with
    | quit => cases other <;> simp_all [code, expectsReply]
    | close statementId => cases other <;> simp_all [code, expectsReply]
    | _ => rfl
  · intro h
    exact ⟨request, h, rfl⟩

/-- A request is no request to quit, unless it is that. -/
theorem encode_ne_quit {request : Request} (h : request ≠ .quit) :
    request.encode ≠ Request.quit.encode := by
  intro heq
  have hcode : request.code = Request.quit.code := (List.cons.inj heq).1
  cases request with
  | quit => exact h rfl
  | _ => cases hcode

end Request

/-! ## What may happen -/

/-- The command with the ticket is the first one that is complete. -/
def IsDone (ticket : Nat) (happenings : List Happening) : Prop :=
  ∃ front back, happenings = front ++ .completed ticket :: back ∧
    ∀ other, .completed other ∉ front

/-- With what has happened in between, an earlier request has been answered before a later one: its
command was told to be complete; or it was a preparation, the command has been handed the packets of
its answer, and the later request executes the statement. -/
inductive Answered (capabilities : Capabilities) (between : List Happening) :
    (asker : Option Nat) → (earlier : Bytes) → (laterAsker : Option Nat) → (later : Bytes) → Prop
  | done {ticket : Nat} {earlier later : Bytes} {laterAsker : Option Nat}
      (h : IsDone ticket between) : Answered capabilities between (some ticket) earlier laterAsker
        later
  | prepared {ticket : Nat} {sql : String} {statement : PrepareOk} {parameters : List Value}
      {packets : List Packet} (hbetween : between = packets.map (.handed ticket))
      (h : IsPreparation capabilities statement packets) :
      Answered capabilities between (some ticket) (Request.prepare sql).encode (some ticket)
        (Request.execute statement.statementId parameters).encode

/-- What may happen behind what has happened since commands may flow.  A packet is a request; none
is written behind the request to quit; and one that expects a reply is written only when the earlier
ones that do have been answered. -/
def Allowed (capabilities : Capabilities) (front : List Happening) : Happening → Prop
  | .asked asker payload =>
    (∃ request : Request, payload = request.encode) ∧
      (∀ ticket, .asked ticket Request.quit.encode ∉ front) ∧
      (Request.IsAwaited payload → ∀ before earlierAsker earlier between,
        front = before ++ .asked earlierAsker earlier :: between → Request.IsAwaited earlier →
          Answered capabilities between earlierAsker earlier asker payload)
  | .told _ => False
  | .wrote _ => False
  | .ready _ => False
  | .handed _ _ => True
  | .completed _ => True

/-- Everything that has happened was allowed when it happened. -/
def Disciplined (capabilities : Capabilities) (session : List Happening) : Prop :=
  ∀ front happening back, session = front ++ happening :: back →
    Allowed capabilities front happening

/-- An element of two lists is in one of them. -/
theorem append_eq_append_cons_iff {α : Type} {first second front back : List α} {element : α} :
    first ++ second = front ++ element :: back ↔
      (∃ middle, first = front ++ element :: middle ∧ back = middle ++ second) ∨
        ∃ middle, front = first ++ middle ∧ second = middle ++ element :: back := by
  constructor
  · intro h
    rcases List.append_eq_append_iff.mp h with ⟨middle, hfront, hsecond⟩ | ⟨middle, hfirst, hback⟩
    · exact Or.inr ⟨middle, hfront, hsecond⟩
    · rcases List.cons_eq_append_iff.mp hback with ⟨rfl, hsecond⟩ | ⟨left, rfl, hleft⟩
      · refine Or.inr ⟨[], ?_, hsecond⟩
        rw [hfirst, List.append_nil, List.append_nil]
      · exact Or.inl ⟨left, hfirst, hleft⟩
  · rintro (⟨middle, rfl, rfl⟩ | ⟨middle, rfl, rfl⟩)
    · rw [List.append_assoc, List.cons_append]
    · rw [List.append_assoc]

/-- What each element has to do with those in front of it is shown of two lists one after the
other. -/
theorem forall_split_append {α : Type} {P : List α → α → Prop} {first second : List α}
    (hfirst : ∀ front element back, first = front ++ element :: back → P front element)
    (hsecond : ∀ front element back, second = front ++ element :: back →
      P (first ++ front) element) :
    ∀ front element back, first ++ second = front ++ element :: back → P front element := by
  intro front element back heq
  rcases append_eq_append_cons_iff.mp heq with ⟨middle, hsplit, -⟩ | ⟨middle, rfl, hsplit⟩
  · exact hfirst front element middle hsplit
  · exact hsecond middle element back hsplit

/-- One element has nothing in front of it. -/
theorem forall_split_singleton {α : Type} {P : List α → α → Prop} {only : α} (h : P [] only) :
    ∀ front element back, [only] = front ++ element :: back → P front element := by
  intro front element back heq
  obtain ⟨rfl, hcons⟩ | ⟨rest, rfl, hnil⟩ := List.cons_eq_append_iff.mp heq
  · cases hcons
    exact h
  · simp at hnil

namespace Disciplined

variable {capabilities : Capabilities} {session more : List Happening}

theorem nil (capabilities : Capabilities) : Disciplined capabilities [] := by
  intro front happening back h
  cases front <;> cases h

theorem append (h : Disciplined capabilities session)
    (hmore : ∀ front happening back, more = front ++ happening :: back →
      Allowed capabilities (session ++ front) happening) :
    Disciplined capabilities (session ++ more) :=
  forall_split_append h hmore

theorem concat (h : Disciplined capabilities session) {happening : Happening}
    (hallowed : Allowed capabilities session happening) :
    Disciplined capabilities (session ++ [happening]) := by
  refine h.append (forall_split_singleton ?_)
  rwa [List.append_nil]

/-- What is no packet is always allowed. -/
theorem append_heard (h : Disciplined capabilities session)
    (hmore : ∀ happening ∈ more, (∃ ticket packet, happening = .handed ticket packet) ∨
      ∃ ticket, happening = .completed ticket) :
    Disciplined capabilities (session ++ more) := by
  refine h.append fun front happening back heq => ?_
  rcases hmore happening (by rw [heq]; simp) with ⟨ticket, packet, rfl⟩ | ⟨ticket, rfl⟩
  · trivial
  · trivial

end Disciplined

/-! ## Requests that have been answered -/

/-- All requests have been answered by the completion of their commands. -/
def Settled (session : List Happening) : Prop :=
  ∀ front asker payload back, session = front ++ .asked asker payload :: back →
    Request.IsAwaited payload → ∃ ticket, asker = some ticket ∧ IsDone ticket back

theorem IsDone.append {ticket : Nat} {happenings : List Happening} (h : IsDone ticket happenings)
    (more : List Happening) : IsDone ticket (happenings ++ more) := by
  obtain ⟨front, back, rfl, hnone⟩ := h
  exact ⟨front, back ++ more, by rw [List.append_assoc, List.cons_append], hnone⟩

namespace Settled

variable {capabilities : Capabilities} {session more : List Happening}

theorem nil : Settled [] := by
  intro front asker payload back h
  cases front <;> cases h

/-- What asks for no reply leaves nothing unanswered. -/
theorem append (h : Settled session)
    (hmore : ∀ asker payload, .asked asker payload ∈ more → ¬ Request.IsAwaited payload) :
    Settled (session ++ more) := by
  intro front asker payload back heq hawaited
  rcases append_eq_append_cons_iff.mp heq with ⟨middle, hsession, rfl⟩ | ⟨middle, rfl, hsplit⟩
  · obtain ⟨ticket, hasker, hdone⟩ := h front asker payload middle hsession hawaited
    exact ⟨ticket, hasker, hdone.append more⟩
  · exact absurd hawaited (hmore asker payload (by rw [hsplit]; simp))

/-- So everything may be asked. -/
theorem allowed (h : Settled session) {request : Request}
    (hquit : ∀ ticket, .asked ticket Request.quit.encode ∉ session) (asker : Option Nat) :
    Allowed capabilities session (.asked asker request.encode) := by
  refine ⟨⟨request, rfl⟩, hquit, fun _ before earlierAsker earlier between heq hawaited => ?_⟩
  obtain ⟨ticket, rfl, hdone⟩ := h before earlierAsker earlier between heq hawaited
  exact .done hdone

end Settled

/-- The command with the ticket was handed a packet, or a packet was written for it. -/
def Happening.Concerns (ticket : Nat) : Happening → Prop
  | .handed other _ => other = ticket
  | .asked asker _ => asker = some ticket
  | _ => False

/-- **When the command is complete that has asked, everything has been answered.** -/
theorem Settled.concat_completed {front stretch : List Happening} {ticket : Nat}
    (h : Settled front) (hstretch : ∀ happening ∈ stretch, happening.Concerns ticket) :
    Settled (front ++ (stretch ++ [.completed ticket])) := by
  intro before asker payload back heq hawaited
  rcases append_eq_append_cons_iff.mp heq with ⟨middle, hfront, rfl⟩ | ⟨middle, rfl, hsplit⟩
  · obtain ⟨other, hasker, hdone⟩ := h before asker payload middle hfront hawaited
    exact ⟨other, hasker, hdone.append _⟩
  · rcases append_eq_append_cons_iff.mp hsplit with ⟨rest, hstretched, rfl⟩ | ⟨rest, -, hlast⟩
    · have hasker := hstretch (.asked asker payload) (by rw [hstretched]; simp)
      refine ⟨ticket, hasker, rest, [], rfl, fun other hmem => ?_⟩
      exact hstretch (.completed other) (by rw [hstretched]; simp [hmem])
    · rcases List.cons_eq_append_iff.mp hlast with ⟨-, hcons⟩ | ⟨_, -, hnil⟩
      · cases hcons
      · simp at hnil

/-! ## One command -/

/-- What is noted of a command that is handed packets and answers with turns. -/
def transcript (ticket : Nat) (packets : List Packet) (turns : List Turn) : List Happening :=
  (packets.zip turns).flatMap fun (packet, turn) =>
    .handed ticket packet :: turn.packets.map (.asked (some ticket))

theorem transcript_concat {packets : List Packet} {turns : List Turn}
    (h : turns.length = packets.length) (ticket : Nat) (packet : Packet) (turn : Turn) :
    transcript ticket (packets ++ [packet]) (turns ++ [turn]) =
      transcript ticket packets turns ++
        .handed ticket packet :: turn.packets.map (.asked (some ticket)) := by
  unfold transcript
  rw [List.zip_append h.symm, List.flatMap_append, List.zip_cons_cons, List.zip_nil_left,
    List.flatMap_singleton]

theorem concerns_of_mem_transcript {ticket : Nat} {packets : List Packet} {turns : List Turn} :
    ∀ happening ∈ transcript ticket packets turns, happening.Concerns ticket := by
  intro happening hmem
  obtain ⟨⟨packet, turn⟩, -, hmem⟩ := List.mem_flatMap.mp hmem
  rcases List.mem_cons.mp hmem with rfl | hmem
  · exact rfl
  · obtain ⟨payload, -, rfl⟩ := List.mem_map.mp hmem
    exact rfl

/-- A command that only waits is handed one packet after the other. -/
theorem transcript_of_waits {packets : List Packet} {turns : List Turn}
    (h : turns.length = packets.length) (hwaits : ∀ turn ∈ turns, turn = .wait) (ticket : Nat) :
    transcript ticket packets turns = packets.map (.handed ticket) := by
  induction packets generalizing turns with
  | nil => rfl
  | cons packet packets ih =>
    cases turns with
    | nil => cases h
    | cons turn turns =>
      rw [List.forall_mem_cons] at hwaits
      show .handed ticket packet :: turn.packets.map (.asked (some ticket)) ++
        transcript ticket packets turns = _
      rw [ih (Nat.succ.inj h) hwaits.2, hwaits.1]
      rfl

/-- What is noted of a command since it has begun. -/
def stretch {η : Type} (ticket : Nat) (original : Builtin η) (packets : List Packet)
    (turns : List Turn) : List Happening :=
  .asked (some ticket) original.firstRequest.encode :: transcript ticket packets turns

section

variable {η : Type} {ticket : Nat} {original : Builtin η} {packets : List Packet}
  {turns : List Turn}

theorem stretch_concat (h : turns.length = packets.length) (packet : Packet) (turn : Turn) :
    stretch ticket original (packets ++ [packet]) (turns ++ [turn]) =
      stretch ticket original packets turns ++
        .handed ticket packet :: turn.packets.map (.asked (some ticket)) := by
  rw [stretch, transcript_concat h]
  rfl

theorem concerns_of_mem_stretch :
    ∀ happening ∈ stretch ticket original packets turns, happening.Concerns ticket :=
  List.forall_mem_cons.mpr ⟨rfl, concerns_of_mem_transcript⟩

end

/-! ## The queue -/

/-- What has happened since commands may flow was allowed, and nobody has quit. -/
structure IsSession (capabilities : Capabilities) (session : List Happening) : Prop where
  disciplined : Disciplined capabilities session
  stays : ∀ ticket, .asked ticket Request.quit.encode ∉ session

namespace IsSession

variable {capabilities : Capabilities} {session more : List Happening}

theorem nil (capabilities : Capabilities) : IsSession capabilities [] :=
  ⟨.nil capabilities, by simp⟩

theorem concat_asked (h : IsSession capabilities session) {asker : Option Nat} {request : Request}
    (hallowed : Allowed capabilities session (.asked asker request.encode))
    (hrequest : request ≠ .quit) :
    IsSession capabilities (session ++ [.asked asker request.encode]) := by
  refine ⟨h.disciplined.concat hallowed, fun ticket hmem => ?_⟩
  rcases List.mem_append.mp hmem with hmem | hmem
  · exact h.stays ticket hmem
  · rw [List.mem_singleton, Happening.asked.injEq] at hmem
    exact Request.encode_ne_quit hrequest hmem.2.symm

theorem append_heard (h : IsSession capabilities session)
    (hmore : ∀ happening ∈ more, (∃ ticket packet, happening = .handed ticket packet) ∨
      ∃ ticket, happening = .completed ticket) : IsSession capabilities (session ++ more) := by
  refine ⟨h.disciplined.append_heard hmore, fun ticket hmem => ?_⟩
  rcases List.mem_append.mp hmem with hmem | hmem
  · exact h.stays ticket hmem
  · rcases hmore _ hmem with ⟨_, _, heq⟩ | ⟨_, heq⟩ <;> cases heq

/-- Closing a statement asks for no reply. -/
theorem append_closes (h : IsSession capabilities session) (hsettled : Settled session)
    {payloads : List Bytes}
    (hcloses : payloads = [] ∨ ∃ statementId, payloads = [(Request.close statementId).encode])
    (asker : Option Nat) :
    IsSession capabilities (session ++ payloads.map (.asked asker)) ∧
      Settled (session ++ payloads.map (.asked asker)) := by
  rcases hcloses with rfl | ⟨statementId, rfl⟩
  · rw [List.map_nil, List.append_nil]
    exact ⟨h, hsettled⟩
  · refine ⟨h.concat_asked (hsettled.allowed h.stays asker) nofun, hsettled.append ?_⟩
    intro other payload hmem hawaited
    rw [List.map_singleton, List.mem_singleton, Happening.asked.injEq] at hmem
    rw [hmem.2] at hawaited
    cases Request.isAwaited_encode_iff.mp hawaited

/-- To quit is the last thing. -/
theorem disciplined_quit (h : IsSession capabilities session) (asker : Option Nat) :
    Disciplined capabilities (session ++ [.asked asker Request.quit.encode]) := by
  refine h.disciplined.concat ⟨⟨.quit, rfl⟩, h.stays, fun hawaited => ?_⟩
  cases Request.isAwaited_encode_iff.mp hawaited

end IsSession

namespace Queue

variable {η : Type} {capabilities : Capabilities} {queue : Queue (Builtin η)}
  {session : List Happening} {packet : Packet}

/-- What a queue is busy with, by what has happened.  It has nothing to do, and everything has been
answered; or its head has asked, and goes on with what it has been handed. -/
inductive Serves (capabilities : Capabilities) :
    List Happening → Queue (Builtin η) → Prop
  | idle {session : List Happening} (hsettled : Settled session) :
      Serves capabilities session ⟨[], false, some capabilities⟩
  | busy {front : List Happening} {ticket : Nat} {original now : Builtin η} {packets : List Packet}
      {turns : List Turn} {rest : List (Entry (Builtin η))} (hsettled : Settled front)
      (hgoes : Command.Goes capabilities original.begun packets turns now)
      (hfresh : original.Fresh) (hrest : ∀ entry ∈ rest, entry.command.Fresh) :
      Serves capabilities (front ++ stretch ticket original packets turns)
        ⟨⟨ticket, now⟩ :: rest, true, some capabilities⟩

theorem activateHead_cons (entry : Entry (Builtin η)) (rest : List (Entry (Builtin η))) :
    (⟨entry :: rest, false, some capabilities⟩ : Queue (Builtin η)).activateHead =
      { queue := ⟨⟨entry.ticket, entry.command.begun⟩ :: rest, true, some capabilities⟩
        outbound := Outbound.requests [entry.command.firstRequest.encode] } := by
  show activateFirst capabilities (entry :: rest) = _
  rw [activateFirst, Builtin.activate_eq]
  rfl

theorem firstRequest_ne_quit (command : Builtin η) : command.firstRequest ≠ .quit := by
  cases command <;> simp [Builtin.firstRequest]

/-- **A queue with nothing in flight** begins with the next command that waits, if there is one. -/
theorem exists_serves_activateHead (capabilities : Capabilities)
    {entries : List (Entry (Builtin η))}
    (hfresh : ∀ entry ∈ entries, entry.command.Fresh) :
    ∃ next payloads,
      (⟨entries, false, some capabilities⟩ : Queue (Builtin η)).activateHead =
        { queue := next, outbound := Outbound.requests payloads } ∧
      ∀ session, IsSession capabilities session → Settled session →
        IsSession capabilities (session ++ payloads.map (.asked next.inFlight?)) ∧
          Serves capabilities (session ++ payloads.map (.asked next.inFlight?)) next := by
  cases entries with
  | nil =>
    refine ⟨⟨[], false, some capabilities⟩, [], rfl, fun session hsession hsettled => ?_⟩
    rw [List.map_nil, List.append_nil]
    exact ⟨hsession, .idle hsettled⟩
  | cons entry rest =>
    rw [List.forall_mem_cons] at hfresh
    refine ⟨_, _, activateHead_cons entry rest, fun session hsession hsettled => ⟨?_, ?_⟩⟩
    · exact hsession.concat_asked (hsettled.allowed hsession.stays _)
        (firstRequest_ne_quit entry.command)
    · exact .busy hsettled (.nil entry.command.begun) hfresh.1 hfresh.2

/-- **A command that is submitted** has to wait, or begins. -/
theorem exists_serves_push (h : Serves capabilities session queue)
    (hsession : IsSession capabilities session) {entry : Entry (Builtin η)}
    (hfresh : entry.command.Fresh) :
    ∃ next payloads, queue.push entry = { queue := next, outbound := Outbound.requests payloads } ∧
      IsSession capabilities (session ++ payloads.map (.asked next.inFlight?)) ∧
      Serves capabilities (session ++ payloads.map (.asked next.inFlight?)) next := by
  cases h with
  | idle hsettled =>
    obtain ⟨next, payloads, hactivate, hserves⟩ := exists_serves_activateHead
      capabilities (List.forall_mem_singleton.mpr hfresh)
    exact ⟨next, payloads, hactivate, hserves session hsession hsettled⟩
  | @busy front ticket original now packets turns rest hsettled hgoes horiginal hrest =>
    refine ⟨⟨⟨ticket, now⟩ :: (rest ++ [entry]), true, some capabilities⟩, [], rfl, ?_, ?_⟩
    · rw [List.map_nil, List.append_nil]
      exact hsession
    · rw [List.map_nil, List.append_nil]
      exact .busy hsettled hgoes horiginal
        (List.forall_mem_append.mpr ⟨hrest, List.forall_mem_singleton.mpr hfresh⟩)

/-! ### Packets -/

section

variable {σ : Type} [Command σ] {queue : Queue σ} {entry : Entry σ} {rest : List (Entry σ)}
  {turn : Turn} {next : σ}

/-- The head goes on. -/
theorem handleHead_of_waits
    (hhandle : Command.handle capabilities packet entry.command = (.ok turn, next))
    (hwaits : turn.done = false) :
    queue.handleHead capabilities packet entry rest =
      { queue := { queue with entries := { entry with command := next } :: rest }
        result := .ok (Outbound.ofPackets turn.packets turn.resequence) } := by
  rw [handleHead, hhandle]
  dsimp only
  rw [if_neg (by simp [hwaits])]

/-- The head is done, and the session goes on. -/
theorem handleHead_of_done
    (hhandle : Command.handle capabilities packet entry.command = (.ok turn, next))
    (hdone : turn.done = true) {outbound : List Outbound}
    (hresult : (queue.handleHead capabilities packet entry rest).result = .ok outbound) :
    queue.handleHead capabilities packet entry rest =
      { queue := (queue.withoutHead rest).activateHead.queue
        result := .ok (Outbound.ofPackets turn.packets turn.resequence ++
          (queue.withoutHead rest).activateHead.outbound)
        completions := complete entry next turn.result ::
          (queue.withoutHead rest).activateHead.completions } := by
  rw [handleHead, hhandle] at hresult ⊢
  dsimp only at hresult ⊢
  rw [if_pos hdone] at hresult ⊢
  split at hresult
  · cases hresult
  · rfl

theorem result_handleHead_of_error {error : Error}
    (hhandle : Command.handle capabilities packet entry.command = (.error error, next))
    (outbound : List Outbound) :
    (queue.handleHead capabilities packet entry rest).result ≠ .ok outbound := by
  rw [handleHead, hhandle]
  intro heq
  cases heq

end

/-- What is noted when a packet has been routed, and what comes of it has been written. -/
def Handled.notes {σ : Type} (handled : Handled σ) (payloads : List Bytes) : List Happening :=
  (handled.completions.map Completion.ticket).map .completed ++
    payloads.map (.asked handled.queue.inFlight?)

/-- A command that asks again may do so: all that has not been answered by a completion is its own
first request, and behind that it was only handed the packets of the preparation. -/
theorem allowed_of_asksAgain {front : List Happening} {ticket : Nat} {original : Builtin η}
    {packets : List Packet} {turns : List Turn} {sql : String} {statement : PrepareOk}
    (hsettled : Settled front) (hfirst : original.firstRequest = .prepare sql)
    (hwaits : ∀ turn ∈ turns, turn = .wait) (hlength : turns.length = packets.length)
    (hprepared : IsPreparation capabilities statement (packets ++ [packet]))
    (hsession : IsSession capabilities (front ++ stretch ticket original packets turns))
    (parameters : List Value) :
    Allowed capabilities
      (front ++ stretch ticket original packets turns ++ [.handed ticket packet])
      (.asked (some ticket) (Request.execute statement.statementId parameters).encode) := by
  have hstays : ∀ other, .asked other Request.quit.encode ∉
      front ++ stretch ticket original packets turns ++ [.handed ticket packet] :=
    (hsession.append_heard (by simp)).stays
  refine ⟨⟨_, rfl⟩, hstays, fun _ before asker payload between heq hawaited => ?_⟩
  rw [stretch, transcript_of_waits hlength hwaits, hfirst, List.append_assoc, List.cons_append,
    ← List.map_singleton, ← List.map_append] at heq
  rcases append_eq_append_cons_iff.mp heq with ⟨middle, hfront, rfl⟩ | ⟨middle, -, hstretch⟩
  · obtain ⟨other, rfl, hdone⟩ := hsettled before asker payload middle hfront hawaited
    exact .done (hdone.append _)
  · rcases List.cons_eq_append_iff.mp hstretch with ⟨rfl, hcons⟩ | ⟨left, rfl, hleft⟩
    · obtain ⟨hasked, rfl⟩ := List.cons.inj hcons
      cases hasked
      exact .prepared rfl hprepared
    · -- behind the request the command is only handed packets
      have hmem : Happening.asked asker payload ∈ (packets ++ [packet]).map (.handed ticket) := by
        rw [hleft]
        simp
      obtain ⟨other, -, hother⟩ := List.mem_map.mp hmem
      cases hother

section

variable {front : List Happening} {ticket : Nat} {original now next : Builtin η}
  {packets : List Packet} {turns : List Turn} {turn : Turn} {rest : List (Entry (Builtin η))}

/-- When the head has been handed its last packet, everything has been answered. -/
theorem isSession_of_closes (hsettled : Settled front)
    (hsession : IsSession capabilities (front ++ stretch ticket original packets turns))
    {failure : Option Error} (hcloses : turn.Closes failure) (packet : Packet)
    (asker : Option Nat) :
    let session := front ++ stretch ticket original packets turns ++
      [.handed ticket packet, .completed ticket] ++ turn.packets.map (.asked asker)
    IsSession capabilities session ∧ Settled session := by
  have hstretch : ∀ happening ∈
      stretch ticket original packets turns ++ [.handed ticket packet],
      happening.Concerns ticket :=
    List.forall_mem_append.mpr
      ⟨concerns_of_mem_stretch, List.forall_mem_singleton.mpr (Eq.refl ticket)⟩
  have hdone := hsettled.concat_completed hstretch
  rw [List.append_assoc, ← List.append_assoc] at hdone
  exact (hsession.append_heard (by simp)).append_closes hdone (hcloses.2.2.imp_right And.right)
    asker

/-- **The head takes a packet**: it goes on, or asks again, or the packet is the last one, and the
next command begins. -/
theorem exists_serves_handleHead (hsettled : Settled front)
    (hgoes : Command.Goes capabilities original.begun packets turns now)
    (hfresh : original.Fresh) (hrest : ∀ entry ∈ rest, entry.command.Fresh)
    (hsession : IsSession capabilities (front ++ stretch ticket original packets turns))
    {outbound : List Outbound} {handled : Handled (Builtin η)}
    (hhandled : handleHead ⟨⟨ticket, now⟩ :: rest, true, some capabilities⟩ capabilities
      packet ⟨ticket, now⟩ rest = handled)
    (hresult : handled.result = .ok outbound) :
    ∃ payloads, outbound = Outbound.requests payloads ∧
      IsSession capabilities (front ++ stretch ticket original packets turns ++
        .handed ticket packet :: handled.notes payloads) ∧
      Serves capabilities (front ++ stretch ticket original packets turns ++
        .handed ticket packet :: handled.notes payloads) handled.queue := by
  rcases hhandle : Command.handle capabilities packet now with ⟨error | turn, next⟩
  · rw [← hhandled] at hresult
    exact absurd hresult (result_handleHead_of_error hhandle outbound)
  -- what a command becomes that goes on
  have hgoesOn (hwaits : turn.done = false) :
      Serves capabilities (front ++ stretch ticket original packets turns ++
          .handed ticket packet :: turn.packets.map (.asked (some ticket)))
        ⟨⟨ticket, next⟩ :: rest, true, some capabilities⟩ := by
    rw [List.append_assoc, ← stretch_concat hgoes.length_eq]
    exact .busy hsettled (hgoes.concat hhandle hwaits) hfresh hrest
  rcases Builtin.handle_cases hfresh hgoes hhandle with
    hwait | hcloses | ⟨sql, statement, parameters, hfirst, hprepared, hturn, hwaits⟩
  · -- nothing is written
    subst hwait
    rw [handleHead_of_waits hhandle rfl] at hhandled
    subst hhandled
    cases hresult
    exact ⟨[], rfl, hsession.append_heard (by simp [Handled.notes]), hgoesOn rfl⟩
  · -- the request to close the statement is written in front of the next command's request, and
    -- both come after everything has been answered
    obtain ⟨following, payloads, hactivate, hserves⟩ :=
      exists_serves_activateHead capabilities hrest
    have hnext : (withoutHead ⟨⟨ticket, now⟩ :: rest, true, some capabilities⟩ rest).activateHead =
        { queue := following, outbound := Outbound.requests payloads } := hactivate
    rw [← hhandled] at hresult
    rw [handleHead_of_done hhandle hcloses.1 hresult, hnext] at hhandled hresult
    subst hhandled
    cases hresult
    obtain ⟨hclosed, hanswered⟩ :=
      isSession_of_closes hsettled hsession hcloses packet following.inFlight?
    refine ⟨turn.packets ++ payloads, ?_, ?_⟩
    · rw [hcloses.ofPackets_eq, Outbound.requests_append]
    · have hfollows := hserves _ hclosed hanswered
      rw [List.append_assoc, ← List.map_append, List.append_assoc] at hfollows
      exact hfollows
  · -- the only request of a head that goes on
    subst hturn
    rw [handleHead_of_waits hhandle rfl] at hhandled
    subst hhandled
    cases hresult
    refine ⟨[(Request.execute statement.statementId parameters).encode], rfl, ?_, hgoesOn rfl⟩
    have hallowed := allowed_of_asksAgain hsettled hfirst hwaits hgoes.length_eq hprepared hsession
      parameters
    have hasked := (hsession.append_heard (by simp)).concat_asked hallowed nofun
    rw [List.append_assoc] at hasked
    exact hasked

end

/-- **A packet that is routed** is handed to the head, or to nobody. -/
theorem exists_serves_handle (h : Serves capabilities session queue)
    (hsession : IsSession capabilities session) {outbound : List Outbound}
    (hresult : (queue.handle packet).result = .ok outbound) :
    ∃ payloads, outbound = Outbound.requests payloads ∧
      IsSession capabilities
        (session ++ (queue.hands packet ++ (queue.handle packet).notes payloads)) ∧
      Serves capabilities
        (session ++ (queue.hands packet ++ (queue.handle packet).notes payloads))
        (queue.handle packet).queue := by
  cases hrecipient : queue.recipient? packet with
  | none =>
    obtain ⟨hqueue, hcompletions, houtbound⟩ := handle_of_no_recipient hrecipient
    refine ⟨[], houtbound outbound hresult, ?_⟩
    rw [hands, hrecipient, Handled.notes, hcompletions, hqueue]
    simp only [Option.toList_none, List.map_nil, List.append_nil]
    exact ⟨hsession, h⟩
  | some entry =>
    obtain ⟨agreed, rest, hagreed, hentries, hhandle⟩ := handle_of_recipient hrecipient
    cases h with
    | idle => cases hentries
    | busy hsettled hgoes hfresh hrest =>
      cases hagreed
      cases hentries
      rw [hands, hrecipient]
      exact exists_serves_handleHead hsettled hgoes hfresh hrest hsession hhandle.symm hresult

end Queue

end MySqlClient
