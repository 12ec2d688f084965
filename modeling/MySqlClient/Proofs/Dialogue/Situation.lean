import MySqlClient.Proofs.Connection.Steps
import MySqlClient.Proofs.Dialogue.Asked

/-!
# Where a dialogue stands

Between a connection that is ready and a server that answers, there are three situations: nothing is
asked; a request has been written and waits for its answer; an answer is on its way, and some of its
packets have been taken.

* `Situation`: the three of them.
* `exists_begin`: the next command that waits is activated, and its request is written.
* `exists_consume`: **while an answer is on its way, taking what has come leads to the same or to
  the next situation.**
-/

namespace MySqlClient

variable {η : Type} {capabilities : Capabilities}

/-- The connection is ready, and nothing has gone wrong. -/
structure Connection.Steady {σ : Type} (capabilities : Capabilities) (connection : Connection σ) :
    Prop where
  ready : connection.lifecycle = .ready capabilities
  awake : connection.suspension = none
  held : connection.released = false
  unfinished : connection.finished = false
  agreed : connection.queue.capabilities = some capabilities
  faultless : ∀ n, connection.transport.fault n = none

namespace Connection.Steady

variable {σ : Type} {connection : Connection σ}

theorem isReady (h : connection.Steady capabilities) : connection.lifecycle.isReady = true := by
  rw [h.ready]
  rfl

theorem isAttentive (h : connection.Steady capabilities) : connection.isAttentive = true := by
  rw [Connection.isAttentive, h.ready, h.awake]
  rfl

/-- What a steady connection becomes by reading, writing, and commands that come and go. -/
theorem become (h : connection.Steady capabilities) {framing : Framing} {inbox : Bytes}
    {transport : Transport} {queue : Queue σ} {submissions : List (Submission σ)}
    {notices : List (Notice σ)} (hfault : transport.fault = connection.transport.fault)
    (hagreed : queue.capabilities = some capabilities) :
    Connection.Steady capabilities
      { connection with framing, inbox, transport, queue, submissions, notices } := by
  refine ⟨h.ready, h.awake, h.held, h.unfinished, hagreed, fun n => ?_⟩
  show transport.fault n = none
  rw [hfault]
  exact h.faultless n

end Connection.Steady

/-- Where a dialogue stands, by what is on its way to the client, by the requests that the server
has not dealt with, by the commands in the queue as they were submitted, and by what has been
answered to the first of them. -/
inductive Situation (capabilities : Capabilities) (queue : Queue (Builtin η)) (framing : Framing)
    (inbox outgoing : Bytes) : (unseen : List Bytes) → (queued : List (Entry (Builtin η))) →
    (current : List Sent.Exchange) → Prop
  | idle {unseen : List Bytes} (hentries : queue.entries = []) (hactive : queue.active = false)
      (hinbox : inbox = []) (hunfinished : framing.unfinished = none) (houtgoing : outgoing = [])
      (hunseen : ∀ request ∈ unseen, Request.isUnanswered request) :
      Situation capabilities queue framing inbox outgoing unseen [] []
  | waiting {closes : List Bytes} {entry : Entry (Builtin η)} {rest : List (Entry (Builtin η))}
      {now : Builtin η} {request : Bytes} {current : List Sent.Exchange}
      (hentries : queue.entries = ⟨entry.ticket, now⟩ :: rest) (hactive : queue.active = true)
      (hasked : Builtin.Asked entry.command current now request) (hinbox : inbox = [])
      (hunfinished : framing.unfinished = none)
      (hsequence : framing.sequence = (Framing.encode {} request).2.sequence)
      (houtgoing : outgoing = []) (hcloses : ∀ request ∈ closes, Request.isUnanswered request) :
      Situation capabilities queue framing inbox outgoing (closes ++ [request]) (entry :: rest)
        current
  | answering {entry : Entry (Builtin η)} {rest : List (Entry (Builtin η))} {now final : Builtin η}
      {remaining : List Bytes} {turn : Turn} {current : List Sent.Exchange}
      (hentries : queue.entries = ⟨entry.ticket, now⟩ :: rest) (hactive : queue.active = true)
      (htakes : Takes capabilities now remaining turn final)
      (hprogress : Builtin.Progress capabilities entry.command current turn final)
      (hcarries : framing.Carries (inbox ++ outgoing) remaining) (houtgoing : outgoing ≠ []) :
      Situation capabilities queue framing inbox outgoing [] (entry :: rest) current

namespace Situation

variable {queue next : Queue (Builtin η)} {framing : Framing} {inbox outgoing : Bytes}
  {unseen : List Bytes} {queued : List (Entry (Builtin η))} {current : List Sent.Exchange}

/-- A command that comes behind others changes nothing for them. -/
theorem append (h : Situation capabilities queue framing inbox outgoing unseen queued current)
    (hactive : queue.active = true) {entry : Entry (Builtin η)}
    (hentries : next.entries = queue.entries ++ [entry]) (hnext : next.active = true) :
    Situation capabilities next framing inbox outgoing unseen (queued ++ [entry]) current := by
  cases h with
  | idle _ hinactive =>
    rw [hinactive] at hactive
    cases hactive
  | waiting hbefore _ hasked hinbox hunfinished hsequence houtgoing hcloses =>
    rw [hbefore] at hentries
    exact .waiting hentries hnext hasked hinbox hunfinished hsequence houtgoing hcloses
  | answering hbefore _ htakes hprogress hcarries houtgoing =>
    rw [hbefore] at hentries
    exact .answering hentries hnext htakes hprogress hcarries houtgoing

/-- Without an active command nothing is under way. -/
theorem eq_nil_of_inactive
    (h : Situation capabilities queue framing inbox outgoing unseen queued current)
    (hactive : queue.active = false) :
    queued = [] ∧ current = [] ∧ queue.entries = [] ∧ inbox = [] ∧ outgoing = [] ∧
      framing.unfinished = none ∧ ∀ request ∈ unseen, Request.isUnanswered request := by
  cases h with
  | idle hentries _ hinbox hunfinished houtgoing hunseen =>
    exact ⟨rfl, rfl, hentries, hinbox, houtgoing, hunfinished, hunseen⟩
  | waiting _ hbusy =>
    rw [hbusy] at hactive
    cases hactive
  | answering _ hbusy =>
    rw [hbusy] at hactive
    cases hactive

/-- Either nothing has come or will come, or an answer is on its way. -/
theorem still_or_answering
    (h : Situation capabilities queue framing inbox outgoing unseen queued current) :
    (inbox = [] ∧ outgoing = []) ∨
      (unseen = [] ∧ queue.active = true ∧ ∃ entry rest now remaining turn final,
        queued = entry :: rest ∧ queue.entries = ⟨entry.ticket, now⟩ :: rest ∧
        Takes capabilities now remaining turn final ∧
        Builtin.Progress capabilities entry.command current turn final ∧
        framing.Carries (inbox ++ outgoing) remaining) := by
  cases h with
  | idle _ _ hinbox _ houtgoing => exact Or.inl ⟨hinbox, houtgoing⟩
  | waiting _ _ _ hinbox _ _ houtgoing => exact Or.inl ⟨hinbox, houtgoing⟩
  | answering hentries hactive htakes hprogress hcarries =>
    exact Or.inr ⟨rfl, hactive, _, _, _, _, _, _, rfl, hentries, htakes, hprogress, hcarries⟩

/-- **A request that is answered is the last one**, and its command waits for the answer. -/
theorem answer {request : Bytes} {rest : List Bytes}
    (h : Situation capabilities queue framing inbox outgoing (request :: rest) queued current)
    {answer : Sent.Answer} (hsuits : answer.Suits capabilities request) :
    rest = [] ∧ Situation capabilities queue framing inbox
      (outgoing ++ (Framing.encodeEach { sequence := (Framing.encode {} request).2.sequence }
        (answer.packets capabilities)).1) [] queued (current ++ [⟨request, answer⟩]) := by
  have hanswered : ¬ Request.isUnanswered request := by
    intro hunanswered
    have hcode := hsuits.1.symm.trans hunanswered
    rcases answer with ⟨_ | _ | ⟨_ | _, _⟩, _⟩ <;> simp [Sent.Body.requestCode] at hcode
  generalize hunseen : request :: rest = unseen at h
  cases h with
  | idle _ _ _ _ _ hall => exact absurd (hall request (by simp [← hunseen])) hanswered
  | @waiting closes entry behind now last _ hentries hactive hasked hinbox hunfinished hsequence
      houtgoing hcloses =>
    cases closes with
    | cons close closes =>
      cases hunseen
      exact absurd (hcloses _ List.mem_cons_self) hanswered
    | nil =>
      cases hunseen
      obtain ⟨turn, final, htakes, hprogress⟩ := hasked.exists_takes hsuits
      refine ⟨rfl, .answering hentries hactive htakes hprogress ?_ ?_⟩
      · rw [hinbox, houtgoing]
        exact Framing.carries_encodeEach hunfinished hsequence _
      · rw [houtgoing]
        exact Framing.encodeEach_ne_nil htakes.ne_nil _
  | answering => cases hunseen

/-- A request that is not answered makes no difference. -/
theorem pass {request : Bytes} {rest : List Bytes}
    (h : Situation capabilities queue framing inbox outgoing (request :: rest) queued current)
    (hunanswered : Request.isUnanswered request) :
    Situation capabilities queue framing inbox outgoing rest queued current := by
  generalize hunseen : request :: rest = unseen at h
  cases h with
  | idle hentries hactive hinbox hunfinished houtgoing hall =>
    subst hunseen
    rw [List.forall_mem_cons] at hall
    exact .idle hentries hactive hinbox hunfinished houtgoing hall.2
  | @waiting closes entry behind now last _ hentries hactive hasked hinbox hunfinished hsequence
      houtgoing hcloses =>
    cases closes with
    | nil =>
      cases hunseen
      exact absurd hunanswered hasked.not_isUnanswered
    | cons close closes =>
      cases hunseen
      rw [List.forall_mem_cons] at hcloses
      exact .waiting hentries hactive hasked hinbox hunfinished hsequence houtgoing hcloses.2
  | answering => cases hunseen

end Situation

/-! ## Beginning -/

theorem Queue.activateHead_nil {queue : Queue (Builtin η)} (hactive : queue.active = false)
    (hagreed : queue.capabilities = some capabilities) (hentries : queue.entries = []) :
    queue.activateHead = { queue } := by
  obtain ⟨entries, active, agreed⟩ := queue
  dsimp only at hactive hagreed hentries
  subst hactive hagreed hentries
  rfl

/-- The first of the commands that wait is activated, and asks. -/
theorem Queue.exists_activateHead_cons {queue : Queue (Builtin η)} (hactive : queue.active = false)
    (hagreed : queue.capabilities = some capabilities) {entry : Entry (Builtin η)}
    {rest : List (Entry (Builtin η))} (hentries : queue.entries = entry :: rest)
    (hfresh : entry.command.Fresh) :
    ∃ request now, Builtin.Asked entry.command [] now request ∧
      queue.activateHead =
        { queue := ⟨⟨entry.ticket, now⟩ :: rest, true, some capabilities⟩
          outbound := Outbound.requests [request] } := by
  obtain ⟨request, now, hactivate, hasked⟩ := Builtin.exists_activate hfresh capabilities
  refine ⟨request.encode, now, hasked, ?_⟩
  obtain ⟨entries, active, agreed⟩ := queue
  dsimp only at hactive hagreed hentries
  subst hactive hagreed hentries
  show activateFirst capabilities (entry :: rest) = _
  rw [activateFirst, hactivate]
  rfl

/-- **The next command that waits is activated, and its request is written**, behind requests that
are not answered. -/
theorem exists_begin {queue : Queue (Builtin η)} (hactive : queue.active = false)
    (hagreed : queue.capabilities = some capabilities)
    (hfresh : ∀ entry ∈ queue.entries, entry.command.Fresh) {closes : List Bytes}
    (hcloses : ∀ request ∈ closes, Request.isUnanswered request) :
    ∃ next payloads,
      queue.activateHead = { queue := next, outbound := Outbound.requests payloads } ∧
      next.capabilities = some capabilities ∧
      ∀ connection : Connection (Builtin η), (∀ n, connection.transport.fault n = none) →
        connection.framing.unfinished = none →
        ∃ framing transport writes,
          connection.writeOrFail (Outbound.requests (closes ++ payloads)) =
            { connection with framing, transport } ∧
          transport.fault = connection.transport.fault ∧
          transport.sent = connection.transport.sent ++ writes ∧
          writes.flatten = Framing.writeRequests (closes ++ payloads) ∧
          ∀ unseen, (∀ request ∈ unseen, Request.isUnanswered request) →
            Situation capabilities next framing [] [] (unseen ++ (closes ++ payloads))
              queue.entries [] := by
  have hall {unseen : List Bytes} (hunseen : ∀ request ∈ unseen, Request.isUnanswered request) :
      ∀ request ∈ unseen ++ closes, Request.isUnanswered request := by
    intro request hmem
    rcases List.mem_append.mp hmem with hmem | hmem
    · exact hunseen request hmem
    · exact hcloses request hmem
  cases hentries : queue.entries with
  | nil =>
    refine ⟨queue, [], Queue.activateHead_nil hactive hagreed hentries, hagreed,
      fun connection hfault hunfinished => ?_⟩
    obtain ⟨framing, transport, hwrite, hnext, -, hsame, writes, hsent, hwrites⟩ :=
      Connection.exists_writeOrFail_requests hfault hunfinished (closes ++ [])
    refine ⟨framing, transport, writes, hwrite, hsame, hsent, hwrites, fun unseen hunseen => ?_⟩
    rw [List.append_nil]
    exact .idle hentries hactive rfl hnext rfl (hall hunseen)
  | cons entry rest =>
    rw [hentries, List.forall_mem_cons] at hfresh
    obtain ⟨request, now, hasked, hactivate⟩ :=
      Queue.exists_activateHead_cons hactive hagreed hentries hfresh.1
    refine ⟨_, [request], hactivate, rfl, fun connection hfault hunfinished => ?_⟩
    obtain ⟨framing, transport, hwrite, hnext, hlast, hsame, writes, hsent, hwrites⟩ :=
      Connection.exists_writeOrFail_requests hfault hunfinished (closes ++ [request])
    refine ⟨framing, transport, writes, hwrite, hsame, hsent, hwrites, fun unseen hunseen => ?_⟩
    rw [← List.append_assoc]
    exact .waiting rfl rfl hasked rfl hnext (hlast request (by simp)) rfl (hall hunseen)

/-! ## Answers on their way -/

/-- The queue when its head has become `now`. -/
def Queue.withHead {σ : Type} (queue : Queue σ) (ticket : Nat) (now : σ) (rest : List (Entry σ)) :
    Queue σ :=
  { queue with entries := ⟨ticket, now⟩ :: rest }

section Taking

variable {connection : Connection (Builtin η)} {ticket : Nat} {now next final : Builtin η}
  {rest : List (Entry (Builtin η))} {payload : Bytes} {turn : Turn}

/-- A packet goes to the head of the queue. -/
theorem Queue.handle_of_hears {queue : Queue (Builtin η)}
    (hagreed : queue.capabilities = some capabilities) (hactive : queue.active = true)
    (hentries : queue.entries = ⟨ticket, now⟩ :: rest)
    (hhears : Hears capabilities now payload turn next) (sequence : UInt8) :
    queue.handle ⟨sequence, payload⟩ =
      queue.handleHead capabilities ⟨sequence, payload⟩ ⟨ticket, now⟩ rest := by
  rw [handle, hagreed]
  simp only [hhears.1, hactive, hentries]
  rfl

@[simp] theorem Connection.complete_nil {σ : Type} (connection : Connection σ) :
    connection.complete [] = connection := by
  unfold complete tell
  rw [List.map_nil, List.append_nil]

/-- A packet after which the command waits. -/
theorem Connection.take_of_wait (hsteady : connection.Steady capabilities)
    (hactive : connection.queue.active = true)
    (hentries : connection.queue.entries = ⟨ticket, now⟩ :: rest)
    (hhears : Hears capabilities now payload .wait next) (sequence : UInt8) :
    connection.take ⟨sequence, payload⟩ =
      { connection with queue := connection.queue.withHead ticket next rest } := by
  have hhandle : connection.queue.handle ⟨sequence, payload⟩ =
      { queue := connection.queue.withHead ticket next rest, result := .ok [] } := by
    rw [Queue.handle_of_hears hsteady.agreed hactive hentries hhears, Queue.handleHead,
      hhears.2 sequence]
    rfl
  rw [take_of_isReady hsteady.isReady, handled, hhandle]
  simp only [complete_nil]
  rfl

/-- A packet after which the command writes a request. -/
theorem Connection.take_of_request (hsteady : connection.Steady capabilities)
    (hactive : connection.queue.active = true)
    (hentries : connection.queue.entries = ⟨ticket, now⟩ :: rest) {request : Request}
    (hhears : Hears capabilities now payload (.request request) next) (sequence : UInt8) :
    connection.take ⟨sequence, payload⟩ =
      { connection with queue := connection.queue.withHead ticket next rest }.writeOrFail
        (Outbound.requests [request.encode]) := by
  have hhandle : connection.queue.handle ⟨sequence, payload⟩ =
      { queue := connection.queue.withHead ticket next rest
        result := .ok (Outbound.requests [request.encode]) } := by
    rw [Queue.handle_of_hears hsteady.agreed hactive hentries hhears, Queue.handleHead,
      hhears.2 sequence]
    rfl
  rw [take_of_isReady hsteady.isReady, handled, hhandle]
  simp only [complete_nil]

/-- What a command writes at its end is a request of its own. -/
theorem Turn.Closes.ofPackets_eq {failure : Option Error} (h : turn.Closes failure) :
    Outbound.ofPackets turn.packets turn.resequence = Outbound.requests turn.packets := by
  obtain ⟨-, -, hnil | ⟨hresequence, statementId, hone⟩⟩ := h
  · rw [hnil]
    rfl
  · rw [hone, hresequence]
    rfl

/-- A packet that ends the command: it is complete, and the next one is activated. -/
theorem Connection.take_of_closes (hsteady : connection.Steady capabilities)
    (hactive : connection.queue.active = true)
    (hentries : connection.queue.entries = ⟨ticket, now⟩ :: rest)
    (hhears : Hears capabilities now payload turn final) {failure : Option Error}
    (hcloses : turn.Closes failure)
    (hpassing : ∀ error, failure = some error → error.isConnectionFatal = false)
    {queue : Queue (Builtin η)} {payloads : List Bytes}
    (hnext : (connection.queue.withoutHead rest).activateHead =
      { queue, outbound := Outbound.requests payloads }) (sequence : UInt8) :
    connection.take ⟨sequence, payload⟩ =
      ({ connection with queue }.complete [⟨ticket, final, .ofFailure failure⟩]).writeOrFail
        (Outbound.requests (turn.packets ++ payloads)) := by
  have houtbound := hcloses.ofPackets_eq
  obtain ⟨hdone, hfailure, -⟩ := hcloses
  have hresult : turn.result = .ofFailure failure := by
    rw [Turn.result, hfailure]
    cases failure <;> rfl
  have hfatal : Queue.fatalError? now turn.failure = none := by
    rw [Queue.fatalError?, hfailure, Option.map_eq_none_iff, Option.filter_eq_none_iff]
    intro error herror
    rw [hpassing error herror]
    decide
  have hhandle : connection.queue.handle ⟨sequence, payload⟩ =
      { queue
        result := .ok (Outbound.requests (turn.packets ++ payloads))
        completions := [⟨ticket, final, .ofFailure failure⟩] } := by
    rw [Queue.handle_of_hears hsteady.agreed hactive hentries hhears, Queue.handleHead,
      hhears.2 sequence]
    dsimp only
    rw [if_pos hdone, hfatal]
    dsimp only
    rw [hnext, houtbound, hresult, Outbound.requests_append]
    rfl
  rw [take_of_isReady hsteady.isReady, handled, hhandle]

/-- **While an answer is on its way, taking what has come** leaves the command in front of the
packets that are still to come, or gives it the last one. -/
theorem exists_consume (hsteady : connection.Steady capabilities)
    (hactive : connection.queue.active = true)
    (hentries : connection.queue.entries = ⟨ticket, now⟩ :: rest) {remaining : List Bytes}
    (htakes : Takes capabilities now remaining turn final) {front back : Bytes}
    (hcarries : connection.framing.Carries (front ++ back) remaining) :
    (∃ framing left current remaining,
      connection.consume front =
        { connection with
          framing
          inbox := left
          queue := connection.queue.withHead ticket current rest } ∧
      Takes capabilities current remaining turn final ∧
      framing.Carries (left ++ back) remaining ∧ back ≠ []) ∨
    ∃ framing current payload sequence,
      connection.consume front =
        ({ connection with
            framing
            inbox := []
            queue := connection.queue.withHead ticket current rest }.take
              ⟨sequence, payload⟩).consume [] ∧
      Hears capabilities current payload turn final ∧ framing.unfinished = none ∧ back = [] := by
  have hwith (queue : Queue (Builtin η)) (h : queue.entries = ⟨ticket, now⟩ :: rest) :
      queue.withHead ticket now rest = queue := by
    rw [Queue.withHead, ← h]
  -- packet by packet
  induction htakes generalizing connection front with
  | @last now payload turn final hhears =>
    rcases Framing.decode_of_carries hcarries with
      ⟨framing, left, hdecode, hleft, hback⟩ | ⟨sequence, framing, left, hdecode, hleft⟩
    · refine Or.inl ⟨framing, left, now, [payload], ?_, .last hhears, hleft, hback⟩
      rw [Connection.consume_of_none hsteady.isAttentive hdecode, hwith _ hentries]
    · obtain ⟨hunfinished, hnil⟩ := hleft
      obtain ⟨rfl, rfl⟩ := List.append_eq_nil_iff.mp hnil
      refine Or.inr ⟨framing, now, payload, sequence, ?_, hhears, hunfinished, rfl⟩
      rw [Connection.consume_of_packet hsteady.isAttentive hdecode, hwith _ hentries]
  | @more now next payload payloads turn final hhears htakes ih =>
    rcases Framing.decode_of_carries hcarries with
      ⟨framing, left, hdecode, hleft, hback⟩ | ⟨sequence, framing, left, hdecode, hleft⟩
    · refine Or.inl ⟨framing, left, now, payload :: payloads, ?_, .more hhears htakes, hleft, hback⟩
      rw [Connection.consume_of_none hsteady.isAttentive hdecode, hwith _ hentries]
    · have hstill : Connection.Steady capabilities { connection with framing, inbox := left } :=
        ⟨hsteady.ready, hsteady.awake, hsteady.held, hsteady.unfinished, hsteady.agreed,
          hsteady.faultless⟩
      have htake := Connection.take_of_wait hstill hactive hentries hhears sequence
      rw [Connection.consume_of_packet hsteady.isAttentive hdecode, htake]
      have hafter : Connection.Steady capabilities { connection with
          framing, inbox := left, queue := connection.queue.withHead ticket next rest } :=
        ⟨hsteady.ready, hsteady.awake, hsteady.held, hsteady.unfinished, hsteady.agreed,
          hsteady.faultless⟩
      exact ih hafter hactive rfl hleft fun queue h => by rw [Queue.withHead, ← h]

end Taking

end MySqlClient
