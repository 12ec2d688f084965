import MySqlClient.Proofs.Connection.TlsBoundary

/-!
# Where packets come from

A watch stands beside a connection.  Of every packet that comes to the queue it notes which of the
octets that have been received the packet consists of, and what had been received when the queue
wrote last.  Octets that were left over then are the first that come to the queue afterwards:
nothing tells them from an answer.

* `Queue.recipient?`: the command that is handed a packet.
* `Connection.asks`: the queue has written; `Connection.asks_take`: when it does.
* `Arrival`, `Watch`: what is noted; `Watch.connection_step`: **the connection under the watch is
  the connection.**
* `Watch.Sound`: the invariant: every packet consists of the octets that are noted.
* `Watch.fresh_iff`: **every packet that a command is handed has come after the request if and only
  if the packets before it have taken up whatever was left over when the request was written.**
-/

namespace MySqlClient

variable {σ : Type}

/-! ## Recipients -/

namespace Queue

/-- The command that is handed a packet. -/
def recipient? (queue : Queue σ) (packet : Packet) : Option (Entry σ) :=
  match queue.capabilities with
  | none => none
  | some capabilities =>
    if isProgressReport capabilities packet.payload then none
    else if queue.active then queue.entries.head? else none

variable [Command σ]

/-- A packet with a recipient is handed to it. -/
theorem handle_of_recipient {queue : Queue σ} {packet : Packet} {entry : Entry σ}
    (h : queue.recipient? packet = some entry) :
    ∃ capabilities rest, queue.capabilities = some capabilities ∧ queue.entries = entry :: rest ∧
      queue.handle packet = queue.handleHead capabilities packet entry rest := by
  rw [recipient?] at h
  cases hcapabilities : queue.capabilities with
  | none =>
    rw [hcapabilities] at h
    cases h
  | some capabilities =>
    rw [hcapabilities] at h
    dsimp only at h
    by_cases hreport : isProgressReport capabilities packet.payload = true
    · rw [if_pos hreport] at h
      cases h
    · rw [if_neg hreport] at h
      by_cases hactive : queue.active = true
      · rw [if_pos hactive] at h
        obtain ⟨rest, hentries⟩ := List.head?_eq_some_iff.mp h
        refine ⟨capabilities, rest, rfl, hentries, ?_⟩
        rw [handle, hcapabilities]
        dsimp only
        rw [if_neg hreport, if_neg (by simp [hactive]), hentries]
      · rw [if_neg hactive] at h
        cases h

/-- A packet without a recipient changes no command. -/
theorem handle_of_no_recipient {queue : Queue σ} {packet : Packet}
    (h : queue.recipient? packet = none) :
    (queue.handle packet).queue = queue ∧ (queue.handle packet).completions = [] ∧
      ∀ outbound, (queue.handle packet).result = .ok outbound → outbound = [] := by
  rw [handle]
  rw [recipient?] at h
  cases hcapabilities : queue.capabilities with
  | none => exact ⟨rfl, rfl, fun _ heq => by cases heq⟩
  | some capabilities =>
    rw [hcapabilities] at h
    dsimp only at h ⊢
    by_cases hreport : isProgressReport capabilities packet.payload = true
    · rw [if_pos hreport]
      exact ⟨rfl, rfl, fun _ heq => by cases heq; rfl⟩
    · rw [if_neg hreport] at h ⊢
      by_cases hactive : queue.active = true
      · rw [if_pos hactive] at h
        rw [if_neg (by simp [hactive]), List.head?_eq_none_iff.mp h]
        exact ⟨rfl, rfl, fun _ heq => by cases heq⟩
      · rw [if_pos (by simpa using hactive)]
        exact ⟨rfl, rfl, fun _ heq => by cases heq⟩

end Queue

/-! ## Requests -/

namespace Connection

/-- Something has been written, and commands may flow.  Then it is what the queue asked for: nobody
else writes without ending the session. -/
def asks (before after : Connection σ) : Bool :=
  after.lifecycle.isReady && decide (before.transport.sent.length < after.transport.sent.length)

variable [Command σ]

/-- What the queue asks for is written, if there is anything and the transport takes it. -/
theorem asks_writeOrFail {connection : Connection σ} (hready : connection.lifecycle.isReady = true)
    (outbound : List Outbound) :
    connection.asks (connection.writeOrFail outbound) = true ↔
      outbound ≠ [] ∧ connection.transport.fault connection.transport.attempts = none := by
  have hframe := write_frame connection outbound
  rcases hwrite : connection.write outbound with ⟨next, error | done⟩
  · have hclosed : (connection.writeOrFail outbound).lifecycle = .closed := by
      rw [writeOrFail, hwrite]
      exact lifecycle_drain_closing (Lifecycle.onEvent_failed_fst _ _ _) 2
    rw [asks, hclosed]
    refine iff_of_false (by simp [Lifecycle.isReady]) fun h => ?_
    rw [write, if_neg (by simp [h.1])] at hwrite
    simp only [Transport.write, h.2] at hwrite
    cases hwrite
  · have hwritten : connection.writeOrFail outbound = next := by
      rw [writeOrFail, hwrite]
    rw [hwrite] at hframe
    rw [hwritten, asks, hframe.lifecycle, hready, Bool.true_and, decide_eq_true_eq]
    by_cases hnone : outbound = []
    · refine iff_of_false (fun hlt => ?_) fun h => h.1 hnone
      rw [hnone] at hwrite
      cases hwrite
      exact Nat.lt_irrefl _ hlt
    · refine iff_of_true ?_ ⟨hnone, ?_⟩
      · rw [length_sent_of_write hwrite hnone]
        exact Nat.lt_succ_self _
      · rw [write, if_neg (by simp [hnone])] at hwrite
        cases hfault : connection.transport.fault connection.transport.attempts with
        | none => rfl
        | some error =>
          simp only [Transport.write, hfault] at hwrite
          cases hwrite

/-- **A packet leads to a request** if the queue answers one and the transport takes it. -/
theorem asks_take {connection : Connection σ} (hready : connection.lifecycle.isReady = true)
    (packet : Packet) :
    connection.asks (connection.take packet) = true ↔
      ∃ outbound, (connection.queue.handle packet).result = .ok outbound ∧ outbound ≠ [] ∧
        connection.transport.fault connection.transport.attempts = none := by
  cases hresult : (connection.queue.handle packet).result with
  | ok outbound =>
    rw [take_of_ok hready hresult]
    have hwrite : connection.asks ((connection.handled packet).writeOrFail outbound) = true ↔
        outbound ≠ [] ∧ connection.transport.fault connection.transport.attempts = none :=
      asks_writeOrFail (show (connection.handled packet).lifecycle.isReady = true from hready)
        outbound
    rw [hwrite]
    refine ⟨fun h => ⟨outbound, rfl, h⟩, ?_⟩
    rintro ⟨other, heq, h⟩
    cases heq
    exact h
  | error error =>
    have hclosed : ((connection.handled packet).dispatch (.failed error)).lifecycle = .closed :=
      lifecycle_drain_closing (Lifecycle.onEvent_failed_fst _ _ _) 2
    rw [take_of_error hready hresult, asks, hclosed]
    exact iff_of_false (by simp [Lifecycle.isReady]) (by simp)

end Connection

/-! ## The watch -/

/-- A packet that has come to the queue. -/
structure Arrival where
  payload : Bytes
  /-- The ticket of the command that was handed the packet, if one was. -/
  recipient : Option Nat
  /-- How many octets had been received before the first one of its frames. -/
  first : Nat
  /-- How many octets had been received with the last one of its frames. -/
  last : Nat
  /-- How many octets had been received when the queue wrote last. -/
  asked : Nat
  /-- Those of them that were in no packet then. -/
  left : Bytes
  /-- How many octets were in packets that came since then. -/
  taken : Nat
  deriving DecidableEq

/-- A connection under watch. -/
structure Watch (σ : Type) where
  connection : Connection σ
  /-- The octets that have been received. -/
  stream : Bytes := []
  /-- Where the next packet begins in them. -/
  first : Nat := 0
  asked : Nat := 0
  left : Bytes := []
  taken : Nat := 0
  arrivals : List Arrival := []

namespace Watch

/-- The octets that have been received and are in no packet yet. -/
def pending (watch : Watch σ) : Bytes :=
  watch.stream.drop watch.first

/-- Something has come of the connection; if the queue has written, this is noted. -/
def become (watch : Watch σ) (next : Connection σ) : Watch σ :=
  if watch.connection.asks next then
    { watch with
      connection := next
      asked := watch.stream.length
      left := watch.pending
      taken := 0 }
  else { watch with connection := next }

/-- What is noted of a packet, behind which there are further octets. -/
def arrival (watch : Watch σ) (packet : Packet) (rest : Bytes) : Arrival where
  payload := packet.payload
  recipient := (watch.connection.queue.recipient? packet).map Entry.ticket
  first := watch.first
  last := watch.stream.length - rest.length
  asked := watch.asked
  left := watch.left
  taken := watch.taken

/-- A packet is noted, before it is taken. -/
def note (watch : Watch σ) (packet : Packet) (rest : Bytes) : Watch σ :=
  { watch with
    first := watch.stream.length - rest.length
    taken := watch.taken + (watch.stream.length - rest.length - watch.first)
    arrivals :=
      if watch.connection.lifecycle.isReady then watch.arrivals ++ [watch.arrival packet rest]
      else watch.arrivals }

variable [Command σ]

/-- Take packets off some octets, under watch. -/
def consume (watch : Watch σ) (octets : Bytes) : Watch σ :=
  if watch.connection.isAttentive then
    match _h : watch.connection.framing.decode octets with
    | ⟨.ok (some packet), framing, rest⟩ =>
      let read : Watch σ :=
        { watch with connection := { watch.connection with framing, inbox := rest } }
      ((read.note packet rest).become (read.connection.take packet)).consume rest
    | _ => { watch with connection := watch.connection.consume octets }
  else { watch with connection := watch.connection.consume octets }
termination_by octets.length
decreasing_by exact Framing.length_lt_of_decode (by assumption)

/-- Settle, under watch. -/
def settle (watch : Watch σ) : Watch σ :=
  { watch with connection := watch.connection.settle }

/-- Take an input, under watch. -/
def step (watch : Watch σ) : Connection.Input σ → Watch σ
  | .receive octets =>
    if watch.connection.isAttentive then
      ({ watch with stream := watch.stream ++ octets }.consume
        (watch.connection.inbox ++ octets)).settle
    else watch
  | .upgraded result =>
    match watch.connection.suspension with
    | none => watch
    | some suspension =>
      let next := watch.connection.resume suspension result
      ({ watch with connection := next }.consume next.inbox).settle
  | input => watch.become (watch.connection.step input)

/-! ## The connection under the watch -/

omit [Command σ] in
@[simp] theorem connection_become (watch : Watch σ) (next : Connection σ) :
    (watch.become next).connection = next := by
  unfold become
  split <;> rfl

omit [Command σ] in
@[simp] theorem stream_become (watch : Watch σ) (next : Connection σ) :
    (watch.become next).stream = watch.stream := by
  unfold become
  split <;> rfl

theorem consume_of_packet {watch : Watch σ} {octets rest : Bytes} {framing : Framing}
    {packet : Packet} (h : watch.connection.isAttentive = true)
    (hdecode : watch.connection.framing.decode octets = ⟨.ok (some packet), framing, rest⟩) :
    watch.consume octets =
      ((({ watch with
          connection := { watch.connection with framing, inbox := rest } } : Watch σ).note packet
        rest).become
          (Connection.take { watch.connection with framing, inbox := rest } packet)).consume
        rest := by
  rw [consume, if_pos h]
  split
  · next hread =>
    rw [hdecode] at hread
    cases hread
    rfl
  · next hother => exact absurd hdecode (hother _ _ _)

theorem consume_of_other {watch : Watch σ} {octets : Bytes}
    (h : watch.connection.isAttentive = true → ∀ packet framing rest,
      watch.connection.framing.decode octets ≠ ⟨.ok (some packet), framing, rest⟩) :
    watch.consume octets = { watch with connection := watch.connection.consume octets } := by
  rw [consume]
  split
  · next hattentive =>
    split
    · next hread => exact absurd hread (h hattentive _ _ _)
    · rfl
  · rfl

theorem connection_consume (watch : Watch σ) (octets : Bytes) :
    (watch.consume octets).connection = watch.connection.consume octets ∧
      (watch.consume octets).stream = watch.stream := by
  -- packet by packet
  induction hn : octets.length using Nat.strongRecOn generalizing watch octets with
  | ind n ih =>
    subst hn
    by_cases hpacket : watch.connection.isAttentive = true ∧ ∃ packet framing rest,
        watch.connection.framing.decode octets = ⟨.ok (some packet), framing, rest⟩
    · obtain ⟨hattentive, packet, framing, rest, hdecode⟩ := hpacket
      obtain ⟨hconnection, hstream⟩ := ih rest.length (Framing.length_lt_of_decode hdecode)
        ((({ watch with
          connection := { watch.connection with framing, inbox := rest } } : Watch σ).note packet
            rest).become (Connection.take { watch.connection with framing, inbox := rest } packet))
        rest rfl
      rw [consume_of_packet hattentive hdecode,
        Connection.consume_of_packet hattentive hdecode, hconnection, hstream, connection_become,
        stream_become]
      exact ⟨rfl, rfl⟩
    · rw [consume_of_other fun hattentive packet framing rest hdecode =>
        hpacket ⟨hattentive, packet, framing, rest, hdecode⟩]
      exact ⟨rfl, rfl⟩

/-- **The connection under the watch is the connection.** -/
theorem connection_step (watch : Watch σ) (input : Connection.Input σ) :
    (watch.step input).connection = watch.connection.step input ∧
      (watch.step input).stream = watch.stream ++ watch.connection.hears input := by
  cases input with
  | receive octets =>
    rw [step, Connection.step, Connection.whenAwake, Connection.hears]
    split
    · next hattentive =>
      obtain ⟨hconnection, hstream⟩ := connection_consume
        { watch with stream := watch.stream ++ octets } (watch.connection.inbox ++ octets)
      exact ⟨congrArg Connection.settle hconnection, hstream⟩
    · exact ⟨rfl, (List.append_nil _).symm⟩
  | upgraded result =>
    rw [step, Connection.step]
    cases watch.connection.suspension with
    | none => exact ⟨rfl, (List.append_nil _).symm⟩
    | some suspension =>
      let next := watch.connection.resume suspension result
      obtain ⟨hconnection, hstream⟩ :=
        connection_consume { watch with connection := next } next.inbox
      exact ⟨congrArg Connection.settle hconnection, hstream.trans (List.append_nil _).symm⟩
  | _ => exact ⟨connection_become _ _, (stream_become _ _).trans (List.append_nil _).symm⟩

theorem connection_run (watch : Watch σ) (inputs : List (Connection.Input σ)) :
    (inputs.foldl step watch).connection = inputs.foldl Connection.step watch.connection ∧
      (inputs.foldl step watch).stream = watch.stream ++ watch.connection.heard inputs := by
  induction inputs generalizing watch with
  | nil => exact ⟨rfl, (List.append_nil _).symm⟩
  | cons input inputs ih =>
    obtain ⟨hconnection, hstream⟩ := connection_step watch input
    obtain ⟨hall, hheard⟩ := ih (watch.step input)
    rw [hconnection] at hall hheard
    rw [hstream, List.append_assoc] at hheard
    exact ⟨hall, hheard⟩

end Watch

/-! ## What is noted is true -/

/-- What is noted of a packet holds of the octets that have been received. -/
structure Arrival.Sound (arrival : Arrival) (stream : Bytes) : Prop where
  /-- The packet consists of the octets between two places. -/
  frames : ∃ frames : List Frame,
    (stream.drop arrival.first).take (arrival.last - arrival.first) = Frame.encodeAll frames ∧
      arrival.payload = frames.flatMap Frame.chunk
  first_le : arrival.first ≤ arrival.last
  last_le : arrival.last ≤ stream.length
  /-- What was left over stands right in front of what had not been received. -/
  left : arrival.left <:+ stream.take arrival.asked
  asked_le : arrival.asked ≤ stream.length
  /-- What was left over is taken first. -/
  count : arrival.first + arrival.left.length = arrival.asked + arrival.taken

theorem Arrival.Sound.append {arrival : Arrival} {stream : Bytes} (h : arrival.Sound stream)
    (more : Bytes) : arrival.Sound (stream ++ more) := by
  obtain ⟨frames, hframes, hpayload⟩ := h.frames
  have hfirst := h.first_le
  have hlast := h.last_le
  refine ⟨⟨frames, ?_, hpayload⟩, h.first_le, ?_, ?_, ?_, h.count⟩
  · rw [List.drop_append_of_le_length (by omega), List.take_append_of_le_length, hframes]
    rw [List.length_drop]
    omega
  · rw [List.length_append]
    omega
  · rw [List.take_append_of_le_length h.asked_le]
    exact h.left
  · rw [List.length_append]
    exact Nat.le_add_right_of_le h.asked_le

/-- The packet has come after the queue wrote last. -/
def Arrival.IsFresh (arrival : Arrival) : Prop :=
  arrival.asked ≤ arrival.first

/-- **A packet has come after the request if and only if the packets before it have taken up what
was left over.** -/
theorem Arrival.Sound.isFresh_iff {arrival : Arrival} {stream : Bytes} (h : arrival.Sound stream) :
    arrival.IsFresh ↔ arrival.left.length ≤ arrival.taken := by
  have hcount := h.count
  unfold Arrival.IsFresh
  omega

namespace Watch

/-- What is noted holds, where `behind` are the octets that no frame has been taken from. -/
structure Sound (watch : Watch σ) (behind : Bytes) : Prop where
  first_le : watch.first ≤ watch.stream.length
  pending : watch.connection.framing.Holds watch.pending behind
  left : watch.left <:+ watch.stream.take watch.asked
  asked_le : watch.asked ≤ watch.stream.length
  count : watch.first + watch.left.length = watch.asked + watch.taken
  arrivals : ∀ arrival ∈ watch.arrivals, arrival.Sound watch.stream

namespace Sound

variable {watch : Watch σ} {behind : Bytes}

/-- Nothing is left over when no packet has begun and the inbox is empty. -/
theorem pending_eq_nil_iff (h : watch.Sound watch.connection.inbox) :
    watch.pending = [] ↔
      watch.connection.framing.unfinished = none ∧ watch.connection.inbox = [] :=
  h.pending.eq_nil_iff

theorem congr (h : watch.Sound behind) {next : Connection σ}
    (hnext : next.framing.unfinished = watch.connection.framing.unfinished) :
    Sound { watch with connection := next } behind :=
  ⟨h.first_le, h.pending.congr hnext, h.left, h.asked_le, h.count, h.arrivals⟩

theorem become (h : watch.Sound behind) {next : Connection σ}
    (hnext : next.framing.unfinished = watch.connection.framing.unfinished) :
    (watch.become next).Sound behind := by
  unfold Watch.become
  split
  · refine ⟨h.first_le, h.pending.congr hnext, ?_, Nat.le_refl _, ?_, h.arrivals⟩
    · rw [List.take_length]
      exact List.drop_suffix _ _
    · have hfirst := h.first_le
      show watch.first + (watch.stream.drop watch.first).length = watch.stream.length + 0
      rw [List.length_drop]
      omega
  · exact h.congr hnext

/-- Further octets have come. -/
theorem receive (h : watch.Sound behind) (octets : Bytes) :
    Sound { watch with stream := watch.stream ++ octets } (behind ++ octets) := by
  have hfirst := h.first_le
  have hasked := h.asked_le
  refine ⟨?_, ?_, ?_, ?_, h.count, fun arrival hmem => (h.arrivals arrival hmem).append octets⟩
  · rw [List.length_append]
    exact Nat.le_add_right_of_le hfirst
  · have hpending := h.pending.append octets
    rw [Watch.pending, ← List.drop_append_of_le_length hfirst] at hpending
    exact hpending
  · rw [List.take_append_of_le_length hasked]
    exact h.left
  · rw [List.length_append]
    exact Nat.le_add_right_of_le hasked

/-- **A packet is noted with the octets that it consists of.** -/
theorem note (h : watch.Sound behind) {packet : Packet} {framing : Framing} {rest : Bytes}
    (hdecode : watch.connection.framing.decode behind = ⟨.ok (some packet), framing, rest⟩) :
    (({ watch with connection := { watch.connection with framing, inbox := rest } } :
      Watch σ).note packet rest).Sound rest := by
  have hkeeps := Framing.keeps_decode h.pending
  rw [hdecode] at hkeeps
  obtain ⟨frames, hpending, hpayload, hwhole⟩ := hkeeps
  dsimp only at hpending hwhole
  have hfirst := h.first_le
  have hcount := h.count
  have hlength : watch.stream.length - watch.first =
      (Frame.encodeAll frames).length + rest.length := by
    rw [← List.length_append, ← hpending, Watch.pending, List.length_drop]
  let last := watch.stream.length - rest.length
  have hlast : last - watch.first = (Frame.encodeAll frames).length := by
    omega
  have hrest : watch.stream.drop last = rest := by
    have hplace : last = watch.first + (Frame.encodeAll frames).length := by
      omega
    rw [hplace, ← List.drop_drop, show watch.stream.drop watch.first = _ from hpending,
      List.drop_left]
  have harrival : (watch.arrival packet rest).Sound watch.stream := by
    refine ⟨⟨frames, ?_, hpayload⟩, ?_, Nat.sub_le _ _, h.left, h.asked_le, hcount⟩
    · show (watch.stream.drop watch.first).take (last - watch.first) = _
      rw [hlast, show watch.stream.drop watch.first = _ from hpending, List.take_left]
    · show watch.first ≤ last
      omega
  refine ⟨Nat.sub_le _ _, ?_, h.left, h.asked_le, ?_, fun arrival hmem => ?_⟩
  · show framing.Holds (watch.stream.drop last) rest
    rw [hrest]
    exact Framing.holds_of_unfinished_none hwhole rest
  · show last + watch.left.length = watch.asked + (watch.taken + (last - watch.first))
    omega
  · have hcases : arrival ∈ watch.arrivals ∨ arrival = watch.arrival packet rest := by
      revert hmem
      show arrival ∈ (if watch.connection.lifecycle.isReady then
        watch.arrivals ++ [watch.arrival packet rest] else watch.arrivals) → _
      split
      · intro hmem
        simpa using hmem
      · exact Or.inl
    rcases hcases with hold | rfl
    · exact h.arrivals arrival hold
    · exact harrival

variable [Command σ]

/-- **Whatever is taken off some octets, what is noted of it holds.** -/
theorem consume (h : watch.Sound behind) :
    (watch.consume behind).Sound (watch.consume behind).connection.inbox := by
  -- packet by packet
  induction hn : behind.length using Nat.strongRecOn generalizing watch behind with
  | ind n ih =>
    subst hn
    cases hattentive : watch.connection.isAttentive with
    | false =>
      rw [consume_of_other (by simp [hattentive]), Connection.consume_of_inattentive hattentive]
      exact h.congr rfl
    | true =>
      have hkeeps := Framing.keeps_decode h.pending
      rcases hdecode : watch.connection.framing.decode behind with
        ⟨error | ⟨_ | packet⟩, framing, rest⟩
      · rw [hdecode] at hkeeps
        have hkept : framing.Holds watch.pending rest := hkeeps
        have hoctets := Connection.dispatch_octets
          { watch.connection with framing, inbox := rest } (.failed error)
        rw [consume_of_other (by simp [hdecode]), Connection.consume_of_error hattentive hdecode]
        refine ⟨h.first_le, ?_, h.left, h.asked_le, h.count, h.arrivals⟩
        dsimp only
        rw [hoctets.inbox]
        exact hkept.congr hoctets.unfinished
      · rw [hdecode] at hkeeps
        have hkept : framing.Holds watch.pending rest := hkeeps
        rw [consume_of_other (by simp [hdecode]), Connection.consume_of_none hattentive hdecode]
        exact ⟨h.first_le, hkept, h.left, h.asked_le, h.count, h.arrivals⟩
      · rw [consume_of_packet hattentive hdecode]
        refine ih rest.length (Framing.length_lt_of_decode hdecode) ?_ rfl
        exact (h.note hdecode).become (Connection.take_octets _ packet).unfinished

omit [Command σ] in
theorem settle (h : watch.Sound watch.connection.inbox) :
    watch.settle.Sound watch.settle.connection.inbox := by
  have hoctets := Connection.settle_octets watch.connection
  rw [show watch.settle.connection.inbox = watch.connection.inbox from hoctets.inbox]
  exact h.congr hoctets.unfinished

/-- **Every step leaves what is noted true.** -/
theorem step (h : watch.Sound watch.connection.inbox) (input : Connection.Input σ) :
    (watch.step input).Sound (watch.step input).connection.inbox := by
  have hsilent {next : Connection σ} (hnext : Connection.SameOctets watch.connection next) :
      (watch.become next).Sound (watch.become next).connection.inbox := by
    rw [connection_become, hnext.inbox]
    exact h.become hnext.unfinished
  have hwhenAwake {next : Connection σ} (hnext : Connection.SameOctets watch.connection next) :
      Connection.SameOctets watch.connection (watch.connection.whenAwake next) := by
    unfold Connection.whenAwake
    split
    · exact hnext.trans (Connection.settle_octets next)
    · exact .refl _
  cases input with
  | submit submission =>
    refine hsilent ?_
    rw [Connection.step]
    split <;> exact ⟨rfl, rfl, List.prefix_rfl⟩
  | release => exact hsilent ⟨rfl, rfl, List.prefix_rfl⟩
  | serve => exact hsilent (hwhenAwake (Connection.serve_octets _))
  | endOfStream => exact hsilent (hwhenAwake (Connection.dispatch_octets _ _))
  | readFailed error => exact hsilent (hwhenAwake (Connection.dispatch_octets _ _))
  | receive octets =>
    rw [Watch.step]
    split
    · exact (h.receive octets).consume.settle
    · exact h
  | upgraded result =>
    rw [Watch.step]
    split
    · exact h
    · next suspension _ =>
      have hoctets := Connection.resume_octets watch.connection suspension result
      refine settle (consume ?_)
      rw [hoctets.inbox]
      exact h.congr hoctets.unfinished

/-- **Every run leaves what is noted true.** -/
theorem run (h : watch.Sound watch.connection.inbox) (inputs : List (Connection.Input σ)) :
    (inputs.foldl Watch.step watch).Sound (inputs.foldl Watch.step watch).connection.inbox := by
  induction inputs generalizing watch with
  | nil => exact h
  | cons input inputs ih => exact ih (h.step input)

end Sound

variable [Command σ]

/-- **Where packets come from.**  In every run, every packet that comes to the queue consists of the
octets that are noted, and what is left over is what the inbox and a packet that has begun hold.  All
packets that commands are handed have come after the request that the queue wrote last if and only if
each time the packets before them have taken up whatever was left over when it was written. -/
theorem fresh_iff (login : Login) (tlsAvailable : Bool) (fault : Nat → Option Error)
    (inputs : List (Connection.Input σ)) :
    let start : Connection σ := Connection.openOver login tlsAvailable fault
    let watch := inputs.foldl step { connection := start }
    watch.connection = inputs.foldl Connection.step start ∧
      watch.stream = start.heard inputs ∧
      (watch.pending = [] ↔
        watch.connection.framing.unfinished = none ∧ watch.connection.inbox = []) ∧
      (∀ arrival ∈ watch.arrivals, arrival.Sound watch.stream) ∧
      ((∀ arrival ∈ watch.arrivals, arrival.recipient.isSome = true → arrival.IsFresh) ↔
        ∀ arrival ∈ watch.arrivals, arrival.recipient.isSome = true →
          arrival.left.length ≤ arrival.taken) := by
  intro start watch
  have hstart : Sound ({ connection := start } : Watch σ) start.inbox :=
    ⟨Nat.le_refl _, Framing.holds_of_unfinished_none rfl [], List.nil_suffix, Nat.le_refl _, rfl,
      by simp⟩
  obtain ⟨hconnection, hstream⟩ := connection_run { connection := start } inputs
  have hsound := hstart.run inputs
  refine ⟨hconnection, hstream, hsound.pending_eq_nil_iff, hsound.arrivals, ?_⟩
  refine forall_congr' fun arrival => forall_congr' fun hmem => forall_congr' fun _ => ?_
  exact (hsound.arrivals arrival hmem).isFresh_iff

/-- An OK packet, as the first packet of an answer. -/
def okAnswer : Bytes :=
  [0x07, 0x00, 0x00, 0x01, 0x00, 0x00, 0x00, 0x02, 0x00, 0x00, 0x00]

/-- Two pings are submitted, and two answers come at once, before the second ping is written. -/
def twoPings : List (Connection.Input Ping) :=
  [.receive Connection.tlsGreeting,
    .receive [0x07, 0x00, 0x00, 0x02, 0x00, 0x00, 0x00, 0x02, 0x00, 0x00, 0x00],
    .submit (.command ⟨1, {}⟩), .serve, .submit (.command ⟨2, {}⟩), .serve,
    .receive (okAnswer ++ okAnswer)]

/-- The second ping is handed a packet that came before it was written. -/
theorem not_fresh_twoPings :
    let start : Connection Ping := Connection.openOver Connection.plainLogin false fun _ => none
    let watch := twoPings.foldl step { connection := start }
    watch.connection.lifecycle.isReady = true ∧
      ¬ ∀ arrival ∈ watch.arrivals, arrival.recipient.isSome = true → arrival.IsFresh := by
  intro start watch
  obtain ⟨-, -, -, -, hiff⟩ := fresh_iff Connection.plainLogin false (fun _ => none) twoPings
  have hstale : watch.arrivals.any (fun arrival =>
      arrival.recipient.isSome && decide (arrival.taken < arrival.left.length)) = true := by
    decide +kernel
  refine ⟨by decide +kernel, fun hfresh => ?_⟩
  obtain ⟨arrival, hmem, hleft⟩ := List.any_eq_true.mp hstale
  rw [Bool.and_eq_true, decide_eq_true_eq] at hleft
  exact absurd (hiff.mp hfresh arrival hmem hleft.1) (Nat.not_le.mpr hleft.2)

end Watch

end MySqlClient
