import MySqlClient.Proofs.Connection.Upgrade

/-!
# Connections past the TLS upgrade

Once the greeting has been answered no upgrade runs any more, and a session only goes forward.

* `Connection.IsLate`: the time from which no upgrade runs any more; `Connection.IsLate.step`:
  **past the upgrade a connection stays.**
* `Connection.progress`: a measure of what a session has done; `Connection.progress_lt_take`:
  **every packet raises it while the session authenticates**, and nothing lowers it after that.
-/

namespace MySqlClient

namespace Connection

variable {σ : Type}

/-! ## Past the upgrade -/

theorem settle_of_open {connection : Connection σ} (h : connection.lifecycle.isClosed = false) :
    connection.settle = connection := by
  rw [settle, h]
  rfl

/-- No upgrade runs, and none will. -/
structure IsLate (connection : Connection σ) : Prop where
  past : connection.lifecycle.isPastTls = true
  awake : connection.suspension = none

namespace IsLate

variable {connection : Connection σ}

theorem settle (h : connection.IsLate) : connection.settle.IsLate := by
  unfold Connection.settle
  split
  · have hframe := tellEstablished_frame
      (connection.failQueue.complete (connection.submissions.filterMap Submission.refused))
      (.error .closed)
    exact ⟨(congrArg Lifecycle.isPastTls hframe.lifecycle).trans h.past,
      hframe.suspension.trans h.awake⟩
  · exact h

theorem whenAwake (h : connection.IsLate) {next : Connection σ} (hnext : next.IsLate) :
    (connection.whenAwake next).IsLate := by
  unfold Connection.whenAwake
  split
  · exact hnext.settle
  · exact h

end IsLate

/-! ## A measure -/

/-- A measure of what a session has done past TLS: writes count more than states. -/
def progress (connection : Connection σ) : Nat :=
  4 * connection.transport.sent.length + connection.lifecycle.rank

theorem progress_le {connection next : Connection σ}
    (hsent : connection.transport.sent <+: next.transport.sent)
    (hrank : connection.lifecycle.rank ≤ next.lifecycle.rank) :
    connection.progress ≤ next.progress := by
  have hlength := hsent.length_le
  unfold progress
  omega

theorem progress_lt {connection next : Connection σ}
    (hsent : connection.transport.sent <+: next.transport.sent)
    (hrank : connection.lifecycle.rank < next.lifecycle.rank) :
    connection.progress < next.progress := by
  have hlength := hsent.length_le
  unfold progress
  omega

/-- What a session writes while it authenticates is progress, whatever state it comes to. -/
theorem progress_lt_of_write {connection next : Connection σ}
    (hsent : connection.transport.sent.length < next.transport.sent.length)
    (hrank : connection.lifecycle.rank ≤ 2) : connection.progress < next.progress := by
  unfold progress
  omega

theorem lifecycle_settle (connection : Connection σ) :
    connection.settle.lifecycle = connection.lifecycle := by
  unfold settle
  split
  · exact (tellEstablished_frame _ _).lifecycle
  · rfl

theorem progress_settle (connection : Connection σ) :
    connection.settle.progress = connection.progress := by
  have hsent : connection.settle.transport.sent = connection.transport.sent := by
    unfold settle finish tellEstablished
    split
    · cases hestablishing : connection.establishing <;>
        simp [failQueue, complete, tell, hestablishing, Transport.close]
    · rfl
  unfold progress
  rw [hsent, lifecycle_settle]

variable [Command σ]

/-! ## Events past the upgrade -/

/-- Actions without a request for TLS do not wait for it. -/
theorem ending_ne_upgrading {connection : Connection σ} {actions : List Lifecycle.Action}
    (h : Lifecycle.Action.startTls ∉ actions) (rest : List Lifecycle.Action) :
    (connection.carryOut actions).2 ≠ .upgrading rest := by
  intro hending
  obtain ⟨front, rfl⟩ := exists_eq_of_upgrading (Prod.ext rfl hending)
  exact h (by simp)

theorem lifecycle_react (connection : Connection σ) (event : Lifecycle.Event) :
    (connection.react event).1.lifecycle =
      (connection.lifecycle.onEvent connection.login event).1 := by
  obtain ⟨news, henter⟩ :=
    enter_eq connection (connection.lifecycle.onEvent connection.login event).1
  rw [react, (carryOut_frame _ _).lifecycle, henter]

/-- An event that leads past the upgrade. -/
theorem react_late {connection : Connection σ} (hawake : connection.suspension = none)
    (event : Lifecycle.Event)
    (hpast : (connection.lifecycle.onEvent connection.login event).1.isPastTls = true) :
    (connection.react event).1.IsLate ∧
      ∀ rest, (connection.react event).2 ≠ .upgrading rest := by
  refine ⟨⟨?_, (suspension_react connection event).trans hawake⟩, ?_⟩
  · rw [lifecycle_react]
    exact hpast
  · exact ending_ne_upgrading
      ((Lifecycle.isTransition_onEvent connection.login connection.lifecycle event).not_mem_startTls
        hpast)

namespace IsLate

variable {connection : Connection σ}

theorem drain (h : connection.IsLate) {fuel : Nat} {ending : Ending}
    (hending : ∀ rest, ending ≠ .upgrading rest) (events : List Lifecycle.Event) :
    (connection.drain fuel ending events).1.IsLate := by
  induction fuel generalizing connection ending events with
  | zero =>
    cases ending with
    | upgrading actions => exact absurd rfl (hending actions)
    | done =>
      rw [drain_done_zero]
      exact h
    | failed error =>
      rw [drain_failed, drain_done_zero]
      exact h
  | succ fuel ih =>
    have hdone (events : List Lifecycle.Event) :
        (connection.drain (fuel + 1) .done events).1.IsLate := by
      cases events with
      | nil =>
        rw [drain_done_nil]
        exact h
      | cons event left =>
        obtain ⟨hlate, hnext⟩ := react_late h.awake event
          (Lifecycle.isPastTls_onEvent h.past connection.login event)
        rw [drain_done_cons]
        exact ih hlate hnext left
    cases ending with
    | upgrading actions => exact absurd rfl (hending actions)
    | done => exact hdone events
    | failed error =>
      rw [drain_failed]
      exact hdone _

end IsLate

/-- An event that leads past the upgrade, with what comes of it. -/
theorem late_drain {connection : Connection σ} {event : Lifecycle.Event}
    (hawake : connection.suspension = none)
    (hpast : (connection.lifecycle.onEvent connection.login event).1.isPastTls = true)
    (fuel : Nat) : (connection.drain (fuel + 1) .done [event]).1.IsLate := by
  obtain ⟨hlate, hending⟩ := react_late hawake event hpast
  rw [drain_done_cons]
  exact hlate.drain hending []

theorem late_dispatch {connection : Connection σ} {event : Lifecycle.Event}
    (hawake : connection.suspension = none)
    (hpast : (connection.lifecycle.onEvent connection.login event).1.isPastTls = true) :
    (connection.dispatch event).IsLate :=
  late_drain hawake hpast 2

/-- After a failed action. -/
theorem late_drain_failed {connection : Connection σ} (hawake : connection.suspension = none)
    (error : Error) (fuel : Nat) : (connection.drain (fuel + 1) (.failed error) []).1.IsLate := by
  rw [drain_failed]
  exact late_drain hawake (by rw [Lifecycle.onEvent_failed_fst]; rfl) fuel

theorem late_dispatch_failed {connection : Connection σ} (hawake : connection.suspension = none)
    (error : Error) : (connection.dispatch (.failed error)).IsLate :=
  late_dispatch hawake (by rw [Lifecycle.onEvent_failed_fst]; rfl)

namespace IsLate

variable {connection : Connection σ}

theorem dispatch (h : connection.IsLate) (event : Lifecycle.Event) :
    (connection.dispatch event).IsLate :=
  late_dispatch h.awake (Lifecycle.isPastTls_onEvent h.past connection.login event)

theorem writeOrFail (h : connection.IsLate) (outbound : List Outbound) :
    (connection.writeOrFail outbound).IsLate := by
  have hframe := write_frame connection outbound
  unfold Connection.writeOrFail
  split
  · next next heq =>
    rw [heq] at hframe
    exact ⟨hframe.lifecycle ▸ h.past, hframe.suspension.trans h.awake⟩
  · next next error heq =>
    rw [heq] at hframe
    exact late_dispatch_failed (hframe.suspension.trans h.awake) error

theorem take (h : connection.IsLate) (packet : Packet) : (connection.take packet).IsLate := by
  cases hready : connection.lifecycle.isReady with
  | true =>
    have hhandled : IsLate (connection.handled packet) := ⟨h.past, h.awake⟩
    rw [take_of_isReady hready]
    split
    · exact hhandled.writeOrFail _
    · exact hhandled.dispatch _
  | false =>
    rw [take_of_not_isReady hready]
    exact h.dispatch _

theorem consume (h : connection.IsLate) (octets : Bytes) : (connection.consume octets).IsLate := by
  -- packet by packet
  induction hn : octets.length using Nat.strongRecOn generalizing connection octets with
  | ind n ih =>
    subst hn
    cases hattentive : connection.isAttentive with
    | false =>
      rw [consume_of_inattentive hattentive]
      exact ⟨h.past, h.awake⟩
    | true =>
      rcases hdecode : connection.framing.decode octets with ⟨error | ⟨_ | packet⟩, framing, rest⟩
      · rw [consume_of_error hattentive hdecode]
        apply IsLate.dispatch
        exact ⟨h.past, h.awake⟩
      · rw [consume_of_none hattentive hdecode]
        exact ⟨h.past, h.awake⟩
      · rw [consume_of_packet hattentive hdecode]
        refine ih rest.length (Framing.length_lt_of_decode hdecode) ?_ rest rfl
        apply IsLate.take
        exact ⟨h.past, h.awake⟩

theorem serve (h : connection.IsLate) : connection.serve.IsLate := by
  unfold Connection.serve
  split
  · apply IsLate.writeOrFail
    exact ⟨h.past, h.awake⟩
  · apply IsLate.dispatch
    exact ⟨h.past, h.awake⟩
  · split
    · exact h.dispatch _
    · exact h

/-- **Past the upgrade a connection stays.** -/
theorem step (h : connection.IsLate) (input : Input σ) : (connection.step input).IsLate := by
  cases input with
  | submit submission =>
    rw [Connection.step]
    split
    · exact h
    · exact ⟨h.past, h.awake⟩
  | release => exact ⟨h.past, h.awake⟩
  | serve => exact h.whenAwake h.serve
  | receive octets => exact h.whenAwake (h.consume _)
  | endOfStream => exact h.whenAwake (h.dispatch _)
  | readFailed error => exact h.whenAwake (h.dispatch _)
  | upgraded result =>
    rw [Connection.step, h.awake]
    exact h

end IsLate

/-! ## The end -/

/-- The end is the end. -/
theorem lifecycle_drain_of_closed {connection : Connection σ}
    (h : connection.lifecycle = .closed) (fuel : Nat) (ending : Ending)
    (events : List Lifecycle.Event) :
    (connection.drain fuel ending events).1.lifecycle = .closed := by
  induction fuel generalizing connection ending events with
  | zero =>
    cases ending with
    | upgrading actions => exact h
    | done =>
      rw [drain_done_zero]
      exact h
    | failed error =>
      rw [drain_failed, drain_done_zero]
      exact h
  | succ fuel ih =>
    have hdone (events : List Lifecycle.Event) :
        (connection.drain (fuel + 1) .done events).1.lifecycle = .closed := by
      cases events with
      | nil =>
        rw [drain_done_nil]
        exact h
      | cons event left =>
        rw [drain_done_cons]
        apply ih
        rw [lifecycle_react, h]
        rfl
    cases ending with
    | upgrading actions => exact h
    | done => exact hdone events
    | failed error =>
      rw [drain_failed]
      exact hdone _

/-- An event that leads to the end. -/
theorem lifecycle_drain_closing {connection : Connection σ} {event : Lifecycle.Event}
    (h : (connection.lifecycle.onEvent connection.login event).1 = .closed) (fuel : Nat) :
    (connection.drain (fuel + 1) .done [event]).1.lifecycle = .closed := by
  rw [drain_done_cons]
  apply lifecycle_drain_of_closed
  rw [lifecycle_react, h]

/-- A failed action leads to the end. -/
theorem lifecycle_drain_failed (connection : Connection σ) (error : Error) (fuel : Nat) :
    (connection.drain (fuel + 1) (.failed error) []).1.lifecycle = .closed := by
  rw [drain_failed]
  exact lifecycle_drain_closing (Lifecycle.onEvent_failed_fst _ _ _) fuel

/-- Once an event has been dealt with, the actions were carried out, or the session is over. -/
theorem drain_nil_cases (connection : Connection σ) {ending : Ending}
    (h : ∀ rest, ending ≠ .upgrading rest) (fuel : Nat) :
    (ending = .done ∧ (connection.drain (fuel + 1) ending []).1 = connection) ∨
      (connection.drain (fuel + 1) ending []).1.lifecycle = .closed := by
  cases ending with
  | upgrading actions => exact absurd rfl (h actions)
  | done => exact Or.inl ⟨rfl, by rw [drain_done_nil]⟩
  | failed error => exact Or.inr (lifecycle_drain_failed connection error fuel)

/-! ## Progress -/

/-- A reply that has been written. -/
theorem length_sent_of_reply {connection : Connection σ} {octets : Bytes}
    (h : (connection.carryOut [.send octets false, .read]).2 = .done) :
    (connection.carryOut [.send octets false, .read]).1.transport.sent.length =
      connection.transport.sent.length + 1 := by
  rw [carryOut, perform] at h ⊢
  rcases hwrite : connection.write [⟨[octets], false⟩] with ⟨next, error | done⟩
  · rw [hwrite] at h
    cases h
  · dsimp only
    rw [if_neg (by simp)]
    exact length_sent_of_write hwrite (List.cons_ne_nil _ _)

/-- **Every packet is progress while a session authenticates.** -/
theorem progress_lt_take {connection : Connection σ} {exchange : AuthExchange} {session : Session}
    (hawake : connection.suspension = none)
    (hlifecycle : connection.lifecycle = .authenticating exchange session) (packet : Packet) :
    connection.progress < (connection.take packet).progress := by
  have hrank : connection.lifecycle.rank ≤ 2 := by
    rw [hlifecycle]
    exact Lifecycle.stageRank_le exchange.stage
  have htake : connection.take packet =
      ((connection.react (.packet packet)).1.drain 2 (connection.react (.packet packet)).2
        []).1 := by
    rw [take_of_not_isReady (by rw [hlifecycle]; rfl)]
    exact congrArg Prod.fst (drain_done_cons 2 connection (.packet packet) [])
  have hsent : connection.transport.sent <+: (connection.take packet).transport.sent := by
    rw [htake]
    exact (react_octets connection _).sent.trans (drain_octets _ _ _ _).sent
  have hevent : connection.lifecycle.onEvent connection.login (.packet packet) =
      Lifecycle.orFail (Lifecycle.onAuthPacket exchange session packet) := by
    rw [hlifecycle]
    rfl
  have hpast : connection.lifecycle.isPastTls = true := by
    rw [hlifecycle]
    rfl
  obtain ⟨-, hending⟩ := react_late hawake (.packet packet)
    (Lifecycle.isPastTls_onEvent hpast connection.login _)
  rcases drain_nil_cases (connection.react (.packet packet)).1 hending 1 with
    ⟨hdone, hsame⟩ | hclosed
  · rw [htake, hsame] at hsent ⊢
    have hreact := lifecycle_react connection (.packet packet)
    cases hpacket : Lifecycle.onAuthPacket exchange session packet with
    | error error =>
      rw [hevent, hpacket] at hreact
      exact progress_lt hsent (by rw [hreact]; exact Nat.lt_succ_of_le hrank)
    | ok transition =>
      rw [hevent, hpacket] at hreact
      rcases Lifecycle.onAuthPacket_cases hpacket with ⟨session, rfl⟩ | ⟨next, reply, rfl, hstage⟩
      · exact progress_lt hsent (by rw [hreact]; exact Nat.lt_succ_of_le hrank)
      · cases reply with
        | none =>
          refine progress_lt hsent ?_
          rw [hreact, hlifecycle]
          exact hstage rfl
        | some octets =>
          obtain ⟨news, henter⟩ := enter_eq connection (.authenticating next session)
          have hcarry : connection.react (.packet packet) =
              (connection.enter (.authenticating next session)).carryOut
                [.send octets false, .read] := by
            rw [react, hevent, hpacket]
            rfl
          rw [hcarry] at hdone ⊢
          refine progress_lt_of_write ?_ hrank
          rw [length_sent_of_reply hdone, henter]
          exact Nat.lt_succ_self _
  · rw [← htake] at hclosed
    exact progress_lt hsent (by rw [hclosed]; exact Nat.lt_succ_of_le hrank)

/-- Nothing is undone by a failure. -/
theorem progress_le_dispatch {connection : Connection σ} {event : Lifecycle.Event}
    (h : (connection.lifecycle.onEvent connection.login event).1 = .closed) :
    connection.progress ≤ (connection.dispatch event).progress := by
  refine progress_le (drain_octets _ _ _ _).sent ?_
  rw [show (connection.dispatch event).lifecycle = .closed from lifecycle_drain_closing h 2]
  exact Lifecycle.rank_le _

theorem progress_le_writeOrFail (connection : Connection σ) (outbound : List Outbound) :
    connection.progress ≤ (connection.writeOrFail outbound).progress := by
  have hframe := write_frame connection outbound
  have hwrite := progress_le hframe.sent
    (Nat.le_of_eq (congrArg Lifecycle.rank hframe.lifecycle.symm))
  unfold writeOrFail
  split
  · next next heq =>
    rw [heq] at hwrite
    exact hwrite
  · next next error heq =>
    rw [heq] at hwrite
    exact Nat.le_trans hwrite (progress_le_dispatch (Lifecycle.onEvent_failed_fst _ _ _))

namespace IsLate

variable {connection : Connection σ}

theorem progress_le_take (h : connection.IsLate) (packet : Packet) :
    connection.progress ≤ (connection.take packet).progress := by
  cases hlifecycle : connection.lifecycle with
  | authenticating exchange session =>
    exact Nat.le_of_lt (progress_lt_take h.awake hlifecycle packet)
  | ready capabilities =>
    have hready : connection.lifecycle.isReady = true := by
      rw [hlifecycle]
      rfl
    rw [take_of_isReady hready,
      show connection.progress = progress (connection.handled packet) from rfl]
    split
    · exact progress_le_writeOrFail _ _
    · exact progress_le_dispatch (Lifecycle.onEvent_failed_fst _ _ _)
  | closed =>
    rw [take_of_not_isReady (by rw [hlifecycle]; rfl)]
    refine progress_le_dispatch ?_
    rw [hlifecycle]
    rfl
  | _ =>
    have hpast := h.past
    rw [hlifecycle] at hpast
    cases hpast

/-- **Past the upgrade nothing is undone.** -/
theorem progress_le_consume (h : connection.IsLate) (octets : Bytes) :
    connection.progress ≤ (connection.consume octets).progress := by
  induction hn : octets.length using Nat.strongRecOn generalizing connection octets with
  | ind n ih =>
    subst hn
    cases hattentive : connection.isAttentive with
    | false =>
      rw [consume_of_inattentive hattentive]
      exact Nat.le_refl _
    | true =>
      rcases hdecode : connection.framing.decode octets with ⟨error | ⟨_ | packet⟩, framing, rest⟩
      · have hread : connection.progress =
            progress { connection with framing, inbox := rest } := rfl
        rw [consume_of_error hattentive hdecode, hread]
        exact progress_le_dispatch (Lifecycle.onEvent_failed_fst _ _ _)
      · rw [consume_of_none hattentive hdecode]
        exact Nat.le_refl _
      · have hread : IsLate { connection with framing, inbox := rest } := ⟨h.past, h.awake⟩
        rw [consume_of_packet hattentive hdecode]
        exact Nat.le_trans (hread.progress_le_take packet)
          (ih rest.length (Framing.length_lt_of_decode hdecode) (hread.take packet) rest rfl)

end IsLate

end Connection

end MySqlClient
