import MySqlClient.Proofs.Connection.Steps
import MySqlClient.Proofs.Lifecycle.Transitions

/-!
# Connections around a TLS upgrade

A connection waits for a TLS upgrade only in the state of the lifecycle that is made for it, and
nothing else is left to do then but to tell the lifecycle how the upgrade came out.

* `Connection.carryOut_frame`: carrying out actions changes neither the state of the lifecycle nor
  the inbox.
* `Connection.SameOctets`: what events leave alone, with all that comes of them.
* `Connection.Poised`: what a connection looks like between two steps.
* `Connection.poised_step`: **every step leads from such a connection to such a connection.**
-/

namespace MySqlClient

/-- Writing packets leaves an unfinished one alone. -/
theorem Framing.unfinished_encodeEach (framing : Framing) (payloads : List Bytes) :
    (framing.encodeEach payloads).2.unfinished = framing.unfinished := by
  induction payloads generalizing framing with
  | nil => rfl
  | cons payload payloads ih =>
    rw [encodeEach_cons_snd, ih]
    rfl

theorem Outbound.unfinished_encodeAll (framing : Framing) (outbound : List Outbound) :
    (encodeAll framing outbound).2.unfinished = framing.unfinished := by
  induction outbound generalizing framing with
  | nil => rfl
  | cons first outbound ih =>
    rw [encodeAll]
    dsimp only
    rw [ih, Framing.unfinished_encodeEach]
    split <;> rfl

namespace Connection

variable {σ : Type}

/-! ## What actions leave alone -/

/-- The parts of a connection that actions and writes leave alone. -/
structure SameFrame (before after : Connection σ) : Prop where
  login : after.login = before.login
  tlsAvailable : after.tlsAvailable = before.tlsAvailable
  lifecycle : after.lifecycle = before.lifecycle
  inbox : after.inbox = before.inbox
  submissions : after.submissions = before.submissions
  released : after.released = before.released
  closeWaiters : after.closeWaiters = before.closeWaiters
  suspension : after.suspension = before.suspension
  finished : after.finished = before.finished
  unfinished : after.framing.unfinished = before.framing.unfinished
  sent : before.transport.sent <+: after.transport.sent

theorem SameFrame.refl (connection : Connection σ) : SameFrame connection connection :=
  ⟨rfl, rfl, rfl, rfl, rfl, rfl, rfl, rfl, rfl, rfl, List.prefix_rfl⟩

theorem SameFrame.trans {first second third : Connection σ} (h : SameFrame first second)
    (h' : SameFrame second third) : SameFrame first third :=
  ⟨h'.login.trans h.login, h'.tlsAvailable.trans h.tlsAvailable, h'.lifecycle.trans h.lifecycle,
    h'.inbox.trans h.inbox, h'.submissions.trans h.submissions, h'.released.trans h.released,
    h'.closeWaiters.trans h.closeWaiters, h'.suspension.trans h.suspension,
    h'.finished.trans h.finished, h'.unfinished.trans h.unfinished, h.sent.trans h'.sent⟩

/-- Writing changes the framing and the transport. -/
theorem exists_eq_of_write (connection : Connection σ) (outbound : List Outbound) :
    ∃ framing transport, (connection.write outbound).1 = { connection with framing, transport } ∧
      framing.unfinished = connection.framing.unfinished ∧
      connection.transport.sent <+: transport.sent := by
  unfold write
  split
  · exact ⟨connection.framing, connection.transport, rfl, rfl, List.prefix_rfl⟩
  · refine ⟨_, _, rfl, Outbound.unfinished_encodeAll _ _, ?_⟩
    unfold Transport.write
    split
    · exact List.prefix_rfl
    · exact List.prefix_append _ _

/-- A write that succeeds is one more. -/
theorem length_sent_of_write {connection next : Connection σ} {outbound : List Outbound}
    (h : connection.write outbound = (next, .ok ())) (hsome : outbound ≠ []) :
    next.transport.sent.length = connection.transport.sent.length + 1 := by
  unfold write at h
  rw [if_neg (by simp [hsome])] at h
  unfold Transport.write at h
  dsimp only at h
  split at h
  · cases h
  · cases h
    exact List.length_append

/-- What events leave alone: octets that have come stay where they are, and what has been written
stays written. -/
structure SameOctets (before after : Connection σ) : Prop where
  inbox : after.inbox = before.inbox
  unfinished : after.framing.unfinished = before.framing.unfinished
  sent : before.transport.sent <+: after.transport.sent

theorem SameOctets.refl (connection : Connection σ) : SameOctets connection connection :=
  ⟨rfl, rfl, List.prefix_rfl⟩

theorem SameOctets.trans {first second third : Connection σ} (h : SameOctets first second)
    (h' : SameOctets second third) : SameOctets first third :=
  ⟨h'.inbox.trans h.inbox, h'.unfinished.trans h.unfinished, h.sent.trans h'.sent⟩

theorem SameFrame.octets {before after : Connection σ} (h : SameFrame before after) :
    SameOctets before after :=
  ⟨h.inbox, h.unfinished, h.sent⟩

theorem write_frame (connection : Connection σ) (outbound : List Outbound) :
    SameFrame connection (connection.write outbound).1 := by
  obtain ⟨framing, transport, hwrite, hunfinished, hsent⟩ := exists_eq_of_write connection outbound
  rw [hwrite]
  exact ⟨rfl, rfl, rfl, rfl, rfl, rfl, rfl, rfl, rfl, hunfinished, hsent⟩

theorem tellEstablished_frame (connection : Connection σ) (result : Outcome Session) :
    SameFrame connection (connection.tellEstablished result) := by
  unfold tellEstablished
  split <;> exact ⟨rfl, rfl, rfl, rfl, rfl, rfl, rfl, rfl, rfl, rfl, List.prefix_rfl⟩

theorem enter_eq (connection : Connection σ) (lifecycle : Lifecycle) :
    ∃ news, connection.enter lifecycle =
      { connection with lifecycle, notices := connection.notices ++ news } := by
  unfold enter
  dsimp only
  split
  · exact ⟨[], by simp⟩
  · exact ⟨[.entered lifecycle], rfl⟩

/-! ## Between two steps -/

/-- No upgrade runs, or the lifecycle waits for one and nothing else does. -/
def Poised (connection : Connection σ) : Prop :=
  connection.suspension = none ∨
    connection.suspension = some ⟨[], []⟩ ∧
      ∃ greeting capabilities, connection.lifecycle = .awaitingTls greeting capabilities

theorem suspension_of_isAttentive {connection : Connection σ}
    (h : connection.isAttentive = true) : connection.suspension = none := by
  rw [isAttentive, Bool.and_eq_true, Option.isNone_iff_eq_none] at h
  exact h.2

/-- Settling leaves the octets alone too. -/
theorem settle_octets (connection : Connection σ) : SameOctets connection connection.settle := by
  unfold settle
  split
  · have hframe := tellEstablished_frame
      (connection.failQueue.complete (connection.submissions.filterMap Submission.refused))
      (.error .closed)
    exact ⟨hframe.inbox, hframe.unfinished, hframe.sent⟩
  · exact .refl connection

theorem poised_settle {connection : Connection σ} (h : Poised connection) :
    Poised connection.settle := by
  unfold settle
  split
  · next hclosed =>
    rw [Bool.and_eq_true, Bool.and_eq_true, Option.isNone_iff_eq_none] at hclosed
    exact Or.inl ((tellEstablished_frame _ _).suspension.trans hclosed.1.2)
  · exact h

theorem poised_whenAwake {connection next : Connection σ} (h : Poised connection)
    (hnext : connection.suspension = none → Poised next) :
    Poised (connection.whenAwake next) := by
  unfold whenAwake
  split
  · next hattentive => exact poised_settle (hnext (suspension_of_isAttentive hattentive))
  · exact h

variable [Command σ]

/-! ## Actions -/

theorem perform_frame (connection : Connection σ) (action : Lifecycle.Action) :
    SameFrame connection (connection.perform action).1 := by
  cases action with
  | read => exact .refl connection
  | send payload resequence => exact write_frame connection _
  | startTls => exact .refl connection
  | established session =>
    let effect := connection.queue.start session.capabilities
    let started := { connection with queue := effect.queue }.complete effect.completions
    have hstarted : SameFrame connection started :=
      ⟨rfl, rfl, rfl, rfl, rfl, rfl, rfl, rfl, rfl, rfl, List.prefix_rfl⟩
    exact (hstarted.trans (tellEstablished_frame started _)).trans (write_frame _ _)
  | shutdown => exact ⟨rfl, rfl, rfl, rfl, rfl, rfl, rfl, rfl, rfl, rfl, List.prefix_rfl⟩
  | fail error =>
    exact (tellEstablished_frame connection _).trans
      ⟨rfl, rfl, rfl, rfl, rfl, rfl, rfl, rfl, rfl, rfl, List.prefix_rfl⟩

theorem carryOut_frame (connection : Connection σ) (actions : List Lifecycle.Action) :
    SameFrame connection (connection.carryOut actions).1 := by
  induction actions generalizing connection with
  | nil => exact .refl connection
  | cons action rest ih =>
    have hperform := perform_frame connection action
    rw [carryOut]
    split
    · next next error heq =>
      rw [heq] at hperform
      exact hperform
    · next next heq =>
      rw [heq] at hperform
      split
      · exact hperform
      · exact hperform.trans (ih next)

/-- What waits for an upgrade is what stands behind the request for it. -/
theorem exists_eq_of_upgrading {connection next : Connection σ}
    {actions rest : List Lifecycle.Action}
    (h : connection.carryOut actions = (next, .upgrading rest)) :
    ∃ front, actions = front ++ .startTls :: rest := by
  induction actions generalizing connection with
  | nil => cases h
  | cons action actions ih =>
    rw [carryOut] at h
    split at h
    · cases h
    · split at h
      · next haction =>
        cases h
        exact ⟨[], by rw [haction]; rfl⟩
      · obtain ⟨front, hfront⟩ := ih h
        exact ⟨action :: front, by rw [hfront]; rfl⟩

/-! ## Events one by one -/

/-- What comes of one event. -/
def react (connection : Connection σ) (event : Lifecycle.Event) : Connection σ × Ending :=
  let transition := connection.lifecycle.onEvent connection.login event
  (connection.enter transition.1).carryOut transition.2

theorem drain_done_nil (fuel : Nat) (connection : Connection σ) :
    connection.drain fuel .done [] = (connection, []) := by
  cases fuel <;> rfl

theorem drain_done_zero (connection : Connection σ) (events : List Lifecycle.Event) :
    connection.drain 0 .done events = (connection, events) := by
  cases events with
  | nil => rfl
  | cons event events =>
    show (connection, event :: events ++ []) = _
    rw [List.append_nil]

theorem drain_done_cons (fuel : Nat) (connection : Connection σ) (event : Lifecycle.Event)
    (left : List Lifecycle.Event) :
    connection.drain (fuel + 1) .done (event :: left) =
      (connection.react event).1.drain fuel (connection.react event).2 left := by
  show (_ : Connection σ).drain fuel _ (left ++ []) = _
  rw [List.append_nil]
  rfl

/-- A failed action is an event that comes last. -/
theorem drain_failed (fuel : Nat) (connection : Connection σ) (error : Error)
    (events : List Lifecycle.Event) :
    connection.drain fuel (.failed error) events =
      connection.drain fuel .done (events ++ [.failed error]) := by
  cases fuel with
  | zero =>
    rw [drain_done_zero]
    cases events <;> rfl
  | succ fuel =>
    cases events with
    | nil => rw [List.nil_append, drain_done_cons]; rfl
    | cons event events => rw [List.cons_append, drain_done_cons]; rfl

/-! ## What events leave alone -/

theorem react_octets (connection : Connection σ) (event : Lifecycle.Event) :
    SameOctets connection (connection.react event).1 := by
  obtain ⟨news, henter⟩ :=
    enter_eq connection (connection.lifecycle.onEvent connection.login event).1
  have hframe := carryOut_frame
    (connection.enter (connection.lifecycle.onEvent connection.login event).1)
    (connection.lifecycle.onEvent connection.login event).2
  rw [henter] at hframe
  rw [react, henter]
  exact ⟨hframe.inbox, hframe.unfinished, hframe.sent⟩

theorem drain_octets (fuel : Nat) (connection : Connection σ) (ending : Ending)
    (events : List Lifecycle.Event) :
    SameOctets connection (connection.drain fuel ending events).1 := by
  induction fuel generalizing connection ending events with
  | zero =>
    cases ending with
    | upgrading actions => exact ⟨rfl, rfl, List.prefix_rfl⟩
    | done =>
      rw [drain_done_zero]
      exact .refl connection
    | failed error =>
      rw [drain_failed, drain_done_zero]
      exact .refl connection
  | succ fuel ih =>
    have hdone (events : List Lifecycle.Event) :
        SameOctets connection (connection.drain (fuel + 1) .done events).1 := by
      cases events with
      | nil =>
        rw [drain_done_nil]
        exact .refl connection
      | cons event left =>
        rw [drain_done_cons]
        exact (react_octets connection event).trans (ih _ _ _)
    cases ending with
    | upgrading actions => exact ⟨rfl, rfl, List.prefix_rfl⟩
    | done => exact hdone events
    | failed error =>
      rw [drain_failed]
      exact hdone _

/-- **An event leaves the octets alone that have come.** -/
theorem dispatch_octets (connection : Connection σ) (event : Lifecycle.Event) :
    SameOctets connection (connection.dispatch event) :=
  drain_octets _ _ _ _

theorem writeOrFail_octets (connection : Connection σ) (outbound : List Outbound) :
    SameOctets connection (connection.writeOrFail outbound) := by
  have hframe := (write_frame connection outbound).octets
  unfold writeOrFail
  split
  · next next heq =>
    rw [heq] at hframe
    exact hframe
  · next next error heq =>
    rw [heq] at hframe
    exact hframe.trans (dispatch_octets _ _)

theorem take_octets (connection : Connection σ) (packet : Packet) :
    SameOctets connection (connection.take packet) := by
  cases hready : connection.lifecycle.isReady with
  | true =>
    have hhandled : SameOctets connection (connection.handled packet) :=
      ⟨rfl, rfl, List.prefix_rfl⟩
    rw [take_of_isReady hready]
    split
    · exact hhandled.trans (writeOrFail_octets _ _)
    · exact hhandled.trans (dispatch_octets _ _)
  | false =>
    rw [take_of_not_isReady hready]
    exact dispatch_octets _ _

theorem serve_octets (connection : Connection σ) : SameOctets connection connection.serve := by
  unfold serve
  split
  · next entry rest _ =>
    have hpushed : SameOctets connection
        ({ connection with
            submissions := rest
            queue := (connection.queue.push entry).queue }.complete
          (connection.queue.push entry).completions) := ⟨rfl, rfl, List.prefix_rfl⟩
    exact hpushed.trans (writeOrFail_octets _ _)
  · next waiter rest _ =>
    have hasked : SameOctets connection
        { connection with
          submissions := rest, closeWaiters := connection.closeWaiters ++ [waiter] } :=
      ⟨rfl, rfl, List.prefix_rfl⟩
    exact hasked.trans (dispatch_octets _ _)
  · split
    · exact dispatch_octets _ _
    · exact .refl connection

theorem resume_octets (connection : Connection σ) (suspension : Suspension)
    (result : Outcome Unit) : SameOctets connection (connection.resume suspension result) := by
  have hawake : SameOctets connection { connection with suspension := none } :=
    ⟨rfl, rfl, List.prefix_rfl⟩
  cases result with
  | error error => exact hawake.trans (drain_octets _ _ _ _)
  | ok done => exact (hawake.trans (carryOut_frame _ _).octets).trans (drain_octets _ _ _ _)

/-! ## From step to step -/

/-- What may be left to do while an event is dealt with: one event at most. -/
def Pending (connection : Connection σ) : Ending → List Lifecycle.Event → Prop
  | .done, events => events.length ≤ 1
  | .failed _, events => events = []
  | .upgrading actions, events => actions = [] ∧ events = [] ∧
      ∃ greeting capabilities, connection.lifecycle = .awaitingTls greeting capabilities

/-- Carrying out what a step of the lifecycle asks for leaves no event over but a failure. -/
theorem pending_carryOut {connection : Connection σ} {actions : List Lifecycle.Action}
    (h : Lifecycle.IsTransition (connection.lifecycle, actions)) :
    Pending (connection.carryOut actions).1 (connection.carryOut actions).2 [] := by
  cases hending : (connection.carryOut actions).2 with
  | done => exact Nat.zero_le 1
  | failed error => exact rfl
  | upgrading rest =>
    obtain ⟨front, hfront⟩ := exists_eq_of_upgrading (Prod.ext rfl hending)
    obtain ⟨greeting, capabilities, request, hlifecycle, hactions⟩ :=
      h.eq_of_startTls (by rw [hfront]; simp)
    refine ⟨?_, rfl, greeting, capabilities, ?_⟩
    · rw [hactions] at hfront
      rcases front with _ | ⟨action, _ | ⟨other, front⟩⟩
      · cases hfront
      · cases hfront
        rfl
      · simp at hfront
    · rw [(carryOut_frame connection actions).lifecycle, hlifecycle]

theorem pending_react (connection : Connection σ) (event : Lifecycle.Event) :
    Pending (connection.react event).1 (connection.react event).2 [] := by
  apply pending_carryOut
  obtain ⟨news, henter⟩ :=
    enter_eq connection (connection.lifecycle.onEvent connection.login event).1
  rw [henter]
  exact Lifecycle.isTransition_onEvent _ _ _

theorem suspension_react (connection : Connection σ) (event : Lifecycle.Event) :
    (connection.react event).1.suspension = connection.suspension := by
  obtain ⟨news, henter⟩ :=
    enter_eq connection (connection.lifecycle.onEvent connection.login event).1
  rw [react, (carryOut_frame _ _).suspension, henter]

theorem poised_drain {fuel : Nat} {connection : Connection σ} {ending : Ending}
    {events : List Lifecycle.Event} (hawake : connection.suspension = none)
    (h : Pending connection ending events) :
    Poised (connection.drain fuel ending events).1 := by
  -- one event after the other, of which there is one at most at any time
  induction fuel generalizing connection ending events with
  | zero =>
    cases ending with
    | upgrading actions =>
      obtain ⟨rfl, rfl, hlifecycle⟩ := h
      exact Or.inr ⟨rfl, hlifecycle⟩
    | done =>
      rw [drain_done_zero]
      exact Or.inl hawake
    | failed error =>
      rw [drain_failed, drain_done_zero]
      exact Or.inl hawake
  | succ fuel ih =>
    have hnext (event : Lifecycle.Event) :
        Poised (connection.drain (fuel + 1) .done [event]).1 := by
      rw [drain_done_cons]
      exact ih ((suspension_react connection event).trans hawake) (pending_react connection event)
    cases ending with
    | upgrading actions =>
      obtain ⟨rfl, rfl, hlifecycle⟩ := h
      exact Or.inr ⟨rfl, hlifecycle⟩
    | done =>
      match events, h with
      | [], _ =>
        rw [drain_done_nil]
        exact Or.inl hawake
      | [event], _ => exact hnext event
      | _ :: _ :: events, h => exact absurd h (by simp [Pending])
    | failed error =>
      cases h
      rw [drain_failed]
      exact hnext _

theorem poised_dispatch {connection : Connection σ} (h : connection.suspension = none)
    (event : Lifecycle.Event) : Poised (connection.dispatch event) :=
  poised_drain h (Nat.le_refl 1)

theorem poised_writeOrFail {connection : Connection σ} (h : connection.suspension = none)
    (outbound : List Outbound) : Poised (connection.writeOrFail outbound) := by
  have hframe := write_frame connection outbound
  unfold writeOrFail
  split
  · next next heq =>
    rw [heq] at hframe
    exact Or.inl (hframe.suspension.trans h)
  · next next error heq =>
    rw [heq] at hframe
    exact poised_dispatch (hframe.suspension.trans h) _

theorem poised_take {connection : Connection σ} (h : connection.suspension = none)
    (packet : Packet) : Poised (connection.take packet) := by
  cases hready : connection.lifecycle.isReady with
  | true =>
    have hhandled : (connection.handled packet).suspension = none := h
    rw [take_of_isReady hready]
    split
    · exact poised_writeOrFail hhandled _
    · exact poised_dispatch hhandled _
  | false =>
    rw [take_of_not_isReady hready]
    exact poised_dispatch h _

theorem poised_consume {connection : Connection σ} (h : Poised connection) (octets : Bytes) :
    Poised (connection.consume octets) := by
  -- packet by packet
  induction hn : octets.length using Nat.strongRecOn generalizing connection octets with
  | ind n ih =>
    subst hn
    cases hattentive : connection.isAttentive with
    | false =>
      rw [consume_of_inattentive hattentive]
      exact h
    | true =>
      have hawake := suspension_of_isAttentive hattentive
      rcases hdecode : connection.framing.decode octets with ⟨_ | ⟨_ | packet⟩, framing, rest⟩
      · rw [consume_of_error hattentive hdecode]
        apply poised_dispatch
        exact hawake
      · rw [consume_of_none hattentive hdecode]
        exact Or.inl hawake
      · rw [consume_of_packet hattentive hdecode]
        refine ih rest.length (Framing.length_lt_of_decode hdecode) ?_ rest rfl
        apply poised_take
        exact hawake

theorem poised_serve {connection : Connection σ} (h : connection.suspension = none) :
    Poised connection.serve := by
  unfold serve
  split
  · apply poised_writeOrFail
    exact h
  · apply poised_dispatch
    exact h
  · split
    · exact poised_dispatch h _
    · exact Or.inl h

theorem poised_resume {connection : Connection σ} (h : Poised connection) {suspension : Suspension}
    (hsuspension : connection.suspension = some suspension) (result : Outcome Unit) :
    Poised (connection.resume suspension result) := by
  rcases h with hnone | ⟨hsome, -⟩
  · rw [hnone] at hsuspension
    cases hsuspension
  · rw [hsome] at hsuspension
    cases hsuspension
    cases result with
    | error error => exact poised_drain rfl rfl
    | ok _ => exact poised_drain rfl (Nat.le_refl 1)

/-- **Every step leads from a connection between two steps to another one.** -/
theorem poised_step {connection : Connection σ} (h : Poised connection) (input : Input σ) :
    Poised (connection.step input) := by
  cases input with
  | submit submission =>
    rw [step]
    split <;> exact h
  | release => exact h
  | serve => exact poised_whenAwake h poised_serve
  | receive octets => exact poised_whenAwake h fun _ => poised_consume h _
  | endOfStream => exact poised_whenAwake h fun hawake => poised_dispatch hawake _
  | readFailed error => exact poised_whenAwake h fun hawake => poised_dispatch hawake _
  | upgraded result =>
    rw [step]
    split
    · exact h
    · next suspension hsuspension =>
      exact poised_settle (poised_consume (poised_resume h hsuspension result) _)

end Connection

end MySqlClient
