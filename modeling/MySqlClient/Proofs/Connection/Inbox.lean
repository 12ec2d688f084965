import MySqlClient.Proofs.Connection.Upgrade

/-!
# The inbox stands apart

What is in the inbox has no part in what comes of an event: it is looked at when octets are taken up
again, and at the end of the server's octets.

* `Connection.setInbox`: the same connection with other octets in the inbox.
* `Connection.dispatch_setInbox`, `Connection.resume_setInbox`: **events come to the same whatever
  the inbox holds.**
* `Connection.consume_setInbox`: taking packets off some octets does not look at the inbox.
* `Connection.step_setInbox`: while no packets are taken nothing does, but the end of an upgrade.
-/

namespace MySqlClient

namespace Connection

variable {σ : Type}

/-- The same connection with other octets in the inbox. -/
def setInbox (connection : Connection σ) (octets : Bytes) : Connection σ :=
  { connection with inbox := octets }

@[simp] theorem isAttentive_setInbox (connection : Connection σ) (octets : Bytes) :
    (connection.setInbox octets).isAttentive = connection.isAttentive := rfl

theorem tellEstablished_setInbox (connection : Connection σ) (octets : Bytes)
    (result : Outcome Session) :
    (connection.setInbox octets).tellEstablished result =
      (connection.tellEstablished result).setInbox octets := by
  unfold tellEstablished setInbox
  split <;> rfl

theorem write_setInbox (connection : Connection σ) (octets : Bytes) (outbound : List Outbound) :
    (connection.setInbox octets).write outbound =
      ((connection.write outbound).1.setInbox octets, (connection.write outbound).2) := by
  unfold write setInbox
  split <;> rfl

theorem enter_setInbox (connection : Connection σ) (octets : Bytes) (lifecycle : Lifecycle) :
    (connection.setInbox octets).enter lifecycle =
      (connection.enter lifecycle).setInbox octets := by
  unfold enter setInbox
  dsimp only
  split <;> rfl

theorem finish_setInbox (connection : Connection σ) (octets : Bytes) :
    (connection.setInbox octets).finish = connection.finish.setInbox octets := by
  unfold finish
  have htold := tellEstablished_setInbox
    (connection.failQueue.complete (connection.submissions.filterMap Submission.refused)) octets
    (.error .closed)
  dsimp only
  rw [show ((connection.setInbox octets).failQueue.complete
      ((connection.setInbox octets).submissions.filterMap Submission.refused)).tellEstablished
        (.error .closed) = _ from htold]
  rfl

theorem settle_setInbox (connection : Connection σ) (octets : Bytes) :
    (connection.setInbox octets).settle = connection.settle.setInbox octets := by
  unfold settle
  rw [finish_setInbox]
  show (if connection.lifecycle.isClosed && connection.suspension.isNone && !connection.finished
    then _ else _) = _
  split <;> rfl

variable [Command σ]

theorem perform_setInbox (connection : Connection σ) (octets : Bytes) (action : Lifecycle.Action) :
    (connection.setInbox octets).perform action =
      ((connection.perform action).1.setInbox octets, (connection.perform action).2) := by
  cases action with
  | read => rfl
  | send payload resequence => exact write_setInbox connection octets _
  | startTls => rfl
  | established session =>
    let effect := connection.queue.start session.capabilities
    let started := { connection with queue := effect.queue }.complete effect.completions
    show ((started.setInbox octets).tellEstablished (.ok session)).write effect.outbound = _
    rw [tellEstablished_setInbox, write_setInbox]
    rfl
  | shutdown => rfl
  | fail error =>
    show (((connection.setInbox octets).tellEstablished (.error error)).failQueue, _) = _
    rw [tellEstablished_setInbox]
    rfl

theorem carryOut_setInbox (connection : Connection σ) (octets : Bytes)
    (actions : List Lifecycle.Action) :
    (connection.setInbox octets).carryOut actions =
      ((connection.carryOut actions).1.setInbox octets, (connection.carryOut actions).2) := by
  induction actions generalizing connection with
  | nil => rfl
  | cons action rest ih =>
    rw [carryOut, carryOut, perform_setInbox]
    rcases connection.perform action with ⟨next, error | done⟩
    · rfl
    · dsimp only
      split
      · rfl
      · exact ih next

theorem react_setInbox (connection : Connection σ) (octets : Bytes) (event : Lifecycle.Event) :
    (connection.setInbox octets).react event =
      ((connection.react event).1.setInbox octets, (connection.react event).2) := by
  unfold react
  rw [← carryOut_setInbox, ← enter_setInbox]
  rfl

theorem drain_setInbox (fuel : Nat) (connection : Connection σ) (octets : Bytes) (ending : Ending)
    (events : List Lifecycle.Event) :
    (connection.setInbox octets).drain fuel ending events =
      ((connection.drain fuel ending events).1.setInbox octets,
        (connection.drain fuel ending events).2) := by
  induction fuel generalizing connection ending events with
  | zero =>
    cases ending with
    | upgrading actions => rfl
    | done => rw [drain_done_zero, drain_done_zero]
    | failed error => rw [drain_failed, drain_failed, drain_done_zero, drain_done_zero]
  | succ fuel ih =>
    have hdone (events : List Lifecycle.Event) :
        (connection.setInbox octets).drain (fuel + 1) .done events =
          ((connection.drain (fuel + 1) .done events).1.setInbox octets,
            (connection.drain (fuel + 1) .done events).2) := by
      cases events with
      | nil => rw [drain_done_nil, drain_done_nil]
      | cons event left =>
        rw [drain_done_cons, drain_done_cons, react_setInbox]
        exact ih _ _ _
    cases ending with
    | upgrading actions => rfl
    | done => exact hdone events
    | failed error =>
      rw [drain_failed, drain_failed]
      exact hdone _

/-- **An event comes to the same whatever the inbox holds.** -/
theorem dispatch_setInbox (connection : Connection σ) (octets : Bytes) (event : Lifecycle.Event) :
    (connection.setInbox octets).dispatch event = (connection.dispatch event).setInbox octets := by
  unfold dispatch
  rw [drain_setInbox]

/-- **The end of an upgrade comes to the same whatever the inbox holds.** -/
theorem resume_setInbox (connection : Connection σ) (octets : Bytes) (suspension : Suspension)
    (result : Outcome Unit) :
    (connection.setInbox octets).resume suspension result =
      (connection.resume suspension result).setInbox octets := by
  let awake := { connection with suspension := none }
  cases result with
  | error error =>
    show ((awake.setInbox octets).drain dispatchBound (.failed error) suspension.events).1 = _
    rw [drain_setInbox]
    rfl
  | ok done =>
    show (((awake.setInbox octets).carryOut suspension.actions).1.drain dispatchBound
      ((awake.setInbox octets).carryOut suspension.actions).2 _).1 = _
    rw [carryOut_setInbox]
    dsimp only
    rw [drain_setInbox]
    rfl

/-- **Taking packets off some octets does not look at the inbox.** -/
theorem consume_setInbox (connection : Connection σ) (octets more : Bytes) :
    (connection.setInbox octets).consume more = connection.consume more := by
  cases hattentive : connection.isAttentive with
  | false =>
    rw [consume_of_inattentive hattentive, consume_of_inattentive
      (show (connection.setInbox octets).isAttentive = false from hattentive)]
    rfl
  | true =>
    have hset : (connection.setInbox octets).isAttentive = true := hattentive
    rcases hdecode : connection.framing.decode more with ⟨error | ⟨_ | packet⟩, framing, rest⟩
    · rw [consume_of_error hattentive hdecode, consume_of_error hset hdecode]
      rfl
    · rw [consume_of_none hattentive hdecode, consume_of_none hset hdecode]
      rfl
    · rw [consume_of_packet hattentive hdecode, consume_of_packet hset hdecode]
      rfl

/-- While a connection takes no packets nothing looks at the inbox, but the end of an upgrade. -/
theorem step_setInbox {connection : Connection σ} (hinattentive : connection.isAttentive = false)
    {input : Input σ}
    (hinput : connection.suspension = none ∨ ∀ result, input ≠ .upgraded result)
    (octets : Bytes) :
    (connection.setInbox octets).step input = (connection.step input).setInbox octets := by
  have hwhenAwake (first second : Connection σ) :
      (connection.setInbox octets).whenAwake first =
        (connection.whenAwake second).setInbox octets := by
    rw [whenAwake, whenAwake, isAttentive_setInbox, hinattentive]
    rfl
  cases input with
  | submit submission =>
    rw [step, step]
    show (if connection.finished || connection.released then _ else _) = _
    split <;> rfl
  | release => rfl
  | serve => exact hwhenAwake _ _
  | receive octets => exact hwhenAwake _ _
  | endOfStream => exact hwhenAwake _ _
  | readFailed error => exact hwhenAwake _ _
  | upgraded result =>
    rcases hinput with hawake | hother
    · rw [step, step, hawake, show (connection.setInbox octets).suspension = none from hawake]
    · exact absurd rfl (hother result)

end Connection

end MySqlClient
