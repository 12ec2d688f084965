import MySqlClient.Proofs.Connection.Written
import MySqlClient.Proofs.Queue.Course

/-!
# What a connection asks of its queue

A connection changes its queue only by what may be asked of a queue.  So what a queue keeps whatever
is asked of it, it keeps whatever happens to the connection.

* `Queue.IsKept`: what is kept whatever is asked of a queue; `Queue.isKept_headHas`.
* `Connection.kept_dispatch`, `Connection.kept_take`, `Connection.kept_consume`: the parts of a
  step keep it.
* `Connection.kept_step`: **so does every step.**
-/

namespace MySqlClient

namespace Queue

variable {σ : Type} [Command σ]

/-- Whatever is asked of a queue keeps the property. -/
def IsKept (P : Queue σ → Prop) : Prop :=
  ∀ queue input, P queue → P (apply queue input)

theorem isKept_headHas {P : σ → Prop} (h : Command.Keeps P) : IsKept (HeadHas P) :=
  fun _ input hqueue => hqueue.apply h input

end Queue

namespace Connection

variable {σ : Type}

/-! ## What leaves the queue alone -/

theorem queue_tellEstablished (connection : Connection σ) (result : Outcome Session) :
    (connection.tellEstablished result).queue = connection.queue := by
  unfold tellEstablished
  split <;> rfl

theorem queue_write (connection : Connection σ) (outbound : List Outbound) :
    (connection.write outbound).1.queue = connection.queue := by
  obtain ⟨framing, transport, hwrite, -⟩ := exists_eq_of_write connection outbound
  rw [hwrite]

theorem queue_enter (connection : Connection σ) (lifecycle : Lifecycle) :
    (connection.enter lifecycle).queue = connection.queue := by
  obtain ⟨news, henter⟩ := enter_eq connection lifecycle
  rw [henter]

variable [Command σ] {P : Queue σ → Prop} {connection : Connection σ}

/-! ## Events -/

theorem kept_perform (hP : Queue.IsKept P) (h : P connection.queue) (action : Lifecycle.Action) :
    P (connection.perform action).1.queue := by
  cases action with
  | read | startTls | shutdown => exact h
  | send payload resequence =>
    rw [perform, queue_write]
    exact h
  | established session =>
    rw [perform, queue_write, queue_tellEstablished]
    exact hP _ (.start session.capabilities) h
  | fail error =>
    show P (connection.tellEstablished (.error error)).queue.failAll.queue
    rw [queue_tellEstablished]
    exact hP _ .failAll h

theorem kept_carryOut (hP : Queue.IsKept P) (h : P connection.queue)
    (actions : List Lifecycle.Action) : P (connection.carryOut actions).1.queue := by
  induction actions generalizing connection with
  | nil => exact h
  | cons action rest ih =>
    have hperform := kept_perform hP h action
    rw [carryOut]
    rcases hnext : connection.perform action with ⟨next, error | done⟩
    · rw [hnext] at hperform
      exact hperform
    · rw [hnext] at hperform
      dsimp only
      split
      · exact hperform
      · exact ih hperform

theorem kept_react (hP : Queue.IsKept P) (h : P connection.queue) (event : Lifecycle.Event) :
    P (connection.react event).1.queue := by
  apply kept_carryOut hP
  rw [queue_enter]
  exact h

theorem kept_dispatch (hP : Queue.IsKept P) (h : P connection.queue) (event : Lifecycle.Event) :
    P (connection.dispatch event).queue := by
  have hreact := kept_react hP h event
  cases hending : (connection.react event).2 with
  | done =>
    rw [dispatch_of_done hending]
    exact hreact
  | failed error =>
    rw [dispatch_of_failed hending, dispatch_failed]
    exact kept_react hP hreact _
  | upgrading rest =>
    rw [dispatch_of_upgrading hending]
    exact hreact

/-! ## Packets -/

theorem kept_writeOrFail (hP : Queue.IsKept P) (h : P connection.queue)
    (outbound : List Outbound) : P (connection.writeOrFail outbound).queue := by
  have hwrite := queue_write connection outbound
  rw [writeOrFail]
  rcases hnext : connection.write outbound with ⟨next, error | done⟩
  · rw [hnext] at hwrite
    exact kept_dispatch hP (hwrite.symm ▸ h) _
  · rw [hnext] at hwrite
    exact hwrite.symm ▸ h

theorem kept_take (hP : Queue.IsKept P) (h : P connection.queue) (packet : Packet) :
    P (connection.take packet).queue := by
  cases hready : connection.lifecycle.isReady with
  | false =>
    rw [take_of_not_isReady hready]
    exact kept_dispatch hP h _
  | true =>
    have hhandled : P (connection.handled packet).queue := hP _ (.handle packet) h
    cases hresult : (connection.queue.handle packet).result with
    | error error =>
      rw [take_of_error hready hresult]
      exact kept_dispatch hP hhandled _
    | ok outbound =>
      rw [take_of_ok hready hresult]
      exact kept_writeOrFail hP hhandled _

theorem kept_consume (hP : Queue.IsKept P) (h : P connection.queue) (octets : Bytes) :
    P (connection.consume octets).queue := by
  -- packet by packet
  induction hn : octets.length using Nat.strongRecOn generalizing connection octets with
  | ind n ih =>
    subst hn
    cases hattentive : connection.isAttentive with
    | false =>
      rw [consume_of_inattentive hattentive]
      exact h
    | true =>
      rcases hdecode : connection.framing.decode octets with ⟨error | ⟨_ | packet⟩, framing, rest⟩
      · rw [consume_of_error hattentive hdecode]
        apply kept_dispatch hP
        exact h
      · rw [consume_of_none hattentive hdecode]
        exact h
      · rw [consume_of_packet hattentive hdecode]
        refine ih rest.length (Framing.length_lt_of_decode hdecode) ?_ rest rfl
        apply kept_take hP
        exact h

/-! ## Steps -/

theorem kept_serve (hP : Queue.IsKept P) (h : P connection.queue) :
    P connection.serve.queue := by
  unfold serve
  split
  · next entry rest _ => exact kept_writeOrFail hP (hP _ (.push entry) h) _
  · apply kept_dispatch hP
    exact h
  · split
    · exact kept_dispatch hP h _
    · exact h

theorem kept_resume (hP : Queue.IsKept P) (h : P connection.queue) (hpoised : Poised connection)
    {suspension : Suspension} (hsuspension : connection.suspension = some suspension)
    (result : Outcome Unit) : P (connection.resume suspension result).queue := by
  rcases hpoised with hnone | ⟨hsome, -⟩
  · rw [hnone] at hsuspension
    cases hsuspension
  · rw [hsome] at hsuspension
    cases hsuspension
    rw [resume_eq_dispatch]
    apply kept_dispatch hP
    exact h

theorem kept_settle (hP : Queue.IsKept P) (h : P connection.queue) :
    P connection.settle.queue := by
  unfold settle
  split
  · show P (Connection.tellEstablished _ (.error .closed)).queue
    rw [queue_tellEstablished]
    exact hP _ .failAll h
  · exact h

theorem kept_whenAwake (hP : Queue.IsKept P) (h : P connection.queue) {next : Connection σ}
    (hnext : P next.queue) : P (connection.whenAwake next).queue := by
  unfold whenAwake
  split
  · exact kept_settle hP hnext
  · exact h

/-- **What a queue keeps, every step of its connection keeps.** -/
theorem kept_step (hP : Queue.IsKept P) (h : P connection.queue) (hpoised : Poised connection)
    (input : Input σ) : P (connection.step input).queue := by
  cases input with
  | submit submission =>
    rw [step]
    split <;> exact h
  | release => exact h
  | serve => exact kept_whenAwake hP h (kept_serve hP h)
  | receive octets => exact kept_whenAwake hP h (kept_consume hP h _)
  | endOfStream => exact kept_whenAwake hP h (kept_dispatch hP h _)
  | readFailed error => exact kept_whenAwake hP h (kept_dispatch hP h _)
  | upgraded result =>
    rw [step]
    split
    · exact h
    · next suspension hsuspension =>
      exact kept_settle hP (kept_consume hP (kept_resume hP h hpoised hsuspension result) _)

end Connection

end MySqlClient
