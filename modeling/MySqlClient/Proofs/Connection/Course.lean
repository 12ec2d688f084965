import Mathlib.Logic.Relation
import MySqlClient.Proofs.Connection.Upgrade
import MySqlClient.Proofs.Lifecycle.Negotiation

/-!
# The course of the lifecycle

Whatever happens to a connection, it keeps its login, and its lifecycle goes on by events only.  So
what all events preserve holds at all times.

* `Lifecycle.Leads`: an event leads from one state to another.
* `Connection.Continues`: the login is kept and events lead from state to state;
  `Connection.continues_run`: **so it is in every run.**
* `Connection.suspension_of_disabled`: **without TLS no upgrade ever runs.**
-/

namespace MySqlClient

namespace Lifecycle

/-- An event leads from a state to another one. -/
def Leads (login : Login) (state next : Lifecycle) : Prop :=
  ∃ event, next = (onEvent login state event).1

end Lifecycle

namespace Connection

variable {σ : Type}

/-- The login is kept, and events lead from state to state. -/
structure Continues (before after : Connection σ) : Prop where
  login : after.login = before.login
  lifecycle :
    Relation.ReflTransGen (Lifecycle.Leads before.login) before.lifecycle after.lifecycle

theorem Continues.of_eq {before after : Connection σ} (hlogin : after.login = before.login)
    (hlifecycle : after.lifecycle = before.lifecycle) : Continues before after := by
  refine ⟨hlogin, ?_⟩
  rw [hlifecycle]

theorem Continues.refl (connection : Connection σ) : Continues connection connection :=
  .of_eq rfl rfl

theorem Continues.trans {first second third : Connection σ} (h : Continues first second)
    (h' : Continues second third) : Continues first third := by
  refine ⟨h'.login.trans h.login, h.lifecycle.trans ?_⟩
  rw [← h.login]
  exact h'.lifecycle

theorem SameFrame.continues {before after : Connection σ} (h : SameFrame before after) :
    Continues before after :=
  .of_eq h.login h.lifecycle

theorem continues_settle (connection : Connection σ) : Continues connection connection.settle := by
  unfold settle
  split
  · have hframe := tellEstablished_frame
      (connection.failQueue.complete (connection.submissions.filterMap Submission.refused))
      (.error .closed)
    exact .of_eq hframe.login hframe.lifecycle
  · exact .refl connection

theorem Continues.whenAwake {connection next : Connection σ} (h : Continues connection next) :
    Continues connection (connection.whenAwake next) := by
  unfold Connection.whenAwake
  split
  · exact h.trans (continues_settle next)
  · exact .refl connection

variable [Command σ]

theorem continues_react (connection : Connection σ) (event : Lifecycle.Event) :
    Continues connection (connection.react event).1 := by
  obtain ⟨news, henter⟩ :=
    enter_eq connection (connection.lifecycle.onEvent connection.login event).1
  have hframe := carryOut_frame
    (connection.enter (connection.lifecycle.onEvent connection.login event).1)
    (connection.lifecycle.onEvent connection.login event).2
  rw [henter] at hframe
  rw [react, henter]
  refine ⟨hframe.login, ?_⟩
  rw [hframe.lifecycle]
  exact .single ⟨event, rfl⟩

theorem continues_drain (fuel : Nat) (connection : Connection σ) (ending : Ending)
    (events : List Lifecycle.Event) :
    Continues connection (connection.drain fuel ending events).1 := by
  -- one event after the other
  induction fuel generalizing connection ending events with
  | zero =>
    cases ending with
    | upgrading actions => exact .of_eq rfl rfl
    | done =>
      rw [drain_done_zero]
      exact .refl connection
    | failed error =>
      rw [drain_failed, drain_done_zero]
      exact .refl connection
  | succ fuel ih =>
    have hdone (events : List Lifecycle.Event) :
        Continues connection (connection.drain (fuel + 1) .done events).1 := by
      cases events with
      | nil =>
        rw [drain_done_nil]
        exact .refl connection
      | cons event left =>
        rw [drain_done_cons]
        exact (continues_react connection event).trans (ih _ _ _)
    cases ending with
    | upgrading actions => exact .of_eq rfl rfl
    | done => exact hdone events
    | failed error =>
      rw [drain_failed]
      exact hdone _

theorem continues_dispatch (connection : Connection σ) (event : Lifecycle.Event) :
    Continues connection (connection.dispatch event) :=
  continues_drain _ _ _ _

theorem continues_writeOrFail (connection : Connection σ) (outbound : List Outbound) :
    Continues connection (connection.writeOrFail outbound) := by
  have hwrite := (write_frame connection outbound).continues
  unfold writeOrFail
  split
  · next next heq =>
    rw [heq] at hwrite
    exact hwrite
  · next next error heq =>
    rw [heq] at hwrite
    exact hwrite.trans (continues_dispatch _ _)

theorem continues_take (connection : Connection σ) (packet : Packet) :
    Continues connection (connection.take packet) := by
  cases hready : connection.lifecycle.isReady with
  | true =>
    have hhandled : Continues connection (connection.handled packet) := .of_eq rfl rfl
    rw [take_of_isReady hready]
    split
    · exact hhandled.trans (continues_writeOrFail _ _)
    · exact hhandled.trans (continues_dispatch _ _)
  | false =>
    rw [take_of_not_isReady hready]
    exact continues_dispatch _ _

theorem continues_consume (connection : Connection σ) (octets : Bytes) :
    Continues connection (connection.consume octets) := by
  -- packet by packet
  induction hn : octets.length using Nat.strongRecOn generalizing connection octets with
  | ind n ih =>
    subst hn
    cases hattentive : connection.isAttentive with
    | false =>
      rw [consume_of_inattentive hattentive]
      exact .of_eq rfl rfl
    | true =>
      rcases hdecode : connection.framing.decode octets with ⟨error | ⟨_ | packet⟩, framing, rest⟩
      · have hread : Continues connection { connection with framing, inbox := rest } :=
          .of_eq rfl rfl
        rw [consume_of_error hattentive hdecode]
        exact hread.trans (continues_dispatch _ _)
      · rw [consume_of_none hattentive hdecode]
        exact .of_eq rfl rfl
      · have hread : Continues connection { connection with framing, inbox := rest } :=
          .of_eq rfl rfl
        rw [consume_of_packet hattentive hdecode]
        exact (hread.trans (continues_take _ packet)).trans
          (ih rest.length (Framing.length_lt_of_decode hdecode) _ rest rfl)

theorem continues_serve (connection : Connection σ) : Continues connection connection.serve := by
  unfold serve
  split
  · next entry rest _ =>
    have hpushed : Continues connection
        ({ connection with
            submissions := rest
            queue := (connection.queue.push entry).queue }.complete
          (connection.queue.push entry).completions) := .of_eq rfl rfl
    exact hpushed.trans (continues_writeOrFail _ _)
  · next waiter rest _ =>
    have hasked : Continues connection
        { connection with
          submissions := rest, closeWaiters := connection.closeWaiters ++ [waiter] } :=
      .of_eq rfl rfl
    exact hasked.trans (continues_dispatch _ _)
  · split
    · exact continues_dispatch _ _
    · exact .refl connection

theorem continues_resume (connection : Connection σ) (suspension : Suspension)
    (result : Outcome Unit) : Continues connection (connection.resume suspension result) := by
  have hawake : Continues connection { connection with suspension := none } := .of_eq rfl rfl
  cases result with
  | error error => exact hawake.trans (continues_drain _ _ _ _)
  | ok done => exact (hawake.trans (carryOut_frame _ _).continues).trans (continues_drain _ _ _ _)

/-- **Every step keeps the login and goes on by events.** -/
theorem continues_step (connection : Connection σ) (input : Input σ) :
    Continues connection (connection.step input) := by
  cases input with
  | submit submission =>
    rw [step]
    split
    · exact .refl connection
    · exact .of_eq rfl rfl
  | release => exact .of_eq rfl rfl
  | serve => exact (continues_serve connection).whenAwake
  | receive octets => exact (continues_consume connection _).whenAwake
  | endOfStream => exact (continues_dispatch connection _).whenAwake
  | readFailed error => exact (continues_dispatch connection _).whenAwake
  | upgraded result =>
    rw [step]
    split
    · exact .refl connection
    · next suspension _ =>
      exact ((continues_resume connection suspension result).trans (continues_consume _ _)).trans
        (continues_settle _)

/-- **So it is in every run.** -/
theorem continues_run (connection : Connection σ) (inputs : List (Input σ)) :
    Continues connection (inputs.foldl step connection) := by
  induction inputs generalizing connection with
  | nil => exact .refl connection
  | cons input inputs ih => exact (continues_step connection input).trans (ih _)

theorem poised_run {connection : Connection σ} (h : Poised connection) (inputs : List (Input σ)) :
    Poised (inputs.foldl step connection) := by
  induction inputs generalizing connection with
  | nil => exact h
  | cons input inputs ih => exact ih (poised_step h input)

/-! ## Without TLS -/

/-- **Without TLS no upgrade ever runs.** -/
theorem suspension_of_disabled {connection : Connection σ}
    (hmode : connection.login.tlsMode = .disable) (hpoised : connection.Poised)
    (hstate : ∀ greeting capabilities, connection.lifecycle ≠ .awaitingTls greeting capabilities)
    (inputs : List (Input σ)) : (inputs.foldl step connection).suspension = none := by
  have hcourse := (continues_run connection inputs).lifecycle
  rcases poised_run hpoised inputs with hnone | ⟨-, greeting, capabilities, hawaiting⟩
  · exact hnone
  · rw [hawaiting] at hcourse
    rcases hcourse.cases_tail with heq | ⟨state, -, event, heq⟩
    · exact absurd heq.symm (hstate greeting capabilities)
    · exact absurd heq.symm
        (Lifecycle.onEvent_fst_ne_awaitingTls hmode state event greeting capabilities)

end Connection

end MySqlClient
