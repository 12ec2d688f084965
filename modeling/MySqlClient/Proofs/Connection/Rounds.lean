import MySqlClient.Proofs.Connection.Written
import MySqlClient.Proofs.Lifecycle.Negotiation

/-!
# Rounds

An event makes the lifecycle ask for actions, what comes of these are further events, and so on,
round after round.  The loop has no bound of its own, and any write, TLS upgrade or shutdown in it
may come out either way.

* `Connection.performThrough`, `Connection.carryThrough`: actions carried out to their end, TLS
  upgrades included; `Connection.Deed`: an action with how it came out.
* `Connection.Unfolds`: the loop, round by round, without a bound; `Unfolds.unique`: it can go in
  one way only.
* `Unfolds.lifecycle_of_closed`, `Unfolds.lifecycle_of_failed`, `Unfolds.lifecycle_of_deed`: **a
  failed action is the end of the session**, whatever else is to be dealt with.
* `Connection.dispatchThrough`: an event with all that comes of it, past a TLS upgrade;
  `Connection.exists_unfolds_dispatchThrough`: it is where the loop comes to an end.
* `Connection.dispatch_in_three_rounds`: **the loop ends after three rounds at most.**
-/

namespace MySqlClient

/-! ## Events that actions give rise to -/

namespace Lifecycle

/-- An event that may come of an action. -/
def Event.IsFollowUp : Event → Prop
  | tlsEstablished => True
  | failed _ => True
  | _ => False

/-- What comes of an action does not lead to a TLS upgrade. -/
theorem Event.IsFollowUp.isPastTls {event : Event} (h : event.IsFollowUp) (login : Login)
    (state : Lifecycle) : (onEvent login state event).1.isPastTls = true := by
  cases event with
  | failed error => rw [onEvent_failed_fst]; rfl
  | tlsEstablished =>
    cases state with
    | awaitingTls greeting capabilities =>
      exact isPastTls_orFail fun transition hrespond => isPastTls_of_respond hrespond
    | _ => rfl
  | _ => exact h.elim

/-- The lifecycle asks for a TLS upgrade once at most. -/
theorem IsTransition.count_startTls_le {next : Lifecycle} {actions : List Action}
    (h : IsTransition (next, actions)) : actions.count .startTls ≤ 1 := by
  by_cases hmem : Action.startTls ∈ actions
  · obtain ⟨greeting, capabilities, request, -, rfl⟩ := h.eq_of_startTls hmem
    simp
  · rw [List.count_eq_zero.mpr hmem]
    exact Nat.zero_le 1

end Lifecycle

namespace Connection

variable {σ : Type} [Command σ]

/-! ## Actions carried out to their end -/

/-- An action, with how carrying it out came out. -/
structure Deed where
  action : Lifecycle.Action
  result : Outcome Unit

/-- Carry out one action to its end, where TLS upgrades come out in a given way. -/
def performThrough (upgrade : Outcome Unit) (connection : Connection σ)
    (action : Lifecycle.Action) : Connection σ × Outcome Unit :=
  match connection.perform action with
  | (next, .error error) => (next, .error error)
  | (next, .ok ()) => (next, if action = .startTls then upgrade else .ok ())

/-- Carry out actions to their end, one after the other, until one fails. -/
def carryThrough (upgrade : Outcome Unit) (connection : Connection σ) :
    List Lifecycle.Action → Connection σ × List Deed
  | [] => (connection, [])
  | action :: rest =>
    match connection.performThrough upgrade action with
    | (next, .error error) => (next, [⟨action, .error error⟩])
    | (next, .ok ()) =>
      let (last, deeds) := next.carryThrough upgrade rest
      (last, ⟨action, .ok ()⟩ :: deeds)

/-- The events that come of an action. -/
def Deed.followUps (deed : Deed) : List Lifecycle.Event :=
  match deed.result with
  | .error error => [.failed error]
  | .ok () => if deed.action = .startTls then [.tlsEstablished] else []

/-- An event, the actions that the lifecycle asked for, and what was done of them. -/
structure Round where
  event : Lifecycle.Event
  actions : List Lifecycle.Action
  deeds : List Deed

/-- The events that come of a round. -/
def Round.followUps (round : Round) : List Lifecycle.Event :=
  round.deeds.flatMap Deed.followUps

/-- All actions were carried out with success, or one failed and those behind it were left out. -/
def Round.StopsAtFailure (round : Round) : Prop :=
  (round.deeds.map Deed.action = round.actions ∧ ∀ deed ∈ round.deeds, deed.result = .ok ()) ∨
    ∃ front action error left, round.deeds = front ++ [⟨action, .error error⟩] ∧
      (∀ deed ∈ front, deed.result = .ok ()) ∧
      round.actions = front.map Deed.action ++ action :: left

/-- Deal with one event. -/
def reactThrough (upgrade : Outcome Unit) (connection : Connection σ) (event : Lifecycle.Event) :
    Connection σ × Round :=
  let transition := connection.lifecycle.onEvent connection.login event
  let carried := (connection.enter transition.1).carryThrough upgrade transition.2
  (carried.1, ⟨event, transition.2, carried.2⟩)

/-- The loop: the first event is dealt with, and what comes of it stands behind the others, until
there are none. -/
inductive Unfolds (upgrade : Outcome Unit) :
    Connection σ → List Lifecycle.Event → List Round → Connection σ → Prop
  | rest (connection : Connection σ) : Unfolds upgrade connection [] [] connection
  | round {connection last : Connection σ} {event : Lifecycle.Event}
      {events : List Lifecycle.Event} {rounds : List Round}
      (h : Unfolds upgrade (connection.reactThrough upgrade event).1
        (events ++ (connection.reactThrough upgrade event).2.followUps) rounds last) :
      Unfolds upgrade connection (event :: events)
        ((connection.reactThrough upgrade event).2 :: rounds) last

/-- An event with all that comes of it, past a TLS upgrade that comes out in a given way. -/
def dispatchThrough (connection : Connection σ) (event : Lifecycle.Event)
    (upgrade : Outcome Unit) : Connection σ :=
  let next := connection.dispatch event
  match next.suspension with
  | none => next
  | some suspension => next.resume suspension upgrade

variable {upgrade : Outcome Unit} {connection : Connection σ}

/-! ## One round -/

theorem performThrough_frame (upgrade : Outcome Unit) (connection : Connection σ)
    (action : Lifecycle.Action) :
    SameFrame connection (connection.performThrough upgrade action).1 := by
  have hperform := perform_frame connection action
  unfold performThrough
  split <;> next heq => rwa [heq] at hperform

theorem carryThrough_frame (upgrade : Outcome Unit) (connection : Connection σ)
    (actions : List Lifecycle.Action) :
    SameFrame connection (connection.carryThrough upgrade actions).1 := by
  induction actions generalizing connection with
  | nil => exact .refl connection
  | cons action rest ih =>
    have hperform := performThrough_frame upgrade connection action
    rw [carryThrough]
    split
    · next heq => rwa [heq] at hperform
    · next next heq =>
      rw [heq] at hperform
      exact hperform.trans (ih next)

/-- A round leads to the state that the lifecycle says. -/
theorem lifecycle_reactThrough (upgrade : Outcome Unit) (connection : Connection σ)
    (event : Lifecycle.Event) :
    (connection.reactThrough upgrade event).1.lifecycle =
      (connection.lifecycle.onEvent connection.login event).1 := by
  obtain ⟨news, henter⟩ :=
    enter_eq connection (connection.lifecycle.onEvent connection.login event).1
  rw [reactThrough, (carryThrough_frame _ _ _).lifecycle, henter]

/-- **Nothing is carried out behind a failed action.** -/
theorem stopsAtFailure_carryThrough (event : Lifecycle.Event) (actions : List Lifecycle.Action) :
    (⟨event, actions, (connection.carryThrough upgrade actions).2⟩ : Round).StopsAtFailure := by
  induction actions generalizing connection with
  | nil => exact Or.inl ⟨rfl, List.forall_mem_nil _⟩
  | cons action rest ih =>
    rw [carryThrough]
    split
    · next next error _ =>
      exact Or.inr ⟨[], action, error, rest, rfl, List.forall_mem_nil _, rfl⟩
    · next next _ =>
      have hfirst {deeds : List Deed} (h : ∀ deed ∈ deeds, deed.result = .ok ()) :
          ∀ deed ∈ (⟨action, .ok ()⟩ : Deed) :: deeds, deed.result = .ok () :=
        List.forall_mem_cons.mpr ⟨rfl, h⟩
      rcases @ih next with ⟨hall, hok⟩ | ⟨front, failed, error, left, hdeeds, hok, hactions⟩
      · exact Or.inl ⟨congrArg (action :: ·) hall, hfirst hok⟩
      · exact Or.inr ⟨⟨action, .ok ()⟩ :: front, failed, error, left,
          congrArg (_ :: ·) hdeeds, hfirst hok, congrArg (action :: ·) hactions⟩

/-- What comes of a failed action is among the events. -/
theorem Round.mem_followUps_of_deed {round : Round} {deed : Deed} (hmem : deed ∈ round.deeds)
    (hfailed : deed.result ≠ .ok ()) : ∃ error, .failed error ∈ round.followUps := by
  cases hresult : deed.result with
  | ok done => exact absurd hresult hfailed
  | error error =>
    refine ⟨error, List.mem_flatMap.mpr ⟨deed, hmem, ?_⟩⟩
    rw [Deed.followUps, hresult]
    exact List.mem_singleton_self _

/-- The events that come of a round are such as come of actions. -/
theorem Round.isFollowUp {round : Round} {event : Lifecycle.Event}
    (hmem : event ∈ round.followUps) : event.IsFollowUp := by
  obtain ⟨deed, -, hdeed⟩ := List.mem_flatMap.mp hmem
  unfold Deed.followUps at hdeed
  split at hdeed
  · rw [List.mem_singleton.mp hdeed]
    trivial
  · split at hdeed
    · rw [List.mem_singleton.mp hdeed]
      trivial
    · cases hdeed

/-! ## All rounds -/

namespace Unfolds

variable {last : Connection σ} {events : List Lifecycle.Event} {rounds : List Round}

/-- The loop goes in one way only. -/
theorem unique (h : Unfolds upgrade connection events rounds last) {others : List Round}
    {other : Connection σ} (h' : Unfolds upgrade connection events others other) :
    others = rounds ∧ other = last := by
  induction h generalizing others with
  | rest connection =>
    cases h'
    exact ⟨rfl, rfl⟩
  | round _ ih =>
    cases h' with
    | round h' =>
      obtain ⟨hrounds, hlast⟩ := ih h'
      exact ⟨congrArg (_ :: ·) hrounds, hlast⟩

/-- **Every round stops at a failure.** -/
theorem stopsAtFailure (h : Unfolds upgrade connection events rounds last) :
    ∀ round ∈ rounds, round.StopsAtFailure := by
  induction h with
  | rest connection => exact nofun
  | round _ ih => exact List.forall_mem_cons.mpr ⟨stopsAtFailure_carryThrough _ _, ih⟩

/-- The end is the end. -/
theorem lifecycle_of_closed (h : Unfolds upgrade connection events rounds last)
    (hclosed : connection.lifecycle = .closed) : last.lifecycle = .closed := by
  induction h with
  | rest connection => exact hclosed
  | round _ ih =>
    apply ih
    rw [lifecycle_reactThrough, hclosed]
    rfl

/-- **A failure that is to be dealt with is the end**, whatever stands in front of it. -/
theorem lifecycle_of_failed (h : Unfolds upgrade connection events rounds last) {error : Error}
    (hmem : .failed error ∈ events) : last.lifecycle = .closed := by
  induction h with
  | rest connection => cases hmem
  | round hrest ih =>
    rcases List.mem_cons.mp hmem with heq | hmem
    · apply hrest.lifecycle_of_closed
      rw [lifecycle_reactThrough, ← heq]
      exact Lifecycle.onEvent_failed_fst _ _ _
    · exact ih (List.mem_append_left _ hmem)

/-- **A failed action is the end.** -/
theorem lifecycle_of_deed (h : Unfolds upgrade connection events rounds last) {round : Round}
    (hround : round ∈ rounds) {deed : Deed} (hdeed : deed ∈ round.deeds)
    (hfailed : deed.result ≠ .ok ()) : last.lifecycle = .closed := by
  induction h with
  | rest connection => cases hround
  | round hrest ih =>
    rcases List.mem_cons.mp hround with rfl | hround
    · obtain ⟨error, hmem⟩ := Round.mem_followUps_of_deed hdeed hfailed
      exact hrest.lifecycle_of_failed (List.mem_append_right _ hmem)
    · exact ih hround

/-- Once only that is to be dealt with what came of actions, there is no TLS upgrade any more. -/
theorem startTls_notMem (h : Unfolds upgrade connection events rounds last)
    (hevents : ∀ event ∈ events, event.IsFollowUp) :
    ∀ round ∈ rounds, Lifecycle.Action.startTls ∉ round.actions := by
  induction h with
  | rest connection => exact nofun
  | @round connection last event events rounds _ ih =>
    obtain ⟨hevent, hrest⟩ := List.forall_mem_cons.mp hevents
    refine List.forall_mem_cons.mpr ⟨?_, ih fun other hmem => ?_⟩
    · exact (Lifecycle.isTransition_onEvent connection.login connection.lifecycle
        event).not_mem_startTls (hevent.isPastTls _ _)
    · exact (List.mem_append.mp hmem).elim (hrest other) Round.isFollowUp

/-- **There is one TLS upgrade at most.** -/
theorem count_startTls_le {event : Lifecycle.Event}
    (h : Unfolds upgrade connection [event] rounds last) :
    (rounds.flatMap Round.actions).count .startTls ≤ 1 := by
  cases h with
  | @round _ _ _ _ rounds hrest =>
    have hlater : Lifecycle.Action.startTls ∉ rounds.flatMap Round.actions := by
      intro hmem
      obtain ⟨round, hround, hmem⟩ := List.mem_flatMap.mp hmem
      exact hrest.startTls_notMem (fun _ => Round.isFollowUp) round hround hmem
    rw [List.flatMap_cons, List.count_append, List.count_eq_zero.mpr hlater]
    exact (Lifecycle.isTransition_onEvent connection.login connection.lifecycle
      event).count_startTls_le

end Unfolds

/-! ## The end of the loop -/

/-- The events that come of actions that were carried out in some way. -/
def Ending.followUps (upgrade : Outcome Unit) : Ending → List Lifecycle.Event
  | upgrading _ => [upgradeEvent upgrade]
  | ending => ending.followUp

/-- Actions carried out to their end, if a TLS upgrade is the last of them. -/
theorem carryThrough_eq {actions : List Lifecycle.Action}
    (h : ∀ rest, (connection.carryOut actions).2 = .upgrading rest → rest = []) :
    (connection.carryThrough upgrade actions).1 = (connection.carryOut actions).1 ∧
      (connection.carryThrough upgrade actions).2.flatMap Deed.followUps =
        (connection.carryOut actions).2.followUps upgrade := by
  induction actions generalizing connection with
  | nil => exact ⟨rfl, rfl⟩
  | cons action rest ih =>
    rw [carryOut] at h ⊢
    rw [carryThrough, performThrough]
    rcases hperform : connection.perform action with ⟨next, error | ⟨⟩⟩
    · exact ⟨rfl, rfl⟩
    · rw [hperform] at h
      dsimp only at h ⊢
      by_cases hstart : action = .startTls
      · rw [if_pos hstart] at h ⊢
        rw [if_pos hstart, h rest rfl, hstart]
        cases upgrade with
        | ok done => exact ⟨rfl, rfl⟩
        | error error => exact ⟨rfl, rfl⟩
      · rw [if_neg hstart] at h ⊢
        rw [if_neg hstart]
        obtain ⟨hlast, hevents⟩ := ih h
        refine ⟨hlast, ?_⟩
        dsimp only
        rw [List.flatMap_cons, hevents, Deed.followUps]
        simp only [hstart, if_false, List.nil_append]

/-- One round, by what comes of its event before a TLS upgrade. -/
theorem reactThrough_eq (upgrade : Outcome Unit) (connection : Connection σ)
    (event : Lifecycle.Event) :
    (connection.reactThrough upgrade event).1 = (connection.react event).1 ∧
      (connection.reactThrough upgrade event).2.followUps =
        (connection.react event).2.followUps upgrade := by
  apply carryThrough_eq
  intro rest hending
  have hpending := pending_react connection event
  rw [react, hending] at hpending
  exact hpending.1

/-- A round and what comes of it. -/
theorem Unfolds.of_react {event : Lifecycle.Event} {rounds : List Round} {last : Connection σ}
    (h : Unfolds upgrade (connection.react event).1 ((connection.react event).2.followUps upgrade)
      rounds last) :
    Unfolds upgrade connection [event] ((connection.reactThrough upgrade event).2 :: rounds)
      last := by
  obtain ⟨hnext, hevents⟩ := reactThrough_eq upgrade connection event
  apply Unfolds.round
  rw [hnext, hevents]
  exact h

/-- A failure takes one round. -/
theorem exists_unfolds_failed (upgrade : Outcome Unit) (connection : Connection σ)
    (error : Error) :
    ∃ round, Unfolds upgrade connection [.failed error] [round]
      (connection.dispatch (.failed error)) := by
  refine ⟨_, .of_react ?_⟩
  rw [react_failed_snd, dispatch_failed]
  exact .rest _

/-- An event without a TLS upgrade takes two rounds at most. -/
theorem exists_unfolds_dispatch (hawake : connection.suspension = none) {event : Lifecycle.Event}
    (h : ∀ rest, (connection.react event).2 ≠ .upgrading rest) :
    ∃ rounds, Unfolds upgrade connection [event] rounds (connection.dispatch event) ∧
      rounds.length ≤ 2 ∧ (connection.dispatch event).suspension = none := by
  have hreact : (connection.react event).1.suspension = none :=
    (suspension_react connection event).trans hawake
  cases hending : (connection.react event).2 with
  | done =>
    have hdispatch := dispatch_of_done hending
    have hunfolds : Unfolds upgrade connection [event]
        [(connection.reactThrough upgrade event).2] (connection.dispatch event) := by
      apply Unfolds.of_react
      rw [hending, hdispatch]
      exact .rest _
    exact ⟨_, hunfolds, Nat.le_succ 1, hdispatch ▸ hreact⟩
  | failed error =>
    have hdispatch := dispatch_of_failed hending
    obtain ⟨round, hround⟩ := exists_unfolds_failed upgrade (connection.react event).1 error
    have hunfolds : Unfolds upgrade connection [event]
        [(connection.reactThrough upgrade event).2, round] (connection.dispatch event) := by
      apply Unfolds.of_react
      rw [hending, hdispatch]
      exact hround
    exact ⟨_, hunfolds, Nat.le_refl 2, hdispatch ▸ (late_dispatch_failed hreact error).awake⟩
  | upgrading rest => exact absurd hending (h rest)

/-- The end of an upgrade is an event that comes of an action. -/
theorem isFollowUp_upgradeEvent (upgrade : Outcome Unit) : (upgradeEvent upgrade).IsFollowUp := by
  cases upgrade <;> trivial

/-- An upgrade ends with an event of its own. -/
theorem dispatchThrough_of_upgrading (hawake : connection.suspension = none)
    {event : Lifecycle.Event} {rest : List Lifecycle.Action}
    (h : (connection.react event).2 = .upgrading rest) (upgrade : Outcome Unit) :
    connection.dispatchThrough event upgrade =
      (connection.react event).1.dispatch (upgradeEvent upgrade) := by
  have hpending := pending_react connection event
  rw [h] at hpending
  have hreact : (connection.react event).1.suspension = none :=
    (suspension_react connection event).trans hawake
  have hresumed : { (connection.react event).1 with suspension := none } =
      (connection.react event).1 := by
    generalize (connection.react event).1 = next at hreact
    cases next
    cases hreact
    rfl
  rw [dispatchThrough, dispatch_of_upgrading h, hpending.1]
  exact (resume_eq_dispatch _ _).trans (congrArg (dispatch · _) hresumed)

/-- **The loop comes to an end**, after three rounds at most: one up to a TLS upgrade, one behind
it, and one for what fails in that. -/
theorem exists_unfolds_dispatchThrough (hawake : connection.suspension = none)
    (event : Lifecycle.Event) (upgrade : Outcome Unit) :
    ∃ rounds,
      Unfolds upgrade connection [event] rounds (connection.dispatchThrough event upgrade) ∧
      rounds.length ≤ 3 ∧ (connection.dispatchThrough event upgrade).suspension = none := by
  by_cases hupgrading : ∃ rest, (connection.react event).2 = .upgrading rest
  · obtain ⟨rest, hending⟩ := hupgrading
    have hreact : (connection.react event).1.suspension = none :=
      (suspension_react connection event).trans hawake
    -- what the upgrade comes to is dealt with past TLS, so that there is no other one
    have hlate := (react_late hreact (upgradeEvent upgrade)
      ((isFollowUp_upgradeEvent upgrade).isPastTls _ _)).2
    obtain ⟨rounds, hunfolds, hlength, hend⟩ := exists_unfolds_dispatch hreact hlate
    rw [dispatchThrough_of_upgrading hawake hending]
    refine ⟨_, .of_react ?_, Nat.succ_le_succ hlength, hend⟩
    rw [hending]
    exact hunfolds
  · obtain ⟨rounds, hunfolds, hlength, hend⟩ :=
      exists_unfolds_dispatch hawake fun rest hending => hupgrading ⟨rest, hending⟩
    have hdispatch : connection.dispatchThrough event upgrade = connection.dispatch event := by
      rw [dispatchThrough, hend]
    rw [hdispatch]
    exact ⟨rounds, hunfolds, Nat.le_succ_of_le hlength, hend⟩

/-- **An event is dealt with in three rounds at most**, whatever becomes of the writes, the TLS
upgrade and the shutdown that it leads to.  The loop goes in one way, and comes to an end; there is
one TLS upgrade at most in it; in each round nothing is carried out behind a failed action; and if
any action has failed, the session is over in the end. -/
theorem dispatch_in_three_rounds (hawake : connection.suspension = none) (event : Lifecycle.Event)
    (upgrade : Outcome Unit) :
    ∃ rounds,
      (∀ others last, Unfolds upgrade connection [event] others last ↔
        others = rounds ∧ last = connection.dispatchThrough event upgrade) ∧
      rounds.length ≤ 3 ∧
      (rounds.flatMap Round.actions).count .startTls ≤ 1 ∧
      (∀ round ∈ rounds, round.StopsAtFailure) ∧
      ((∃ round ∈ rounds, ∃ deed ∈ round.deeds, deed.result ≠ .ok ()) →
        (connection.dispatchThrough event upgrade).lifecycle = .closed) ∧
      (connection.dispatchThrough event upgrade).suspension = none := by
  obtain ⟨rounds, hunfolds, hlength, hend⟩ := exists_unfolds_dispatchThrough hawake event upgrade
  refine ⟨rounds, fun others last => ⟨fun h => ?_, ?_⟩, hlength, hunfolds.count_startTls_le,
    hunfolds.stopsAtFailure, ?_, hend⟩
  · exact hunfolds.unique h
  · rintro ⟨rfl, rfl⟩
    exact hunfolds
  · rintro ⟨round, hround, deed, hdeed, hfailed⟩
    exact hunfolds.lifecycle_of_deed hround hdeed hfailed

/-- A client that waits for the greeting, over a transport whose second write fails. -/
def faultyAfterTls : Connection Ping where
  login := Client.login { tlsMode := .require } []
  tlsAvailable := true
  lifecycle := .awaitingGreeting
  transport := { fault := fun n => if n = 1 then some .closed else none }

/-- The request for TLS is written and the upgrade succeeds, but the answer to the greeting is not
written: that takes three rounds. -/
theorem dispatch_in_three_rounds_afterTls :
    let greeted : Lifecycle.Event := .packet Lifecycle.greetingWithTls
    faultyAfterTls.suspension = none ∧
      ∃ rounds, Unfolds (.ok ()) faultyAfterTls [greeted] rounds
          (faultyAfterTls.dispatchThrough greeted (.ok ())) ∧
        rounds.map Round.event = [greeted, .tlsEstablished, .failed .closed] ∧
        (faultyAfterTls.dispatchThrough greeted (.ok ())).lifecycle = .closed := by
  intro greeted
  let first := faultyAfterTls.reactThrough (.ok ()) greeted
  let second := first.1.reactThrough (.ok ()) .tlsEstablished
  let third := second.1.reactThrough (.ok ()) (.failed .closed)
  have hfirst : first.2.followUps = [.tlsEstablished] := by
    decide +kernel
  have hsecond : second.2.followUps = [.failed .closed] := by
    decide +kernel
  have hthird : third.2.followUps = [] := by
    decide +kernel
  have hunfolds : Unfolds (.ok ()) faultyAfterTls [greeted] [first.2, second.2, third.2]
      third.1 := by
    apply Unfolds.round
    rw [List.nil_append, hfirst]
    apply Unfolds.round
    rw [List.nil_append, hsecond]
    apply Unfolds.round
    rw [List.nil_append, hthird]
    exact .rest _
  obtain ⟨rounds, hiff, -, -, -, hclosed, -⟩ :=
    dispatch_in_three_rounds (show faultyAfterTls.suspension = none from rfl) greeted (.ok ())
  obtain ⟨rfl, hlast⟩ := (hiff _ _).mp hunfolds
  rw [hlast] at hunfolds
  refine ⟨rfl, _, hunfolds, rfl, hclosed ⟨second.2, by simp, ?_⟩⟩
  have hfailed : second.2.deeds.any (fun deed => !deed.result.isOk) = true := by
    decide +kernel
  obtain ⟨deed, hdeed, hresult⟩ := List.any_eq_true.mp hfailed
  refine ⟨deed, hdeed, fun hok => ?_⟩
  rw [hok] at hresult
  cases hresult

end Connection

end MySqlClient
