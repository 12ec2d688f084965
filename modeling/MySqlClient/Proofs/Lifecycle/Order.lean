import MySqlClient.Proofs.Lifecycle.Transitions

/-!
# The order of a session

A session goes through its phases in one direction.  What is done only on the way from one phase to
a later one is therefore done at most once, whatever events come and whatever the packets hold.

* `Lifecycle.phase`: how far a session has come; `Does.phase_le`: no event takes it back.
* `Lifecycle.Once`: at most one step of a run has a property; `Lifecycle.once_of_crosses`: **what is
  done only across a phase is done once.**
* `Step.Ends`: the three ways in which a step asks for the end.
* `Lifecycle.GoesOn`: the four pairs of a state and an event that may lead on.
* `Lifecycle.KeepsOrder`: what is asked for in a run, how often and in which order;
  `Lifecycle.keepsOrder_steps`: **every session keeps it, and everything but the four pairs is the
  end.**
-/

namespace MySqlClient

namespace Lifecycle

variable {login : Login}

/-! ## Phases -/

/-- How far a session has come. -/
def phase : Lifecycle → Nat
  | start => 0
  | awaitingGreeting => 1
  | awaitingTls _ _ => 2
  | authenticating _ _ => 3
  | ready _ => 4
  | closed => 5

theorem phase_le_five (state : Lifecycle) : state.phase ≤ 5 := by
  cases state <;> simp [phase]

section

variable {state : Lifecycle} {event : Event} {transition : Transition} {message : Option Message}

/-- No event takes a session back. -/
theorem Does.phase_le (h : Does login state event transition message) :
    state.phase ≤ transition.1.phase := by
  cases h with
  | begin => decide
  | askTls => exact Nat.le_succ 1
  | answer => exact Nat.le_add_right 1 2
  | answerOverTls => exact Nat.le_succ 2
  | authenticate h => cases h <;> simp [phase]
  | _ => exact phase_le_five _

/-- TLS is requested on the way to where it is waited for, and asked for right behind the
request. -/
theorem Does.requests_tls {header : ClientHeader}
    (h : Does login state event transition (some (.tlsRequest header))) :
    (state.phase < 2 ∧ 2 ≤ transition.1.phase) ∧
      transition.2 = [Message.action (.tlsRequest header), .startTls] := by
  cases h with
  | askTls => exact ⟨⟨Nat.lt_succ_self 1, Nat.le_refl 2⟩, rfl⟩
  | authenticate h => cases h

/-- Whoever asks for TLS has requested it. -/
theorem Does.exists_header_of_startTls (h : Does login state event transition message)
    (hmem : Action.startTls ∈ transition.2) : ∃ header, message = some (.tlsRequest header) := by
  cases h with
  | askTls => exact ⟨_, rfl⟩
  | authenticate h => cases h <;> simp [Message.action] at hmem
  | _ => simp [Message.action, failWith] at hmem

/-- The greeting is answered on the way to the authentication. -/
theorem Does.answers {answer : HandshakeResponse}
    (h : Does login state event transition (some (.response answer))) :
    (state.phase < 3 ∧ 3 ≤ transition.1.phase) ∧
      transition.2 = [Message.action (.response answer), .read] := by
  cases h with
  | answer => exact ⟨⟨Nat.lt_add_of_pos_right Nat.two_pos, Nat.le_refl 3⟩, rfl⟩
  | answerOverTls => exact ⟨⟨Nat.lt_succ_self 2, Nat.le_refl 3⟩, rfl⟩
  | authenticate h => cases h

/-- The authentication begins with an answer, or goes on. -/
theorem Does.answers_or_authenticating {exchange : AuthExchange} {session : Session}
    (h : Does login state event transition message)
    (hnext : transition.1 = authenticating exchange session) :
    (∃ answer, message = some (.response answer)) ∨
      ∃ exchange session, state = authenticating exchange session := by
  cases h with
  | answer => exact Or.inl ⟨_, rfl⟩
  | answerOverTls => exact Or.inl ⟨_, rfl⟩
  | authenticate => exact Or.inr ⟨_, _, rfl⟩
  | _ => cases hnext

/-- A session is established at the end of the authentication, and nothing else is asked for
then. -/
theorem Does.establishes {session : Session} (h : Does login state event transition message)
    (hmem : Action.established session ∈ transition.2) :
    (∃ exchange before, state = authenticating exchange before) ∧
      transition.2 = [.established session] := by
  cases h with
  | @authenticate exchange before packet _ _ h =>
    refine ⟨⟨exchange, before, rfl⟩, ?_⟩
    cases h with
    | establish =>
      obtain rfl : session = acceptedSession before packet.payload := by simpa using hmem
      rfl
    | _ => simp [Message.action] at hmem
  | _ => simp [Message.action, failWith] at hmem

/-- Commands may flow once a session has been established with these capabilities. -/
theorem Does.exists_session_of_ready {capabilities : Capabilities}
    (h : Does login state event transition message)
    (hnext : transition.1 = ready capabilities) :
    ∃ session, transition.2 = [.established session] ∧ session.capabilities = capabilities := by
  cases h with
  | @authenticate exchange before packet _ _ h =>
    cases h with
    | establish =>
      cases hnext
      exact ⟨_, rfl, capabilities_acceptedSession before packet.payload⟩
    | _ => cases hnext
  | _ => cases hnext

/-- Only the request to quit starts a new exchange. -/
theorem Does.eq_quit_of_isFirst {said : Message}
    (h : Does login state event transition (some said)) (hfirst : said.isFirst = true) :
    said = .quit := by
  cases h with
  | quit => rfl
  | authenticate h => cases h <;> cases hfirst
  | _ => cases hfirst

end

/-! ## What is done once -/

/-- At most one step of the run has the property. -/
def Once (p : Step → Prop) (run : List Step) : Prop :=
  run.Pairwise fun earlier later => p earlier → ¬ p later

namespace Step

/-- A step takes a session from before a phase to the phase, or behind it. -/
def Crosses (login : Login) (phase : Nat) (step : Step) : Prop :=
  step.state.phase < phase ∧ phase ≤ (step.next login).phase

theorem phase_le_next (login : Login) (step : Step) :
    step.state.phase ≤ (step.next login).phase := by
  obtain ⟨message, hdoes⟩ := step.exists_does login
  exact hdoes.phase_le

theorem crosses_of_established {step : Step} {session : Session}
    (h : Action.established session ∈ step.actions login) : step.Crosses login 4 := by
  obtain ⟨message, hdoes⟩ := step.exists_does login
  obtain ⟨⟨exchange, before, hstate⟩, -⟩ := hdoes.establishes h
  refine ⟨?_, ?_⟩
  · rw [hstate]
    exact Nat.lt_succ_self 3
  · rw [next_of_established h]
    exact Nat.le_refl 4

end Step

/-- No step of a run is taken before the phase in which it begins. -/
theorem phase_le_of_mem_steps {state : Lifecycle} {events : List Event} {step : Step}
    (h : step ∈ steps login state events) : state.phase ≤ step.state.phase := by
  induction events generalizing state with
  | nil => cases h
  | cons event events ih =>
    rcases List.mem_cons.mp h with rfl | hmem
    · exact Nat.le_refl _
    · exact Nat.le_trans (Step.phase_le_next login ⟨state, event⟩) (ih hmem)

/-- **What is done only across a phase is done once.** -/
theorem once_of_crosses {p : Step → Prop} (n : Nat) (h : ∀ step, p step → step.Crosses login n)
    (state : Lifecycle) (events : List Event) : Once p (steps login state events) := by
  -- event by event: behind a step that crosses the phase no other one does
  induction events generalizing state with
  | nil => exact .nil
  | cons event events ih =>
    refine .cons (fun later hmem hfirst hlater => ?_) (ih _)
    have hcrossed : n ≤ later.state.phase :=
      Nat.le_trans (h _ hfirst).2 (phase_le_of_mem_steps hmem)
    exact Nat.not_lt.mpr hcrossed (h later hlater).1

/-! ## The end -/

/-- A step asks for the end: the session fails, or it is closed before commands may flow, or it is
closed while they may. -/
inductive Step.Ends (login : Login) (step : Step) : Prop
  | fails (error : Error) (hactions : step.actions login = [.fail error])
  | closes (hready : step.state.isReady = false)
      (hactions : step.actions login = [.shutdown, .fail .closed])
  | quits (hready : step.state.isReady = true)
      (hactions : step.actions login = [.send Request.quit.encode true, .shutdown])

/-- What is asked for at the end only. -/
def Action.isLast : Action → Bool
  | .shutdown | .fail _ | .send _ true => true
  | _ => false

/-- What is asked for at the end only leads to the end. -/
theorem Does.eq_closed_of_isLast {state : Lifecycle} {event : Event} {transition : Transition}
    {message : Option Message} (h : Does login state event transition message) :
    ∀ action ∈ transition.2, action.isLast = true → transition.1 = closed := by
  cases h with
  | authenticate h => cases h <;> simp [Message.action, Message.isFirst, Action.isLast]
  | _ => simp [Message.action, Message.isFirst, Action.isLast, failWith]

/-- **Whatever is asked for at the end only, is asked for in one of the three ways**, by a session
that has not ended before. -/
theorem Step.ends_of_isLast {step : Step} {action : Action} (hmem : action ∈ step.actions login)
    (hlast : action.isLast = true) :
    step.Ends login ∧ step.state ≠ closed ∧ step.next login = closed := by
  obtain ⟨state, event⟩ := step
  have hopen : state ≠ closed := by
    rintro rfl
    cases hmem
  obtain ⟨message, hdoes⟩ := Lifecycle.exists_does login state event
  have hclosed : (onEvent login state event).1 = closed :=
    hdoes.eq_closed_of_isLast action hmem hlast
  refine ⟨?_, hopen, hclosed⟩
  have hactions : (⟨state, event⟩ : Step).actions login = (onEvent login state event).2 := rfl
  generalize htransition : onEvent login state event = transition at hdoes hactions hclosed
  cases hdoes with
  | fail error => exact .fails error hactions
  | quit => exact .quits rfl hactions
  | close =>
    refine .closes ?_ hactions
    -- where commands may flow the request to quit would have been written
    cases state with
    | ready => cases htransition
    | _ => rfl
  | rest => exact absurd rfl hopen
  | authenticate h => cases h <;> cases hclosed
  | _ => cases hclosed

theorem Step.Ends.exists_isLast {step : Step} (h : step.Ends login) :
    ∃ action ∈ step.actions login, action.isLast = true := by
  rcases h with ⟨error, hactions⟩ | ⟨-, hactions⟩ | ⟨-, hactions⟩
  all_goals
    rw [hactions]
    exact ⟨_, List.mem_cons_self .., rfl⟩

theorem Step.Ends.crosses {step : Step} (h : step.Ends login) : step.Crosses login 5 := by
  obtain ⟨action, hmem, hlast⟩ := h.exists_isLast
  obtain ⟨-, hopen, hnext⟩ := ends_of_isLast hmem hlast
  refine ⟨?_, by rw [hnext]; exact Nat.le_refl 5⟩
  cases hstate : step.state with
  | closed => exact absurd hstate hopen
  | _ => simp [phase]

/-! ## What leads on -/

/-- The pairs of a state and an event that may lead on. -/
inductive GoesOn : Lifecycle → Event → Prop
  | begin : GoesOn start .transportActive
  | greeting (packet : Packet) : GoesOn awaitingGreeting (.packet packet)
  | upgrade (greeting : Greeting) (capabilities : Capabilities) :
      GoesOn (awaitingTls greeting capabilities) .tlsEstablished
  | authentication (exchange : AuthExchange) (session : Session) (packet : Packet) :
      GoesOn (authenticating exchange session) (.packet packet)

/-- **Everything else is the end.** -/
theorem onEvent_fst_of_not_goesOn {state : Lifecycle} {event : Event} (h : ¬ GoesOn state event) :
    (onEvent login state event).1 = closed := by
  obtain ⟨message, hdoes⟩ := Lifecycle.exists_does login state event
  generalize onEvent login state event = transition at hdoes ⊢
  cases hdoes with
  | begin => exact absurd .begin h
  | askTls => exact absurd (.greeting _) h
  | answer => exact absurd (.greeting _) h
  | answerOverTls => exact absurd (.upgrade _ _) h
  | authenticate => exact absurd (.authentication _ _ _) h
  | _ => rfl

/-! ## The order of a session -/

/-- What is asked for in a run, how often and in which order. -/
structure KeepsOrder (login : Login) (run : List Step) : Prop where
  /-- TLS is requested once. -/
  requestsTlsOnce : Once (fun step => ∃ header, step.Says login (.tlsRequest header)) run
  /-- Right behind the request TLS is asked for. -/
  requestsTls : ∀ step ∈ run, ∀ header, step.Says login (.tlsRequest header) →
    step.actions login = [Message.action (.tlsRequest header), .startTls]
  /-- Without a request it is not asked for. -/
  startsTls : ∀ step ∈ run, .startTls ∈ step.actions login →
    ∃ header, step.Says login (.tlsRequest header)
  /-- The greeting is answered once. -/
  answersOnce : Once (fun step => ∃ answer, step.Says login (.response answer)) run
  /-- The answer is the only packet of its step. -/
  answers : ∀ step ∈ run, ∀ answer, step.Says login (.response answer) →
    step.actions login = [Message.action (.response answer), .read]
  /-- A session is established once. -/
  establishesOnce : Once (fun step => ∃ session, .established session ∈ step.actions login) run
  /-- Before a session is established the greeting has been answered. -/
  answersFirst : ∀ front step back session, run = front ++ step :: back →
    .established session ∈ step.actions login →
    ∃ earlier ∈ front, ∃ answer, earlier.Says login (.response answer)
  /-- A session is established by itself. -/
  establishes : ∀ step ∈ run, ∀ session, .established session ∈ step.actions login →
    step.actions login = [.established session]
  /-- Commands may flow from that step on, under the capabilities of the session, and from no other
  one. -/
  ready_iff : ∀ step ∈ run, ∀ capabilities, step.next login = ready capabilities ↔
    ∃ session, .established session ∈ step.actions login ∧ session.capabilities = capabilities
  /-- The end is asked for once. -/
  endsOnce : Once (Step.Ends login) run
  /-- What is asked for at the end only is asked for in one of the three ways. -/
  ends : ∀ step ∈ run, ∀ action ∈ step.actions login, action.isLast = true → step.Ends login
  /-- Behind the end nothing is asked for. -/
  silent : ∀ front step back, run = front ++ step :: back → step.next login = closed →
    ∀ later ∈ back, later.actions login = []
  /-- Only the request to quit starts a new exchange. -/
  sends : ∀ step ∈ run, ∀ payload resequence, .send payload resequence ∈ step.actions login →
    ∃ message, step.Says login message ∧ payload = message.encode ∧
      (resequence = true ↔ message = .quit)

/-- Once the session is over nothing is asked for. -/
theorem actions_of_closed {events : List Event} {step : Step}
    (h : step ∈ steps login closed events) : step.actions login = [] := by
  have hstate : 5 ≤ step.state.phase := phase_le_of_mem_steps h
  obtain ⟨state, event⟩ := step
  cases state with
  | closed => rfl
  | _ => simp [phase] at hstate

/-- Where a session is authenticated the greeting has been answered. -/
theorem exists_answer_of_authenticating {events : List Event} {front back : List Step}
    {step : Step} (hrun : steps login .start events = front ++ step :: back)
    {exchange : AuthExchange} {session : Session}
    (hstate : step.state = authenticating exchange session) :
    ∃ earlier ∈ front, ∃ answer, earlier.Says login (.response answer) := by
  refine steps_induction
    (motive := fun state => ∀ exchange session, state = authenticating exchange session →
      ∃ earlier ∈ front, ∃ answer, earlier.Says login (.response answer))
    hrun nofun (fun earlier hmem hbefore exchange session hnext => ?_) exchange session hstate
  obtain ⟨message, hdoes⟩ := earlier.exists_does login
  rcases hdoes.answers_or_authenticating hnext with ⟨answer, rfl⟩ | ⟨exchange, session, hauth⟩
  · exact ⟨earlier, hmem, answer, hdoes⟩
  · exact hbefore exchange session hauth

/-- **Every session keeps the order**, whatever the client brings along, whatever events come and
whatever their packets hold: TLS is requested once, the greeting is answered once, a session is
established once and behind the answer, the end is asked for once and nothing behind it; and every
state and event but those that may lead on are the end. -/
theorem keepsOrder_steps (login : Login) (events : List Event) :
    KeepsOrder login (steps login .start events) ∧
      ∀ state event, ¬ GoesOn state event → (onEvent login state event).1 = closed := by
  refine ⟨?_, fun _ _ => onEvent_fst_of_not_goesOn⟩
  exact
    { requestsTlsOnce := once_of_crosses 2 (fun _ ⟨_, hsaid⟩ => hsaid.requests_tls.1) _ _
      requestsTls := fun step _ header hsaid => hsaid.requests_tls.2
      startsTls := by
        intro step _ hmem
        obtain ⟨message, hdoes⟩ := step.exists_does login
        obtain ⟨header, rfl⟩ := hdoes.exists_header_of_startTls hmem
        exact ⟨header, hdoes⟩
      answersOnce := once_of_crosses 3 (fun _ ⟨_, hsaid⟩ => hsaid.answers.1) _ _
      answers := fun step _ answer hsaid => hsaid.answers.2
      establishesOnce := once_of_crosses 4 (fun _ ⟨_, hmem⟩ => Step.crosses_of_established hmem) _ _
      answersFirst := by
        intro front step back session hrun hmem
        obtain ⟨message, hdoes⟩ := step.exists_does login
        obtain ⟨⟨exchange, before, hstate⟩, -⟩ := hdoes.establishes hmem
        exact exists_answer_of_authenticating hrun hstate
      establishes := by
        intro step _ session hmem
        obtain ⟨message, hdoes⟩ := step.exists_does login
        exact (hdoes.establishes hmem).2
      ready_iff := by
        intro step _ capabilities
        constructor
        · intro hnext
          obtain ⟨message, hdoes⟩ := step.exists_does login
          obtain ⟨session, hactions, hsame⟩ := hdoes.exists_session_of_ready hnext
          exact ⟨session, by rw [show step.actions login = _ from hactions]; simp, hsame⟩
        · rintro ⟨session, hmem, rfl⟩
          exact Step.next_of_established hmem
      endsOnce := once_of_crosses 5 (fun _ => Step.Ends.crosses) _ _
      ends := fun step _ action hmem hlast => (Step.ends_of_isLast hmem hlast).1
      silent := by
        intro front step back hrun hnext later hmem
        obtain ⟨events, rfl⟩ := exists_steps_next hrun
        rw [hnext] at hmem
        exact actions_of_closed hmem
      sends := by
        intro step _ payload resequence hmem
        obtain ⟨message, hsaid, haction⟩ := Step.send_mem_iff.mp hmem
        obtain ⟨rfl, rfl⟩ := Action.send.inj haction
        refine ⟨message, hsaid, rfl, hsaid.eq_quit_of_isFirst, ?_⟩
        rintro rfl
        rfl }

end Lifecycle

end MySqlClient
