import MySqlClient.Proofs.Lifecycle.Messages

/-!
# What the lifecycle can do

Every step of the lifecycle has one of a few shapes, whatever the packets hold.

* `Lifecycle.IsTransition`: the shapes.
* `Lifecycle.isTransition_onEvent`: **every step has one of them.**
* `IsTransition.eq_of_startTls`, `IsTransition.eq_of_established`: TLS is asked for last,
  behind the request for it, and a session is established in the state that is ready for commands.
* `Lifecycle.isPastTls`: the states from which TLS is not asked for any more.
* `Lifecycle.onAuthPacket_cases`: a packet of the authentication ends it, or something is written,
  or the exchange advances.
-/

namespace MySqlClient

namespace Lifecycle

/-- The shapes of a step. -/
inductive IsTransition : Transition → Prop
  /-- The end is the end. -/
  | rest : IsTransition (closed, [])
  | begin : IsTransition (awaitingGreeting, [.read])
  | upgrade (greeting : Greeting) (capabilities : Capabilities) (request : Bytes) :
      IsTransition (awaitingTls greeting capabilities, [.send request false, .startTls])
  /-- Go on with the authentication, with something to write or not. -/
  | reply (exchange : AuthExchange) (session : Session) (payload : Option Bytes) :
      IsTransition (authenticating exchange session,
        (payload.map fun octets => Action.send octets false).toList ++ [.read])
  | establish (session : Session) :
      IsTransition (ready session.capabilities, [.established session])
  | fail (error : Error) : IsTransition (failWith error)
  | quit : IsTransition (closed, [.send Request.quit.encode true, .shutdown])
  | close : IsTransition (closed, [.shutdown, .fail .closed])

theorem exists_eq_of_respond {login : Login} {greeting : Greeting} {capabilities : Capabilities}
    {secure : Bool} {transition : Transition}
    (h : respond login greeting capabilities secure = .ok transition) :
    ∃ exchange session payload, transition =
      (authenticating exchange session, [.send payload false, .read]) := by
  obtain ⟨exchange, proof, -, rfl⟩ := exists_begins_of_respond h
  exact ⟨exchange, _, _, rfl⟩

/-- The answer to a greeting is the request for TLS, or the answer without TLS. -/
theorem onGreeting_cases {login : Login} {packet : Packet} {transition : Transition}
    (h : onGreeting login packet = .ok transition) :
    (∃ greeting capabilities request,
        transition = (awaitingTls greeting capabilities, [.send request false, .startTls])) ∨
      ∃ greeting capabilities,
        respond login greeting capabilities login.secureTransport = .ok transition := by
  obtain ⟨greeting, capabilities, -, ⟨-, rfl⟩ | ⟨-, hrespond⟩⟩ := exists_agrees_of_onGreeting h
  · exact Or.inl ⟨greeting, capabilities, _, rfl⟩
  · exact Or.inr ⟨greeting, capabilities, hrespond⟩

/-- How far an exchange has come. -/
def stageRank : AuthStage → Nat
  | .sentProof => 0
  | .requestedKey => 1
  | .sentFinal => 2

/-- **A packet of the authentication** ends it, or something is written, or the exchange
advances. -/
theorem onAuthPacket_cases {exchange : AuthExchange} {session : Session} {packet : Packet}
    {transition : Transition} (h : onAuthPacket exchange session packet = .ok transition) :
    (∃ session : Session, transition = (ready session.capabilities, [.established session])) ∨
      ∃ (next : AuthExchange) (reply : Option Bytes),
        transition = (authenticating next session,
          (reply.map fun octets => Action.send octets false).toList ++ [.read]) ∧
        (reply = none → stageRank exchange.stage < stageRank next.stage) := by
  obtain ⟨message, hauthenticates⟩ := exists_authenticates_of_onAuthPacket h
  cases hauthenticates with
  | establish =>
    refine Or.inl ⟨acceptedSession session packet.payload, ?_⟩
    rw [capabilities_acceptedSession]
  | wait _ _ hstage =>
    refine Or.inr ⟨_, none, rfl, fun _ => ?_⟩
    rw [hstage]
    exact Nat.two_pos
  | switch => exact Or.inr ⟨_, some _, rfl, nofun⟩
  | askKey => exact Or.inr ⟨_, some _, rfl, nofun⟩
  | reveal => exact Or.inr ⟨_, some _, rfl, nofun⟩
  | encrypt => exact Or.inr ⟨_, some _, rfl, nofun⟩

theorem Authenticates.isTransition {exchange : AuthExchange} {session : Session} {packet : Packet}
    {transition : Transition} {message : Option Message}
    (h : Authenticates exchange session packet transition message) : IsTransition transition := by
  cases h with
  | establish =>
    rw [← capabilities_acceptedSession session packet.payload]
    exact .establish _
  | wait => exact .reply _ _ none
  | switch => exact .reply _ _ (some _)
  | askKey => exact .reply _ _ (some _)
  | reveal => exact .reply _ _ (some _)
  | encrypt => exact .reply _ _ (some _)

/-- **Every step of the lifecycle has one of the shapes.** -/
theorem isTransition_onEvent (login : Login) (state : Lifecycle) (event : Event) :
    IsTransition (onEvent login state event) := by
  obtain ⟨message, hdoes⟩ := exists_does login state event
  generalize onEvent login state event = transition at hdoes ⊢
  cases hdoes with
  | begin => exact .begin
  | askTls => exact .upgrade _ _ _
  | answer => exact .reply _ _ (some _)
  | answerOverTls => exact .reply _ _ (some _)
  | authenticate h => exact h.isTransition
  | quit => exact .quit
  | close => exact .close
  | fail error => exact .fail error
  | rest => exact .rest

/-- TLS is asked for behind the request for it, and nothing behind that. -/
theorem IsTransition.eq_of_startTls {next : Lifecycle} {actions : List Action}
    (h : IsTransition (next, actions)) (hmem : Action.startTls ∈ actions) :
    ∃ greeting capabilities request, next = awaitingTls greeting capabilities ∧
      actions = [.send request false, .startTls] := by
  cases h with
  | upgrade greeting capabilities request => exact ⟨greeting, capabilities, request, rfl, rfl⟩
  | reply _ _ payload => cases payload <;> simp at hmem
  | rest => simp at hmem
  | begin => simp at hmem
  | establish => simp at hmem
  | fail => simp at hmem
  | quit => simp at hmem
  | close => simp at hmem

/-- A session is established where commands may flow. -/
theorem IsTransition.eq_of_established {next : Lifecycle} {actions : List Action}
    {session : Session} (h : IsTransition (next, actions))
    (hmem : Action.established session ∈ actions) :
    next = ready session.capabilities := by
  cases h with
  | establish =>
    rw [List.mem_singleton] at hmem
    cases hmem
    rfl
  | reply _ _ payload => cases payload <;> simp at hmem
  | rest => simp at hmem
  | begin => simp at hmem
  | upgrade => simp at hmem
  | fail => simp at hmem
  | quit => simp at hmem
  | close => simp at hmem

/-- A step that establishes a session leads to where commands may flow. -/
theorem Step.next_of_established {login : Login} {step : Step} {session : Session}
    (h : Action.established session ∈ step.actions login) :
    step.next login = ready session.capabilities :=
  (isTransition_onEvent login step.state step.event).eq_of_established h

/-! ## Past TLS -/

/-- TLS is not asked for any more. -/
def isPastTls : Lifecycle → Bool
  | authenticating _ _ => true
  | ready _ => true
  | closed => true
  | _ => false

theorem IsTransition.not_mem_startTls {next : Lifecycle} {actions : List Action}
    (h : IsTransition (next, actions)) (hpast : next.isPastTls = true) :
    Action.startTls ∉ actions := by
  intro hmem
  obtain ⟨greeting, capabilities, request, rfl, -⟩ := h.eq_of_startTls hmem
  cases hpast

theorem isPastTls_orFail {outcome : Outcome Transition}
    (h : ∀ transition, outcome = .ok transition → transition.1.isPastTls = true) :
    (orFail outcome).1.isPastTls = true := by
  cases outcome with
  | ok transition => exact h transition rfl
  | error error => rfl

theorem isPastTls_of_respond {login : Login} {greeting : Greeting} {capabilities : Capabilities}
    {secure : Bool} {transition : Transition}
    (h : respond login greeting capabilities secure = .ok transition) :
    transition.1.isPastTls = true := by
  obtain ⟨exchange, session, payload, rfl⟩ := exists_eq_of_respond h
  rfl

/-- Past TLS the lifecycle stays. -/
theorem isPastTls_onEvent {state : Lifecycle} (h : state.isPastTls = true) (login : Login)
    (event : Event) : (onEvent login state event).1.isPastTls = true := by
  obtain ⟨message, hdoes⟩ := exists_does login state event
  generalize onEvent login state event = transition at hdoes ⊢
  cases hdoes with
  | begin => cases h
  | askTls => cases h
  | authenticate h => cases h <;> rfl
  | _ => rfl

/-- A failure is the end. -/
@[simp] theorem onEvent_failed_fst (login : Login) (state : Lifecycle) (error : Error) :
    (onEvent login state (.failed error)).1 = closed := by
  cases state <;> rfl

/-- Octets come to no more. -/
@[simp] theorem onEvent_transportClosed_fst (login : Login) (state : Lifecycle) :
    (onEvent login state .transportClosed).1 = closed := by
  cases state <;> rfl

/-- Whoever asks for the end gets it. -/
@[simp] theorem onEvent_close_fst (login : Login) (state : Lifecycle) :
    (onEvent login state .close).1 = closed := by
  cases state <;> rfl

/-- How far a session has come, past TLS. -/
def rank : Lifecycle → Nat
  | authenticating exchange _ => stageRank exchange.stage
  | ready _ => 3
  | closed => 3
  | _ => 0

theorem stageRank_le (stage : AuthStage) : stageRank stage ≤ 2 := by
  cases stage <;> decide

theorem rank_le (state : Lifecycle) : state.rank ≤ 3 := by
  cases state with
  | authenticating exchange session => exact Nat.le_succ_of_le (stageRank_le exchange.stage)
  | _ => simp [rank]

end Lifecycle

end MySqlClient
