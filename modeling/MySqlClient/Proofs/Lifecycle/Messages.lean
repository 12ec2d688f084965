import MySqlClient.Lifecycle

/-!
# What a client says on the way to a session

Octets do not tell what they are: a password with a NUL behind it could be the proof for another
one.  So what is said is taken down together with the reason for saying it.

* `Lifecycle.Message`: what a client can say before commands flow, and at the end.
* `Lifecycle.Agrees`: a packet is a greeting over which client and server agree.
* `Lifecycle.Does`: what an event does in a state: where it leads, what is asked for, and which
  message is said, with all that the code looks at; `Lifecycle.Authenticates` is the part of it that
  packets of the authentication play; `Lifecycle.exists_does`: **every event does one of these
  things.**
* `Lifecycle.steps`: a run, event by event; `Lifecycle.reached`: where it leads;
  `Lifecycle.steps_induction` is how a property of states is carried to a step in the middle of it.
* `Step.Says`: what is said in a step; `Step.send_mem_iff`: **what is written is what is said.**
-/

namespace MySqlClient

/-- What a greeting tells about the session. -/
def Greeting.session (greeting : Greeting) (capabilities : Capabilities) : Session where
  connectionId := greeting.connectionId
  serverVersion := greeting.serverVersion
  capabilities
  status := greeting.status

namespace Lifecycle

/-! ## Messages -/

/-- What a client can say before commands flow, and at the end. -/
inductive Message where
  | tlsRequest (header : ClientHeader)
  | response (response : HandshakeResponse)
  /-- The proof for another plugin or another seed. -/
  | proof (octets : Bytes)
  | keyRequest
  /-- The encrypted password. -/
  | cipher (octets : Bytes)
  /-- The password as it is. -/
  | cleartext (password : Bytes)
  | quit

namespace Message

/-- The packet of a message. -/
def encode : Message → Bytes
  | tlsRequest header => header.encode
  | response answer => answer.encode
  | proof octets => octets
  | keyRequest => AuthExchange.keyRequest
  | cipher octets => octets
  | cleartext password => password ++ [0]
  | quit => Request.quit.encode

/-- The header of a message, if it has one. -/
def header? : Message → Option ClientHeader
  | tlsRequest header => some header
  | response answer => some answer.header
  | _ => none

/-- Whether a message starts a new exchange. -/
def isFirst : Message → Bool
  | quit => true
  | _ => false

/-- Writing a message. -/
def action (message : Message) : Action :=
  .send message.encode message.isFirst

/-- A header is what a message begins with. -/
theorem exists_encode_eq {message : Message} {header : ClientHeader}
    (h : message.header? = some header) :
    ∃ rest, message.encode = header.encode ++ rest := by
  cases message with
  | tlsRequest =>
    cases h
    exact ⟨[], (List.append_nil _).symm⟩
  | response answer =>
    cases h
    simp only [encode, HandshakeResponse.encode, List.append_assoc]
    exact ⟨_, rfl⟩
  | _ => cases h

end Message

/-- The response to a greeting. -/
def answerWith (login : Login) (capabilities : Capabilities) (exchange : AuthExchange)
    (proof : Bytes) : HandshakeResponse where
  header := clientHeader login capabilities
  username := login.username
  proof
  database := login.database
  plugin := exchange.plugin.name
  attributes := login.attributes

/-! ## What an event does -/

/-- A packet is a greeting over which client and server agree. -/
structure Agrees (login : Login) (packet : Packet) (greeting : Greeting)
    (capabilities : Capabilities) : Prop where
  notErr : packet.isErr = false
  parsed : Greeting.parse packet.payload = .ok greeting
  offered : greeting.capabilities.contains .required = true
  negotiated : negotiate login greeting.capabilities = .ok capabilities

/-- The authentication that begins with a greeting, over a transport that is private or not. -/
def Begins (login : Login) (greeting : Greeting) (secure : Bool) (exchange : AuthExchange)
    (proof : Bytes) : Prop :=
  AuthExchange.start (firstPlugin greeting) login.password greeting.seed secure login.entropy =
    .ok (exchange, proof)

/-- What a packet of the authentication does: where it leads, what is asked for, and what is
said. -/
inductive Authenticates (exchange : AuthExchange) (session : Session) (packet : Packet) :
    Transition → Option Message → Prop
  | switch {request : AuthSwitch} {next : AuthExchange} {proof : Bytes}
      (hparse : AuthSwitch.parse packet.payload = .ok request)
      (hswitch : exchange.switch request.plugin request.seed = .ok (next, proof)) :
      Authenticates exchange session packet
        (authenticating next session, [Message.action (.proof proof), .read]) (some (.proof proof))
  /-- The server holds the stored hash. -/
  | wait {data : Bytes}
      (hpayload : packet.payload = Packet.authMoreDataHeader :: AuthExchange.fastSuccess :: data)
      (hplugin : exchange.plugin = .cachingSha2) (hstage : exchange.stage = .sentProof) :
      Authenticates exchange session packet
        (authenticating { exchange with stage := .sentFinal } session, [.read]) none
  | askKey {data : Bytes}
      (hpayload : packet.payload =
        Packet.authMoreDataHeader :: AuthExchange.fullAuthentication :: data)
      (hplugin : exchange.plugin = .cachingSha2) (hstage : exchange.stage = .sentProof)
      (hsecure : exchange.secure = false) :
      Authenticates exchange session packet
        (authenticating { exchange with stage := .requestedKey } session,
          [Message.action .keyRequest, .read])
        (some .keyRequest)
  | reveal {data : Bytes}
      (hpayload : packet.payload =
        Packet.authMoreDataHeader :: AuthExchange.fullAuthentication :: data)
      (hplugin : exchange.plugin = .cachingSha2) (hstage : exchange.stage = .sentProof)
      (hsecure : exchange.secure = true) :
      Authenticates exchange session packet
        (authenticating { exchange with stage := .sentFinal } session,
          [Message.action (.cleartext exchange.password), .read])
        (some (.cleartext exchange.password))
  | encrypt {key cipher : Bytes}
      (hpayload : packet.payload = Packet.authMoreDataHeader :: key)
      (hplugin : exchange.plugin = .cachingSha2) (hstage : exchange.stage = .requestedKey)
      (hcipher :
        encryptedPassword exchange.entropy exchange.password exchange.seed key = .ok cipher) :
      Authenticates exchange session packet
        (authenticating { exchange with stage := .sentFinal } session,
          [Message.action (.cipher cipher), .read])
        (some (.cipher cipher))
  | establish {data : Bytes} (hpayload : packet.payload = Packet.okHeader :: data) :
      Authenticates exchange session packet
        (ready session.capabilities, [.established (acceptedSession session packet.payload)]) none

/-- What an event does in a state: where it leads, what is asked for, and what is said. -/
inductive Does (login : Login) : Lifecycle → Event → Transition → Option Message → Prop
  | begin : Does login start .transportActive (awaitingGreeting, [.read]) none
  | askTls {packet : Packet} {greeting : Greeting} {capabilities : Capabilities}
      (hagrees : Agrees login packet greeting capabilities)
      (hssl : capabilities.contains .ssl = true) :
      Does login awaitingGreeting (.packet packet)
        (awaitingTls greeting capabilities,
          [Message.action (.tlsRequest (clientHeader login capabilities)), .startTls])
        (some (.tlsRequest (clientHeader login capabilities)))
  | answer {packet : Packet} {greeting : Greeting} {capabilities : Capabilities}
      {exchange : AuthExchange} {proof : Bytes}
      (hagrees : Agrees login packet greeting capabilities)
      (hssl : capabilities.contains .ssl = false)
      (hbegins : Begins login greeting login.secureTransport exchange proof) :
      Does login awaitingGreeting (.packet packet)
        (authenticating exchange (greeting.session capabilities),
          [Message.action (.response (answerWith login capabilities exchange proof)), .read])
        (some (.response (answerWith login capabilities exchange proof)))
  | answerOverTls {greeting : Greeting} {capabilities : Capabilities} {exchange : AuthExchange}
      {proof : Bytes} (hbegins : Begins login greeting true exchange proof) :
      Does login (awaitingTls greeting capabilities) .tlsEstablished
        (authenticating exchange (greeting.session capabilities),
          [Message.action (.response (answerWith login capabilities exchange proof)), .read])
        (some (.response (answerWith login capabilities exchange proof)))
  | authenticate {exchange : AuthExchange} {session : Session} {packet : Packet}
      {transition : Transition} {message : Option Message}
      (h : Authenticates exchange session packet transition message) :
      Does login (authenticating exchange session) (.packet packet) transition message
  | quit {capabilities : Capabilities} :
      Does login (ready capabilities) .close (closed, [Message.action .quit, .shutdown])
        (some .quit)
  | close {state : Lifecycle} : Does login state .close (closed, [.shutdown, .fail .closed]) none
  | fail {state : Lifecycle} {event : Event} (error : Error) :
      Does login state event (failWith error) none
  | rest {event : Event} : Does login closed event (closed, []) none

variable {login : Login}

@[simp] theorem capabilities_acceptedSession (session : Session) (payload : Bytes) :
    (acceptedSession session payload).capabilities = session.capabilities := by
  unfold acceptedSession
  split <;> rfl

/-- An answer that fails ends the session. -/
theorem exists_does_orFail {state : Lifecycle} {event : Event} {outcome : Outcome Transition}
    (h : ∀ transition, outcome = .ok transition →
      ∃ message, Does login state event transition message) :
    ∃ message, Does login state event (orFail outcome) message := by
  cases outcome with
  | ok transition => exact h transition rfl
  | error error => exact ⟨none, .fail error⟩

theorem exists_begins_of_respond {greeting : Greeting} {capabilities : Capabilities}
    {secure : Bool} {transition : Transition}
    (h : respond login greeting capabilities secure = .ok transition) :
    ∃ exchange proof, Begins login greeting secure exchange proof ∧
      transition = (authenticating exchange (greeting.session capabilities),
        [Message.action (.response (answerWith login capabilities exchange proof)), .read]) := by
  obtain ⟨⟨exchange, proof⟩, hstart, h⟩ := Outcome.bind_eq_ok h
  cases h
  exact ⟨exchange, proof, hstart, rfl⟩

/-- **What a greeting does**, unless the session fails. -/
theorem exists_agrees_of_onGreeting {packet : Packet} {transition : Transition}
    (h : onGreeting login packet = .ok transition) :
    ∃ greeting capabilities, Agrees login packet greeting capabilities ∧
      (capabilities.contains .ssl = true ∧
          transition = (awaitingTls greeting capabilities,
            [Message.action (.tlsRequest (clientHeader login capabilities)), .startTls]) ∨
        capabilities.contains .ssl = false ∧
          respond login greeting capabilities login.secureTransport = .ok transition) := by
  unfold onGreeting at h
  dsimp only at h
  split at h
  · obtain ⟨report, -, h⟩ := Outcome.bind_eq_ok h
    cases h
  · next herr =>
    obtain ⟨greeting, hparse, h⟩ := Outcome.bind_eq_ok h
    split at h
    · cases h
    · next hoffer =>
      obtain ⟨capabilities, hnegotiate, h⟩ := Outcome.bind_eq_ok h
      have hagrees : Agrees login packet greeting capabilities :=
        ⟨eq_false_of_ne_true herr, hparse, by simpa using hoffer, hnegotiate⟩
      refine ⟨greeting, capabilities, hagrees, ?_⟩
      split at h
      · next hssl =>
        cases h
        exact Or.inl ⟨hssl, rfl⟩
      · next hssl => exact Or.inr ⟨eq_false_of_ne_true hssl, h⟩

/-- What further data for the newer plugin does. -/
theorem exists_authenticates_of_moreData {exchange next : AuthExchange} {session : Session}
    {packet : Packet} {data : Bytes} {reply : Option Bytes}
    (hpayload : packet.payload = Packet.authMoreDataHeader :: data)
    (h : exchange.moreData data = .ok (next, reply)) :
    ∃ message, Authenticates exchange session packet
      (authenticating next session,
        (reply.map fun octets => Action.send octets false).toList ++ [.read]) message := by
  unfold AuthExchange.moreData at h
  split at h
  · cases h
  · next hplugin hstage =>
    unfold AuthExchange.answerStatus at h
    cases data with
    | nil => cases h
    | cons status data =>
      rw [List.head?_cons] at h
      split at h
      · next hstatus =>
        cases h
        cases hstatus
        exact ⟨_, .wait hpayload hplugin hstage⟩
      · split at h
        · next hstatus =>
          cases hstatus
          split at h
          · next hsecure =>
            cases h
            exact ⟨_, .reveal hpayload hplugin hstage hsecure⟩
          · next hsecure =>
            cases h
            exact ⟨_, .askKey hpayload hplugin hstage (eq_false_of_ne_true hsecure)⟩
        · cases h
  · next hplugin hstage =>
    obtain ⟨cipher, hcipher, h⟩ := Outcome.bind_eq_ok h
    cases h
    exact ⟨_, .encrypt hpayload hplugin hstage hcipher⟩
  · cases h

/-- **What a packet of the authentication does**, unless the session fails. -/
theorem exists_authenticates_of_onAuthPacket {exchange : AuthExchange} {session : Session}
    {packet : Packet} {transition : Transition}
    (h : onAuthPacket exchange session packet = .ok transition) :
    ∃ message, Authenticates exchange session packet transition message := by
  unfold onAuthPacket at h
  split at h
  · cases h
  · next header data hpayload =>
    split at h
    · next hheader =>
      cases h
      subst hheader
      refine ⟨none, ?_⟩
      rw [capabilities_acceptedSession]
      exact .establish hpayload
    · split at h
      · obtain ⟨report, -, h⟩ := Outcome.bind_eq_ok h
        cases h
      · split at h
        · obtain ⟨request, hparse, h⟩ := Outcome.bind_eq_ok h
          obtain ⟨⟨next, proof⟩, hswitch, h⟩ := Outcome.bind_eq_ok h
          cases h
          exact ⟨_, .switch hparse hswitch⟩
        · split at h
          · next hheader =>
            subst hheader
            obtain ⟨⟨next, reply⟩, hdata, h⟩ := Outcome.bind_eq_ok h
            cases h
            exact exists_authenticates_of_moreData hpayload hdata
          · cases h

/-- **Every event does one of these things.** -/
theorem exists_does (login : Login) (state : Lifecycle) (event : Event) :
    ∃ message, Does login state event (onEvent login state event) message := by
  unfold onEvent
  split
  · exact ⟨none, .rest⟩
  · exact ⟨none, .fail _⟩
  · exact ⟨none, .fail _⟩
  · exact ⟨none, .begin⟩
  · refine exists_does_orFail fun transition h => ?_
    obtain ⟨greeting, capabilities, hagrees, ⟨hssl, rfl⟩ | ⟨hssl, hrespond⟩⟩ :=
      exists_agrees_of_onGreeting h
    · exact ⟨_, .askTls hagrees hssl⟩
    · obtain ⟨exchange, proof, hbegins, rfl⟩ := exists_begins_of_respond hrespond
      exact ⟨_, .answer hagrees hssl hbegins⟩
  · refine exists_does_orFail fun transition h => ?_
    obtain ⟨exchange, proof, hbegins, rfl⟩ := exists_begins_of_respond h
    exact ⟨_, .answerOverTls hbegins⟩
  · refine exists_does_orFail fun transition h => ?_
    obtain ⟨message, hauthenticates⟩ := exists_authenticates_of_onAuthPacket h
    exact ⟨message, .authenticate hauthenticates⟩
  · exact ⟨_, .quit⟩
  · exact ⟨none, .close⟩
  · exact ⟨none, .fail _⟩

/-- What is written is said. -/
theorem Does.eq_action_of_send {state : Lifecycle} {event : Event} {transition : Transition}
    {message : Option Message} (h : Does login state event transition message) {payload : Bytes}
    {resequence : Bool} (hmem : Action.send payload resequence ∈ transition.2) :
    ∃ said, message = some said ∧ Action.send payload resequence = said.action := by
  cases h with
  | authenticate h => cases h <;> simp [Message.action] at hmem ⊢ <;> exact hmem
  | _ => simp [failWith, Message.action] at hmem ⊢ <;> exact hmem

/-- What is said is written. -/
theorem Does.action_mem {state : Lifecycle} {event : Event} {transition : Transition}
    {said : Message} (h : Does login state event transition (some said)) :
    said.action ∈ transition.2 := by
  cases h with
  | authenticate h => cases h <;> exact List.mem_cons_self ..
  | _ => exact List.mem_cons_self ..

/-! ## Runs -/

/-- An event, and the state that it finds. -/
structure Step where
  state : Lifecycle
  event : Event
  deriving DecidableEq

namespace Step

/-- The state after a step. -/
def next (login : Login) (step : Step) : Lifecycle :=
  (onEvent login step.state step.event).1

/-- What a step asks for. -/
def actions (login : Login) (step : Step) : List Action :=
  (onEvent login step.state step.event).2

/-- TLS has come about in a state that waits for it. -/
def isUpgrade : Step → Bool
  | ⟨awaitingTls _ _, .tlsEstablished⟩ => true
  | _ => false

/-- A message is said in a step. -/
def Says (login : Login) (step : Step) (message : Message) : Prop :=
  Does login step.state step.event (step.next login, step.actions login) (some message)

theorem exists_does (login : Login) (step : Step) :
    ∃ message, Does login step.state step.event (step.next login, step.actions login) message :=
  Lifecycle.exists_does login step.state step.event

/-- **What is written is what is said.** -/
theorem send_mem_iff {step : Step} {payload : Bytes} {resequence : Bool} :
    Action.send payload resequence ∈ step.actions login ↔
      ∃ message, step.Says login message ∧ Action.send payload resequence = message.action := by
  constructor
  · intro hmem
    obtain ⟨_, hdoes⟩ := step.exists_does login
    obtain ⟨message, rfl, heq⟩ := hdoes.eq_action_of_send hmem
    exact ⟨message, hdoes, heq⟩
  · rintro ⟨message, hsaid, heq⟩
    rw [heq]
    exact hsaid.action_mem

end Step

/-- The steps of a run from a state. -/
def steps (login : Login) : Lifecycle → List Event → List Step
  | _, [] => []
  | state, event :: events => ⟨state, event⟩ :: steps login (Step.next login ⟨state, event⟩) events

/-- The state that a run comes to. -/
def reached (login : Login) (state : Lifecycle) (events : List Event) : Lifecycle :=
  events.foldl (fun state event => Step.next login ⟨state, event⟩) state

/-- One event more. -/
theorem steps_concat (state : Lifecycle) (events : List Event) (event : Event) :
    steps login state (events ++ [event]) =
      steps login state events ++ [⟨reached login state events, event⟩] := by
  induction events generalizing state with
  | nil => rfl
  | cons first events ih =>
    rw [List.cons_append, steps, ih]
    rfl

theorem reached_concat (state : Lifecycle) (events : List Event) (event : Event) :
    reached login state (events ++ [event]) =
      Step.next login ⟨reached login state events, event⟩ := by
  rw [reached, List.foldl_append]
  rfl

/-- What a run does behind one of its steps is a run from the state after that step. -/
theorem exists_steps_next {state : Lifecycle} {events : List Event} {front back : List Step}
    {step : Step} (h : steps login state events = front ++ step :: back) :
    ∃ later, back = steps login (step.next login) later := by
  -- event by event, up to the step
  induction events generalizing state front with
  | nil => simp [steps] at h
  | cons event events ih =>
    cases front with
    | nil =>
      obtain ⟨rfl, rfl⟩ := List.cons.inj h
      exact ⟨events, rfl⟩
    | cons first front => exact ih (List.cons.inj h).2

/-- **What the steps before a step preserve holds in its state.** -/
theorem steps_induction {motive : Lifecycle → Prop} {state : Lifecycle} {events : List Event}
    {front back : List Step} {step : Step} (h : steps login state events = front ++ step :: back)
    (hstate : motive state)
    (hnext : ∀ earlier ∈ front, motive earlier.state → motive (earlier.next login)) :
    motive step.state := by
  induction events generalizing state front with
  | nil => simp [steps] at h
  | cons event events ih =>
    cases front with
    | nil =>
      obtain ⟨rfl, -⟩ := List.cons.inj h
      exact hstate
    | cons first front =>
      obtain ⟨rfl, htail⟩ := List.cons.inj h
      refine ih htail (hnext _ (List.mem_cons_self ..) hstate) fun earlier hmem => ?_
      exact hnext earlier (List.mem_cons_of_mem _ hmem)

end Lifecycle

end MySqlClient
