import MySqlClient.Proofs.Lifecycle.Negotiation

/-!
# Credentials and TLS

What the server and the network can do is choose the events.  Whatever they choose, the password
does not leave the client before the transport is private, and TLS is neither skipped nor asked for
against the login.

* `AuthExchange.IsFor`: an exchange that carries the secrets of a login, and knows whether the
  transport is private.
* `Lifecycle.isAnswered`: the greeting has been answered; a login that insists on TLS does not come
  so far without (`Does.isAnswered_of_require`).
* `Lifecycle.IsWary`: the transport is not private, and every exchange knows it; this holds until
  TLS has come about or the session is established (`Does.isWary`).
* `Message.IsConcealed`: what may be said then; `Does.isConcealed`: nothing else is.
* `Lifecycle.isAnswered_of_plain`, `Lifecycle.isWary_of_plain`: the same for runs;
  `Lifecycle.credentials_guarded`: **the three promises about a run.**
-/

namespace MySqlClient

/-! ## Exchanges -/

/-- An exchange carries what a login brings, and knows whether the transport is private. -/
structure AuthExchange.IsFor (login : Login) (secure : Bool) (exchange : AuthExchange) : Prop where
  password : exchange.password = login.password
  entropy : exchange.entropy = login.entropy
  secure : exchange.secure = secure

/-- Starting over keeps what the exchange carries, and proves the password for the new seed. -/
theorem AuthExchange.exists_scramble_of_switch {exchange next : AuthExchange} {plugin : String}
    {seed proof : Bytes} (h : exchange.switch plugin seed = .ok (next, proof)) :
    ∃ chosen, next = { exchange with plugin := chosen, seed, stage := .sentProof } ∧
      chosen.scramble exchange.password seed = .ok proof := by
  obtain ⟨chosen, -, h⟩ := Outcome.bind_eq_ok h
  obtain ⟨proof, hproof, h⟩ := Outcome.bind_eq_ok h
  cases h
  exact ⟨chosen, rfl, hproof⟩

namespace Lifecycle

variable {login : Login}

/-- A new exchange carries what the login brings, and proves its password for the seed of the
greeting. -/
theorem Begins.isFor {greeting : Greeting} {secure : Bool} {exchange : AuthExchange}
    {proof : Bytes} (h : Begins login greeting secure exchange proof) :
    exchange.IsFor login secure ∧
      exchange.plugin.scramble login.password exchange.seed = .ok proof := by
  obtain ⟨chosen, -, h⟩ := Outcome.bind_eq_ok h
  obtain ⟨proof, hproof, h⟩ := Outcome.bind_eq_ok h
  cases h
  exact ⟨⟨rfl, rfl, rfl⟩, hproof⟩

/-! ## Insisting on TLS -/

/-- The greeting has been answered. -/
def isAnswered : Lifecycle → Bool
  | authenticating _ _ => true
  | ready _ => true
  | _ => false

section

variable {state : Lifecycle} {event : Event} {transition : Transition}

/-- Who insists on TLS does not answer the greeting before TLS has come about, and asks for TLS at
most. -/
theorem Does.isAnswered_of_require {message : Option Message}
    (h : Does login state event transition message) (hmode : login.tlsMode = .require)
    (hplain : Step.isUpgrade ⟨state, event⟩ = false) (hstate : state.isAnswered = false) :
    transition.1.isAnswered = false ∧
      ∀ said, message = some said →
        ∃ capabilities, said = .tlsRequest (clientHeader login capabilities) := by
  cases h with
  | askTls =>
    refine ⟨rfl, ?_⟩
    rintro said ⟨⟩
    exact ⟨_, rfl⟩
  | answer hagrees hssl _ =>
    rw [contains_ssl_of_negotiate hmode hagrees.negotiated] at hssl
    cases hssl
  | answerOverTls => cases hplain
  | begin => exact ⟨rfl, nofun⟩
  | close => exact ⟨rfl, nofun⟩
  | fail => exact ⟨rfl, nofun⟩
  | rest => exact ⟨rfl, nofun⟩
  | _ => cases hstate

/-! ## Concealing the password -/

/-- The session is not established, and an exchange knows that the transport is not private. -/
def IsWary (login : Login) : Lifecycle → Prop
  | authenticating exchange _ => exchange.IsFor login false
  | ready _ => False
  | _ => True

/-- What may be said over a transport that is not private, on the way to a state: the password is
in it only as a scramble with the seed of that state, or encrypted. -/
inductive Message.IsConcealed (login : Login) : Lifecycle → Message → Prop
  | tlsRequest {greeting : Greeting} {capabilities : Capabilities} :
      IsConcealed login (awaitingTls greeting capabilities)
        (.tlsRequest (clientHeader login capabilities))
  | response {exchange : AuthExchange} {session : Session} {proof : Bytes}
      (hproof : exchange.plugin.scramble login.password exchange.seed = .ok proof) :
      IsConcealed login (authenticating exchange session)
        (.response (answerWith login session.capabilities exchange proof))
  | proof {exchange : AuthExchange} {session : Session} {proof : Bytes}
      (hproof : exchange.plugin.scramble login.password exchange.seed = .ok proof) :
      IsConcealed login (authenticating exchange session) (.proof proof)
  | keyRequest {exchange : AuthExchange} {session : Session} :
      IsConcealed login (authenticating exchange session) .keyRequest
  | cipher {exchange : AuthExchange} {session : Session} {key cipher : Bytes}
      (hcipher : encryptedPassword login.entropy login.password exchange.seed key = .ok cipher) :
      IsConcealed login (authenticating exchange session) (.cipher cipher)

theorem Message.IsConcealed.ne_cleartext {message : Message} (h : message.IsConcealed login state)
    (password : Bytes) : message ≠ .cleartext password := by
  rintro rfl
  cases h

/-- The authentication keeps what the exchange carries, as long as it goes on. -/
theorem Authenticates.isWary {exchange : AuthExchange} {session : Session} {packet : Packet}
    {message : Option Message} (h : Authenticates exchange session packet transition message)
    (hopen : ∀ session, Action.established session ∉ transition.2)
    (hfor : exchange.IsFor login false) : transition.1.IsWary login := by
  cases h with
  | switch _ hswitch =>
    obtain ⟨chosen, rfl, -⟩ := AuthExchange.exists_scramble_of_switch hswitch
    exact ⟨hfor.password, hfor.entropy, hfor.secure⟩
  | establish => exact absurd (List.mem_singleton_self _) (hopen _)
  | _ => exact ⟨hfor.password, hfor.entropy, hfor.secure⟩

/-- **Wariness stays** until TLS has come about or the session is established. -/
theorem Does.isWary {message : Option Message} (h : Does login state event transition message)
    (hsecure : login.secureTransport = false) (hplain : Step.isUpgrade ⟨state, event⟩ = false)
    (hopen : ∀ session, Action.established session ∉ transition.2) (hstate : state.IsWary login) :
    transition.1.IsWary login := by
  cases h with
  | answer _ _ hbegins =>
    rw [hsecure] at hbegins
    exact hbegins.isFor.1
  | answerOverTls => cases hplain
  | authenticate h => exact h.isWary hopen hstate
  | _ => trivial

/-- An exchange that knows that the transport is not private does not reveal the password. -/
theorem Authenticates.isConcealed {exchange : AuthExchange} {session : Session} {packet : Packet}
    {message : Message} (h : Authenticates exchange session packet transition (some message))
    (hfor : exchange.IsFor login false) : message.IsConcealed login transition.1 := by
  cases h with
  | switch _ hswitch =>
    obtain ⟨chosen, rfl, hproof⟩ := AuthExchange.exists_scramble_of_switch hswitch
    rw [hfor.password] at hproof
    exact .proof hproof
  | askKey => exact .keyRequest
  | reveal _ _ _ hprivate =>
    rw [hfor.secure] at hprivate
    cases hprivate
  | encrypt _ _ _ hcipher =>
    rw [hfor.password, hfor.entropy] at hcipher
    exact .cipher hcipher

/-- **Who is wary says nothing that reveals the password.** -/
theorem Does.isConcealed {message : Message}
    (h : Does login state event transition (some message))
    (hplain : Step.isUpgrade ⟨state, event⟩ = false) (hstate : state.IsWary login) :
    message.IsConcealed login transition.1 := by
  cases h with
  | askTls => exact .tlsRequest
  | @answer _ greeting capabilities exchange proof _ _ hbegins =>
    exact @Message.IsConcealed.response login exchange (greeting.session capabilities) proof
      hbegins.isFor.2
  | answerOverTls => cases hplain
  | authenticate h => exact h.isConcealed hstate
  | quit => exact hstate.elim

end

/-! ## Doing without TLS -/

/-- A message under capabilities without TLS begins with a word in which the flag for TLS is not
set. -/
theorem Message.exists_word_of_not_contains_ssl {message : Message} {header : ClientHeader}
    (hheader : message.header? = some header) (hssl : header.capabilities.contains .ssl = false) :
    ∃ (word : UInt32) (rest : Bytes), message.encode = Bytes.ofNat 4 word.toNat ++ rest ∧
      word &&& Capabilities.ssl.standardWord = 0 := by
  obtain ⟨rest, heq⟩ := Message.exists_encode_eq hheader
  have hnot : ¬ header.capabilities.Has 11 := by
    rw [← Capabilities.contains_flag_iff (by decide)]
    exact ne_true_of_eq_false hssl
  have hencode : ∃ rest,
      message.encode = Bytes.ofNat 4 header.capabilities.standardWord.toNat ++ rest := by
    rw [heq, ClientHeader.encode, List.append_assoc, List.append_assoc]
    exact ⟨_, rfl⟩
  obtain ⟨rest, hencode⟩ := hencode
  refine ⟨header.capabilities.standardWord, rest, hencode, ?_⟩
  rw [← Capabilities.standardWord_intersection, Capabilities.ssl,
    Capabilities.intersection_flag (by decide) hnot]
  rfl

/-- Without TLS every header is one without the flag for it. -/
theorem Does.not_contains_ssl {state : Lifecycle} {event : Event} {transition : Transition}
    {message : Message} {header : ClientHeader}
    (h : Does login state event transition (some message)) (hmode : login.tlsMode = .disable)
    (hstate : ∀ greeting capabilities, state ≠ awaitingTls greeting capabilities)
    (hheader : message.header? = some header) : header.capabilities.contains .ssl = false := by
  cases h with
  | askTls hagrees _ =>
    cases hheader
    exact not_contains_ssl_of_negotiate hmode hagrees.negotiated
  | answer hagrees _ _ =>
    cases hheader
    exact not_contains_ssl_of_negotiate hmode hagrees.negotiated
  | answerOverTls => exact absurd rfl (hstate _ _)
  | authenticate h => cases h <;> cases hheader
  | quit => cases hheader

/-! ## Runs -/

section

variable {events : List Event} {front back : List Step} {step : Step}

/-- Who insists on TLS has not answered the greeting before TLS has come about. -/
theorem isAnswered_of_plain (hrun : steps login .start events = front ++ step :: back)
    (hmode : login.tlsMode = .require) (hplain : ∀ earlier ∈ front, earlier.isUpgrade = false) :
    step.state.isAnswered = false := by
  refine steps_induction (motive := fun state => state.isAnswered = false) hrun rfl
    fun earlier hmem hearlier => ?_
  obtain ⟨_, hdoes⟩ := earlier.exists_does login
  exact (hdoes.isAnswered_of_require hmode (hplain earlier hmem) hearlier).1

/-- Over a transport that is not private everyone is wary until the session is established. -/
theorem isWary_of_plain (hrun : steps login .start events = front ++ step :: back)
    (hsecure : login.secureTransport = false)
    (hplain : ∀ earlier ∈ front, earlier.isUpgrade = false)
    (hopen : ∀ earlier ∈ front, ∀ session,
      Action.established session ∉ earlier.actions login) :
    step.state.IsWary login := by
  refine steps_induction (motive := IsWary login) hrun trivial fun earlier hmem hearlier => ?_
  obtain ⟨_, hdoes⟩ := earlier.exists_does login
  exact hdoes.isWary hsecure (hplain earlier hmem) (hopen earlier hmem) hearlier

/-- Without TLS nobody waits for it. -/
theorem state_ne_awaitingTls (hrun : steps login .start events = front ++ step :: back)
    (hmode : login.tlsMode = .disable) (greeting : Greeting) (capabilities : Capabilities) :
    step.state ≠ awaitingTls greeting capabilities :=
  steps_induction (motive := fun state => state ≠ awaitingTls greeting capabilities) hrun nofun
    fun earlier _ _ => onEvent_fst_ne_awaitingTls hmode earlier.state earlier.event _ _

/-- **What a run promises about credentials and TLS.**  What is written is what is said.  Who
insists on TLS says nothing but the request for it before TLS has come about, and establishes
nothing.  Over a transport that is not private, nothing is said before the session is established
that reveals the password.  Who does without TLS never asks for it. -/
theorem credentials_guarded (login : Login)
    (hrun : steps login .start events = front ++ step :: back) :
    (∀ payload resequence, Action.send payload resequence ∈ step.actions login ↔
      ∃ message, step.Says login message ∧ Action.send payload resequence = message.action) ∧
    (login.tlsMode = .require → (∀ earlier ∈ front ++ [step], earlier.isUpgrade = false) →
      (∀ session, Action.established session ∉ step.actions login) ∧
      ∀ message, step.Says login message →
        ∃ capabilities, message = .tlsRequest (clientHeader login capabilities) ∧
          message.encode.length = 32) ∧
    (login.secureTransport = false → (∀ earlier ∈ front ++ [step], earlier.isUpgrade = false) →
      (∀ earlier ∈ front, ∀ session, Action.established session ∉ earlier.actions login) →
      (∀ message, step.Says login message → message.IsConcealed login (step.next login)) ∧
      ∀ password, ¬ step.Says login (.cleartext password)) ∧
    (login.tlsMode = .disable →
      Action.startTls ∉ step.actions login ∧
      ∀ message header, step.Says login message → message.header? = some header →
        ∃ (word : UInt32) (rest : Bytes), message.encode = Bytes.ofNat 4 word.toNat ++ rest ∧
          word &&& Capabilities.ssl.standardWord = 0) := by
  refine ⟨fun payload resequence => Step.send_mem_iff, fun hmode hplain => ?_,
    fun hsecure hplain hopen => ?_, fun hmode => ⟨fun hmem => ?_, fun message header hsaid h => ?_⟩⟩
  · obtain ⟨hfront, hstep⟩ := List.forall_mem_append.mp hplain
    have hstate := isAnswered_of_plain hrun hmode hfront
    refine ⟨fun session hmem => ?_, fun message hsaid => ?_⟩
    · obtain ⟨_, hdoes⟩ := step.exists_does login
      have hnext : (step.next login).isAnswered = false :=
        (hdoes.isAnswered_of_require hmode (hstep step (by simp)) hstate).1
      rw [Step.next_of_established hmem] at hnext
      cases hnext
    · obtain ⟨capabilities, rfl⟩ :=
        (Does.isAnswered_of_require hsaid hmode (hstep step (by simp)) hstate).2 message rfl
      exact ⟨capabilities, rfl, ClientHeader.length_encode _⟩
  · obtain ⟨hfront, hstep⟩ := List.forall_mem_append.mp hplain
    have hconcealed (message : Message) (hsaid : step.Says login message) :
        message.IsConcealed login (step.next login) :=
      hsaid.isConcealed (hstep step (by simp)) (isWary_of_plain hrun hsecure hfront hopen)
    exact ⟨hconcealed, fun password hsaid => (hconcealed _ hsaid).ne_cleartext password rfl⟩
  · obtain ⟨greeting, capabilities, request, hnext, -⟩ :=
      (isTransition_onEvent login step.state step.event).eq_of_startTls hmem
    exact onEvent_fst_ne_awaitingTls hmode step.state step.event greeting capabilities hnext
  · exact Message.exists_word_of_not_contains_ssl h
      (hsaid.not_contains_ssl hmode (state_ne_awaitingTls hrun hmode) h)

end

/-- What a client brings along that has a password. -/
def secretLogin (mode : TlsMode) : Login :=
  Client.login { password := some "secret", tlsMode := mode } []

/-- The same greeting is answered with the request for TLS by a client that insists on TLS, and with
a message that conceals the password by one that does without. -/
theorem credentials_guarded_greeting :
    (∃ message capabilities, greetingStep.Says (secretLogin .require) message ∧
      message = .tlsRequest (clientHeader (secretLogin .require) capabilities)) ∧
    (∃ message, greetingStep.Says (secretLogin .disable) message ∧
      message.IsConcealed (secretLogin .disable) (greetingStep.next (secretLogin .disable))) ∧
    Action.startTls ∉ greetingStep.actions (secretLogin .disable) := by
  have hrun (mode : TlsMode) :
      steps (secretLogin mode) .start [.transportActive, .packet greetingWithTls] =
        [⟨start, .transportActive⟩] ++ greetingStep :: [] := rfl
  have hplain : ∀ earlier ∈ [⟨start, .transportActive⟩] ++ [greetingStep],
      earlier.isUpgrade = false := by
    decide
  have hopen : ∀ earlier ∈ [(⟨start, .transportActive⟩ : Step)], ∀ session,
      Action.established session ∉ earlier.actions (secretLogin .disable) := by
    simp [Step.actions, onEvent]
  have hsends (mode : TlsMode) (h : mode ≠ .prefer) :
      ((greetingStep.actions (secretLogin mode)).any fun
        | .send _ _ => true
        | _ => false) = true := by
    cases mode with
    | disable => decide +kernel
    | prefer => exact absurd rfl h
    | require => decide +kernel
  have hsaid (mode : TlsMode) (h : mode ≠ .prefer) :
      ∃ message, greetingStep.Says (secretLogin mode) message := by
    obtain ⟨action, hmem, hsend⟩ := List.any_eq_true.mp (hsends mode h)
    cases action with
    | send payload resequence =>
      obtain ⟨message, hsaid, -⟩ :=
        ((credentials_guarded _ (hrun mode)).1 payload resequence).mp hmem
      exact ⟨message, hsaid⟩
    | _ => cases hsend
  obtain ⟨-, hrequire, -⟩ := credentials_guarded _ (hrun .require)
  obtain ⟨-, -, hconcealed, hdisable⟩ := credentials_guarded _ (hrun .disable)
  refine ⟨?_, ?_, (hdisable rfl).1⟩
  · obtain ⟨message, hmessage⟩ := hsaid .require (by decide)
    obtain ⟨capabilities, heq, -⟩ := (hrequire rfl hplain).2 message hmessage
    exact ⟨message, capabilities, hmessage, heq⟩
  · obtain ⟨message, hmessage⟩ := hsaid .disable (by decide)
    exact ⟨message, hmessage, (hconcealed rfl hplain hopen).1 message hmessage⟩

end Lifecycle

end MySqlClient
