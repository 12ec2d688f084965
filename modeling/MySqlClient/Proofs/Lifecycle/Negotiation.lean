import MySqlClient.Client
import MySqlClient.Proofs.Capabilities.Flags
import MySqlClient.Proofs.Lifecycle.Transitions

/-!
# What client and server agree on

* `Config.contains_required_desiredCapabilities` and its neighbours: what a configuration asks for.
* `Lifecycle.eq_intersection_of_negotiate`: what is agreed on is what is asked for and offered.
* `Lifecycle.agreed?`: what is agreed on in a state; `Lifecycle.exists_offer_of_agreed`: it comes
  from a greeting that offers what is required, whatever has happened since.
* `Lifecycle.contains_required_of_agreed`: **what is required is agreed on exactly if the
  configuration asks for it.**  A greeting has to offer it, but a configuration that replaces the
  usual capabilities may leave it out (`Lifecycle.required_left_out`).
* `Lifecycle.onEvent_fst_ne_awaitingTls`: a login without TLS does not lead to an upgrade.
-/

namespace MySqlClient

/-! ## What is asked for -/

namespace Config

variable (config : Config)

/-- What is asked for apart from TLS and a database. -/
theorem has_desiredCapabilities {number : Nat} (hdatabase : number ≠ 3) (hssl : number ≠ 11) :
    config.desiredCapabilities.Has number ↔
      (config.capabilities.getD .clientDefault).Has number ∧
        ¬ Capabilities.unsupported.Has number := by
  have hnot (wanted : Nat) (hwanted : wanted < 64) (hne : number ≠ wanted) :
      ¬ (Capabilities.flag wanted).Has number := by
    rwa [Capabilities.has_flag hwanted]
  simp [desiredCapabilities, Capabilities.ssl, Capabilities.connectWithDb,
    hnot 3 (by decide) hdatabase, hnot 11 (by decide) hssl]

/-- TLS is asked for exactly if it is not disabled. -/
theorem contains_ssl_desiredCapabilities :
    config.desiredCapabilities.contains .ssl = decide (config.tlsMode ≠ .disable) := by
  rw [Bool.eq_iff_iff, Capabilities.ssl, Capabilities.contains_flag_iff (by decide)]
  simp [desiredCapabilities, Capabilities.ssl, Capabilities.has_flag]

/-- A database is asked for exactly if one is configured. -/
theorem contains_connectWithDb_desiredCapabilities :
    config.desiredCapabilities.contains .connectWithDb = config.database.isSome := by
  rw [Bool.eq_iff_iff, Capabilities.connectWithDb, Capabilities.contains_flag_iff (by decide)]
  simp [desiredCapabilities, Capabilities.ssl, Capabilities.connectWithDb, Capabilities.has_flag]

/-- What is required is asked for unless the usual capabilities are replaced without it. -/
theorem contains_required_desiredCapabilities :
    config.desiredCapabilities.contains .required =
      (config.capabilities.getD .clientDefault).contains .required := by
  have hrequired (number : Nat) (h : Capabilities.required.Has number) :
      config.desiredCapabilities.Has number ↔
        (config.capabilities.getD .clientDefault).Has number := by
    have hnumber : number = 9 ∨ number = 15 := by
      simpa [Capabilities.required, Capabilities.has_unionAll, Capabilities.protocol41,
        Capabilities.secureConnection, Capabilities.has_flag] using h
    rcases hnumber with rfl | rfl
    · rw [config.has_desiredCapabilities (by decide) (by decide), and_iff_left (by decide)]
    · rw [config.has_desiredCapabilities (by decide) (by decide), and_iff_left (by decide)]
  rw [Bool.eq_iff_iff, Capabilities.contains_iff, Capabilities.contains_iff]
  exact forall₂_congr hrequired

/-- Nothing is asked for that the client could not keep. -/
theorem intersection_desiredCapabilities_unsupported :
    config.desiredCapabilities.intersection .unsupported = .none := by
  refine Capabilities.ext_has fun number => ?_
  rw [Capabilities.has_intersection, iff_false_intro Capabilities.not_has_none, iff_false]
  rintro ⟨hdesired, hunsupported⟩
  have hdatabase : number ≠ 3 := by
    rintro rfl
    exact absurd hunsupported (by decide)
  have hssl : number ≠ 11 := by
    rintro rfl
    exact absurd hunsupported (by decide)
  exact ((config.has_desiredCapabilities hdatabase hssl).mp hdesired).2 hunsupported

end Config

/-- A login asks for what a configuration wants. -/
structure Login.Follows (login : Login) (config : Config) : Prop where
  tlsMode : login.tlsMode = config.tlsMode
  database : login.database = config.database
  capabilities : login.capabilities = config.desiredCapabilities

theorem Client.login_follows (config : Config) (entropy : Bytes) :
    (Client.login config entropy).Follows config :=
  ⟨rfl, rfl, rfl⟩

namespace Lifecycle

variable {login : Login}

/-! ## What is agreed on at a greeting -/

/-- Without TLS the agreement is to do without. -/
theorem not_contains_ssl_of_negotiate {offered agreed : Capabilities}
    (hmode : login.tlsMode = .disable) (h : negotiate login offered = .ok agreed) :
    agreed.contains .ssl = false := by
  rw [negotiate, hmode] at h
  cases h
  rw [Bool.eq_false_iff, Ne, Capabilities.ssl, Capabilities.contains_flag_iff (by decide)]
  simp [Capabilities.has_flag]

/-- Who insists on TLS agrees on it. -/
theorem contains_ssl_of_negotiate {offered agreed : Capabilities}
    (hmode : login.tlsMode = .require) (h : negotiate login offered = .ok agreed) :
    agreed.contains .ssl = true := by
  rw [negotiate, hmode] at h
  dsimp only at h
  split at h
  · next hssl =>
    cases h
    exact hssl
  · cases h

/-- **What is agreed on is what is asked for and offered.** -/
theorem eq_intersection_of_negotiate {offered agreed : Capabilities}
    (h : negotiate login offered = .ok agreed)
    (hssl : login.tlsMode = .disable → login.capabilities.contains .ssl = false) :
    agreed = login.capabilities.intersection offered := by
  unfold negotiate at h
  dsimp only at h
  split at h
  · next hmode =>
    cases h
    have hnot : ¬ login.capabilities.Has 11 := by
      rw [← Capabilities.contains_flag_iff (by decide)]
      exact ne_true_of_eq_false (hssl hmode)
    refine Capabilities.ext_has fun number => ?_
    rw [Capabilities.has_difference, Capabilities.ssl, Capabilities.has_flag (by decide)]
    refine and_iff_left_of_imp fun hboth => ?_
    rintro rfl
    exact hnot (Capabilities.has_intersection.mp hboth).1
  · cases h
    rfl
  · split at h
    · cases h
      rfl
    · cases h

theorem eq_intersection_of_follows {config : Config} {offered agreed : Capabilities}
    (hfollows : login.Follows config) (h : negotiate login offered = .ok agreed) :
    agreed = config.desiredCapabilities.intersection offered := by
  rw [← hfollows.capabilities]
  refine eq_intersection_of_negotiate h fun hmode => ?_
  rw [hfollows.capabilities, config.contains_ssl_desiredCapabilities, ← hfollows.tlsMode, hmode]
  rfl

/-- **A login without TLS does not lead to an upgrade.** -/
theorem onEvent_fst_ne_awaitingTls (hmode : login.tlsMode = .disable) (state : Lifecycle)
    (event : Event) (greeting : Greeting) (capabilities : Capabilities) :
    (onEvent login state event).1 ≠ awaitingTls greeting capabilities := by
  obtain ⟨message, hdoes⟩ := exists_does login state event
  generalize onEvent login state event = transition at hdoes ⊢
  rintro heq
  cases hdoes with
  | askTls hagrees hssl =>
    rw [not_contains_ssl_of_negotiate hmode hagrees.negotiated] at hssl
    cases hssl
  | authenticate h => cases h <;> cases heq
  | _ => cases heq

/-! ## What is agreed on in a state -/

/-- What client and server have agreed on. -/
def agreed? : Lifecycle → Option Capabilities
  | awaitingTls _ capabilities => some capabilities
  | authenticating _ session => some session.capabilities
  | ready capabilities => some capabilities
  | _ => none

/-- The authentication keeps what is agreed on. -/
theorem Authenticates.agreed?_eq {exchange : AuthExchange} {session : Session} {packet : Packet}
    {transition : Transition} {message : Option Message}
    (h : Authenticates exchange session packet transition message) :
    transition.1.agreed? = some session.capabilities := by
  cases h <;> rfl

/-- What is agreed on has been so before, or a greeting has just been taken. -/
theorem Does.agreed?_cases {state : Lifecycle} {event : Event} {transition : Transition}
    {message : Option Message} {agreed : Capabilities}
    (h : Does login state event transition message) (hagreed : transition.1.agreed? = some agreed) :
    state.agreed? = some agreed ∨ state = awaitingGreeting ∧
      ∃ packet greeting, event = .packet packet ∧ Agrees login packet greeting agreed := by
  cases h with
  | askTls hagrees _ =>
    cases hagreed
    exact Or.inr ⟨rfl, _, _, rfl, hagrees⟩
  | answer hagrees _ _ =>
    cases hagreed
    exact Or.inr ⟨rfl, _, _, rfl, hagrees⟩
  | answerOverTls => exact Or.inl hagreed
  | authenticate h => exact Or.inl (h.agreed?_eq.symm.trans hagreed)
  | begin => cases hagreed
  | quit => cases hagreed
  | close => cases hagreed
  | fail => cases hagreed
  | rest => cases hagreed

/-- **What is agreed on comes from a greeting that offers what is required.** -/
theorem exists_offer_of_agreed {events : List Event} {front back : List Step} {step : Step}
    {agreed : Capabilities} (hrun : steps login .start events = front ++ step :: back)
    (hagreed : (step.next login).agreed? = some agreed) :
    ∃ offered, offered.contains .required = true ∧ negotiate login offered = .ok agreed := by
  let motive (state : Lifecycle) : Prop := ∀ agreed, state.agreed? = some agreed →
    ∃ offered, offered.contains .required = true ∧ negotiate login offered = .ok agreed
  have hnext (other : Step) (hstate : motive other.state) : motive (other.next login) := by
    intro agreed hagreed
    obtain ⟨message, hdoes⟩ := other.exists_does login
    rcases hdoes.agreed?_cases hagreed with hbefore | ⟨-, packet, greeting, -, hagrees⟩
    · exact hstate agreed hbefore
    · exact ⟨greeting.capabilities, hagrees.offered, hagrees.negotiated⟩
  have hstart : motive .start := fun agreed h => nomatch h
  exact hnext step (steps_induction hrun hstart fun other _ => hnext other) agreed hagreed

/-- **What is required is agreed on exactly if the configuration asks for it**; without an agreement
the session fails with the greeting. -/
theorem contains_required_of_agreed {config : Config} (hfollows : login.Follows config)
    {events : List Event} {front back : List Step} {step : Step}
    (hrun : steps login .start events = front ++ step :: back) :
    (∀ agreed, (step.next login).agreed? = some agreed →
      (∃ offered, offered.contains .required = true ∧
        agreed = config.desiredCapabilities.intersection offered) ∧
      agreed.contains .required =
        (config.capabilities.getD .clientDefault).contains .required) ∧
    ∀ packet, step.state = .awaitingGreeting → step.event = .packet packet →
      (step.next login).agreed? = none →
        ∃ error, step.next login = .closed ∧ step.actions login = [.fail error] := by
  constructor
  · intro agreed hagreed
    obtain ⟨offered, hoffered, hnegotiate⟩ := exists_offer_of_agreed hrun hagreed
    have heq := eq_intersection_of_follows hfollows hnegotiate
    refine ⟨⟨offered, hoffered, heq⟩, ?_⟩
    rw [heq, Capabilities.contains_intersection, hoffered, Bool.and_true,
      config.contains_required_desiredCapabilities]
  · intro packet hstate hevent hnone
    obtain ⟨message, hdoes⟩ := step.exists_does login
    rw [hstate, hevent] at hdoes
    generalize step.next login = next at hdoes hnone ⊢
    generalize step.actions login = actions at hdoes ⊢
    cases hdoes with
    | askTls => cases hnone
    | answer => cases hnone
    | fail error => exact ⟨error, rfl, rfl⟩

/-- The greeting of a server that can do TLS. -/
def greetingWithTls : Packet where
  sequence := 0
  payload :=
    [0x0A, 0x38, 0x2E, 0x30, 0x2E, 0x33, 0x36, 0x00, 0x2A, 0x00, 0x00, 0x00, 0x01, 0x02, 0x03, 0x04,
      0x05, 0x06, 0x07, 0x08, 0x00, 0x09, 0xAA, 0x2D, 0x02, 0x00, 0xBF, 0x01, 0x15, 0x00, 0x00,
      0x00, 0x00, 0x00, 0x00, 0x00, 0x00, 0x00, 0x00, 0x09, 0x0A, 0x0B, 0x0C, 0x0D, 0x0E, 0x0F,
      0x10, 0x11, 0x12, 0x13, 0x14, 0x00, 0x6D, 0x79, 0x73, 0x71, 0x6C, 0x5F, 0x6E, 0x61, 0x74,
      0x69, 0x76, 0x65, 0x5F, 0x70, 0x61, 0x73, 0x73, 0x77, 0x6F, 0x72, 0x64, 0x00]

/-- The greeting is taken. -/
def greetingStep : Step :=
  ⟨awaitingGreeting, .packet greetingWithTls⟩

/-- A configuration that asks for the usual capabilities without the newer protocol. -/
def configWithoutProtocol41 : Config where
  tlsMode := .disable
  capabilities := some (Capabilities.clientDefault.difference .protocol41)

/-- The authentication goes on although what is required has not been agreed on. -/
theorem required_left_out :
    let login := Client.login configWithoutProtocol41 []
    steps login .start [.transportActive, .packet greetingWithTls] =
      [⟨start, .transportActive⟩, greetingStep] ∧
    ∃ agreed, (greetingStep.next login).agreed? = some agreed ∧
      agreed.contains .required = false := by
  intro login
  have hrun : steps login .start [.transportActive, .packet greetingWithTls] =
      [⟨start, .transportActive⟩] ++ greetingStep :: [] := rfl
  obtain ⟨hagreed, -⟩ :=
    contains_required_of_agreed (Client.login_follows configWithoutProtocol41 []) hrun
  have hsome : ((greetingStep.next login).agreed?).isSome = true := by
    decide +kernel
  obtain ⟨agreed, heq⟩ := Option.isSome_iff_exists.mp hsome
  refine ⟨hrun, agreed, heq, ?_⟩
  rw [(hagreed agreed heq).2]
  decide

end Lifecycle

end MySqlClient
