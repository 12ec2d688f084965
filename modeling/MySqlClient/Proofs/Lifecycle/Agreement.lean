import MySqlClient.Proofs.Lifecycle.Negotiation
import MySqlClient.Proofs.Wire.Ensures

/-!
# One agreement for the whole session

Client and server agree on a set of capabilities when the greeting is taken, and nothing changes it
afterwards.

* `Greeting.extendedWord_of_parse`: the reserved octets of a greeting are an extension word only
  without `longPassword`.
* `Lifecycle.isPastGreeting`: nothing goes back to before the greeting.
* `Step.IsUnder`: whatever a step has to do with capabilities, it is the given set;
  `Lifecycle.isUnder_of_agreed`: **so it is in a whole run.**
* `Lifecycle.agreement_consistent`: **what is agreed on**, bit by bit, and what the server is told
  of it.
-/

namespace MySqlClient

/-! ## The words of a greeting -/

/-- Octets are an extension word only without the flag that reserves them. -/
theorem Greeting.ensures_readExtension (standard : UInt32) :
    Reader.Ensures (readExtension standard)
      (fun extended => standard &&& Capabilities.longPassword.standardWord ≠ 0 → extended = 0)
      fun _ => True := by
  unfold readExtension
  split
  · next hnone =>
    intro octets
    cases Reader.u32 octets with
    | ok extended rest => exact fun hsome => absurd (eq_of_beq hnone) hsome
    | error error rest => trivial
  · exact (Reader.ensures_take trivial).bind fun _ _ => .pure fun _ => rfl

theorem Greeting.ensures_readExtended (greeting : Greeting) (low : UInt16) :
    Reader.Ensures (readExtended greeting low)
      (fun greeting => greeting.capabilities.contains .longPassword = true →
        greeting.capabilities.extendedWord = 0)
      fun _ => True := by
  unfold readExtended
  refine (Reader.ensures_true _).bind fun charset _ => ?_
  refine (Reader.ensures_true _).bind fun status _ => ?_
  refine (Reader.ensures_true _).bind fun high _ => ?_
  refine (Reader.ensures_true _).bind fun announced _ => ?_
  refine (Reader.ensures_true _).bind fun _ _ => ?_
  refine (ensures_readExtension _).bind fun extended hextended => ?_
  refine (Reader.ensures_true _).bind fun piece _ => ?_
  refine (Reader.ensures_true _).bind fun plugin _ => ?_
  refine .pure fun hlong => ?_
  rw [Capabilities.extendedWord_ofWords]
  refine hextended fun hnone => ?_
  have hword := congrArg Capabilities.standardWord (Capabilities.contains_iff_intersection.mp hlong)
  rw [Capabilities.standardWord_intersection, Capabilities.standardWord_ofWords, hnone] at hword
  exact absurd hword (by decide)

/-- **A greeting with `longPassword` has no extension word.** -/
theorem Greeting.extendedWord_of_parse {payload : Bytes} {greeting : Greeting}
    (h : parse payload = .ok greeting)
    (hlong : greeting.capabilities.contains .longPassword = true) :
    greeting.capabilities.extendedWord = 0 := by
  have hreader : Reader.Ensures reader
      (fun greeting => greeting.capabilities.contains .longPassword = true →
        greeting.capabilities.extendedWord = 0) fun _ => True := by
    unfold reader
    refine (Reader.ensures_true _).bind fun version _ => ?_
    split
    · exact fun _ => trivial
    · refine (Reader.ensures_true _).bind fun version _ => ?_
      refine (Reader.ensures_true _).bind fun connectionId _ => ?_
      refine (Reader.ensures_true _).bind fun seed _ => ?_
      refine (Reader.ensures_true _).bind fun _ _ => ?_
      refine (Reader.ensures_true _).bind fun low _ => ?_
      refine (Reader.ensures_true _).bind fun octets _ => ?_
      split
      · exact .pure fun _ => Capabilities.extendedWord_ofWords _ _
      · exact ensures_readExtended _ low
  exact hreader.of_parse_ok h hlong

namespace Lifecycle

variable {login : Login}

/-! ## The header -/

/-- Without an extension word there are 23 zeros behind the first nine octets of a message. -/
theorem Message.reserved_of_extendedWord {message : Message} {header : ClientHeader}
    (hheader : message.header? = some header) (hword : header.capabilities.extendedWord = 0) :
    (message.encode.drop 9).take 23 = List.replicate 23 0 := by
  obtain ⟨rest, hencode⟩ := Message.exists_encode_eq hheader
  have hzeros : List.replicate ClientHeader.reservedLength (0 : UInt8) ++
      Bytes.ofNat 4 header.capabilities.extendedWord.toNat = List.replicate 23 0 := by
    rw [hword]
    rfl
  let front := Bytes.ofNat 4 header.capabilities.standardWord.toNat ++
    Bytes.ofNat 4 header.maxPacketSize.toNat ++ [header.charset]
  have hfront : front.length = 9 := by
    simp [front]
  have hmessage : message.encode = front ++ (List.replicate 23 0 ++ rest) := by
    simp only [hencode, ClientHeader.encode, ← hzeros, front, List.append_assoc, List.cons_append,
      List.nil_append]
  rw [hmessage, List.drop_left' hfront]
  exact List.take_left' List.length_replicate

/-! ## Past the greeting -/

/-- The greeting has been taken, or nothing will be. -/
def isPastGreeting : Lifecycle → Bool
  | start => false
  | awaitingGreeting => false
  | _ => true

section

variable {state : Lifecycle} {event : Event} {transition : Transition} {message : Option Message}

/-- Nothing goes back to before the greeting. -/
theorem Does.isPastGreeting (h : Does login state event transition message)
    (hstate : state.isPastGreeting = true) : transition.1.isPastGreeting = true := by
  cases h with
  | begin => cases hstate
  | authenticate h => cases h <;> rfl
  | _ => rfl

/-- Before the greeting nothing is said, and nothing but reading asked for. -/
theorem Does.eq_begin (h : Does login state event transition message)
    (hnext : transition.1.isPastGreeting = false) :
    transition = (awaitingGreeting, [.read]) ∧ message = none := by
  cases h with
  | begin => exact ⟨rfl, rfl⟩
  | authenticate h => cases h <;> cases hnext
  | _ => cases hnext

/-- Past the greeting the agreement stays, until nothing is left of it. -/
theorem Does.agreed?_of_isPastGreeting {capabilities : Capabilities}
    (h : Does login state event transition message) (hstate : state.isPastGreeting = true)
    (hnext : transition.1.agreed? = some capabilities) : state.agreed? = some capabilities := by
  rcases h.agreed?_cases hnext with hbefore | ⟨rfl, -⟩
  · exact hbefore
  · cases hstate

/-- A header is under what is agreed on in the state that a message leads to. -/
theorem Does.exists_agreed_of_header {said : Message} {header : ClientHeader}
    (h : Does login state event transition (some said)) (hheader : said.header? = some header) :
    ∃ agreed, transition.1.agreed? = some agreed ∧ header = clientHeader login agreed := by
  cases h with
  | askTls =>
    cases hheader
    exact ⟨_, rfl, rfl⟩
  | answer =>
    cases hheader
    exact ⟨_, rfl, rfl⟩
  | answerOverTls =>
    cases hheader
    exact ⟨_, rfl, rfl⟩
  | authenticate h => cases h <;> cases hheader
  | quit => cases hheader

/-- TLS is requested under an agreement to use it, and waited for. -/
theorem Does.of_tlsRequest {header : ClientHeader}
    (h : Does login state event transition (some (.tlsRequest header))) :
    header.capabilities.contains .ssl = true ∧
      ∃ greeting agreed, transition.1 = awaitingTls greeting agreed := by
  cases h with
  | askTls _ hssl => exact ⟨hssl, _, _, rfl⟩
  | authenticate h => cases h

/-- The response to a greeting begins the authentication. -/
theorem Does.of_response {answer : HandshakeResponse}
    (h : Does login state event transition (some (.response answer))) :
    ∃ exchange session, transition.1 = authenticating exchange session := by
  cases h with
  | answer => exact ⟨_, _, rfl⟩
  | answerOverTls => exact ⟨_, _, rfl⟩
  | authenticate h => cases h

end

/-! ## One agreement -/

/-- Whatever a step has to do with capabilities, it is the given set: in the header of what is said,
in the state after the step, and in the session that is established. -/
structure Step.IsUnder (login : Login) (agreed : Capabilities) (step : Step) : Prop where
  header : ∀ message header, step.Says login message → message.header? = some header →
    header = clientHeader login agreed
  state : ∀ capabilities, (step.next login).agreed? = some capabilities → capabilities = agreed
  session : ∀ session, Action.established session ∈ step.actions login →
    session.capabilities = agreed

/-- The state after a step decides. -/
theorem Step.IsUnder.of_next {agreed : Capabilities} {step : Step}
    (h : ∀ capabilities, (step.next login).agreed? = some capabilities → capabilities = agreed) :
    step.IsUnder login agreed := by
  refine ⟨fun message header hsaid hheader => ?_, h, fun session hmem => ?_⟩
  · obtain ⟨capabilities, hnext, rfl⟩ := hsaid.exists_agreed_of_header hheader
    rw [h capabilities hnext]
  · have hnext : (step.next login).agreed? = some session.capabilities := by
      rw [Step.next_of_established hmem]
      rfl
    exact h session.capabilities hnext

/-- Before a greeting is awaited nothing is past it. -/
theorem isPastGreeting_next_of_front {events : List Event} {front back : List Step} {step : Step}
    (hrun : steps login .start events = front ++ step :: back)
    (hstate : step.state.isPastGreeting = false) {earlier : Step} (hmem : earlier ∈ front) :
    (earlier.next login).isPastGreeting = false := by
  obtain ⟨before, between, rfl⟩ := List.append_of_mem hmem
  rw [List.append_assoc, List.cons_append] at hrun
  obtain ⟨later, hlater⟩ := exists_steps_next hrun
  cases hpast : (earlier.next login).isPastGreeting with
  | false => rfl
  | true =>
    have hstep : step.state.isPastGreeting = true := by
      refine steps_induction (motive := fun state => state.isPastGreeting = true) hlater.symm hpast
        fun other _ hother => ?_
      obtain ⟨_, hdoes⟩ := other.exists_does login
      exact hdoes.isPastGreeting hother
    rw [hstate] at hstep
    cases hstep

/-- **One set of capabilities is used in the whole run.** -/
theorem isUnder_of_agreed {events : List Event} {front back : List Step} {step : Step}
    {agreed : Capabilities} (hrun : steps login .start events = front ++ step :: back)
    (hstate : step.state = awaitingGreeting) (hagreed : (step.next login).agreed? = some agreed) :
    ∀ other ∈ front ++ step :: back, other.IsUnder login agreed := by
  intro other hmem
  refine .of_next fun capabilities hnext => ?_
  obtain ⟨message, hdoes⟩ := other.exists_does login
  rcases List.mem_append.mp hmem with hfront | hmem
  · have hstep : step.state.isPastGreeting = false := by
      rw [hstate]
      rfl
    have hbegin := (hdoes.eq_begin (isPastGreeting_next_of_front hrun hstep hfront)).1
    rw [show other.next login = _ from congrArg Prod.fst hbegin] at hnext
    cases hnext
  · rcases List.mem_cons.mp hmem with rfl | hback
    · rw [hagreed] at hnext
      exact (Option.some.inj hnext).symm
    · -- behind the greeting the agreement is carried from state to state
      obtain ⟨later, hlater⟩ := exists_steps_next hrun
      obtain ⟨before, behind, rfl⟩ := List.append_of_mem hback
      let motive (state : Lifecycle) : Prop := state.isPastGreeting = true ∧
        ∀ capabilities, state.agreed? = some capabilities → capabilities = agreed
      have hstart : motive (step.next login) := by
        refine ⟨?_, fun capabilities h => ?_⟩
        · cases h : step.next login with
          | start => simp [h, agreed?] at hagreed
          | awaitingGreeting => simp [h, agreed?] at hagreed
          | _ => rfl
        · rw [hagreed] at h
          exact (Option.some.inj h).symm
      have hkept : motive other.state := by
        refine steps_induction hlater.symm hstart fun earlier _ hearlier => ?_
        obtain ⟨_, hearlierDoes⟩ := earlier.exists_does login
        exact ⟨hearlierDoes.isPastGreeting hearlier.1, fun capabilities h =>
          hearlier.2 capabilities (hearlierDoes.agreed?_of_isPastGreeting hearlier.1 h)⟩
      exact hkept.2 capabilities (hdoes.agreed?_of_isPastGreeting hkept.1 hnext)

/-! ## What is agreed on -/

/-- What client and server have agreed on in a run one step of which takes a greeting. -/
structure IsAgreement (config : Config) (login : Login) (greeting : Greeting)
    (agreed : Capabilities) (front : List Step) (step : Step) (back : List Step) : Prop where
  reached : (step.next login).agreed? = some agreed
  everywhere : ∀ other ∈ front ++ step :: back, other.IsUnder login agreed
  asked : agreed = config.desiredCapabilities.intersection greeting.capabilities
  supported : agreed.intersection .unsupported = .none
  database : agreed.contains .connectWithDb = true ↔
    config.database.isSome = true ∧ greeting.capabilities.contains .connectWithDb = true
  tls : agreed.contains .ssl = true ↔ ∃ header, step.Says login (.tlsRequest header)
  /-- Whenever the greeting is answered, TLS has been requested before if it is agreed on, and
  otherwise not. -/
  answered : ∀ between later behind answer, step :: back = between ++ later :: behind →
    later.Says login (.response answer) →
      (agreed.contains .ssl = true ↔
        ∃ earlier ∈ between, ∃ header, earlier.Says login (.tlsRequest header))
  extension : agreed.extendedWord ≠ 0 → greeting.capabilities.contains .longPassword = false
  /-- The reserved octets are zeros where the server does not take them for an extension word. -/
  reserved : greeting.capabilities.contains .longPassword = true →
    ∀ other ∈ front ++ step :: back, ∀ message header, other.Says login message →
      message.header? = some header → (message.encode.drop 9).take 23 = List.replicate 23 0

/-- A greeting that is not the end is agreed over, and TLS is requested if that is agreed on. -/
theorem exists_agrees_of_open {step : Step} {packet : Packet}
    (hstate : step.state = awaitingGreeting) (hevent : step.event = .packet packet)
    (hopen : step.next login ≠ closed) :
    ∃ greeting agreed, Agrees login packet greeting agreed ∧
      (step.next login).agreed? = some agreed ∧
      (agreed.contains .ssl = true ↔ ∃ header, step.Says login (.tlsRequest header)) := by
  obtain ⟨message, hdoes⟩ := step.exists_does login
  unfold Step.Says
  rw [hstate, hevent] at hdoes ⊢
  generalize step.next login = next at hdoes hopen ⊢
  generalize step.actions login = actions at hdoes ⊢
  cases hdoes with
  | @askTls _ greeting agreed hagrees hssl =>
    exact ⟨greeting, agreed, hagrees, rfl, fun _ => ⟨_, .askTls hagrees hssl⟩, fun _ => hssl⟩
  | @answer _ greeting agreed exchange proof hagrees hssl hbegins =>
    refine ⟨greeting, agreed, hagrees, rfl, fun h => ?_, fun ⟨header, hsaid⟩ => ?_⟩
    · rw [hssl] at h
      cases h
    · obtain ⟨-, _, _, heq⟩ := hsaid.of_tlsRequest
      cases heq
  | fail => exact absurd rfl hopen

/-- A response comes behind the request for TLS exactly if TLS is agreed on. -/
theorem requested_iff_of_response {agreed : Capabilities} {step later : Step}
    {back between behind : List Step} {answer : HandshakeResponse}
    (hunder : ∀ other ∈ step :: back, other.IsUnder login agreed)
    (htls : agreed.contains .ssl = true ↔ ∃ header, step.Says login (.tlsRequest header))
    (hsplit : step :: back = between ++ later :: behind)
    (hsaid : later.Says login (.response answer)) :
    agreed.contains .ssl = true ↔
      ∃ earlier ∈ between, ∃ header, earlier.Says login (.tlsRequest header) := by
  constructor
  · intro hssl
    obtain ⟨header, hrequest⟩ := htls.mp hssl
    cases between with
    | nil =>
      obtain ⟨rfl, -⟩ := List.cons.inj hsplit
      obtain ⟨-, _, _, hwaiting⟩ := hrequest.of_tlsRequest
      obtain ⟨_, _, hanswering⟩ := hsaid.of_response
      cases hwaiting.symm.trans hanswering
    | cons first between =>
      obtain ⟨rfl, -⟩ := List.cons.inj hsplit
      exact ⟨step, List.mem_cons_self .., header, hrequest⟩
  · rintro ⟨earlier, hmem, header, hrequest⟩
    have hearlier : earlier ∈ step :: back := by
      rw [hsplit]
      exact List.mem_append_left _ hmem
    have hssl := hrequest.of_tlsRequest.1
    rw [(hunder earlier hearlier).header _ header hrequest rfl] at hssl
    exact hssl

/-- **What is agreed on when a greeting is taken**, and what the server is told of it. -/
theorem agreement_consistent {config : Config} (hfollows : login.Follows config)
    {events : List Event} {front back : List Step} {step : Step} {packet : Packet}
    (hrun : steps login .start events = front ++ step :: back)
    (hstate : step.state = awaitingGreeting) (hevent : step.event = .packet packet)
    (hopen : step.next login ≠ closed) :
    ∃ greeting agreed, Greeting.parse packet.payload = .ok greeting ∧
      IsAgreement config login greeting agreed front step back := by
  obtain ⟨greeting, agreed, hagrees, hreached, htls⟩ := exists_agrees_of_open hstate hevent hopen
  have heverywhere := isUnder_of_agreed hrun hstate hreached
  have hasked := eq_intersection_of_follows hfollows hagrees.negotiated
  have hword (hlong : greeting.capabilities.contains .longPassword = true) :
      agreed.extendedWord = 0 := by
    rw [hasked, Capabilities.extendedWord_intersection,
      Greeting.extendedWord_of_parse hagrees.parsed hlong, UInt32.and_zero]
  refine ⟨greeting, agreed, hagrees.parsed, hreached, heverywhere, hasked, ?_, ?_, htls, ?_, ?_, ?_⟩
  · rw [hasked, Capabilities.intersection_right_comm,
      config.intersection_desiredCapabilities_unsupported, Capabilities.none_intersection]
  · rw [hasked, Capabilities.contains_intersection, Bool.and_eq_true,
      config.contains_connectWithDb_desiredCapabilities]
  · exact fun between later behind answer => requested_iff_of_response
      (fun other hmem => heverywhere other (List.mem_append_right _ hmem)) htls
  · intro hextension
    exact eq_false_of_ne_true fun hlong => hextension (hword hlong)
  · intro hlong other hmem message header hsaid hheader
    have hheaderEq := (heverywhere other hmem).header message header hsaid hheader
    refine Message.reserved_of_extendedWord hheader ?_
    rw [hheaderEq]
    exact hword hlong

/-- A configuration with a database that uses TLS where it can. -/
def configWithDatabase : Config where
  database := some "shop"

/-- TLS is requested and comes about, all under one agreement. -/
theorem agreement_consistent_tls :
    let login := Client.login configWithDatabase []
    ∃ greeting agreed, Greeting.parse greetingWithTls.payload = .ok greeting ∧
      IsAgreement configWithDatabase login greeting agreed [⟨start, .transportActive⟩] greetingStep
        [⟨greetingStep.next login, .tlsEstablished⟩] ∧
      ∃ header, greetingStep.Says login (.tlsRequest header) := by
  intro login
  have hrun : steps login .start [.transportActive, .packet greetingWithTls, .tlsEstablished] =
      [⟨start, .transportActive⟩] ++
        greetingStep :: [⟨greetingStep.next login, .tlsEstablished⟩] := rfl
  have hopen : greetingStep.next login ≠ closed := by
    decide +kernel
  have hoffer : (Greeting.parse greetingWithTls.payload).toOption.map
      (fun greeting => greeting.capabilities.contains .ssl) = some true := by
    decide +kernel
  obtain ⟨greeting, agreed, hparse, hagreement⟩ :=
    agreement_consistent (Client.login_follows configWithDatabase []) hrun rfl rfl hopen
  refine ⟨greeting, agreed, hparse, hagreement, hagreement.tls.mp ?_⟩
  rw [hparse] at hoffer
  rw [hagreement.asked, Capabilities.contains_intersection,
    Config.contains_ssl_desiredCapabilities, Bool.and_eq_true]
  exact ⟨by decide, Option.some.inj hoffer⟩

end Lifecycle

end MySqlClient
