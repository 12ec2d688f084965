import MySqlClient.Proofs.Connection.Completion
import MySqlClient.Proofs.Connection.Inbox
import MySqlClient.Proofs.Connection.PastTls
import MySqlClient.Proofs.Framing.Taken

/-!
# Octets at the boundary of TLS

Octets that come behind the greeting, before the TLS upgrade, stay in the inbox, and when the
upgrade is over they are taken as if they had come through TLS.

* `Connection.heard`: the octets that a connection reads in the course of a run.
* `Connection.Phase`: the invariant of a run around the upgrade.
* `Connection.plaintext_iff`: **what comes after an upgrade is independent of the octets behind the
  greeting if and only if there are none, or the session is over at once.**
-/

namespace MySqlClient

namespace Connection

variable {σ : Type} [Command σ]

/-! ## The greeting -/

/-- **The greeting** leads past the upgrade, or the request for TLS is written and the upgrade
begins. -/
theorem dispatch_greeting {connection : Connection σ} (hawake : connection.suspension = none)
    (hlifecycle : connection.lifecycle = .awaitingGreeting) (packet : Packet) :
    (connection.dispatch (.packet packet)).IsLate ∨
      ∃ greeting capabilities framing transport,
        connection.dispatch (.packet packet) =
          { connection with
            lifecycle := .awaitingTls greeting capabilities
            notices := connection.notices ++ [.entered (.awaitingTls greeting capabilities)]
            framing
            transport
            suspension := some ⟨[], []⟩ } ∧
        framing.unfinished = connection.framing.unfinished := by
  have hevent : connection.lifecycle.onEvent connection.login (.packet packet) =
      Lifecycle.orFail (Lifecycle.onGreeting connection.login packet) := by
    rw [hlifecycle]
    rfl
  cases hgreeting : Lifecycle.onGreeting connection.login packet with
  | error error =>
    rw [hgreeting] at hevent
    exact Or.inl (late_dispatch hawake (by rw [hevent]; rfl))
  | ok transition =>
    rw [hgreeting] at hevent
    rcases Lifecycle.onGreeting_cases hgreeting with
      ⟨greeting, capabilities, request, rfl⟩ | ⟨_, _, hrespond⟩
    · let entered : Connection σ :=
        { connection with
          lifecycle := .awaitingTls greeting capabilities
          notices := connection.notices ++ [.entered (.awaitingTls greeting capabilities)] }
      have henter : connection.enter (.awaitingTls greeting capabilities) = entered := by
        rw [enter, hlifecycle]
        rfl
      obtain ⟨framing, transport, hwritten, hunfinished, -⟩ :=
        exists_eq_of_write entered [⟨[request], false⟩]
      -- the request is written, and TLS is there
      have hdispatch : connection.dispatch (.packet packet) =
          ((entered.carryOut [.send request false, .startTls]).1.drain 2
            (entered.carryOut [.send request false, .startTls]).2 []).1 := by
        rw [dispatch, dispatchBound, drain_done_cons, react, hevent, ← henter]
        rfl
      rw [hdispatch, carryOut, perform]
      rcases hwrite : entered.write [⟨[request], false⟩] with ⟨next, error | done⟩
      · rw [hwrite] at hwritten
        subst hwritten
        left
        apply late_drain_failed
        exact hawake
      · rw [hwrite] at hwritten
        subst hwritten
        dsimp only
        rw [if_neg (by simp), carryOut, perform]
        cases connection.tlsAvailable with
        | false =>
          left
          apply late_drain_failed
          exact hawake
        | true => exact Or.inr ⟨greeting, capabilities, framing, transport, rfl, hunfinished⟩
    · refine Or.inl (late_dispatch hawake ?_)
      rw [hevent]
      exact Lifecycle.isPastTls_of_respond hrespond

/-- The octets that hold the greeting, and what is left behind it. -/
theorem consume_greeting {connection : Connection σ} (hawake : connection.suspension = none)
    (hlifecycle : connection.lifecycle = .awaitingGreeting) {octets rest : Bytes}
    {framing : Framing} {packet : Packet}
    (hdecode : connection.framing.decode octets = ⟨.ok (some packet), framing, rest⟩) :
    (connection.consume octets).IsLate ∨
      ∃ waiting : Connection σ, waiting.suspension = some ⟨[], []⟩ ∧
        (∃ greeting capabilities, waiting.lifecycle = .awaitingTls greeting capabilities) ∧
        waiting.establishing = connection.establishing ∧
        waiting.framing.unfinished = framing.unfinished ∧
        ∀ {others left : Bytes},
          connection.framing.decode others = ⟨.ok (some packet), framing, left⟩ →
            connection.consume others = waiting.setInbox left := by
  have hattentive : connection.isAttentive = true := by
    rw [isAttentive, hlifecycle, hawake]
    rfl
  let read : Connection σ := { connection with framing }
  have hconsume {others left : Bytes}
      (hfound : connection.framing.decode others = ⟨.ok (some packet), framing, left⟩) :
      connection.consume others =
        ((read.dispatch (.packet packet)).setInbox left).consume left := by
    have hready : (read.setInbox left).lifecycle.isReady = false := by
      show connection.lifecycle.isReady = false
      rw [hlifecycle]
      rfl
    rw [consume_of_packet hattentive hfound, ← dispatch_setInbox, ← take_of_not_isReady hready]
    rfl
  rcases dispatch_greeting (show read.suspension = none from hawake) hlifecycle packet with
    hlate | ⟨greeting, capabilities, next, transport, hdispatch, hunfinished⟩
  · left
    rw [hconsume hdecode]
    apply IsLate.consume
    exact ⟨hlate.past, hlate.awake⟩
  · right
    refine ⟨read.dispatch (.packet packet), ?_, ⟨greeting, capabilities, ?_⟩, ?_, ?_, ?_⟩
    · rw [hdispatch]
    · rw [hdispatch]
    · rw [hdispatch]
    · rw [hdispatch]
      exact hunfinished
    · intro others left hfound
      rw [hconsume hfound, consume_of_inattentive]
      · rfl
      · rw [hdispatch]
        rfl

/-! ## The end of the upgrade -/

/-- A connection that waits for the upgrade, as the end of the upgrade finds it. -/
def awakened (connection : Connection σ) : Connection σ :=
  { connection with suspension := none }

theorem resume_ok (connection : Connection σ) :
    connection.resume ⟨[], []⟩ (.ok ()) = connection.awakened.dispatch .tlsEstablished := rfl

/-- The answer to the greeting, over TLS. -/
theorem isPastTls_onEvent_tlsEstablished (login : Login) (greeting : Greeting)
    (capabilities : Capabilities) :
    (Lifecycle.onEvent login (.awaitingTls greeting capabilities) .tlsEstablished).1.isPastTls =
      true :=
  Lifecycle.isPastTls_orFail fun _ h => Lifecycle.isPastTls_of_respond h

/-- **The end of an upgrade** leads past it. -/
theorem late_resume {connection : Connection σ} {greeting : Greeting} {capabilities : Capabilities}
    (hlifecycle : connection.lifecycle = .awaitingTls greeting capabilities)
    (result : Outcome Unit) : (connection.resume ⟨[], []⟩ result).IsLate := by
  cases result with
  | error error =>
    exact late_drain_failed (show connection.awakened.suspension = none from rfl) error 2
  | ok done =>
    rw [resume_ok]
    refine late_dispatch rfl ?_
    show (Lifecycle.onEvent connection.login connection.lifecycle .tlsEstablished).1.isPastTls =
      true
    rw [hlifecycle]
    exact isPastTls_onEvent_tlsEstablished _ _ _

/-- After an upgrade the session authenticates, or it is over. -/
theorem resume_cases {connection : Connection σ} {greeting : Greeting} {capabilities : Capabilities}
    (hlifecycle : connection.lifecycle = .awaitingTls greeting capabilities) :
    (connection.resume ⟨[], []⟩ (.ok ())).lifecycle.isClosed = true ∨
      ∃ exchange session framing transport notices,
        connection.resume ⟨[], []⟩ (.ok ()) =
          { connection.awakened with
            lifecycle := .authenticating exchange session, framing, transport, notices } ∧
        framing.unfinished = connection.framing.unfinished := by
  have hevent : connection.awakened.lifecycle.onEvent connection.awakened.login .tlsEstablished =
      Lifecycle.orFail (Lifecycle.respond connection.login greeting capabilities true) := by
    show Lifecycle.onEvent connection.login connection.lifecycle .tlsEstablished = _
    rw [hlifecycle]
    rfl
  rw [resume_ok]
  cases hrespond : Lifecycle.respond connection.login greeting capabilities true with
  | error error =>
    rw [hrespond] at hevent
    left
    rw [show (connection.awakened.dispatch .tlsEstablished).lifecycle = .closed from
      lifecycle_drain_closing (by rw [hevent]; rfl) 2]
    rfl
  | ok transition =>
    obtain ⟨exchange, session, payload, rfl⟩ := Lifecycle.exists_eq_of_respond hrespond
    rw [hrespond] at hevent
    obtain ⟨news, henter⟩ := enter_eq connection.awakened (.authenticating exchange session)
    have hdispatch : connection.awakened.dispatch .tlsEstablished =
        (((connection.awakened.enter (.authenticating exchange session)).carryOut
          [.send payload false, .read]).1.drain 2
          ((connection.awakened.enter (.authenticating exchange session)).carryOut
            [.send payload false, .read]).2 []).1 := by
      rw [dispatch, dispatchBound, drain_done_cons, react, hevent]
      rfl
    obtain ⟨framing, transport, hwritten, hunfinished, -⟩ :=
      exists_eq_of_write (connection.awakened.enter (.authenticating exchange session))
        [⟨[payload], false⟩]
    rw [hdispatch, carryOut, perform]
    rcases hwrite : (connection.awakened.enter (.authenticating exchange session)).write
      [⟨[payload], false⟩] with ⟨next, error | done⟩
    · left
      rw [show (next.drain 2 (.failed error) []).1.lifecycle = .closed from
        lifecycle_drain_failed next error 1]
      rfl
    · right
      rw [hwrite] at hwritten
      subst hwritten
      rw [henter] at hunfinished ⊢
      exact ⟨exchange, session, framing, transport, _, rfl, hunfinished⟩

/-! ## What is read -/

/-- The octets that a connection reads when something happens to it. -/
def hears (connection : Connection σ) : Input σ → Bytes
  | .receive octets => if connection.isAttentive then octets else []
  | _ => []

/-- The octets that a connection reads in the course of a run. -/
def heard (connection : Connection σ) : List (Input σ) → Bytes
  | [] => []
  | input :: inputs => connection.hears input ++ (connection.step input).heard inputs

theorem heard_append (connection : Connection σ) (inputs more : List (Input σ)) :
    connection.heard (inputs ++ more) =
      connection.heard inputs ++ (inputs.foldl step connection).heard more := by
  induction inputs generalizing connection with
  | nil => rfl
  | cons input inputs ih =>
    rw [List.cons_append, heard, heard, ih, List.append_assoc]
    rfl

theorem heard_singleton (connection : Connection σ) (input : Input σ) :
    connection.heard [input] = connection.hears input := by
  rw [heard, heard, List.append_nil]

/-! ## The phases of a run -/

/-- Where a run stands: the greeting has not come; an upgrade runs, the inbox holds what came behind
the greeting, and without that the connection would be the same; or no upgrade will run. -/
inductive Phase (start : Connection σ) (inputs : List (Input σ)) (connection : Connection σ) : Prop
  | listening (hlifecycle : connection.lifecycle = .awaitingGreeting)
      (hawake : connection.suspension = none) (hqueue : connection.queue.capabilities = none)
      (hestablishing : connection.establishing = true)
      (hheard : Framing.decode {} (start.heard inputs) =
        ⟨.ok none, connection.framing, connection.inbox⟩)
  | waiting {earlier later : List (Input σ)} {front payload : Bytes}
      (hsuspension : connection.suspension = some ⟨[], []⟩)
      (hlifecycle : ∃ greeting capabilities,
        connection.lifecycle = .awaitingTls greeting capabilities)
      (hestablishing : connection.establishing = true)
      (hwhole : connection.framing.unfinished = none)
      (hinputs : inputs = earlier ++ .receive (front ++ connection.inbox) :: later)
      (hcut : (earlier ++ .receive front :: later).foldl step start = connection.setInbox [])
      (hheard : start.heard (earlier ++ .receive front :: later) = (Framing.encode {} payload).1)
  | late (h : connection.IsLate)

namespace Phase

variable {start connection : Connection σ} {inputs : List (Input σ)}

/-- Octets come while the greeting has not come. -/
theorem receive (hlifecycle : connection.lifecycle = .awaitingGreeting)
    (hawake : connection.suspension = none) (hqueue : connection.queue.capabilities = none)
    (hestablishing : connection.establishing = true)
    (hheard : Framing.decode {} (start.heard inputs) =
      ⟨.ok none, connection.framing, connection.inbox⟩)
    (hrun : inputs.foldl Connection.step start = connection) (octets : Bytes) :
    Phase start (inputs ++ [.receive octets]) (connection.step (.receive octets)) := by
  have hattentive : connection.isAttentive = true := by
    rw [isAttentive, hlifecycle, hawake]
    rfl
  have hstep (octets : Bytes) : connection.step (.receive octets) =
      (connection.consume (connection.inbox ++ octets)).settle := by
    rw [Connection.step, whenAwake, if_pos hattentive]
  have hmore (octets : Bytes) :
      start.heard (inputs ++ [.receive octets]) = start.heard inputs ++ octets := by
    rw [heard_append, hrun, heard_singleton, hears, if_pos hattentive]
  have hdecode := Framing.decode_append_of_none hheard
  rw [hstep]
  rcases hfound : connection.framing.decode (connection.inbox ++ octets) with
    ⟨error | ⟨_ | packet⟩, framing, rest⟩
  · rw [consume_of_error hattentive hfound]
    refine .late (IsLate.settle ?_)
    apply late_dispatch_failed
    exact hawake
  · rw [consume_of_none hattentive hfound, settle_of_open (by rw [hlifecycle]; rfl)]
    refine .listening hlifecycle hawake hqueue hestablishing ?_
    rw [hmore, hdecode, hfound]
  · rcases consume_greeting hawake hlifecycle hfound with
      hlate | ⟨waiting, hsuspension, ⟨greeting, capabilities, hwaiting⟩, hestablished, hwhole, hall⟩
    · exact .late hlate.settle
    · have hopen (octets : Bytes) : (waiting.setInbox octets).settle = waiting.setInbox octets := by
        refine settle_of_open ?_
        show waiting.lifecycle.isClosed = false
        rw [hwaiting]
        rfl
      obtain ⟨tail, hoctets, hpacket, hnext⟩ := Framing.exists_encode_of_decode hfound
      obtain ⟨payload, hstream, -, -⟩ :=
        Framing.exists_encode_of_decode ((hdecode octets).trans hfound)
      -- the greeting ends in the octets that have come now
      rcases List.append_eq_append_iff.mp hoctets with ⟨front, hused, rfl⟩ | ⟨left, hinbox, -⟩
      · have hfront : connection.framing.decode (connection.inbox ++ front) =
            ⟨.ok (some packet), framing, []⟩ := by
          rw [← List.append_assoc] at hfound
          rw [← Framing.decode_of_decode_append hfound, List.append_nil]
        have hgreeting : start.heard (inputs ++ [.receive front]) =
            (Framing.encode {} payload).1 := by
          rw [hmore]
          rw [← List.append_assoc] at hstream
          exact List.append_cancel_right hstream
        rw [hall hfound, hopen]
        refine .waiting hsuspension ⟨greeting, capabilities, hwaiting⟩
          (hestablished.trans hestablishing) ?_ rfl ?_ hgreeting
        · rw [hnext] at hwhole
          exact hwhole
        · rw [List.foldl_append, hrun]
          show connection.step (.receive front) = _
          rw [hstep, hall hfront, hopen]
          rfl
      · -- otherwise it would have been found before
        have hagain := hdecode []
        rw [List.append_nil, List.append_nil, hheard, hinbox,
          Framing.decode_encode_append] at hagain
        cases hagain

/-- Something else happens while the greeting has not come. -/
theorem listen (hlifecycle : connection.lifecycle = .awaitingGreeting)
    (hawake : connection.suspension = none) (hqueue : connection.queue.capabilities = none)
    (hestablishing : connection.establishing = true)
    (hheard : Framing.decode {} (start.heard inputs) =
      ⟨.ok none, connection.framing, connection.inbox⟩)
    (hrun : inputs.foldl Connection.step start = connection) (input : Input σ) :
    Phase start (inputs ++ [input]) (connection.step input) := by
  have hattentive : connection.isAttentive = true := by
    rw [isAttentive, hlifecycle, hawake]
    rfl
  have hsame (hsilent : connection.hears input = []) :
      start.heard (inputs ++ [input]) = start.heard inputs := by
    rw [heard_append, hrun, heard_singleton, hsilent, List.append_nil]
  have hclosing {next : Connection σ} {event : Lifecycle.Event}
      (hnext : next.suspension = none)
      (hevent : (next.lifecycle.onEvent next.login event).1 = .closed) :
      Phase start (inputs ++ [input]) (next.dispatch event).settle :=
    .late (late_dispatch hnext (by rw [hevent]; rfl)).settle
  cases input with
  | receive octets => exact receive hlifecycle hawake hqueue hestablishing hheard hrun octets
  | submit submission =>
    rw [Connection.step]
    split
    · exact .listening hlifecycle hawake hqueue hestablishing (by rw [hsame rfl, hheard])
    · exact .listening hlifecycle hawake hqueue hestablishing (by rw [hsame rfl, hheard])
  | release =>
    exact .listening hlifecycle hawake hqueue hestablishing (by rw [hsame rfl, hheard]; rfl)
  | serve =>
    rw [Connection.step, whenAwake, if_pos hattentive, serve]
    split
    · next entry rest hsubmissions =>
      have hpush : connection.queue.push entry =
          { queue :=
              { connection.queue with entries := connection.queue.entries ++ [entry] } } := by
        rw [Queue.push, Queue.activateHead]
        dsimp only
        rw [hqueue]
        cases connection.queue.active <;> rfl
      rw [hpush, settle_of_open]
      · exact .listening hlifecycle hawake hqueue hestablishing (by rw [hsame rfl, hheard]; rfl)
      · show connection.lifecycle.isClosed = false
        rw [hlifecycle]
        rfl
    · apply hclosing
      · exact hawake
      · exact Lifecycle.onEvent_close_fst _ _
    · split
      · exact hclosing hawake (Lifecycle.onEvent_close_fst _ _)
      · rw [settle_of_open (by rw [hlifecycle]; rfl)]
        exact .listening hlifecycle hawake hqueue hestablishing (by rw [hsame rfl, hheard])
  | endOfStream =>
    rw [Connection.step, whenAwake, if_pos hattentive]
    refine hclosing hawake ?_
    unfold endOfStreamEvent
    split
    · exact Lifecycle.onEvent_failed_fst _ _ _
    · exact Lifecycle.onEvent_transportClosed_fst _ _
  | readFailed error =>
    rw [Connection.step, whenAwake, if_pos hattentive]
    exact hclosing hawake (Lifecycle.onEvent_failed_fst _ _ _)
  | upgraded result =>
    rw [Connection.step, hawake]
    exact .listening hlifecycle hawake hqueue hestablishing (by rw [hsame rfl, hheard])

/-- **Every step leads from one phase to the same or to the next one.** -/
theorem step (h : Phase start inputs connection)
    (hrun : inputs.foldl Connection.step start = connection) (input : Input σ) :
    Phase start (inputs ++ [input]) (connection.step input) := by
  cases h with
  | listening hlifecycle hawake hqueue hestablishing hheard =>
    exact listen hlifecycle hawake hqueue hestablishing hheard hrun input
  | late h => exact .late (h.step input)
  | @waiting earlier later front payload hsuspension hlifecycle hestablishing hwhole hinputs hcut
      hheard =>
    have hinattentive : connection.isAttentive = false := by
      rw [isAttentive, hsuspension]
      exact Bool.and_false _
    -- nothing is read, and nothing looks at the inbox
    have hkept (hother : ∀ result, input ≠ .upgraded result)
        (hsilent : (connection.setInbox []).hears input = [])
        (hnext : (connection.step input).suspension = connection.suspension ∧
          (connection.step input).lifecycle = connection.lifecycle ∧
          (connection.step input).establishing = connection.establishing ∧
          (connection.step input).framing = connection.framing ∧
          (connection.step input).inbox = connection.inbox) :
        Phase start (inputs ++ [input]) (connection.step input) := by
      obtain ⟨hsuspended, hstate, hestablished, hframing, hinbox⟩ := hnext
      have hnothing : start.heard (earlier ++ .receive front :: (later ++ [input])) =
          (Framing.encode {} payload).1 := by
        rw [← List.cons_append, ← List.append_assoc, heard_append, hcut, heard_singleton, hsilent,
          List.append_nil, hheard]
      refine .waiting (hsuspended.trans hsuspension) (by rw [hstate]; exact hlifecycle)
        (hestablished.trans hestablishing) (by rw [hframing]; exact hwhole) ?_ ?_ hnothing
      · rw [hinputs, hinbox, List.append_assoc]
        rfl
      · rw [← List.cons_append, ← List.append_assoc, List.foldl_append, hcut]
        exact step_setInbox hinattentive (Or.inr hother) []
    have hasleep (next : Connection σ) : connection.whenAwake next = connection := by
      rw [whenAwake, hinattentive]
      rfl
    have hstill {next : Connection σ} (hnext : next = connection) :
        next.suspension = connection.suspension ∧ next.lifecycle = connection.lifecycle ∧
          next.establishing = connection.establishing ∧ next.framing = connection.framing ∧
          next.inbox = connection.inbox := by
      rw [hnext]
      exact ⟨rfl, rfl, rfl, rfl, rfl⟩
    cases input with
    | submit submission =>
      refine hkept (by simp) rfl ?_
      rw [Connection.step]
      split <;> exact ⟨rfl, rfl, rfl, rfl, rfl⟩
    | release => exact hkept (by simp) rfl ⟨rfl, rfl, rfl, rfl, rfl⟩
    | serve => exact hkept (by simp) rfl (hstill (hasleep _))
    | receive octets =>
      refine hkept (by simp) ?_ (hstill (hasleep _))
      rw [hears, isAttentive_setInbox, hinattentive]
      rfl
    | endOfStream => exact hkept (by simp) rfl (hstill (hasleep _))
    | readFailed error => exact hkept (by simp) rfl (hstill (hasleep _))
    | upgraded result =>
      obtain ⟨greeting, capabilities, hwaiting⟩ := hlifecycle
      rw [Connection.step, hsuspension]
      exact .late ((late_resume hwaiting result).consume _).settle

/-- **Every run is in one of the phases.** -/
theorem run (h : Phase start inputs connection)
    (hrun : inputs.foldl Connection.step start = connection) (more : List (Input σ)) :
    Phase start (inputs ++ more) (more.foldl Connection.step connection) := by
  induction more generalizing inputs connection with
  | nil =>
    rw [List.append_nil]
    exact h
  | cons input more ih =>
    have hstep : (inputs ++ [input]).foldl Connection.step start = connection.step input := by
      rw [List.foldl_append, hrun]
      rfl
    have hnext := ih (h.step hrun input) hstep
    rw [List.append_assoc] at hnext
    exact hnext

end Phase

theorem phase_openOver (login : Login) (tlsAvailable : Bool) (fault : Nat → Option Error) :
    Phase (openOver login tlsAvailable fault : Connection σ) []
      (openOver login tlsAvailable fault) :=
  .listening rfl rfl rfl rfl (Framing.decode_nil _)

/-! ## Telling octets apart -/

/-- What there is to see of a connection: its state, what it has written, and what it has told. -/
def view (connection : Connection σ) : Lifecycle × List Bytes × List (Notice σ) :=
  (connection.lifecycle, connection.transport.sent, connection.notices)

/-- A failure is told to whoever waits for the session. -/
theorem exists_notices_failing {connection : Connection σ} {exchange : AuthExchange}
    {session : Session} {event : Lifecycle.Event} {error : Error}
    (hlifecycle : connection.lifecycle = .authenticating exchange session)
    (hestablishing : connection.establishing = true)
    (hevent : Lifecycle.onEvent connection.login (.authenticating exchange session) event =
      Lifecycle.failWith error) :
    ∃ more, (connection.dispatch event).settle.notices =
      connection.notices ++ .entered .closed :: .established (.error error) :: more := by
  have hreact : (connection.react event).1 =
        (((connection.enter .closed).tellEstablished (.error error)).failQueue) ∧
      (connection.react event).2 = .done := by
    rw [react, hlifecycle, hevent]
    exact ⟨rfl, rfl⟩
  have henter : connection.enter .closed =
      { connection with
        lifecycle := .closed, notices := connection.notices ++ [.entered .closed] } := by
    rw [enter, hlifecycle]
    rfl
  have hdispatch : connection.dispatch event =
      ((connection.enter .closed).tellEstablished (.error error)).failQueue := by
    rw [dispatch, dispatchBound, drain_done_cons, hreact.2, drain_done_nil, hreact.1]
  obtain ⟨more, hmore⟩ := Ledger.exists_notices_settle (connection.dispatch event)
  rw [hmore, hdispatch, henter, tellEstablished, if_pos hestablishing]
  exact ⟨_, by simp [failQueue, complete, tell]; rfl⟩

section

variable {connection : Connection σ} {exchange : AuthExchange} {session : Session} {octets : Bytes}
  {framing : Framing} {rest : Bytes}

/-- Octets that are no frame end the session at once. -/
theorem view_ne_of_error (hlifecycle : connection.lifecycle = .authenticating exchange session)
    (hattentive : connection.isAttentive = true) {error : Error}
    (hdecode : connection.framing.decode octets = ⟨.error error, framing, rest⟩) :
    view (connection.consume octets).settle ≠ view connection := by
  intro heq
  have hclosed : ({ connection with framing, inbox := rest }.dispatch (.failed error)).lifecycle =
      .closed := lifecycle_drain_closing (Lifecycle.onEvent_failed_fst _ _ _) 2
  have hstate : (connection.consume octets).settle.lifecycle = connection.lifecycle :=
    congrArg Prod.fst heq
  rw [consume_of_error hattentive hdecode, lifecycle_settle, hclosed, hlifecycle] at hstate
  cases hstate

/-- A part of a packet is there when no more octets come. -/
theorem view_ne_of_part (hlifecycle : connection.lifecycle = .authenticating exchange session)
    (hattentive : connection.isAttentive = true) (hestablishing : connection.establishing = true)
    (hwhole : connection.framing.unfinished = none) (hinbox : connection.inbox = [])
    (hsome : octets ≠ [])
    (hdecode : connection.framing.decode octets = ⟨.ok none, framing, rest⟩) :
    view ((connection.consume octets).settle.step .endOfStream) ≠
      view (connection.step .endOfStream) := by
  let read : Connection σ := { connection with framing, inbox := rest }
  have hread : (connection.consume octets).settle = read := by
    rw [consume_of_none hattentive hdecode, settle_of_open (by rw [hlifecycle]; rfl)]
  have hpart : read.endOfStreamEvent = .failed (.framing .closedMidPacket) := by
    rw [endOfStreamEvent]
    show (if framing.unfinished.isSome || !rest.isEmpty then _ else _) = _
    rw [if_pos]
    rcases Framing.eq_or_unfinished_of_none hdecode with ⟨-, rfl⟩ | hbegun
    · simp [hsome]
    · rw [hbegun]
      rfl
  have hnothing : connection.endOfStreamEvent = .transportClosed := by
    rw [endOfStreamEvent, hwhole, hinbox]
    rfl
  obtain ⟨more, hmore⟩ := exists_notices_failing
    (show read.lifecycle = .authenticating exchange session from hlifecycle) hestablishing
    (show Lifecycle.onEvent _ _ (.failed (.framing .closedMidPacket)) = _ from rfl)
  obtain ⟨others, hothers⟩ := exists_notices_failing hlifecycle hestablishing
    (show Lifecycle.onEvent _ _ .transportClosed = _ from rfl)
  intro heq
  have hnotices : (read.step .endOfStream).notices = (connection.step .endOfStream).notices := by
    rw [← hread]
    exact congrArg (fun seen => seen.2.2) heq
  have hreadAttentive : read.isAttentive = true := hattentive
  rw [step, step, whenAwake, whenAwake, if_pos hattentive, if_pos hreadAttentive, hpart, hnothing,
    hmore, hothers] at hnotices
  have hdifferent := List.append_cancel_left hnotices
  cases hdifferent

/-- A packet is progress. -/
theorem view_ne_of_packet (hlifecycle : connection.lifecycle = .authenticating exchange session)
    (hawake : connection.suspension = none) (hattentive : connection.isAttentive = true)
    {packet : Packet}
    (hdecode : connection.framing.decode octets = ⟨.ok (some packet), framing, rest⟩) :
    view (connection.consume octets).settle ≠ view connection := by
  intro heq
  have hread : IsLate { connection with framing, inbox := rest } :=
    ⟨by rw [hlifecycle]; rfl, hawake⟩
  have hprogress : connection.progress < (connection.consume octets).settle.progress := by
    rw [consume_of_packet hattentive hdecode, progress_settle]
    have htake := progress_lt_take hread.awake
      (show ({ connection with framing, inbox := rest } : Connection σ).lifecycle = _ from
        hlifecycle) packet
    exact Nat.lt_of_lt_of_le htake ((hread.take packet).progress_le_consume _)
  have hsame : (connection.consume octets).settle.progress = connection.progress := by
    unfold progress
    rw [show (connection.consume octets).settle.lifecycle = connection.lifecycle from
        congrArg Prod.fst heq,
      show (connection.consume octets).settle.transport.sent = connection.transport.sent from
        congrArg (fun seen => seen.2.1) heq]
  omega

/-- **Octets make a difference to a session that authenticates**, at once or when no more come. -/
theorem exists_view_ne (hlifecycle : connection.lifecycle = .authenticating exchange session)
    (hawake : connection.suspension = none) (hestablishing : connection.establishing = true)
    (hwhole : connection.framing.unfinished = none) (hinbox : connection.inbox = [])
    (hsome : octets ≠ []) :
    ∃ after : List (Input σ),
      view (after.foldl step (connection.consume octets).settle) ≠
        view (after.foldl step connection) := by
  have hattentive : connection.isAttentive = true := by
    rw [isAttentive, hlifecycle, hawake]
    rfl
  rcases hdecode : connection.framing.decode octets with ⟨error | ⟨_ | packet⟩, framing, rest⟩
  · exact ⟨[], view_ne_of_error hlifecycle hattentive hdecode⟩
  · exact ⟨[.endOfStream],
      view_ne_of_part hlifecycle hattentive hestablishing hwhole hinbox hsome hdecode⟩
  · exact ⟨[], view_ne_of_packet hlifecycle hawake hattentive hdecode⟩

end

/-! ## Plaintext behind the greeting -/

theorem view_run_setInbox {connection : Connection σ}
    (hclosed : connection.lifecycle.isClosed = true) (hawake : connection.suspension = none)
    (octets : Bytes) (inputs : List (Input σ)) :
    view (inputs.foldl step (connection.setInbox octets)) =
      view (inputs.foldl step connection) := by
  induction inputs generalizing connection with
  | nil => rfl
  | cons input inputs ih =>
    have hinattentive : connection.isAttentive = false := by
      rw [isAttentive, hclosed]
      rfl
    have hasleep (next : Connection σ) : connection.whenAwake next = connection := by
      rw [whenAwake, hinattentive]
      rfl
    have hnext : (connection.step input).lifecycle.isClosed = true ∧
        (connection.step input).suspension = none := by
      cases input with
      | submit submission =>
        rw [step]
        split <;> exact ⟨hclosed, hawake⟩
      | release => exact ⟨hclosed, hawake⟩
      | upgraded result =>
        rw [step, hawake]
        exact ⟨hclosed, hawake⟩
      | _ =>
        rw [step, hasleep]
        exact ⟨hclosed, hawake⟩
    rw [List.foldl_cons, List.foldl_cons, step_setInbox hinattentive (Or.inl hawake)]
    exact ih hnext.1 hnext.2

/-- A successful upgrade, by what is in the inbox. -/
theorem step_upgraded {connection : Connection σ} (h : connection.suspension = some ⟨[], []⟩)
    (octets : Bytes) :
    (connection.setInbox octets).step (.upgraded (.ok ())) =
      ((connection.resume ⟨[], []⟩ (.ok ())).consume octets).settle := by
  have hinbox : ((connection.setInbox octets).resume ⟨[], []⟩ (.ok ())).inbox = octets := by
    rw [resume_setInbox]
    rfl
  rw [step, show (connection.setInbox octets).suspension = _ from h]
  dsimp only
  rw [hinbox, resume_setInbox, consume_setInbox]

/-- A session that is over with the upgrade does not look at the inbox, or at what comes. -/
theorem view_consume_of_closed {done : Connection σ} (hclosed : done.lifecycle.isClosed = true)
    (hlate : done.settle.IsLate) (octets : Bytes) (after : List (Input σ)) :
    view (after.foldl step (done.consume octets).settle) =
        view (after.foldl step (done.consume []).settle) ∧
      view (after.foldl step ((done.consume []).settle.step (.receive octets))) =
        view (after.foldl step (done.consume []).settle) := by
  have hinattentive : done.isAttentive = false := by
    rw [isAttentive, hclosed]
    rfl
  have hsettled : done.settle.lifecycle.isClosed = true := by
    rw [lifecycle_settle]
    exact hclosed
  have hover (octets : Bytes) : (done.consume octets).settle = done.settle.setInbox octets := by
    rw [consume_of_inattentive hinattentive, ← settle_setInbox]
    rfl
  have hignored : (done.settle.setInbox []).step (.receive octets) = done.settle.setInbox [] := by
    rw [step, whenAwake, isAttentive_setInbox, isAttentive, hsettled]
    rfl
  rw [hover, hover, hignored, view_run_setInbox hsettled hlate.awake,
    view_run_setInbox hsettled hlate.awake]
  exact ⟨rfl, rfl⟩

/-- A session that authenticates takes the octets in the inbox like ones that come. -/
theorem settle_consume_of_authenticating {done : Connection σ} {exchange : AuthExchange}
    {session : Session} (hlifecycle : done.lifecycle = .authenticating exchange session)
    (hawake : done.suspension = none) (octets : Bytes) :
    (done.consume []).settle = done.setInbox [] ∧
      (done.consume octets).settle = (done.setInbox []).step (.receive octets) := by
  have hattentive : done.isAttentive = true := by
    rw [isAttentive, hlifecycle, hawake]
    rfl
  constructor
  · rw [consume_nil hattentive]
    exact settle_of_open (show done.lifecycle.isClosed = false by rw [hlifecycle]; rfl)
  · rw [step, whenAwake, isAttentive_setInbox, if_pos hattentive, consume_setInbox]
    rfl

/-- **Plaintext behind the greeting is taken for octets that came through TLS.**  When an upgrade
runs, the inbox holds what came behind the greeting, and without it the connection would be the
same.  After the upgrade everything goes on as if the octets came through TLS first.  So what the
connection does then is independent of them if and only if there are none, or the session is over
with the upgrade. -/
theorem plaintext_iff (login : Login) (tlsAvailable : Bool) (fault : Nat → Option Error)
    (before : List (Input σ)) :
    let start : Connection σ := openOver login tlsAvailable fault
    let waiting := before.foldl step start
    waiting.suspension.isSome = true →
      ∃ earlier front later,
        before = earlier ++ .receive (front ++ waiting.inbox) :: later ∧
        let clean := (earlier ++ .receive front :: later).foldl step start
        (∃ payload, start.heard (earlier ++ .receive front :: later) =
          (Framing.encode {} payload).1) ∧
        (∀ after, view ((.upgraded (.ok ()) :: after).foldl step waiting) =
          view ((.upgraded (.ok ()) :: .receive waiting.inbox :: after).foldl step clean)) ∧
        ((∀ after, view ((.upgraded (.ok ()) :: after).foldl step waiting) =
            view ((.upgraded (.ok ()) :: after).foldl step clean)) ↔
          waiting.inbox = [] ∨ (clean.step (.upgraded (.ok ()))).lifecycle.isClosed = true) := by
  intro start waiting hsome
  have hphase : Phase start before waiting :=
    (phase_openOver login tlsAvailable fault).run rfl before
  cases hphase with
  | listening _ hawake =>
    rw [hawake] at hsome
    cases hsome
  | late h =>
    rw [h.awake] at hsome
    cases hsome
  | @waiting earlier later front payload hsuspension hlifecycle hestablishing hwhole hinputs hcut
      hheard =>
    refine ⟨earlier, front, later, hinputs, ?_⟩
    rw [hcut]
    intro clean
    obtain ⟨greeting, capabilities, hlifecycle⟩ := hlifecycle
    let done := waiting.resume ⟨[], []⟩ (.ok ())
    have hdirty : waiting.step (.upgraded (.ok ())) = (done.consume waiting.inbox).settle :=
      step_upgraded hsuspension waiting.inbox
    have hclean : clean.step (.upgraded (.ok ())) = (done.consume []).settle :=
      step_upgraded hsuspension []
    refine ⟨⟨payload, hheard⟩, ?_⟩
    simp only [List.foldl_cons, hdirty, hclean]
    rcases resume_cases hlifecycle with
      hclosed | ⟨exchange, session, framing, transport, notices, hdone, hunfinished⟩
    · have hlate : done.settle.IsLate := (late_resume hlifecycle (.ok ())).settle
      have hsame := view_consume_of_closed hclosed hlate waiting.inbox
      have hover : (done.consume []).settle.lifecycle.isClosed = true := by
        rw [lifecycle_settle, consume_of_inattentive (by rw [isAttentive, hclosed]; rfl)]
        exact hclosed
      exact ⟨fun after => (hsame after).1.trans (hsame after).2.symm, fun _ => Or.inr hover,
        fun _ after => (hsame after).1⟩
    · have hauthenticating : done.lifecycle = .authenticating exchange session := by
        rw [show done = _ from hdone]
      have hawake : done.suspension = none := by
        rw [show done = _ from hdone]
        rfl
      obtain ⟨hnone, hthrough⟩ :=
        settle_consume_of_authenticating hauthenticating hawake waiting.inbox
      rw [hnone, hthrough]
      refine ⟨fun _ => rfl, fun hsame => ?_, fun hinbox after => ?_⟩
      · by_cases hinbox : waiting.inbox = []
        · exact Or.inl hinbox
        have hestablished : done.establishing = true := by
          rw [show done = _ from hdone]
          exact hestablishing
        have hbegun : done.framing.unfinished = none := by
          rw [show done = _ from hdone]
          exact hunfinished.trans hwhole
        obtain ⟨after, hne⟩ := exists_view_ne
          (show (done.setInbox []).lifecycle = .authenticating exchange session
            from hauthenticating)
          hawake hestablished hbegun rfl hinbox
        rw [consume_setInbox, hthrough] at hne
        exact absurd (hsame after) hne
      · rcases hinbox with hinbox | hclosed
        · rw [← hthrough, hinbox, hnone]
        · rw [show (done.setInbox []).lifecycle = _ from hauthenticating] at hclosed
          cases hclosed

/-- What a client brings along that uses TLS where it can. -/
def tlsLogin : Login :=
  { plainLogin with tlsMode := .prefer, capabilities := Capabilities.clientDefault.union .ssl }

/-- The greeting of a server that can do TLS. -/
def tlsGreeting : Bytes :=
  [0x4A, 0x00, 0x00, 0x00, 0x0A, 0x38, 0x2E, 0x30, 0x2E, 0x33, 0x36, 0x00, 0x2A, 0x00, 0x00, 0x00,
    0x01, 0x02, 0x03, 0x04, 0x05, 0x06, 0x07, 0x08, 0x00, 0x09, 0xAA, 0x2D, 0x02, 0x00, 0xBF, 0x01,
    0x15, 0x00, 0x00, 0x00, 0x00, 0x00, 0x00, 0x00, 0x00, 0x00, 0x00, 0x09, 0x0A, 0x0B, 0x0C, 0x0D,
    0x0E, 0x0F, 0x10, 0x11, 0x12, 0x13, 0x14, 0x00, 0x6D, 0x79, 0x73, 0x71, 0x6C, 0x5F, 0x6E, 0x61,
    0x74, 0x69, 0x76, 0x65, 0x5F, 0x70, 0x61, 0x73, 0x73, 0x77, 0x6F, 0x72, 0x64, 0x00]

/-- An OK packet with the number that the session expects behind its answer. -/
def injectedOk : Bytes :=
  [0x07, 0x00, 0x00, 0x03, 0x00, 0x00, 0x00, 0x02, 0x00, 0x00, 0x00]

/-- An OK packet behind the greeting makes a difference after the upgrade. -/
theorem plaintext_injectedOk :
    let start : Connection Ping := openOver tlsLogin true fun _ => none
    let waiting := start.step (.receive (tlsGreeting ++ injectedOk))
    waiting.suspension.isSome = true ∧ waiting.inbox = injectedOk ∧
      ∃ after : List (Input Ping),
        view ((.upgraded (.ok ()) :: after).foldl step waiting) ≠
          view ((.upgraded (.ok ()) :: after).foldl step (start.step (.receive tlsGreeting))) := by
  intro start waiting
  have hsome : waiting.suspension.isSome = true := by
    decide +kernel
  have hinbox : waiting.inbox = injectedOk := by
    decide +kernel
  obtain ⟨earlier, front, later, hinputs, -, -, hiff⟩ :=
    plaintext_iff tlsLogin true (fun _ => none) [.receive (tlsGreeting ++ injectedOk)] hsome
  obtain ⟨rfl, rfl, rfl⟩ : earlier = [] ∧ front = tlsGreeting ∧ later = [] := by
    cases earlier with
    | nil =>
      obtain ⟨hreceived, hlater⟩ := List.cons.inj hinputs
      refine ⟨rfl, ?_, hlater.symm⟩
      have hfront : tlsGreeting ++ injectedOk = front ++ waiting.inbox :=
        Input.receive.inj hreceived
      rw [hinbox] at hfront
      exact (List.append_cancel_right hfront).symm
    | cons input earlier => simp at hinputs
  refine ⟨hsome, hinbox, ?_⟩
  by_cases hsame : ∀ after : List (Input Ping),
      view ((.upgraded (.ok ()) :: after).foldl step waiting) =
        view ((.upgraded (.ok ()) :: after).foldl step (start.step (.receive tlsGreeting)))
  · rcases hiff.mp hsame with hnone | hclosed
    · cases hinbox.symm.trans hnone
    · exact absurd hclosed (by decide +kernel)
  · exact Classical.not_forall.mp hsame

end Connection

end MySqlClient
