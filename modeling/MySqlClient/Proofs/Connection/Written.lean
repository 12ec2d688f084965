import MySqlClient.Proofs.Connection.Course
import MySqlClient.Proofs.Connection.PastTls

/-!
# What is written, and by whom

While a session is being established only the lifecycle writes, and what it writes is what it says
when it is told an event.  Once commands may flow only their requests are written, until the session
is over; the last thing that the lifecycle then has to write is the request to quit.

* `Connection.dispatch_of_done`, `dispatch_of_failed`, `dispatch_of_upgrading`,
  `Connection.resume_eq_dispatch`: an event, and what it gives rise to.
* `Connection.Ends`: the session is over, and nothing has been written.
* `Connection.writeOrFail_requests_cases`: **requests are written, each numbered from zero on, or
  the session is over.**
* `Step.Writes`: some octets are the frames of what the lifecycle says in a step.
* `Connection.Opens`: how a connection goes on before commands may flow;
  `Connection.opens_dispatch`: **by writing what is said when the lifecycle is told of an event, or
  by an established session.**
* `Connection.dispatch_close_cases`: **a session is quit by writing that, or is just over.**
-/

namespace MySqlClient

namespace Outbound

/-- **Requests are written one behind the other**, whatever has begun to arrive. -/
theorem encodeAll_requests_fst (framing : Framing) (payloads : List Bytes) :
    (encodeAll framing (requests payloads)).1 = Framing.writeRequests payloads := by
  induction payloads generalizing framing with
  | nil => rfl
  | cons payload payloads ih =>
    have hfirst : (framing.restart.encodeEach [payload]).1 = (Framing.encode {} payload).1 := by
      rw [Framing.encodeEach_cons_fst, Framing.encodeEach_nil, List.append_nil]
      rfl
    show (framing.restart.encodeEach [payload]).1 ++
      (encodeAll (framing.restart.encodeEach [payload]).2 (requests payloads)).1 = _
    rw [hfirst, ih]
    rfl

end Outbound

namespace Lifecycle

/-- The octets are the frames of a message that is said in a step, and not of the last one of a
session. -/
def Step.Writes (login : Login) (step : Step) (octets : Bytes) : Prop :=
  ∃ framing message, step.Says login message ∧ message ≠ .quit ∧
    octets = (Framing.encode framing message.encode).1

/-- Whatever is asked to be written within an exchange is said. -/
theorem Step.writes_of_send {login : Login} {step : Step} {payload : Bytes}
    (h : Action.send payload false ∈ step.actions login) (framing : Framing) :
    step.Writes login (framing.encode payload).1 := by
  obtain ⟨message, hsaid, haction⟩ := Step.send_mem_iff.mp h
  obtain ⟨rfl, hfirst⟩ := Action.send.inj haction
  refine ⟨framing, message, hsaid, ?_, rfl⟩
  rintro rfl
  cases hfirst

/-- Quitting is for sessions in which commands may flow. -/
theorem onEvent_ne_quit {login : Login} {state : Lifecycle} (h : state.isReady = false)
    (event : Event) :
    onEvent login state event ≠ (closed, [.send Request.quit.encode true, .shutdown]) := by
  have horFail {outcome : Outcome Transition}
      (hstates : ∀ transition, outcome = .ok transition → transition.1 ≠ closed) :
      orFail outcome ≠ (closed, [.send Request.quit.encode true, .shutdown]) := by
    cases outcome with
    | ok transition => exact fun heq => hstates transition rfl (congrArg Prod.fst heq)
    | error error => exact nofun
  unfold onEvent
  split
  · exact nofun
  · exact nofun
  · exact nofun
  · exact nofun
  · refine horFail fun transition hgreeting => ?_
    rcases onGreeting_cases hgreeting with ⟨_, _, _, rfl⟩ | ⟨_, _, hrespond⟩
    · exact nofun
    · obtain ⟨_, _, _, rfl⟩ := exists_eq_of_respond hrespond
      exact nofun
  · refine horFail fun transition hrespond => ?_
    obtain ⟨_, _, _, rfl⟩ := exists_eq_of_respond hrespond
    exact nofun
  · refine horFail fun transition hpacket => ?_
    rcases onAuthPacket_cases hpacket with ⟨_, rfl⟩ | ⟨_, _, rfl, -⟩ <;> exact nofun
  · cases h
  · exact nofun
  · exact nofun

/-- A failure is told to whoever waits for the session, if it is not over already. -/
theorem onEvent_failed_snd (login : Login) (state : Lifecycle) (error : Error) :
    (onEvent login state (.failed error)).2 = [] ∨
      (onEvent login state (.failed error)).2 = [.fail error] := by
  cases state with
  | closed => exact Or.inl rfl
  | _ => exact Or.inr rfl

end Lifecycle

namespace Connection

variable {σ : Type} [Command σ]

/-! ## Events and what they give rise to -/

theorem react_failed_snd (connection : Connection σ) (error : Error) :
    (connection.react (.failed error)).2 = .done := by
  unfold react
  dsimp only
  rcases Lifecycle.onEvent_failed_snd connection.login connection.lifecycle error with h | h
  · rw [h]
    rfl
  · rw [h]
    rfl

variable {connection : Connection σ} {event : Lifecycle.Event}

theorem dispatch_of_done (h : (connection.react event).2 = .done) :
    connection.dispatch event = (connection.react event).1 := by
  rw [dispatch, dispatchBound, drain_done_cons, h, drain_done_nil]

theorem dispatch_failed (connection : Connection σ) (error : Error) :
    connection.dispatch (.failed error) = (connection.react (.failed error)).1 :=
  dispatch_of_done (react_failed_snd connection error)

/-- A failed action is an event of its own. -/
theorem dispatch_of_failed {error : Error} (h : (connection.react event).2 = .failed error) :
    connection.dispatch event = (connection.react event).1.dispatch (.failed error) := by
  rw [dispatch_failed, dispatch, dispatchBound, drain_done_cons, h, drain_failed, List.nil_append,
    drain_done_cons, react_failed_snd, drain_done_nil]

theorem dispatch_of_upgrading {rest : List Lifecycle.Action}
    (h : (connection.react event).2 = .upgrading rest) :
    connection.dispatch event =
      { (connection.react event).1 with suspension := some ⟨rest, []⟩ } := by
  rw [dispatch, dispatchBound, drain_done_cons, h]
  rfl

/-- The event that the end of an upgrade is. -/
def upgradeEvent : Outcome Unit → Lifecycle.Event
  | .ok () => .tlsEstablished
  | .error error => .failed error

/-- **The end of an upgrade is an event.** -/
theorem resume_eq_dispatch (connection : Connection σ) (result : Outcome Unit) :
    connection.resume ⟨[], []⟩ result =
      { connection with suspension := none }.dispatch (upgradeEvent result) := by
  cases result with
  | ok done => rfl
  | error error =>
    show (Connection.drain _ _ (.failed error) []).1 = _
    rw [drain_failed]
    rfl

/-! ## The end -/

/-- The session is over, and nothing has been written. -/
structure Ends (before after : Connection σ) : Prop where
  lifecycle : after.lifecycle = .closed
  suspension : after.suspension = before.suspension
  sent : after.transport.sent = before.transport.sent
  submissions : after.submissions = before.submissions

/-- Actions that are none of writing write nothing. -/
theorem sent_carryOut {actions : List Lifecycle.Action}
    (hsend : ∀ payload resequence, Lifecycle.Action.send payload resequence ∉ actions)
    (hestablished : ∀ session, Lifecycle.Action.established session ∉ actions) :
    (connection.carryOut actions).1.transport.sent = connection.transport.sent := by
  induction actions generalizing connection with
  | nil => rfl
  | cons action rest ih =>
    have hperform : (connection.perform action).1.transport.sent = connection.transport.sent := by
      cases action with
      | read | startTls | shutdown => rfl
      | send payload resequence => exact absurd List.mem_cons_self (hsend payload resequence)
      | established session => exact absurd List.mem_cons_self (hestablished session)
      | fail error =>
        unfold perform tellEstablished
        dsimp only
        split <;> rfl
    have hrest : ((connection.perform action).1.carryOut rest).1.transport.sent =
        (connection.perform action).1.transport.sent :=
      ih (fun payload resequence hmem => hsend payload resequence (List.mem_cons_of_mem _ hmem))
        fun session hmem => hestablished session (List.mem_cons_of_mem _ hmem)
    rw [carryOut]
    rcases hnext : connection.perform action with ⟨next, error | done⟩
    · rw [hnext] at hperform
      exact hperform
    · rw [hnext] at hperform hrest
      dsimp only
      split
      · exact hperform
      · exact hrest.trans hperform

/-- What is left alone by an event whose actions come to the end. -/
theorem frame_react (connection : Connection σ) (event : Lifecycle.Event) :
    (connection.react event).1.suspension = connection.suspension ∧
      (connection.react event).1.submissions = connection.submissions := by
  obtain ⟨news, henter⟩ :=
    enter_eq connection (connection.lifecycle.onEvent connection.login event).1
  have hframe := carryOut_frame
    (connection.enter (connection.lifecycle.onEvent connection.login event).1)
    (connection.lifecycle.onEvent connection.login event).2
  rw [henter] at hframe
  rw [react, henter]
  exact ⟨hframe.suspension, hframe.submissions⟩

/-- An event that leads to the end without anything to write. -/
theorem ends_react
    (hclosed : (connection.lifecycle.onEvent connection.login event).1 = .closed)
    (hsend : ∀ payload resequence, Lifecycle.Action.send payload resequence ∉
      (connection.lifecycle.onEvent connection.login event).2)
    (hestablished : ∀ session, Lifecycle.Action.established session ∉
      (connection.lifecycle.onEvent connection.login event).2) :
    Ends connection (connection.react event).1 := by
  obtain ⟨hsuspension, hsubmissions⟩ := frame_react connection event
  refine ⟨?_, hsuspension, ?_, hsubmissions⟩
  · rw [lifecycle_react, hclosed]
  · obtain ⟨news, henter⟩ :=
      enter_eq connection (connection.lifecycle.onEvent connection.login event).1
    rw [react, henter]
    exact sent_carryOut hsend hestablished

theorem ends_dispatch_failed (connection : Connection σ) (error : Error) :
    Ends connection (connection.dispatch (.failed error)) := by
  rw [dispatch_failed]
  apply ends_react (Lifecycle.onEvent_failed_fst _ _ _)
  all_goals
    rcases Lifecycle.onEvent_failed_snd connection.login connection.lifecycle error with h | h <;>
      simp [h]

omit [Command σ] in
theorem Ends.trans_eq {first second third : Connection σ} (h : Ends second third)
    (hsuspension : second.suspension = first.suspension)
    (hsent : second.transport.sent = first.transport.sent)
    (hsubmissions : second.submissions = first.submissions) : Ends first third :=
  ⟨h.lifecycle, h.suspension.trans hsuspension, h.sent.trans hsent,
    h.submissions.trans hsubmissions⟩

/-! ## Requests -/

/-- What is read in some writes as the packets that they consist of. -/
def requestsIn (writes : List Bytes) : List Bytes :=
  writes.flatMap fun octets => (Framing.readRequests octets).map Prod.fst

omit [Command σ] in
/-- Requests go into one write, if there are any, and are read back from it. -/
theorem write_requests_cases (connection : Connection σ) (payloads : List Bytes) :
    (∃ framing transport writes,
      connection.write (Outbound.requests payloads) =
        ({ connection with framing, transport }, .ok ()) ∧
      transport.sent = connection.transport.sent ++ writes ∧
      writes.flatten = Framing.writeRequests payloads ∧ requestsIn writes = payloads) ∨
    ∃ framing transport error,
      connection.write (Outbound.requests payloads) =
        ({ connection with framing, transport }, .error error) ∧
      transport.sent = connection.transport.sent := by
  cases payloads with
  | nil =>
    exact Or.inl ⟨connection.framing, connection.transport, [], rfl, (List.append_nil _).symm, rfl,
      rfl⟩
  | cons payload payloads =>
    let written := Outbound.encodeAll connection.framing (Outbound.requests (payload :: payloads))
    have hoctets : written.1 = Framing.writeRequests (payload :: payloads) :=
      Outbound.encodeAll_requests_fst _ _
    have hwrite : connection.write (Outbound.requests (payload :: payloads)) =
        ({ connection with
            framing := written.2
            transport := (connection.transport.write written.1).1 },
          (connection.transport.write written.1).2) := by
      rw [write, Outbound.isEmpty_requests, if_neg (by simp)]
    cases hfault : connection.transport.fault connection.transport.attempts with
    | none =>
      refine Or.inl ⟨written.2,
        { connection.transport with
          attempts := connection.transport.attempts + 1
          sent := connection.transport.sent ++ [written.1] }, [written.1], ?_, rfl, ?_, ?_⟩
      · rw [hwrite]
        simp only [Transport.write, hfault]
      · rw [List.flatten_singleton, hoctets]
      · rw [requestsIn, List.flatMap_singleton, hoctets, Framing.readRequests_writeRequests,
          List.map_map]
        exact List.map_id _
    | some error =>
      refine Or.inr ⟨written.2,
        { connection.transport with attempts := connection.transport.attempts + 1 }, error, ?_, rfl⟩
      rw [hwrite]
      simp only [Transport.write, hfault]

/-- **Requests are written, each numbered from zero on, or the session is over.** -/
theorem writeOrFail_requests_cases (connection : Connection σ) (payloads : List Bytes) :
    (∃ framing transport writes,
      connection.writeOrFail (Outbound.requests payloads) =
        { connection with framing, transport } ∧
      transport.sent = connection.transport.sent ++ writes ∧
      writes.flatten = Framing.writeRequests payloads ∧ requestsIn writes = payloads) ∨
    Ends connection (connection.writeOrFail (Outbound.requests payloads)) := by
  rcases write_requests_cases connection payloads with
    ⟨framing, transport, writes, hwrite, hsent, hflatten, hread⟩ |
    ⟨framing, transport, error, hwrite, hsent⟩
  · refine Or.inl ⟨framing, transport, writes, ?_, hsent, hflatten, hread⟩
    rw [writeOrFail, hwrite]
  · right
    rw [writeOrFail, hwrite]
    exact (ends_dispatch_failed _ error).trans_eq rfl hsent rfl

/-! ## Before commands may flow -/

omit [Command σ] in
/-- A packet that is written within an exchange is one write, or none if the transport fails. -/
theorem write_within_cases (connection : Connection σ) (payload : Bytes) :
    ∃ framing transport, ∃ written : Option Bytes,
      (connection.write [⟨[payload], false⟩]).1 = { connection with framing, transport } ∧
      transport.sent = connection.transport.sent ++ written.toList ∧
      ∀ octets ∈ written, octets = (connection.framing.encode payload).1 := by
  have hoctets : (Outbound.encodeAll connection.framing [⟨[payload], false⟩]).1 =
      (connection.framing.encode payload).1 := by
    show ((connection.framing.encode payload).1 ++ []) ++ [] = _
    rw [List.append_nil, List.append_nil]
  rw [write, if_neg (by simp)]
  cases hfault : connection.transport.fault connection.transport.attempts with
  | none =>
    refine ⟨_, _, some (connection.framing.encode payload).1, rfl, ?_, fun octets hmem =>
      (Option.some.inj hmem).symm⟩
    simp only [Transport.write, hfault, hoctets]
    rfl
  | some error =>
    refine ⟨_, _, none, rfl, ?_, by simp⟩
    simp only [Transport.write, hfault]
    exact (List.append_nil _).symm

/-- To wait and to ask for TLS changes nothing. -/
theorem carryOut_quiet {actions : List Lifecycle.Action}
    (h : ∀ action ∈ actions, action = .read ∨ action = .startTls) :
    (connection.carryOut actions).1 = connection := by
  induction actions with
  | nil => rfl
  | cons action rest ih =>
    rw [List.forall_mem_cons] at h
    obtain ⟨result, hperform⟩ : ∃ result, connection.perform action = (connection, result) := by
      rcases h.1 with rfl | rfl <;> exact ⟨_, rfl⟩
    rw [carryOut, hperform]
    cases result with
    | error error => rfl
    | ok done =>
      dsimp only
      split
      · rfl
      · exact ih h.2

/-- What is asked for on the way through a login: at most one packet is written, within an
exchange. -/
def IsReply (reply : Option Bytes) (actions : List Lifecycle.Action) : Prop :=
  ∃ rest, actions = (reply.map (Lifecycle.Action.send · false)).toList ++ rest ∧
    ∀ action ∈ rest, action = .read ∨ action = .startTls

theorem IsReply.exists_carryOut (connection : Connection σ) {reply : Option Bytes}
    {actions : List Lifecycle.Action} (h : IsReply reply actions) :
    ∃ framing transport, ∃ written : Option Bytes,
      (connection.carryOut actions).1 = { connection with framing, transport } ∧
      transport.sent = connection.transport.sent ++ written.toList ∧
      ∀ octets ∈ written, ∃ payload ∈ reply, octets = (connection.framing.encode payload).1 := by
  obtain ⟨rest, rfl, hrest⟩ := h
  cases reply with
  | none =>
    exact ⟨connection.framing, connection.transport, none, carryOut_quiet hrest,
      (List.append_nil _).symm, by simp⟩
  | some payload =>
    obtain ⟨framing, transport, written, hwrite, hsent, hwritten⟩ :=
      write_within_cases connection payload
    refine ⟨framing, transport, written, ?_, hsent, fun octets hmem =>
      ⟨payload, rfl, hwritten octets hmem⟩⟩
    have hperform : connection.perform (.send payload false) =
        connection.write [⟨[payload], false⟩] := rfl
    show (connection.carryOut (.send payload false :: rest)).1 = _
    rw [carryOut, hperform, ← hwrite]
    rcases connection.write [⟨[payload], false⟩] with ⟨next, error | done⟩
    · rfl
    · dsimp only
      rw [if_neg (by simp), carryOut_quiet hrest]

/-- The login goes on with an event, or is over: what is said has been written, or nothing. -/
structure Opens (event : Lifecycle.Event) (before after : Connection σ) : Prop where
  sent : ∃ written : Option Bytes,
    after.transport.sent = before.transport.sent ++ written.toList ∧
      ∀ octets ∈ written, Lifecycle.Step.Writes before.login ⟨before.lifecycle, event⟩ octets
  lifecycle : after.lifecycle = Lifecycle.Step.next before.login ⟨before.lifecycle, event⟩ ∨
    after.lifecycle = .closed
  ready : after.lifecycle.isReady = false
  queue : after.lifecycle.isClosed = false → after.queue = before.queue
  submissions : after.submissions = before.submissions

omit [Command σ] in
theorem Ends.opens {before after : Connection σ} (h : Ends before after) :
    Opens event before after where
  sent := ⟨none, h.sent.trans (List.append_nil _).symm, nofun⟩
  lifecycle := Or.inr h.lifecycle
  ready := by rw [h.lifecycle]; rfl
  queue hopen := by rw [h.lifecycle] at hopen; cases hopen
  submissions := h.submissions

omit [Command σ] in
theorem Opens.trans_ends {first second third : Connection σ} (h : Opens event first second)
    (h' : Ends second third) : Opens event first third where
  sent := by rw [h'.sent]; exact h.sent
  lifecycle := Or.inr h'.lifecycle
  ready := by rw [h'.lifecycle]; rfl
  queue hopen := by rw [h'.lifecycle] at hopen; cases hopen
  submissions := h'.submissions.trans h.submissions

/-- The connection once a session is established, but for what its queue asks to write. -/
def establish (connection : Connection σ) (session : Session) : Connection σ :=
  ({ connection.enter (.ready session.capabilities) with
      queue := (connection.queue.start session.capabilities).queue }.complete
    (connection.queue.start session.capabilities).completions).tellEstablished (.ok session)

/-- What an event leads to that neither establishes a session nor ends it. -/
theorem opens_react_of_reply {lifecycle : Lifecycle} {actions : List Lifecycle.Action}
    (hevent : connection.lifecycle.onEvent connection.login event = (lifecycle, actions))
    (hnext : lifecycle.isReady = false) {reply : Option Bytes} (hreply : IsReply reply actions) :
    Opens event connection (connection.react event).1 := by
  obtain ⟨news, henter⟩ := enter_eq connection lifecycle
  obtain ⟨framing, transport, written, hcarry, hsent, hwritten⟩ :=
    hreply.exists_carryOut (connection.enter lifecycle)
  have hreact : (connection.react event).1 = ((connection.enter lifecycle).carryOut actions).1 := by
    rw [react, hevent]
  rw [hreact, hcarry]
  rw [henter] at hsent hwritten ⊢
  refine ⟨⟨written, hsent, fun octets hmem => ?_⟩, Or.inl ?_, hnext, fun _ => rfl, rfl⟩
  · obtain ⟨payload, rfl, rfl⟩ := hwritten octets hmem
    obtain ⟨rest, rfl, -⟩ := hreply
    refine Lifecycle.Step.writes_of_send ?_ _
    rw [Lifecycle.Step.actions, hevent]
    exact List.mem_cons_self
  · rw [Lifecycle.Step.next, hevent]

theorem opens_react_of_fails (hclosed : connection.lifecycle.onEvent connection.login event =
      (.closed, [.shutdown, .fail .closed]) ∨
    ∃ error, connection.lifecycle.onEvent connection.login event = Lifecycle.failWith error) :
    Opens event connection (connection.react event).1 := by
  apply Ends.opens
  rcases hclosed with h | ⟨error, h⟩ <;> apply ends_react <;> simp [h, Lifecycle.failWith]

/-- **Before commands may flow**, an event makes the login go on or ends it, or it establishes a
session, and then the requests of the queue are written. -/
theorem opens_dispatch (hready : connection.lifecycle.isReady = false)
    (event : Lifecycle.Event) :
    Opens event connection (connection.dispatch event) ∨
      ∃ session, Lifecycle.Step.next connection.login ⟨connection.lifecycle, event⟩ =
          .ready session.capabilities ∧
        connection.dispatch event =
          (connection.establish session).writeOrFail
            (connection.queue.start session.capabilities).outbound := by
  have hgoes (hopens : Opens event connection (connection.react event).1) :
      Opens event connection (connection.dispatch event) := by
    cases hending : (connection.react event).2 with
    | done =>
      rw [dispatch_of_done hending]
      exact hopens
    | failed error =>
      rw [dispatch_of_failed hending]
      exact hopens.trans_ends (ends_dispatch_failed _ error)
    | upgrading rest =>
      rw [dispatch_of_upgrading hending]
      exact ⟨hopens.sent, hopens.lifecycle, hopens.ready, hopens.queue, hopens.submissions⟩
  have hquit := @Lifecycle.onEvent_ne_quit connection.login _ hready event
  have hshape := Lifecycle.isTransition_onEvent connection.login connection.lifecycle event
  generalize htransition : connection.lifecycle.onEvent connection.login event = transition
    at hshape hquit
  cases hshape with
  | rest =>
    have hreply : IsReply none [] := ⟨[], rfl, by simp⟩
    exact Or.inl (hgoes (opens_react_of_reply htransition rfl hreply))
  | begin =>
    have hreply : IsReply none [.read] := ⟨[.read], rfl, by simp⟩
    exact Or.inl (hgoes (opens_react_of_reply htransition rfl hreply))
  | upgrade greeting capabilities request =>
    have hreply : IsReply (some request) [.send request false, .startTls] :=
      ⟨[.startTls], rfl, by simp⟩
    exact Or.inl (hgoes (opens_react_of_reply htransition rfl hreply))
  | reply exchange session payload =>
    exact Or.inl (hgoes (opens_react_of_reply htransition rfl ⟨[.read], rfl, by simp⟩))
  | fail error => exact Or.inl (hgoes (opens_react_of_fails (Or.inr ⟨error, htransition⟩)))
  | close => exact Or.inl (hgoes (opens_react_of_fails (Or.inl htransition)))
  | quit => exact absurd rfl hquit
  | establish session =>
    right
    refine ⟨session, by rw [Lifecycle.Step.next, htransition], ?_⟩
    have hperform : (connection.enter (.ready session.capabilities)).perform
        (.established session) =
        (connection.establish session).write
          (connection.queue.start session.capabilities).outbound := by
      obtain ⟨news, henter⟩ := enter_eq connection (.ready session.capabilities)
      rw [establish, henter]
      rfl
    have hreact : connection.react event =
        (connection.enter (.ready session.capabilities)).carryOut [.established session] := by
      rw [react, htransition]
    rw [carryOut, hperform] at hreact
    rcases hwrite : (connection.establish session).write
        (connection.queue.start session.capabilities).outbound with ⟨next, error | done⟩
    · rw [hwrite] at hreact
      rw [writeOrFail, hwrite, dispatch_of_failed (by rw [hreact]), hreact]
    · rw [hwrite] at hreact
      dsimp only at hreact
      rw [if_neg (by simp), carryOut] at hreact
      rw [writeOrFail, hwrite, dispatch_of_done (by rw [hreact]), hreact]

/-! ## The end of a session in which commands may flow -/

/-- An event that a session fails with. -/
theorem ends_dispatch_of_fails {error : Error}
    (h : connection.lifecycle.onEvent connection.login event = Lifecycle.failWith error) :
    Ends connection (connection.dispatch event) := by
  have hdone : (connection.react event).2 = .done := by
    rw [react, h]
    rfl
  rw [dispatch_of_done hdone]
  apply ends_react <;> simp [h, Lifecycle.failWith]

/-- **A session is quit by writing that, or is just over.** -/
theorem dispatch_close_cases {capabilities : Capabilities}
    (h : connection.lifecycle = .ready capabilities) :
    (∃ writes, (connection.dispatch .close).transport.sent = connection.transport.sent ++ writes ∧
      writes.flatten = Framing.writeRequests [Request.quit.encode] ∧
      requestsIn writes = [Request.quit.encode] ∧
      (connection.dispatch .close).lifecycle = .closed ∧
      (connection.dispatch .close).submissions = connection.submissions) ∨
    Ends connection (connection.dispatch .close) := by
  have hevent : connection.lifecycle.onEvent connection.login .close =
      (.closed, [.send Request.quit.encode true, .shutdown]) := by
    rw [h]
    rfl
  obtain ⟨news, henter⟩ := enter_eq connection .closed
  have hreact : connection.react .close =
      (connection.enter .closed).carryOut [.send Request.quit.encode true, .shutdown] := by
    rw [react, hevent]
  have hperform : (connection.enter .closed).perform (.send Request.quit.encode true) =
      (connection.enter .closed).write (Outbound.requests [Request.quit.encode]) := rfl
  rw [carryOut, hperform] at hreact
  rcases write_requests_cases (connection.enter .closed) [Request.quit.encode] with
    ⟨framing, transport, writes, hwrite, hsent, hflatten, hread⟩ |
    ⟨framing, transport, error, hwrite, hsent⟩
  · left
    rw [hwrite] at hreact
    dsimp only at hreact
    rw [if_neg (by simp)] at hreact
    have hdone : (connection.react .close).2 = .done := by
      rw [hreact]
      rfl
    rw [dispatch_of_done hdone, hreact]
    rw [henter] at hsent ⊢
    exact ⟨writes, hsent, hflatten, hread, rfl, rfl⟩
  · right
    rw [hwrite] at hreact
    have hfailed : (connection.react .close).2 = .failed error := by
      rw [hreact]
    rw [dispatch_of_failed hfailed]
    refine (ends_dispatch_failed _ error).trans_eq ?_ ?_ ?_
    · exact (frame_react connection .close).1
    · rw [hreact]
      rw [henter] at hsent
      exact hsent
    · exact (frame_react connection .close).2

end Connection

end MySqlClient
