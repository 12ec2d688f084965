import MySqlClient.Proofs.Connection.Openings

/-!
# The order of what is written

Over a whole life of a connection with built-in commands: first nothing is written but what the
lifecycle says on its way through the login; once commands may flow, the session is disciplined; and
when the session is over, nothing is written any more.

* `Connection.Stage`: where a connection stands, by what has happened.
* `Connection.happenings_of_quiet`, `octets_happenings`: what a part of a step adds to a journal.
* `Journal.InOrder`: the invariant; `InOrder.dispatch`, `InOrder.take`, `InOrder.serve`: it is kept
  by the parts of a step; `InOrder.step`: **it is kept by every step.**
* `Connection.wire_order`: **in every run the login comes first, each write of it said by the
  lifecycle in the step that it has just made, and then only requests are written, each numbered
  from zero on, and none before those are answered that it has to wait for.**
-/

namespace MySqlClient

/-! ## Happenings -/

namespace Connection

variable {σ : Type} {before after : Connection σ} {writes : List Bytes}

theorem writtenSince_eq (hsent : after.transport.sent = before.transport.sent ++ writes) :
    before.writtenSince after = writes := by
  rw [writtenSince, hsent, List.drop_left]

theorem askedSince_eq (hsent : after.transport.sent = before.transport.sent ++ writes) :
    before.askedSince after = (requestsIn writes).map (.asked after.queue.inFlight?) := by
  rw [askedSince, writtenSince_eq hsent]

theorem completedSince_eq (news : List (Notice σ)) (h : after.notices = before.notices ++ news) :
    before.completedSince after = news.filterMap Notice.ticket? := by
  rw [completedSince, h, List.drop_left]

theorem isClosed_of_isAttentive {connection : Connection σ}
    (h : connection.isAttentive = true) : connection.lifecycle.isClosed = false := by
  rw [isAttentive, Bool.and_eq_true, Bool.not_eq_true'] at h
  exact h.1

theorem capabilities?_of_not_isReady {lifecycle : Lifecycle} (h : lifecycle.isReady = false) :
    lifecycle.capabilities? = none := by
  cases lifecycle with
  | ready capabilities => cases h
  | _ => rfl

/-- While the session is being established. -/
theorem happenings_of_opening (hbefore : before.lifecycle.isReady = false)
    (hafter : after.lifecycle.isReady = false)
    (hsent : after.transport.sent = before.transport.sent ++ writes) :
    before.happenings after =
      (before.completedSince after).map .completed ++ writes.map .wrote := by
  unfold happenings
  dsimp only
  rw [if_neg (by simp [hbefore]), capabilities?_of_not_isReady hafter, writtenSince_eq hsent]

/-- When it has been established. -/
theorem happenings_of_established (hbefore : before.lifecycle.isReady = false)
    {capabilities : Capabilities} (hafter : after.lifecycle = .ready capabilities)
    (hsent : after.transport.sent = before.transport.sent ++ writes) :
    before.happenings after =
      .ready capabilities :: ((before.completedSince after).map .completed ++
        (requestsIn writes).map (.asked after.queue.inFlight?)) := by
  unfold happenings
  dsimp only
  rw [if_neg (by simp [hbefore]), hafter, askedSince_eq hsent]
  rfl

/-- When commands may flow. -/
theorem happenings_of_serving (hbefore : before.lifecycle.isReady = true)
    (hsent : after.transport.sent = before.transport.sent ++ writes) :
    before.happenings after =
      (before.completedSince after).map .completed ++
        (requestsIn writes).map (.asked after.queue.inFlight?) := by
  unfold happenings
  dsimp only
  rw [if_pos hbefore, askedSince_eq hsent]

/-- **When nothing is written, only commands are complete.** -/
theorem happenings_of_quiet
    (hready : before.lifecycle.isReady = true ∨ after.lifecycle.isReady = false)
    (hsent : after.transport.sent = before.transport.sent) :
    before.happenings after = (before.completedSince after).map .completed := by
  have hnone : after.transport.sent = before.transport.sent ++ [] :=
    hsent.trans (List.append_nil _).symm
  cases hbefore : before.lifecycle.isReady with
  | true =>
    rw [happenings_of_serving hbefore hnone]
    exact List.append_nil _
  | false =>
    rw [happenings_of_opening hbefore (hready.resolve_left (by simp [hbefore])) hnone]
    exact List.append_nil _

/-- **What is written is what is noted**, if once commands may flow only requests are. -/
theorem octets_happenings (hsent : after.transport.sent = before.transport.sent ++ writes)
    (hrequests : before.lifecycle.isReady = true ∨ after.lifecycle.isReady = true →
      writes.flatten = Framing.writeRequests (requestsIn writes)) :
    (before.happenings after).flatMap Happening.octets = writes.flatten := by
  cases hbefore : before.lifecycle.isReady with
  | true =>
    rw [happenings_of_serving hbefore hsent, List.flatMap_append, Happening.octets_completed,
      Happening.octets_asked, List.nil_append, hrequests (Or.inl hbefore)]
  | false =>
    cases hafter : after.lifecycle with
    | ready capabilities =>
      rw [happenings_of_established hbefore hafter hsent, List.flatMap_cons, List.flatMap_append,
        Happening.octets_completed, Happening.octets_asked, List.nil_append,
        hrequests (Or.inr (by rw [hafter]; rfl))]
      rfl
    | _ =>
      rw [happenings_of_opening hbefore (by rw [hafter]; rfl) hsent, List.flatMap_append,
        Happening.octets_completed, Happening.octets_wrote, List.nil_append]

/-! ## Where a connection stands -/

/-- Where a connection stands, by what has happened: the session is being established and nothing
has been asked, or commands may flow and the queue serves them, or the session is over. -/
inductive Stage {η : Type} (login : Login) :
    List Happening → Connection (Builtin η) → Prop
  | opening {log : List Happening} {connection : Connection (Builtin η)}
      (hlog : IsOpening login log connection.lifecycle)
      (hready : connection.lifecycle.isReady = false)
      (hinactive : connection.queue.active = false)
      (hagreed : connection.queue.capabilities = none)
      (hfresh : ∀ entry ∈ connection.queue.entries, entry.command.Fresh) :
      Stage login log connection
  | serving {opening session : List Happening} {capabilities : Capabilities}
      {connection : Connection (Builtin η)}
      (hopening : IsOpening login opening (.ready capabilities))
      (hlifecycle : connection.lifecycle = .ready capabilities)
      (hsession : IsSession capabilities session)
      (hserves : Queue.Serves capabilities session connection.queue) :
      Stage login (opening ++ .ready capabilities :: session) connection
  | ended {log : List Happening} {connection : Connection (Builtin η)} (hlog : IsRecord login log)
      (hclosed : connection.lifecycle = .closed) : Stage login log connection

namespace Stage

variable {η : Type} {login : Login} {log : List Happening}
  {connection next : Connection (Builtin η)}

/-- The lifecycle is where the steps lead that have been noted, or the session is over. -/
theorem exists_opening (h : connection.Stage login log) :
    ∃ opening rest state, log = opening ++ rest ∧ IsOpening login opening state ∧
      (connection.lifecycle = state ∨ connection.lifecycle = .closed) ∧
      (rest = [] ∨ ∃ capabilities session, state = .ready capabilities ∧
        rest = .ready capabilities :: session ∧ Disciplined capabilities session) := by
  cases h with
  | opening hlog => exact ⟨log, [], _, (List.append_nil log).symm, hlog, Or.inl rfl, Or.inl rfl⟩
  | serving hopening hlifecycle hsession =>
    exact ⟨_, _, _, rfl, hopening, Or.inl hlifecycle,
      Or.inr ⟨_, _, rfl, rfl, hsession.disciplined⟩⟩
  | ended hlog hclosed =>
    obtain ⟨opening, rest, state, hsplit, hopening, hrest⟩ := hlog
    exact ⟨opening, rest, state, hsplit, hopening, Or.inr hclosed, hrest⟩

theorem isRecord (h : connection.Stage login log) : IsRecord login log := by
  obtain ⟨opening, rest, state, hlog, hopening, -, hrest⟩ := h.exists_opening
  exact ⟨opening, rest, state, hlog, hopening, hrest⟩

/-- A stage is one of the lifecycle and the queue. -/
theorem congr (h : connection.Stage login log) (hlifecycle : next.lifecycle = connection.lifecycle)
    (hqueue : next.queue = connection.queue) : next.Stage login log := by
  cases h with
  | opening hlog hready hinactive hagreed hfresh =>
    rw [← hlifecycle] at hlog hready
    rw [← hqueue] at hinactive hagreed hfresh
    exact .opening hlog hready hinactive hagreed hfresh
  | serving hopening hready hsession hserves =>
    rw [← hqueue] at hserves
    exact .serving hopening (hlifecycle.trans hready) hsession hserves
  | ended hlog hclosed => exact .ended hlog (hlifecycle.trans hclosed)

theorem opening_of_not_isReady (h : connection.Stage login log)
    (hready : connection.lifecycle.isReady = false)
    (hopen : connection.lifecycle.isClosed = false) :
    IsOpening login log connection.lifecycle ∧ connection.queue.active = false ∧
      connection.queue.capabilities = none ∧
      ∀ entry ∈ connection.queue.entries, entry.command.Fresh := by
  cases h with
  | opening hlog _ hinactive hagreed hfresh => exact ⟨hlog, hinactive, hagreed, hfresh⟩
  | serving _ hserving =>
    rw [hserving] at hready
    cases hready
  | ended _ hclosed =>
    rw [hclosed] at hopen
    cases hopen

theorem exists_session_of_isReady (h : connection.Stage login log)
    (hready : connection.lifecycle.isReady = true) :
    ∃ opening capabilities session, log = opening ++ .ready capabilities :: session ∧
      IsOpening login opening (.ready capabilities) ∧
      connection.lifecycle = .ready capabilities ∧ IsSession capabilities session ∧
      Queue.Serves capabilities session connection.queue := by
  cases h with
  | opening _ hopening =>
    rw [hopening] at hready
    cases hready
  | serving hopening hlifecycle hsession hserves =>
    exact ⟨_, _, _, rfl, hopening, hlifecycle, hsession, hserves⟩
  | ended _ hclosed =>
    rw [hclosed] at hready
    cases hready

end Stage

end Connection

/-- A command that is submitted has not been begun. -/
def Submission.Fresh {η : Type} : Submission (Builtin η) → Prop
  | .command entry => entry.command.Fresh
  | .close _ => True

/-- What is left alone when a session is established. -/
theorem Connection.exists_establish_eq {η : Type} (connection : Connection (Builtin η))
    (session : Session) :
    ∃ establishing news, connection.establish session =
      { connection with
        lifecycle := .ready session.capabilities
        queue := (connection.queue.start session.capabilities).queue
        establishing
        notices := connection.notices ++ news } := by
  obtain ⟨news, henter⟩ := enter_eq connection (.ready session.capabilities)
  let told : List (Notice (Builtin η)) :=
    (connection.queue.start session.capabilities).completions.map .completed
  rw [establish, henter]
  unfold tellEstablished
  split
  · refine ⟨false, news ++ (told ++ [.established (.ok session)]), ?_⟩
    simp only [complete, tell, List.append_assoc, told]
  · refine ⟨connection.establishing, news ++ told, ?_⟩
    simp only [complete, tell, List.append_assoc, told]

/-! ## The invariant -/

namespace Journal

variable {η : Type}

/-- The journal is a record of what has been written, and the connection stands where it says. -/
structure InOrder (login : Login) (journal : Journal (Builtin η)) : Prop where
  login_eq : journal.connection.login = login
  submissions : ∀ submission ∈ journal.connection.submissions, submission.Fresh
  stage : journal.connection.Stage login journal.log
  written : journal.connection.transport.sent.flatten = journal.log.flatMap Happening.octets

variable {login : Login} {journal : Journal (Builtin η)} {next middle : Connection (Builtin η)}
  {heard : List Happening} {writes payloads : List Bytes}

theorem written_become
    (h : journal.connection.transport.sent.flatten = journal.log.flatMap Happening.octets)
    (hheard : heard.flatMap Happening.octets = [])
    (hsent : next.transport.sent = journal.connection.transport.sent ++ writes)
    (hrequests : journal.connection.lifecycle.isReady = true ∨ next.lifecycle.isReady = true →
      writes.flatten = Framing.writeRequests (Connection.requestsIn writes)) :
    (journal.become heard next).connection.transport.sent.flatten =
      (journal.become heard next).log.flatMap Happening.octets := by
  show next.transport.sent.flatten =
    (journal.log ++ (heard ++ journal.connection.happenings next)).flatMap Happening.octets
  rw [List.flatMap_append, List.flatMap_append, hheard, List.nil_append,
    Connection.octets_happenings hsent hrequests, hsent, List.flatten_append, h]

/-- What the lifecycle is told belongs to the login. -/
theorem isRecord_append_tells (h : journal.connection.Stage login journal.log)
    (hopen : journal.connection.lifecycle.isClosed = false) (event : Lifecycle.Event) :
    IsRecord login (journal.log ++ journal.connection.tells event) := by
  unfold Connection.tells
  cases hready : journal.connection.lifecycle.isReady with
  | true =>
    rw [if_pos rfl, List.append_nil]
    exact h.isRecord
  | false =>
    rw [if_neg Bool.false_ne_true]
    exact .of_opening ((h.opening_of_not_isReady hready hopen).1.concat_told hready event)

/-- What commands are handed belongs to the session. -/
theorem isRecord_append_hands (h : journal.connection.Stage login journal.log)
    (hready : journal.connection.lifecycle.isReady = true) (packet : Packet) :
    IsRecord login (journal.log ++ journal.connection.queue.hands packet) := by
  obtain ⟨opening, capabilities, session, hlog, hopening, -, hsession, -⟩ :=
    h.exists_session_of_isReady hready
  rw [hlog, List.append_assoc, List.cons_append]
  exact .of_session hopening (hsession.disciplined.append_heard (by simp [Queue.hands]))

namespace InOrder

/-- **When the session is over, nothing is written.** -/
theorem ended (h : journal.InOrder login) (hrecord : IsRecord login (journal.log ++ heard))
    (hheard : heard.flatMap Happening.octets = []) (hclosed : next.lifecycle = .closed)
    (hsent : next.transport.sent = journal.connection.transport.sent)
    (hlogin : next.login = journal.connection.login)
    (hsubmissions : ∀ submission ∈ next.submissions, submission.Fresh) :
    (journal.become heard next).InOrder login := by
  have hrecord := hrecord.append_completed (journal.connection.completedSince next)
  rw [← Connection.happenings_of_quiet (Or.inr (by rw [hclosed]; rfl)) hsent,
    List.append_assoc] at hrecord
  exact ⟨hlogin.trans h.login_eq, hsubmissions, .ended hrecord hclosed,
    written_become h.written hheard (hsent.trans (List.append_nil _).symm) fun _ => rfl⟩

theorem ends (h : journal.InOrder login) (hrecord : IsRecord login (journal.log ++ heard))
    (hheard : heard.flatMap Happening.octets = [])
    (hends : Connection.Ends journal.connection next)
    (hlogin : next.login = journal.connection.login) :
    (journal.become heard next).InOrder login :=
  h.ended hrecord hheard hends.lifecycle hends.sent hlogin
    (by rw [hends.submissions]; exact h.submissions)

/-- What neither is told nor written is not noted. -/
theorem rest (h : journal.InOrder login) (hlogin : next.login = journal.connection.login)
    (hlifecycle : next.lifecycle = journal.connection.lifecycle)
    (hstage : next.Stage login journal.log)
    (hsent : next.transport.sent = journal.connection.transport.sent)
    (hnotices : next.notices = journal.connection.notices)
    (hsubmissions : ∀ submission ∈ next.submissions, submission.Fresh) :
    (journal.become [] next).InOrder login := by
  have hquiet : journal.connection.happenings next = [] := by
    have hready : journal.connection.lifecycle.isReady = true ∨ next.lifecycle.isReady = false := by
      rw [hlifecycle]
      exact Bool.eq_false_or_eq_true _
    rw [Connection.happenings_of_quiet hready hsent,
      Connection.completedSince_eq [] (hnotices.trans (List.append_nil _).symm)]
    rfl
  have hlog : (journal.become [] next).log = journal.log := by
    show journal.log ++ ([] ++ journal.connection.happenings next) = _
    rw [hquiet, List.append_nil, List.append_nil]
  refine ⟨hlogin.trans h.login_eq, hsubmissions, ?_, ?_⟩
  · rw [hlog]
    exact hstage
  · rw [hlog, ← h.written]
    exact congrArg _ hsent

/-! ### While the session is being established -/

/-- The login goes on, or is over. -/
theorem opens (h : journal.InOrder login)
    (hready : journal.connection.lifecycle.isReady = false)
    (hopen : journal.connection.lifecycle.isClosed = false) {event : Lifecycle.Event}
    (hopens : Connection.Opens event journal.connection next)
    (hlogin : next.login = journal.connection.login) :
    (journal.become [.told ⟨journal.connection.lifecycle, event⟩] next).InOrder login := by
  obtain ⟨hlog, hinactive, hagreed, hfresh⟩ := h.stage.opening_of_not_isReady hready hopen
  obtain ⟨written, hsent, hwritten⟩ := hopens.sent
  rw [h.login_eq] at hwritten
  have hopening := hlog.step hready event (journal.connection.completedSince next) hwritten
  rw [← Connection.happenings_of_opening hready hopens.ready hsent] at hopening
  refine ⟨hlogin.trans h.login_eq, ?_, ?_, written_become h.written rfl hsent ?_⟩
  · show ∀ submission ∈ next.submissions, submission.Fresh
    rw [hopens.submissions]
    exact h.submissions
  · cases hclosed : next.lifecycle.isClosed with
    | true => exact .ended (.of_opening hopening) (Lifecycle.eq_closed_of_isClosed hclosed)
    | false =>
      have hnext := hopens.lifecycle.resolve_right fun heq => by
        rw [heq] at hclosed
        cases hclosed
      rw [h.login_eq] at hnext
      rw [← hnext] at hopening
      have hqueue := hopens.queue hclosed
      rw [← hqueue] at hinactive hagreed hfresh
      exact .opening hopening hopens.ready hinactive hagreed hfresh
  · rw [hready, hopens.ready]
    simp

/-- The session begins, and with it the first command that waits. -/
theorem establishes (h : journal.InOrder login)
    (hready : journal.connection.lifecycle.isReady = false)
    (hopen : journal.connection.lifecycle.isClosed = false) {event : Lifecycle.Event}
    {session : Session}
    (hnext : Lifecycle.Step.next login ⟨journal.connection.lifecycle, event⟩ =
      .ready session.capabilities)
    (hlogin : ((journal.connection.establish session).writeOrFail
      (journal.connection.queue.start session.capabilities).outbound).login =
        journal.connection.login) :
    (journal.become [.told ⟨journal.connection.lifecycle, event⟩]
      ((journal.connection.establish session).writeOrFail
        (journal.connection.queue.start session.capabilities).outbound)).InOrder login := by
  obtain ⟨hlog, hinactive, -, hfresh⟩ := h.stage.opening_of_not_isReady hready hopen
  have hopening := hlog.concat_told hready event
  rw [hnext] at hopening
  obtain ⟨following, payloads, hactivate, hserves⟩ :=
    Queue.exists_serves_activateHead session.capabilities hfresh
  have hstart : journal.connection.queue.start session.capabilities =
      { queue := following, outbound := Outbound.requests payloads } := by
    rw [← hactivate, Queue.start, hinactive]
  obtain ⟨establishing, news, hestablish⟩ :=
    Connection.exists_establish_eq journal.connection session
  rw [hestablish, hstart] at hlogin ⊢
  rcases Connection.writeOrFail_requests_cases
      { journal.connection with
        lifecycle := .ready session.capabilities
        queue := following
        establishing
        notices := journal.connection.notices ++ news } payloads with
    ⟨framing, transport, writes, hwrite, hsent, hflatten, hread⟩ | hends
  · rw [hwrite] at hlogin ⊢
    refine ⟨hlogin.trans h.login_eq, h.submissions, ?_,
      written_become h.written rfl hsent fun _ => hread ▸ hflatten⟩
    -- nothing has been asked in the session so far
    have hcompleted (tickets : List Nat) :
        IsSession session.capabilities (tickets.map .completed) ∧
          Settled (tickets.map .completed) :=
      ⟨(IsSession.nil session.capabilities).append_heard (by simp), Settled.nil.append (by simp)⟩
    obtain ⟨hsession, hbusy⟩ := hserves _ (hcompleted _).1 (hcompleted
      (journal.connection.completedSince _)).2
    show Connection.Stage login (journal.log ++ ([.told ⟨journal.connection.lifecycle, event⟩] ++
      journal.connection.happenings _)) _
    rw [← List.append_assoc, Connection.happenings_of_established hready rfl hsent, hread]
    exact .serving hopening rfl hsession hbusy
  · exact h.ended (.of_opening hopening) rfl hends.lifecycle hends.sent hlogin
      (by rw [hends.submissions]; exact h.submissions)

/-- **Before commands may flow**, an event makes the login go on, or ends it, or now the session
begins. -/
theorem dispatch (h : journal.InOrder login)
    (hready : journal.connection.lifecycle.isReady = false)
    (hopen : journal.connection.lifecycle.isClosed = false) (event : Lifecycle.Event) :
    (journal.become (journal.connection.tells event)
      (journal.connection.dispatch event)).InOrder login := by
  have hlogin := (Connection.continues_dispatch journal.connection event).login
  rw [Connection.tells, if_neg (by simp [hready])]
  rcases Connection.opens_dispatch hready event with hopens | ⟨session, hnext, hestablished⟩
  · exact h.opens hready hopen hopens hlogin
  · rw [h.login_eq] at hnext
    rw [hestablished] at hlogin ⊢
    exact h.establishes hready hopen hnext hlogin

/-! ### Once commands may flow -/

/-- **The queue is served**: what it asks for is written, or the session is over. -/
theorem writeOrFail (h : journal.InOrder login) {opening session : List Happening}
    {capabilities : Capabilities} (hlog : journal.log = opening ++ .ready capabilities :: session)
    (hopening : IsOpening login opening (.ready capabilities))
    (hlifecycle : journal.connection.lifecycle = .ready capabilities)
    (hrecord : IsRecord login (journal.log ++ heard))
    (hheard : heard.flatMap Happening.octets = [])
    (hmiddle : middle.lifecycle = journal.connection.lifecycle)
    (hsent : middle.transport.sent = journal.connection.transport.sent)
    (hsubmissions : ∀ submission ∈ middle.submissions, submission.Fresh)
    (hlogin : middle.login = journal.connection.login)
    (hsession : IsSession capabilities (session ++ (heard ++
      ((journal.connection.completedSince middle).map .completed ++
        payloads.map (.asked middle.queue.inFlight?)))))
    (hserves : Queue.Serves capabilities (session ++ (heard ++
      ((journal.connection.completedSince middle).map .completed ++
        payloads.map (.asked middle.queue.inFlight?)))) middle.queue) :
    (journal.become heard (middle.writeOrFail (Outbound.requests payloads))).InOrder login := by
  have hready : journal.connection.lifecycle.isReady = true := by
    rw [hlifecycle]
    rfl
  rcases Connection.writeOrFail_requests_cases middle payloads with
    ⟨framing, transport, writes, hwrite, hwritten, hflatten, hread⟩ | hends
  · rw [hsent] at hwritten
    rw [hwrite]
    refine ⟨hlogin.trans h.login_eq, hsubmissions, ?_,
      written_become h.written hheard hwritten fun _ => hread ▸ hflatten⟩
    show Connection.Stage login (journal.log ++ (heard ++ journal.connection.happenings _)) _
    rw [Connection.happenings_of_serving hready hwritten, hread, hlog, List.append_assoc,
      List.cons_append]
    exact .serving hopening (hmiddle.trans hlifecycle) hsession hserves
  · exact h.ended hrecord hheard hends.lifecycle (hends.sent.trans hsent)
      ((Connection.continues_writeOrFail middle _).login.trans hlogin)
      (by rw [hends.submissions]; exact hsubmissions)

/-- **A packet** goes to the lifecycle or to the queue. -/
theorem take (h : journal.InOrder login)
    (hopen : journal.connection.lifecycle.isClosed = false) (packet : Packet) :
    (journal.become (journal.connection.routes packet)
      (journal.connection.take packet)).InOrder login := by
  unfold Connection.routes
  cases hready : journal.connection.lifecycle.isReady with
  | false =>
    rw [if_neg Bool.false_ne_true, Connection.take_of_not_isReady hready]
    exact h.dispatch hready hopen _
  | true =>
    rw [if_pos rfl]
    have hrecord := isRecord_append_hands h.stage hready packet
    have hheard := journal.connection.queue.octets_hands packet
    cases hresult : (journal.connection.queue.handle packet).result with
    | error error =>
      rw [Connection.take_of_error hready hresult]
      exact h.ends hrecord hheard
        ((Connection.ends_dispatch_failed _ error).trans_eq rfl rfl rfl)
        (Connection.continues_dispatch _ _).login
    | ok outbound =>
      obtain ⟨opening, capabilities, session, hlog, hopening, hlifecycle, hsession, hserves⟩ :=
        h.stage.exists_session_of_isReady hready
      obtain ⟨payloads, rfl, hmore, hbusy⟩ := Queue.exists_serves_handle hserves hsession hresult
      have hcompleted : journal.connection.completedSince (journal.connection.handled packet) =
          (journal.connection.queue.handle packet).completions.map Completion.ticket := by
        rw [← Notice.tickets_completed]
        exact Connection.completedSince_eq _ rfl
      rw [Queue.Handled.notes, ← hcompleted] at hmore hbusy
      rw [Connection.take_of_ok hready hresult]
      exact h.writeOrFail hlog hopening hlifecycle hrecord hheard rfl rfl h.submissions rfl hmore
        hbusy

/-- The end is asked for. -/
theorem close (h : journal.InOrder login)
    (hopen : journal.connection.lifecycle.isClosed = false) :
    (journal.become (journal.connection.tells .close)
      (journal.connection.dispatch .close)).InOrder login := by
  have hlogin := (Connection.continues_dispatch journal.connection .close).login
  cases hready : journal.connection.lifecycle.isReady with
  | false => exact h.dispatch hready hopen _
  | true =>
    rw [Connection.tells, if_pos hready]
    obtain ⟨opening, capabilities, session, hlog, hopening, hlifecycle, hsession, -⟩ :=
      h.stage.exists_session_of_isReady hready
    rcases Connection.dispatch_close_cases hlifecycle with
      ⟨writes, hsent, hflatten, hread, hclosed, hsubmissions⟩ | hends
    · refine ⟨hlogin.trans h.login_eq, ?_, .ended ?_ hclosed,
        written_become h.written rfl hsent fun _ => hread ▸ hflatten⟩
      · show ∀ submission ∈ (journal.connection.dispatch .close).submissions, submission.Fresh
        rw [hsubmissions]
        exact h.submissions
      · show IsRecord login (journal.log ++ ([] ++ journal.connection.happenings _))
        rw [Connection.happenings_of_serving hready hsent, hread, hlog, List.nil_append,
          List.append_assoc, List.cons_append, ← List.append_assoc session]
        exact .of_session hopening
          ((hsession.append_heard (by simp)).disciplined_quit _)
    · refine h.ends ?_ rfl hends hlogin
      rw [List.append_nil]
      exact h.stage.isRecord

/-- **The next submission is taken.** -/
theorem serve (h : journal.InOrder login)
    (hopen : journal.connection.lifecycle.isClosed = false) :
    (journal.become journal.connection.attends journal.connection.serve).InOrder login := by
  have hall := h.submissions
  unfold Connection.serve Connection.attends
  rcases hsubmissions : journal.connection.submissions with _ | ⟨entry | waiter, rest⟩
  · dsimp only
    split
    · exact h.close hopen
    · exact h.rest rfl rfl h.stage rfl rfl h.submissions
  · rw [hsubmissions, List.forall_mem_cons] at hall
    dsimp only
    cases hready : journal.connection.lifecycle.isReady with
    | false =>
      -- the command only waits
      obtain ⟨hlog, hinactive, hagreed, hfresh⟩ := h.stage.opening_of_not_isReady hready hopen
      have hpush : journal.connection.queue.push entry =
          { queue := ⟨journal.connection.queue.entries ++ [entry], false, none⟩ } := by
        rw [Queue.push, hinactive, hagreed]
        rfl
      rw [hpush]
      refine h.rest rfl rfl (.opening hlog hready rfl rfl ?_) rfl (List.append_nil _) hall.2
      exact List.forall_mem_append.mpr ⟨hfresh, List.forall_mem_singleton.mpr hall.1⟩
    | true =>
      obtain ⟨opening, capabilities, session, hlog, hopening, hlifecycle, hsession, hserves⟩ :=
        h.stage.exists_session_of_isReady hready
      obtain ⟨next, payloads, hpush, hmore, hbusy⟩ :=
        Queue.exists_serves_push hserves hsession hall.1
      rw [hpush]
      have hcompleted : journal.connection.completedSince
          ({ journal.connection with submissions := rest, queue := next }.complete []) = [] :=
        Connection.completedSince_eq [] rfl
      refine h.writeOrFail hlog hopening hlifecycle ?_ rfl rfl rfl hall.2 rfl ?_ ?_
      · rw [List.append_nil]
        exact h.stage.isRecord
      · rw [hcompleted]
        exact hmore
      · rw [hcompleted]
        exact hbusy
  · rw [hsubmissions, List.forall_mem_cons] at hall
    have hasked : InOrder login
        { journal with
          connection := { journal.connection with
            submissions := rest
            closeWaiters := journal.connection.closeWaiters ++ [waiter] } } :=
      ⟨h.login_eq, hall.2, h.stage.congr rfl rfl, h.written⟩
    exact hasked.close hopen

/-- An event that no session survives. -/
theorem fails (h : journal.InOrder login)
    (hopen : journal.connection.lifecycle.isClosed = false) {event : Lifecycle.Event}
    (hevent : event = .transportClosed ∨ ∃ error, event = .failed error) :
    (journal.become (journal.connection.tells event)
      (journal.connection.dispatch event)).InOrder login := by
  have hfails : ∃ error, journal.connection.lifecycle.onEvent journal.connection.login event =
      Lifecycle.failWith error := by
    cases hlifecycle : journal.connection.lifecycle with
    | closed =>
      rw [hlifecycle] at hopen
      cases hopen
    | _ => rcases hevent with rfl | ⟨error, rfl⟩ <;> exact ⟨_, rfl⟩
  obtain ⟨error, hfails⟩ := hfails
  exact h.ends (isRecord_append_tells h.stage hopen event) (journal.connection.octets_tells event)
    (Connection.ends_dispatch_of_fails hfails) (Connection.continues_dispatch _ _).login

/-! ### Steps -/

/-- What is left alone at the end. -/
theorem finish_frame (connection : Connection (Builtin η)) :
    connection.finish.login = connection.login ∧
      connection.finish.lifecycle = connection.lifecycle ∧
      connection.finish.transport.sent = connection.transport.sent := by
  unfold Connection.finish Connection.tellEstablished
  dsimp only
  split <;> exact ⟨rfl, rfl, rfl⟩

theorem settle (h : journal.InOrder login) : journal.settle.InOrder login := by
  unfold Journal.settle Connection.settle
  split
  · next hover =>
    rw [Bool.and_eq_true, Bool.and_eq_true] at hover
    have hclosed := Lifecycle.eq_closed_of_isClosed hover.1.1
    obtain ⟨hlogin, hlifecycle, hsent⟩ := finish_frame journal.connection
    refine h.ended ?_ rfl (hlifecycle.trans hclosed) hsent hlogin nofun
    rw [List.append_nil]
    exact h.stage.isRecord
  · exact h.rest rfl rfl h.stage rfl rfl h.submissions

theorem whenAwake {next : Journal (Builtin η)} (h : journal.InOrder login)
    (hnext : journal.connection.lifecycle.isClosed = false → next.InOrder login) :
    (journal.whenAwake next).InOrder login := by
  unfold Journal.whenAwake
  split
  · next hattentive =>
    exact (hnext (Connection.isClosed_of_isAttentive hattentive)).settle
  · exact h

/-- Octets are taken off. -/
theorem read (h : journal.InOrder login) (framing : Framing) (rest : Bytes) :
    InOrder login
      { journal with connection := { journal.connection with framing, inbox := rest } } :=
  ⟨h.login_eq, h.submissions, h.stage.congr rfl rfl, h.written⟩

/-- **Packet by packet.** -/
theorem consume (h : journal.InOrder login) (octets : Bytes) :
    (journal.consume octets).InOrder login := by
  refine consume_induction ?_ ?_ ?_ h
  · intro journal octets rest framing packet h hattentive _
    exact (h.read framing rest).take (Connection.isClosed_of_isAttentive hattentive) packet
  · intro journal octets rest framing error h hattentive hdecode
    rw [Connection.consume_of_error hattentive hdecode]
    exact (h.read framing rest).fails (Connection.isClosed_of_isAttentive hattentive)
      (Or.inr ⟨error, rfl⟩)
  · intro journal octets h hnone
    cases hattentive : journal.connection.isAttentive with
    | false =>
      rw [Connection.consume_of_inattentive hattentive]
      exact h.rest rfl rfl (h.stage.congr rfl rfl) rfl rfl h.submissions
    | true =>
      obtain ⟨framing, rest, hdecode⟩ := hnone hattentive
      rw [Connection.consume_of_none hattentive hdecode]
      exact h.rest rfl rfl (h.stage.congr rfl rfl) rfl rfl h.submissions

/-- The end of an upgrade. -/
theorem resume (h : journal.InOrder login) (hpoised : journal.connection.Poised)
    {suspension : Suspension} (hsuspension : journal.connection.suspension = some suspension)
    (result : Outcome Unit) :
    (journal.become (journal.connection.tells (Connection.upgradeEvent result))
      (journal.connection.resume suspension result)).InOrder login := by
  rcases hpoised with hnone | ⟨hsome, greeting, capabilities, hawaiting⟩
  · rw [hnone] at hsuspension
    cases hsuspension
  · rw [hsome] at hsuspension
    cases hsuspension
    have hawake : InOrder login
        { journal with connection := { journal.connection with suspension := none } } :=
      ⟨h.login_eq, h.submissions, h.stage.congr rfl rfl, h.written⟩
    rw [Connection.resume_eq_dispatch]
    exact hawake.dispatch (by rw [hawaiting]; rfl) (by rw [hawaiting]; rfl) _

/-- **Every step keeps the order.** -/
theorem step (h : journal.InOrder login) (hpoised : journal.connection.Poised)
    (input : Connection.Input (Builtin η))
    (hfresh : ∀ entry, input = .submit (.command entry) → entry.command.Fresh) :
    (journal.step input).InOrder login := by
  cases input with
  | submit submission =>
    show (journal.become [] (journal.connection.step (.submit submission))).InOrder login
    rw [Connection.step]
    split
    · exact h.rest rfl rfl h.stage rfl rfl h.submissions
    · refine h.rest rfl rfl (h.stage.congr rfl rfl) rfl rfl
        (List.forall_mem_append.mpr ⟨h.submissions, List.forall_mem_singleton.mpr ?_⟩)
      cases submission with
      | command entry => exact hfresh entry rfl
      | close waiter => trivial
  | release => exact h.rest rfl rfl (h.stage.congr rfl rfl) rfl rfl h.submissions
  | serve => exact h.whenAwake h.serve
  | receive octets => exact h.whenAwake fun _ => h.consume _
  | endOfStream =>
    refine h.whenAwake fun hopen => h.fails hopen ?_
    unfold Connection.endOfStreamEvent
    split
    · exact Or.inr ⟨_, rfl⟩
    · exact Or.inl rfl
  | readFailed error => exact h.whenAwake fun hopen => h.fails hopen (Or.inr ⟨error, rfl⟩)
  | upgraded result =>
    rw [Journal.step]
    split
    · exact h
    · next suspension hsuspension => exact ((h.resume hpoised hsuspension result).consume _).settle

/-- **So does every run.** -/
theorem run (h : journal.InOrder login) (hpoised : journal.connection.Poised)
    {inputs : List (Connection.Input (Builtin η))}
    (hfresh : ∀ entry, .submit (.command entry) ∈ inputs → entry.command.Fresh) :
    (inputs.foldl Journal.step journal).InOrder login := by
  -- an upgrade that runs is waited for by the lifecycle alone, which every step keeps too
  induction inputs generalizing journal with
  | nil => exact h
  | cons input inputs ih =>
    refine ih (h.step hpoised input fun entry heq => ?_) ?_ fun entry hmem => ?_
    · exact hfresh entry (by rw [heq]; exact List.mem_cons_self)
    · rw [connection_step]
      exact Connection.poised_step hpoised input
    · exact hfresh entry (List.mem_cons_of_mem _ hmem)

end InOrder

end Journal

/-! ## Runs -/

/-- Where only packets are written, they are what is written. -/
theorem octets_eq_writeRequests {happenings : List Happening}
    (h : ∀ octets, .wrote octets ∉ happenings) :
    happenings.flatMap Happening.octets =
      Framing.writeRequests (happenings.filterMap Happening.payload?) := by
  induction happenings with
  | nil => rfl
  | cons happening happenings ih =>
    have hrest := ih fun octets hmem => h octets (List.mem_cons_of_mem _ hmem)
    cases happening with
    | wrote octets => exact absurd List.mem_cons_self (h octets)
    | asked asker payload =>
      rw [List.flatMap_cons, hrest]
      rfl
    | _ =>
      rw [List.flatMap_cons, hrest, List.filterMap_cons_none rfl]
      rfl

/-- A disciplined session writes nothing but packets. -/
theorem Disciplined.wrote_notMem {capabilities : Capabilities} {session : List Happening}
    (h : Disciplined capabilities session) (octets : Bytes) : .wrote octets ∉ session := by
  intro hmem
  obtain ⟨front, back, heq⟩ := List.append_of_mem hmem
  exact h front _ back heq

/-- **A disciplined session is read back** as the packets that have been written in it. -/
theorem Disciplined.readRequests_octets {capabilities : Capabilities} {session : List Happening}
    (h : Disciplined capabilities session) :
    Framing.readRequests (session.flatMap Happening.octets) =
      (session.filterMap Happening.payload?).map fun payload =>
        (payload, (Framing.encode {} payload).2.sequence) := by
  rw [octets_eq_writeRequests h.wrote_notMem, Framing.readRequests_writeRequests]

namespace Connection

variable {η : Type}

/-- A new connection is in order. -/
theorem inOrder_openOver (login : Login) (tlsAvailable : Bool) (fault : Nat → Option Error) :
    (Journal.openOver login tlsAvailable fault : Journal (Builtin η)).InOrder login where
  login_eq := (continues_dispatch _ _).login
  submissions := nofun
  stage := .opening ((IsOpening.start login).concat_told rfl .transportActive) rfl rfl rfl
    fun _ hmem => absurd hmem List.not_mem_nil
  written := rfl

/-- **In every run the login comes first.**  Whatever is submitted, comes or fails: a journal beside
the connection has noted all that is written, and all commands that are told to be complete.  Before
commands may flow nothing is written but what the lifecycle of the connection says: the steps that
it has made are noted, they are one run from the start which leads to where the lifecycle is, and
each write stands behind the step in which its message is said.  From then on what is written is
read as packets whose frames count from zero, each of which is a request; nothing follows the
request to quit; and a request that expects a reply is written only when all of those before it have
been answered. -/
theorem wire_order (login : Login) (tlsAvailable : Bool) (fault : Nat → Option Error)
    {inputs : List (Input (Builtin η))}
    (hfresh : ∀ entry, .submit (.command entry) ∈ inputs → entry.command.Fresh) :
    let last : Connection (Builtin η) := inputs.foldl step (openOver login tlsAvailable fault)
    let journal := inputs.foldl Journal.step (Journal.openOver login tlsAvailable fault)
    journal.connection = last ∧
      journal.log.filterMap Happening.completed? = last.notices.filterMap Notice.ticket? ∧
      last.transport.sent.flatten = journal.log.flatMap Happening.octets ∧
      ∃ opening rest state, journal.log = opening ++ rest ∧ IsOpening login opening state ∧
        (last.lifecycle = state ∨ last.lifecycle = .closed) ∧
        (rest = [] ∨ ∃ capabilities session, state = .ready capabilities ∧
          rest = .ready capabilities :: session ∧ Disciplined capabilities session ∧
          Framing.readRequests (session.flatMap Happening.octets) =
            (session.filterMap Happening.payload?).map fun payload =>
              (payload, (Framing.encode {} payload).2.sequence)) := by
  intro last journal
  have hpoised : (openOver login tlsAvailable fault : Connection (Builtin η)).Poised :=
    (ledger_openOver login tlsAvailable fault).poised
  have hsame : journal.connection = last := Journal.connection_run _ inputs
  have horder : journal.InOrder login :=
    (inOrder_openOver login tlsAvailable fault).run hpoised hfresh
  have hfirst : (Journal.openOver login tlsAvailable fault : Journal (Builtin η)).Tallies := rfl
  have htallies : journal.Tallies := hfirst.run hpoised inputs
  obtain ⟨opening, rest, state, hlog, hopening, hlifecycle, hrest⟩ := horder.stage.exists_opening
  refine ⟨hsame, hsame ▸ htallies, hsame ▸ horder.written, opening, rest, state, hlog, hopening,
    hsame ▸ hlifecycle, ?_⟩
  refine hrest.imp_right ?_
  rintro ⟨capabilities, session, hstate, rfl, hsession⟩
  exact ⟨capabilities, session, hstate, rfl, hsession, hsession.readRequests_octets⟩

/-- A query without parameters. -/
def doOne : PreparedQuery Collected where
  sql := "DO 1"
  parameters := []
  delivery := { sink := Collected.sink, state := {} }

/-- The query and a ping are submitted, the server answers all requests, and the end is asked
for. -/
def doOneAndPing : List (Input (Builtin Collected)) :=
  [.receive tlsGreeting,
    .receive [0x07, 0x00, 0x00, 0x02, 0x00, 0x00, 0x00, 0x02, 0x00, 0x00, 0x00],
    .submit (.command ⟨1, .prepared doOne⟩), .serve, .submit (.command ⟨2, .ping {}⟩), .serve,
    .receive [0x0C, 0x00, 0x00, 0x01, 0x00, 0x01, 0x00, 0x00, 0x00, 0x00, 0x00, 0x00, 0x00, 0x00,
      0x00, 0x00],
    .receive Watch.okAnswer, .receive Watch.okAnswer, .submit (.close 7), .serve]

/-- The response to the greeting is written in the login, and five requests in the session: the
statement is executed once it has been prepared, and closed in front of the ping. -/
theorem wire_order_doOneAndPing :
    let journal := doOneAndPing.foldl Journal.step (Journal.openOver plainLogin false fun _ => none)
    (∀ entry, .submit (.command entry) ∈ doOneAndPing → entry.command.Fresh) ∧
      ∃ opening capabilities session, journal.log = opening ++ .ready capabilities :: session ∧
        (∃ step octets, .told step ∈ opening ∧ .wrote octets ∈ opening ∧
          step.Writes plainLogin octets) ∧
        Disciplined capabilities session ∧
        session.filterMap Happening.payload? =
          [.prepare "DO 1", .execute 1 [], .close 1, .ping, .quit].map Request.encode := by
  intro journal
  have hfresh : ∀ entry, .submit (.command entry) ∈ doOneAndPing → entry.command.Fresh := by
    intro entry hmem
    have hentry : entry = ⟨1, .prepared doOne⟩ ∨ entry = ⟨2, .ping {}⟩ := by
      simpa [doOneAndPing] using hmem
    rcases hentry with rfl | rfl
    · exact ⟨rfl, rfl, rfl, rfl⟩
    · trivial
  have hasked : journal.log.filterMap Happening.payload? =
      [.prepare "DO 1", .execute 1 [], .close 1, .ping, .quit].map Request.encode := by
    decide +kernel
  have hwrote : journal.log.any (fun
      | .wrote _ => true
      | _ => false) = true := by
    decide +kernel
  obtain ⟨-, -, -, opening, rest, state, hlog, hopening, -, hrest⟩ :=
    wire_order plainLogin false (fun _ => none) hfresh
  rw [show journal.log = opening ++ rest from hlog, List.filterMap_append,
    hopening.payloads_eq_nil, List.nil_append] at hasked
  rcases hrest with rfl | ⟨capabilities, session, rfl, rfl, hsession, -⟩
  · cases hasked
  · refine ⟨hfresh, opening, capabilities, session, hlog, ?_, hsession, hasked⟩
    obtain ⟨happening, hmem, hkind⟩ := List.any_eq_true.mp hwrote
    cases happening with
    | wrote octets =>
      rw [show journal.log = opening ++ .ready capabilities :: session from hlog] at hmem
      have hmem : .wrote octets ∈ opening := by
        simpa [hsession.wrote_notMem octets] using hmem
      obtain ⟨front, back, heq⟩ := List.append_of_mem hmem
      obtain ⟨before, step, tickets, hfront, hwrites⟩ := hopening.allowed front _ back heq
      exact ⟨step, octets, by rw [heq, hfront]; simp, hmem, hwrites⟩
    | _ => cases hkind

end Connection

end MySqlClient
