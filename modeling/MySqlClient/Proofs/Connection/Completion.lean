import MySqlClient.Proofs.Connection.Upgrade

/-!
# Every command completes once, in order

Whatever happens to a connection, and whatever fails, each command that has been submitted is told
once how it ended, in the order of submission, and those that are not complete when the session is
over are told that it is closed.  The end of the session is told to whoever asked for it, and only
after that.

* `Connection.Orderly`: the order that notices keep among themselves.
* `Connection.Advance`: what every part of a step keeps: commands neither appear nor vanish.
* `Connection.Ledger`: the books of a connection, against what has been submitted.
* `Connection.completed_once_of_finished`: **a connection that has ended has told everybody once.**
-/

namespace MySqlClient

variable {σ : Type}

/-! ## Notices -/

/-- The ticket of a command that is complete. -/
def Notice.ticket? : Notice σ → Option Nat
  | completed completion => some completion.ticket
  | _ => none

/-- How establishing the session came out. -/
def Notice.outcome? : Notice σ → Option (Outcome Session)
  | established result => some result
  | _ => none

/-- Who is told that the session has ended. -/
def Notice.waiter? : Notice σ → Option Nat
  | closed waiter => some waiter
  | _ => none

theorem Notice.tickets_completed (completions : List (Completion σ)) :
    (completions.map Notice.completed).filterMap ticket? = completions.map Completion.ticket := by
  induction completions with
  | nil => rfl
  | cons completion completions ih => rw [List.map_cons, List.map_cons, ← ih]; rfl

theorem Notice.outcomes_completed (completions : List (Completion σ)) :
    (completions.map Notice.completed).filterMap outcome? = [] := by
  induction completions with
  | nil => rfl
  | cons completion completions ih => exact ih

theorem Notice.tickets_closed (waiters : List Nat) :
    (waiters.map (Notice.closed : Nat → Notice σ)).filterMap ticket? = [] := by
  induction waiters with
  | nil => rfl
  | cons waiter waiters ih => exact ih

theorem Notice.outcomes_closed (waiters : List Nat) :
    (waiters.map (Notice.closed : Nat → Notice σ)).filterMap outcome? = [] := by
  induction waiters with
  | nil => rfl
  | cons waiter waiters ih => exact ih

/-- The ticket of a submitted command. -/
def Submission.ticket? : Submission σ → Option Nat
  | command entry => some entry.ticket
  | close _ => none

namespace Connection

/-- News in order, when the lifecycle was over before them or not, and is over after them or not: it
ends at most once, from then on commands are only told that the session is closed, and nobody is
told that it has ended. -/
inductive Orderly : Bool → List (Notice σ) → Bool → Prop
  | nil (closed : Bool) : Orderly closed [] closed
  | entered {lifecycle : Lifecycle} {news : List (Notice σ)} {last : Bool}
      (h : Orderly lifecycle.isClosed news last) : Orderly false (.entered lifecycle :: news) last
  | completed {closed last : Bool} {completion : Completion σ} {news : List (Notice σ)}
      (hresult : closed = true → completion.result = .error .closed)
      (h : Orderly closed news last) : Orderly closed (.completed completion :: news) last
  | established {closed last : Bool} {result : Outcome Session} {news : List (Notice σ)}
      (h : Orderly closed news last) : Orderly closed (.established result :: news) last

namespace Orderly

variable {closed middle last : Bool} {news more : List (Notice σ)}

theorem append (h : Orderly closed news middle) (h' : Orderly middle more last) :
    Orderly closed (news ++ more) last := by
  induction h with
  | nil => exact h'
  | entered _ ih => exact .entered (ih h')
  | completed hresult _ ih => exact .completed hresult (ih h')
  | established _ ih => exact .established (ih h')

/-- Commands that complete one after the other. -/
theorem map_completed {completions : List (Completion σ)}
    (h : closed = true → ∀ completion ∈ completions, completion.result = .error .closed) :
    Orderly closed (completions.map .completed) closed := by
  induction completions with
  | nil => exact .nil closed
  | cons completion completions ih =>
    refine .completed (fun hclosed => h hclosed completion List.mem_cons_self) (ih ?_)
    exact fun hclosed other hmem => h hclosed other (List.mem_cons_of_mem _ hmem)

/-- Nobody is told that the session has ended. -/
theorem waiters_eq_nil (h : Orderly closed news last) : news.filterMap Notice.waiter? = [] := by
  induction h with
  | nil => rfl
  | entered _ ih => exact ih
  | completed _ _ ih => exact ih
  | established _ ih => exact ih

/-- After the end. -/
theorem of_closed (h : Orderly true news last) :
    last = true ∧ ∀ completion, .completed completion ∈ news →
      completion.result = .error .closed := by
  generalize hclosed : true = closed at h
  induction h with
  | nil => exact ⟨rfl, by simp⟩
  | entered => cases hclosed
  | completed hresult _ ih =>
    subst hclosed
    obtain ⟨hlast, hall⟩ := ih rfl
    refine ⟨hlast, fun other hmem => ?_⟩
    rcases List.mem_cons.mp hmem with heq | hmem
    · cases heq
      exact hresult rfl
    · exact hall other hmem
  | established _ ih =>
    subst hclosed
    obtain ⟨hlast, hall⟩ := ih rfl
    refine ⟨hlast, fun other hmem => hall other ?_⟩
    simpa using hmem

/-- **The lifecycle ends once, and every command that is told after that is told that the session is
closed.** -/
theorem exists_split (h : Orderly false news true) :
    ∃ before after, news = before ++ .entered .closed :: after ∧ .entered .closed ∉ before ∧
      ∀ completion, .completed completion ∈ after → completion.result = .error .closed := by
  generalize hclosed : false = closed at h
  generalize hlast : true = last at h
  induction h with
  | nil => exact absurd (hlast.trans hclosed.symm) (by decide)
  | @entered lifecycle news last h ih =>
    subst hlast
    cases hlifecycle : lifecycle.isClosed with
    | true =>
      rw [hlifecycle] at h
      have heq : lifecycle = .closed := by
        cases lifecycle <;> simp_all [Lifecycle.isClosed]
      exact ⟨[], news, by rw [heq]; rfl, List.not_mem_nil, h.of_closed.2⟩
    | false =>
      obtain ⟨before, after, rfl, hbefore, hall⟩ := ih hlifecycle.symm rfl
      refine ⟨_ :: before, after, rfl, ?_, hall⟩
      rw [List.mem_cons, not_or]
      refine ⟨fun heq => ?_, hbefore⟩
      cases heq
      cases hlifecycle
  | completed _ _ ih =>
    obtain ⟨before, after, rfl, hbefore, hall⟩ := ih hclosed hlast
    exact ⟨_ :: before, after, rfl, by simpa using hbefore, hall⟩
  | established _ ih =>
    obtain ⟨before, after, rfl, hbefore, hall⟩ := ih hclosed hlast
    exact ⟨_ :: before, after, rfl, by simpa using hbefore, hall⟩

end Orderly

/-! ## Parts of a step -/

/-- What every part of a step keeps: what is told is in order, a command leaves the queue when it is
told, and how establishing came out is told once. -/
structure Advance (before after : Connection σ) : Prop where
  news : ∃ news, after.notices = before.notices ++ news ∧
    Orderly before.lifecycle.isClosed news after.lifecycle.isClosed ∧
    news.filterMap Notice.ticket? ++ after.queue.entries.map Entry.ticket =
      before.queue.entries.map Entry.ticket ∧
    (news.filterMap Notice.outcome?).length + after.establishing.toNat =
      before.establishing.toNat
  submissions : after.submissions = before.submissions
  released : after.released = before.released
  closeWaiters : after.closeWaiters = before.closeWaiters
  finished : after.finished = before.finished

namespace Advance

variable {first second third : Connection σ}

theorem trans (h : Advance first second) (h' : Advance second third) : Advance first third := by
  obtain ⟨⟨news, hnotices, horder, htickets, houtcomes⟩, hsubmissions, hreleased, hwaiters,
    hfinished⟩ := h
  obtain ⟨⟨more, hnotices', horder', htickets', houtcomes'⟩, hsubmissions', hreleased', hwaiters',
    hfinished'⟩ := h'
  refine ⟨⟨news ++ more, ?_, horder.append horder', ?_, ?_⟩, hsubmissions'.trans hsubmissions,
    hreleased'.trans hreleased, hwaiters'.trans hwaiters, hfinished'.trans hfinished⟩
  · rw [hnotices', hnotices, List.append_assoc]
  · rw [List.filterMap_append, List.append_assoc, htickets', htickets]
  · rw [List.filterMap_append, List.length_append]
    omega

/-- A part of a step that tells nothing. -/
theorem of_silent (hnotices : second.notices = first.notices)
    (hlifecycle : second.lifecycle = first.lifecycle)
    (hqueue : second.queue.entries = first.queue.entries)
    (hestablishing : second.establishing = first.establishing)
    (hsubmissions : second.submissions = first.submissions)
    (hreleased : second.released = first.released)
    (hwaiters : second.closeWaiters = first.closeWaiters)
    (hfinished : second.finished = first.finished) : Advance first second := by
  refine ⟨⟨[], ?_, ?_, ?_, ?_⟩, hsubmissions, hreleased, hwaiters, hfinished⟩
  · rw [hnotices, List.append_nil]
  · rw [hlifecycle]
    exact .nil _
  · rw [hqueue]
    rfl
  · rw [hestablishing]
    exact Nat.zero_add _

theorem refl (connection : Connection σ) : Advance connection connection :=
  of_silent rfl rfl rfl rfl rfl rfl rfl rfl

end Advance

/-- Commands leave the queue as they complete. -/
theorem advance_complete {connection : Connection σ} {queue : Queue σ}
    {completions : List (Completion σ)}
    (htickets : completions.map Completion.ticket ++ queue.entries.map Entry.ticket =
      connection.queue.entries.map Entry.ticket)
    (hresults : connection.lifecycle.isClosed = true →
      ∀ completion ∈ completions, completion.result = .error .closed) :
    Advance connection ({ connection with queue }.complete completions) := by
  refine ⟨⟨completions.map .completed, rfl, Orderly.map_completed hresults, ?_, ?_⟩, rfl, rfl, rfl,
    rfl⟩
  · rw [Notice.tickets_completed]
    exact htickets
  · rw [Notice.outcomes_completed]
    exact Nat.zero_add _

theorem advance_tellEstablished (connection : Connection σ) (result : Outcome Session) :
    Advance connection (connection.tellEstablished result) := by
  unfold tellEstablished
  split
  · next hestablishing =>
    refine ⟨⟨[.established result], rfl, .established (.nil _), rfl, ?_⟩, rfl, rfl, rfl, rfl⟩
    rw [hestablishing]
    rfl
  · exact .refl connection

theorem advance_failQueue (connection : Connection σ) :
    Advance connection connection.failQueue := by
  refine advance_complete ?_ ?_
  · show (connection.queue.entries.map _).map _ ++ [] = _
    rw [List.append_nil, List.map_map]
    rfl
  · intro _ completion hmem
    obtain ⟨entry, -, rfl⟩ := List.mem_map.mp hmem
    rfl

theorem advance_write (connection : Connection σ) (outbound : List Outbound) :
    Advance connection (connection.write outbound).1 := by
  unfold write
  split <;> exact .of_silent rfl rfl rfl rfl rfl rfl rfl rfl

/-- The lifecycle goes on, from the end only to the end. -/
theorem advance_enter {connection : Connection σ} {lifecycle : Lifecycle}
    (h : connection.lifecycle.isClosed = true → lifecycle.isClosed = true) :
    Advance connection (connection.enter lifecycle) := by
  have hname : lifecycle.name = connection.lifecycle.name →
      lifecycle.isClosed = connection.lifecycle.isClosed := by
    intro heq
    cases lifecycle <;> cases hbefore : connection.lifecycle <;>
      simp_all [Lifecycle.name, Lifecycle.isClosed]
  unfold enter
  dsimp only
  split
  · next heq =>
    refine ⟨⟨[], (List.append_nil _).symm, ?_, rfl, Nat.zero_add _⟩, rfl, rfl, rfl, rfl⟩
    show Orderly _ _ lifecycle.isClosed
    rw [hname heq]
    exact .nil _
  · next hne =>
    refine ⟨⟨[.entered lifecycle], rfl, ?_, rfl, Nat.zero_add _⟩, rfl, rfl, rfl, rfl⟩
    cases hclosed : connection.lifecycle.isClosed with
    | false => exact .entered (.nil _)
    | true =>
      have hnext := h hclosed
      refine absurd ?_ hne
      cases lifecycle <;> cases hbefore : connection.lifecycle <;>
        simp_all [Lifecycle.name, Lifecycle.isClosed]

/-! ## The books -/

/-- Everything that has been accepted is with those who have been told, in the queue, or not taken
yet; and while the connection goes on, nobody has been told that the session has ended. -/
structure Ledger (connection : Connection σ) (submissions : List (Submission σ)) : Prop where
  poised : connection.Poised
  tickets : connection.notices.filterMap Notice.ticket? ++
      (connection.queue.entries.map Entry.ticket ++
        connection.submissions.filterMap Submission.ticket?) =
    submissions.filterMap Submission.ticket?
  outcomes : (connection.notices.filterMap Notice.outcome?).length +
    connection.establishing.toNat = 1
  waiters : ∃ news told, connection.notices = news ++ told.map .closed ∧
    Orderly false news connection.lifecycle.isClosed ∧
    told ++ (connection.closeWaiters ++ connection.submissions.filterMap Submission.waiter) =
      submissions.filterMap Submission.waiter ∧
    (connection.finished = false → told = [])
  finished : connection.finished = true → connection.lifecycle.isClosed = true ∧
    connection.suspension = none ∧ connection.queue.entries = [] ∧ connection.submissions = [] ∧
    connection.establishing = false ∧ connection.closeWaiters = []

namespace Ledger

variable {connection next : Connection σ} {submissions : List (Submission σ)}

/-- Parts of a step keep the books. -/
theorem advance (h : Ledger connection submissions) (hgoing : connection.finished = false)
    (hadvance : Advance connection next) (hpoised : next.Poised) : Ledger next submissions := by
  obtain ⟨⟨news, hnotices, horder, htickets, houtcomes⟩, hsubmissions, -, hwaiters,
    hfinished⟩ := hadvance
  obtain ⟨before, told, hbefore, horderBefore, hall, htold⟩ := h.waiters
  have hnil := htold hgoing
  subst hnil
  rw [List.map_nil, List.append_nil] at hbefore
  refine ⟨hpoised, ?_, ?_, ⟨before ++ news, [], ?_, horderBefore.append horder, ?_, fun _ => rfl⟩,
    ?_⟩
  · rw [← h.tickets, hnotices, hsubmissions, ← htickets, List.filterMap_append]
    simp only [List.append_assoc]
  · rw [← h.outcomes, hnotices, List.filterMap_append, List.length_append, ← houtcomes]
    omega
  · rw [hnotices, hbefore, List.map_nil, List.append_nil]
  · rw [hwaiters, hsubmissions]
    exact hall
  · intro hlast
    rw [hfinished, hgoing] at hlast
    cases hlast

/-- While packets are taken the connection goes on. -/
theorem going_of_isAttentive (h : Ledger connection submissions)
    (hattentive : connection.isAttentive = true) : connection.finished = false := by
  cases hfinished : connection.finished with
  | false => rfl
  | true =>
    rw [isAttentive, (h.finished hfinished).1] at hattentive
    cases hattentive

theorem tickets_refused (submissions : List (Submission σ)) :
    (submissions.filterMap Submission.refused).map Completion.ticket =
      submissions.filterMap Submission.ticket? := by
  rw [List.map_filterMap]
  congr 1
  funext submission
  cases submission <;> rfl

/-- What is told at the end. -/
theorem notices_finish (connection : Connection σ) :
    connection.finish.notices = connection.notices ++
      ((connection.queue.failAll.completions ++
          connection.submissions.filterMap Submission.refused).map .completed ++
        if connection.establishing then [.established (.error .closed)] else []) ++
      (connection.closeWaiters ++ connection.submissions.filterMap Submission.waiter).map
        .closed := by
  unfold finish tellEstablished
  cases hestablishing : connection.establishing <;>
    simp [failQueue, complete, tell, hestablishing]

/-- Settling tells something or nothing. -/
theorem exists_notices_settle (connection : Connection σ) :
    ∃ more, connection.settle.notices = connection.notices ++ more := by
  unfold settle
  split
  · rw [notices_finish, List.append_assoc]
    exact ⟨_, rfl⟩
  · exact ⟨[], (List.append_nil _).symm⟩

/-- **The end keeps the books, and closes them.** -/
theorem finish (h : Ledger connection submissions) (hgoing : connection.finished = false)
    (hclosed : connection.lifecycle.isClosed = true) (hawake : connection.suspension = none) :
    Ledger connection.finish submissions := by
  obtain ⟨before, told, hbefore, horder, hall, htold⟩ := h.waiters
  have hnil := htold hgoing
  subst hnil
  rw [List.map_nil, List.append_nil] at hbefore
  have hframe : connection.finish.lifecycle = connection.lifecycle ∧
      connection.finish.suspension = connection.suspension ∧
      connection.finish.queue.entries = [] ∧ connection.finish.submissions = [] ∧
      connection.finish.establishing = false ∧ connection.finish.closeWaiters = [] := by
    unfold Connection.finish tellEstablished
    cases hestablishing : connection.establishing <;>
      simp [failQueue, complete, tell, hestablishing, Queue.failAll]
  obtain ⟨hlifecycle, hsuspension, hentries, hsubmissions, hestablishing, hwaiters⟩ := hframe
  have hfailed : connection.queue.failAll.completions.map Completion.ticket =
      connection.queue.entries.map Entry.ticket := by
    show (connection.queue.entries.map _).map _ = _
    rw [List.map_map]
    rfl
  have hresults : ∀ completion ∈ connection.queue.failAll.completions ++
      connection.submissions.filterMap Submission.refused, completion.result = .error .closed := by
    intro completion hmem
    rcases List.mem_append.mp hmem with hmem | hmem
    · obtain ⟨entry, -, rfl⟩ := List.mem_map.mp hmem
      rfl
    · obtain ⟨submission, -, heq⟩ := List.mem_filterMap.mp hmem
      cases submission <;> cases heq
      rfl
  have hnotices := notices_finish connection
  refine ⟨Or.inl (hsuspension.trans hawake), ?_, ?_, ⟨_, _, hnotices, ?_, ?_, ?_⟩, fun _ => ?_⟩
  · have hlast : (if connection.establishing then
        ([.established (.error .closed)] : List (Notice σ)) else []).filterMap Notice.ticket? =
        [] := by
      split <;> rfl
    rw [hnotices, hentries, hsubmissions, ← h.tickets, List.filterMap_append,
      List.filterMap_append, List.filterMap_append, hlast, Notice.tickets_completed,
      Notice.tickets_closed, List.map_append, hfailed, tickets_refused]
    simp only [List.map_nil, List.filterMap_nil, List.append_nil]
  · rw [hnotices, hestablishing, ← h.outcomes, List.filterMap_append, List.filterMap_append,
      List.filterMap_append, Notice.outcomes_completed, Notice.outcomes_closed, List.append_nil,
      List.nil_append, List.length_append]
    cases connection.establishing <;> rfl
  · rw [hbefore, hlifecycle]
    rw [hclosed] at horder ⊢
    refine horder.append ((Orderly.map_completed fun _ => hresults).append ?_)
    split
    · exact .established (.nil _)
    · exact .nil _
  · rw [hwaiters, hsubmissions, List.filterMap_nil, List.append_nil, List.append_nil]
    exact hall
  · intro hlast
    cases hlast
  · rw [hlifecycle]
    exact ⟨hclosed, hsuspension.trans hawake, hentries, hsubmissions, hestablishing, hwaiters⟩

theorem settle (h : Ledger connection submissions) : Ledger connection.settle submissions := by
  unfold Connection.settle
  split
  · next hends =>
    rw [Bool.and_eq_true, Bool.and_eq_true, Option.isNone_iff_eq_none, Bool.not_eq_true'] at hends
    exact h.finish hends.2 hends.1.1 hends.1.2
  · exact h

/-- What is done while no upgrade runs. -/
theorem whenAwake (h : Ledger connection submissions) {next : Connection σ}
    (hnext : connection.finished = false → connection.suspension = none →
      connection.lifecycle.isClosed = false → Ledger next submissions) :
    Ledger (connection.whenAwake next) submissions := by
  unfold Connection.whenAwake
  split
  · next hattentive =>
    have hopen : connection.lifecycle.isClosed = false := by
      rw [isAttentive, Bool.and_eq_true, Bool.not_eq_true'] at hattentive
      exact hattentive.1
    exact (hnext (h.going_of_isAttentive hattentive) (suspension_of_isAttentive hattentive)
      hopen).settle
  · exact h

end Ledger

end Connection

/-! ## The queue -/

namespace Queue

variable [Command σ]

theorem tickets_activateFirst (capabilities : Capabilities) (entries : List (Entry σ)) :
    (activateFirst capabilities entries).completions.map Completion.ticket ++
        (activateFirst capabilities entries).queue.entries.map Entry.ticket =
      entries.map Entry.ticket := by
  induction entries with
  | nil => rfl
  | cons entry rest ih =>
    rw [activateFirst]
    split
    · rw [List.map_cons, List.map_cons, List.cons_append, ih]
      rfl
    · dsimp only
      split
      · rw [List.map_cons, List.map_cons, List.cons_append, ih]
        rfl
      · rfl

theorem tickets_activateHead (queue : Queue σ) :
    queue.activateHead.completions.map Completion.ticket ++
        queue.activateHead.queue.entries.map Entry.ticket = queue.entries.map Entry.ticket := by
  unfold activateHead
  split
  · exact tickets_activateFirst _ _
  · rfl

theorem tickets_handleHead (queue : Queue σ) (capabilities : Capabilities) (packet : Packet)
    (entry : Entry σ) (rest : List (Entry σ)) :
    (queue.handleHead capabilities packet entry rest).completions.map Completion.ticket ++
        (queue.handleHead capabilities packet entry rest).queue.entries.map Entry.ticket =
      (entry :: rest).map Entry.ticket := by
  unfold handleHead
  split
  · rfl
  · dsimp only
    split
    · split
      · rfl
      · rw [List.map_cons, List.cons_append, tickets_activateHead]
        rfl
    · rfl

/-- **Commands leave the queue as they complete.** -/
theorem tickets_handle (queue : Queue σ) (packet : Packet) :
    (queue.handle packet).completions.map Completion.ticket ++
        (queue.handle packet).queue.entries.map Entry.ticket = queue.entries.map Entry.ticket := by
  unfold handle
  split
  · rfl
  · split
    · rfl
    · split
      · rfl
      · split
        · next hentries => rw [hentries]; rfl
        · next hentries => rw [hentries, tickets_handleHead]

end Queue

namespace Connection

variable [Command σ]

/-! ## A step -/

theorem advance_perform {connection : Connection σ} {action : Lifecycle.Action}
    (h : ∀ session, action = .established session → connection.lifecycle.isClosed = false) :
    Advance connection (connection.perform action).1 := by
  cases action with
  | read => exact .refl connection
  | send payload resequence => exact advance_write connection _
  | startTls => exact .refl connection
  | established session =>
    have hqueue := Queue.tickets_activateHead
      { connection.queue with capabilities := some session.capabilities }
    have hstarted : Advance connection
        ({ connection with queue := (connection.queue.start session.capabilities).queue }.complete
          (connection.queue.start session.capabilities).completions) := by
      refine advance_complete hqueue fun hclosed => ?_
      rw [h session rfl] at hclosed
      cases hclosed
    exact (hstarted.trans (advance_tellEstablished _ _)).trans (advance_write _ _)
  | shutdown => exact .of_silent rfl rfl rfl rfl rfl rfl rfl rfl
  | fail error => exact (advance_tellEstablished connection _).trans (advance_failQueue _)

theorem advance_carryOut {connection : Connection σ} {actions : List Lifecycle.Action}
    (h : ∀ session, .established session ∈ actions → connection.lifecycle.isClosed = false) :
    Advance connection (connection.carryOut actions).1 := by
  induction actions generalizing connection with
  | nil => exact .refl connection
  | cons action rest ih =>
    have hperform : Advance connection (connection.perform action).1 :=
      advance_perform fun session heq => h session (heq ▸ List.mem_cons_self)
    have hframe := perform_frame connection action
    rw [carryOut]
    split
    · next next error heq =>
      rw [heq] at hperform
      exact hperform
    · next next heq =>
      rw [heq] at hperform hframe
      split
      · exact hperform
      · refine hperform.trans (ih fun session hmem => ?_)
        rw [hframe.lifecycle]
        exact h session (List.mem_cons_of_mem _ hmem)

theorem advance_react (connection : Connection σ) (event : Lifecycle.Event) :
    Advance connection (connection.react event).1 := by
  have htransition :=
    Lifecycle.isTransition_onEvent connection.login connection.lifecycle event
  have henter : Advance connection
      (connection.enter (connection.lifecycle.onEvent connection.login event).1) := by
    apply advance_enter
    intro hclosed
    cases hlifecycle : connection.lifecycle <;> simp_all [Lifecycle.isClosed]
  refine henter.trans (advance_carryOut fun session hmem => ?_)
  obtain ⟨news, heq⟩ :=
    enter_eq connection (connection.lifecycle.onEvent connection.login event).1
  rw [heq]
  exact congrArg Lifecycle.isClosed (htransition.eq_of_established hmem)

theorem advance_drain (fuel : Nat) (connection : Connection σ) (ending : Ending)
    (events : List Lifecycle.Event) :
    Advance connection (connection.drain fuel ending events).1 := by
  induction fuel generalizing connection ending events with
  | zero =>
    cases ending with
    | upgrading actions => exact .of_silent rfl rfl rfl rfl rfl rfl rfl rfl
    | done =>
      rw [drain_done_zero]
      exact .refl connection
    | failed error =>
      rw [drain_failed, drain_done_zero]
      exact .refl connection
  | succ fuel ih =>
    have hdone (events : List Lifecycle.Event) :
        Advance connection (connection.drain (fuel + 1) .done events).1 := by
      cases events with
      | nil =>
        rw [drain_done_nil]
        exact .refl connection
      | cons event left =>
        rw [drain_done_cons]
        exact (advance_react connection event).trans (ih _ _ _)
    cases ending with
    | upgrading actions => exact .of_silent rfl rfl rfl rfl rfl rfl rfl rfl
    | done => exact hdone events
    | failed error =>
      rw [drain_failed]
      exact hdone _

theorem advance_dispatch (connection : Connection σ) (event : Lifecycle.Event) :
    Advance connection (connection.dispatch event) :=
  advance_drain _ _ _ _

theorem advance_writeOrFail (connection : Connection σ) (outbound : List Outbound) :
    Advance connection (connection.writeOrFail outbound) := by
  have hwrite := advance_write connection outbound
  unfold writeOrFail
  split
  · next next heq =>
    rw [heq] at hwrite
    exact hwrite
  · next next error heq =>
    rw [heq] at hwrite
    exact hwrite.trans (advance_dispatch _ _)

theorem advance_take (connection : Connection σ) (packet : Packet) :
    Advance connection (connection.take packet) := by
  cases hready : connection.lifecycle.isReady with
  | true =>
    have hhandled : Advance connection (connection.handled packet) := by
      refine advance_complete (Queue.tickets_handle _ _) fun hclosed => ?_
      cases hlifecycle : connection.lifecycle <;>
        simp_all [Lifecycle.isClosed, Lifecycle.isReady]
    rw [take_of_isReady hready]
    split
    · exact hhandled.trans (advance_writeOrFail _ _)
    · exact hhandled.trans (advance_dispatch _ _)
  | false =>
    rw [take_of_not_isReady hready]
    exact advance_dispatch connection _

theorem advance_consume (connection : Connection σ) (octets : Bytes) :
    Advance connection (connection.consume octets) := by
  -- packet by packet
  induction hn : octets.length using Nat.strongRecOn generalizing connection octets with
  | ind n ih =>
    subst hn
    cases hattentive : connection.isAttentive with
    | false =>
      rw [consume_of_inattentive hattentive]
      exact .of_silent rfl rfl rfl rfl rfl rfl rfl rfl
    | true =>
      rcases hdecode : connection.framing.decode octets with ⟨error | ⟨_ | packet⟩, framing, rest⟩
      · have hread : Advance connection { connection with framing, inbox := rest } :=
          .of_silent rfl rfl rfl rfl rfl rfl rfl rfl
        rw [consume_of_error hattentive hdecode]
        exact hread.trans (advance_dispatch _ _)
      · rw [consume_of_none hattentive hdecode]
        exact .of_silent rfl rfl rfl rfl rfl rfl rfl rfl
      · have hread : Advance connection { connection with framing, inbox := rest } :=
          .of_silent rfl rfl rfl rfl rfl rfl rfl rfl
        rw [consume_of_packet hattentive hdecode]
        exact (hread.trans (advance_take _ packet)).trans
          (ih rest.length (Framing.length_lt_of_decode hdecode) _ rest rfl)

theorem advance_resume {connection : Connection σ} (h : Poised connection)
    {suspension : Suspension} (hsuspension : connection.suspension = some suspension)
    (result : Outcome Unit) : Advance connection (connection.resume suspension result) := by
  have hawake : Advance connection { connection with suspension := none } :=
    .of_silent rfl rfl rfl rfl rfl rfl rfl rfl
  rcases h with hnone | ⟨hsome, -⟩
  · rw [hnone] at hsuspension
    cases hsuspension
  · rw [hsome] at hsuspension
    cases hsuspension
    cases result with
    | error error => exact hawake.trans (advance_drain _ _ _ _)
    | ok _ => exact hawake.trans (advance_drain _ _ _ _)

/-! ## Runs -/

/-- What a connection accepts of an input. -/
def accepts (connection : Connection σ) : Input σ → List (Submission σ)
  | .submit submission =>
    if connection.finished || connection.released then [] else [submission]
  | _ => []

/-- What a connection accepts of some inputs. -/
def accepted (connection : Connection σ) : List (Input σ) → List (Submission σ)
  | [] => []
  | input :: inputs => connection.accepts input ++ (connection.step input).accepted inputs

namespace Ledger

variable {connection : Connection σ} {submissions : List (Submission σ)}

/-- A submission is taken. -/
theorem serve (h : Ledger connection submissions) (hgoing : connection.finished = false)
    (hawake : connection.suspension = none) (hopen : connection.lifecycle.isClosed = false) :
    Ledger connection.serve submissions := by
  have hpoised := poised_serve hawake
  obtain ⟨news, told, hnotices, horder, hwaiters, htold⟩ := h.waiters
  unfold Connection.serve at hpoised ⊢
  split at hpoised
  · next entry rest hsubmissions =>
    -- the command goes to the end of the queue
    let queued : Connection σ :=
      { connection with
        submissions := rest
        queue := { connection.queue with entries := connection.queue.entries ++ [entry] } }
    have hqueued : Ledger queued submissions := by
      refine ⟨h.poised, ?_, h.outcomes, ⟨news, told, hnotices, horder, ?_, htold⟩, ?_⟩
      · rw [← h.tickets, hsubmissions]
        show _ ++ ((connection.queue.entries ++ [entry]).map Entry.ticket ++ _) = _
        rw [List.map_append, List.append_assoc]
        rfl
      · rw [← hwaiters, hsubmissions]
        rfl
      · intro hfinished
        rw [show queued.finished = connection.finished from rfl, hgoing] at hfinished
        cases hfinished
    have hpush : Advance queued
        ({ queued with queue := (connection.queue.push entry).queue }.complete
          (connection.queue.push entry).completions) := by
      refine advance_complete (Queue.tickets_activateHead _) fun hclosed => ?_
      rw [show queued.lifecycle = connection.lifecycle from rfl, hopen] at hclosed
      cases hclosed
    exact hqueued.advance hgoing (hpush.trans (advance_writeOrFail _ _)) hpoised
  · next waiter rest hsubmissions =>
    let asked : Connection σ :=
      { connection with
        submissions := rest
        closeWaiters := connection.closeWaiters ++ [waiter] }
    have hasked : Ledger asked submissions := by
      refine ⟨h.poised, ?_, h.outcomes, ⟨news, told, hnotices, horder, ?_, htold⟩, ?_⟩
      · rw [← h.tickets, hsubmissions]
        rfl
      · rw [← hwaiters, hsubmissions]
        show told ++ (connection.closeWaiters ++ [waiter] ++ _) = _
        rw [List.append_assoc]
        rfl
      · intro hfinished
        rw [show asked.finished = connection.finished from rfl, hgoing] at hfinished
        cases hfinished
    exact hasked.advance hgoing (advance_dispatch _ _) hpoised
  · split
    · exact h.advance hgoing (advance_dispatch _ _) (poised_dispatch hawake _)
    · exact h

/-- **Every step keeps the books.** -/
theorem step (h : Ledger connection submissions) (input : Input σ) :
    Ledger (connection.step input) (submissions ++ connection.accepts input) := by
  have hpoised := poised_step h.poised input
  cases input with
  | submit submission =>
    rw [Connection.step, accepts]
    split
    · rw [List.append_nil]
      exact h
    · next hopen =>
      rw [Bool.or_eq_true, not_or, Bool.not_eq_true, Bool.not_eq_true] at hopen
      obtain ⟨news, told, hnotices, horder, hwaiters, htold⟩ := h.waiters
      refine ⟨h.poised, ?_, h.outcomes, ⟨news, told, hnotices, horder, ?_, htold⟩, ?_⟩
      · simp only [List.filterMap_append, ← h.tickets, List.append_assoc]
      · simp only [List.filterMap_append, ← hwaiters, List.append_assoc]
      · intro hfinished
        exact absurd hfinished (by simp [hopen.1])
  | release =>
    rw [accepts, List.append_nil]
    · exact ⟨h.poised, h.tickets, h.outcomes, h.waiters, h.finished⟩
    · simp
  | serve =>
    rw [accepts, List.append_nil]
    · exact h.whenAwake h.serve
    · simp
  | receive octets =>
    rw [accepts, List.append_nil]
    · exact h.whenAwake fun hgoing _ _ =>
        h.advance hgoing (advance_consume _ _) (poised_consume h.poised _)
    · simp
  | endOfStream =>
    rw [accepts, List.append_nil]
    · exact h.whenAwake fun hgoing hawake _ =>
        h.advance hgoing (advance_dispatch _ _) (poised_dispatch hawake _)
    · simp
  | readFailed error =>
    rw [accepts, List.append_nil]
    · exact h.whenAwake fun hgoing hawake _ =>
        h.advance hgoing (advance_dispatch _ _) (poised_dispatch hawake _)
    · simp
  | upgraded result =>
    rw [accepts, List.append_nil]
    · rw [Connection.step]
      split
      · exact h
      · next suspension hsuspension =>
        have hgoing : connection.finished = false := by
          cases hfinished : connection.finished with
          | false => rfl
          | true =>
            rw [(h.finished hfinished).2.1] at hsuspension
            cases hsuspension
        have hresumed := poised_resume h.poised hsuspension result
        exact (h.advance hgoing ((advance_resume h.poised hsuspension result).trans
          (advance_consume _ _)) (poised_consume hresumed _)).settle
    · simp

/-- **Every run keeps the books.** -/
theorem run (h : Ledger connection submissions) (inputs : List (Input σ)) :
    Ledger (inputs.foldl Connection.step connection)
      (submissions ++ connection.accepted inputs) := by
  induction inputs generalizing connection submissions with
  | nil =>
    rw [accepted, List.append_nil]
    exact h
  | cons input inputs ih =>
    rw [accepted, ← List.append_assoc]
    exact ih (h.step input)

end Ledger

/-- A new connection over an open transport, whose writes fail as `fault` says. -/
def openOver (login : Login) (tlsAvailable : Bool) (fault : Nat → Option Error) : Connection σ :=
  { login, tlsAvailable, transport := { fault } : Connection σ }.dispatch .transportActive

/-- A new connection is one over a transport without faults. -/
theorem begin_eq_openOver (login : Login) (tlsAvailable : Bool) :
    (begin login tlsAvailable : Connection σ) = openOver login tlsAvailable fun _ => none := rfl

theorem ledger_openOver (login : Login) (tlsAvailable : Bool) (fault : Nat → Option Error) :
    Ledger (openOver login tlsAvailable fault : Connection σ) [] := by
  have hnew : Ledger ({ login, tlsAvailable, transport := { fault } } : Connection σ) [] :=
    ⟨Or.inl rfl, rfl, rfl, ⟨[], [], rfl, .nil _, rfl, fun _ => rfl⟩, fun h => by cases h⟩
  exact hnew.advance rfl (advance_dispatch _ _) (poised_dispatch rfl _)

/-- **A connection that has ended has told everybody once.**  Whatever has happened to it: the
commands that it accepted have completed, each once and in the order of submission; those that were
not complete when the lifecycle ended were told that the session is closed; how establishing the
session came out has been told once; and whoever asked for the end has been told once, after all
that. -/
theorem completed_once_of_finished (login : Login) (tlsAvailable : Bool)
    (fault : Nat → Option Error) (inputs : List (Input σ)) :
    let start : Connection σ := openOver login tlsAvailable fault
    let last := inputs.foldl Connection.step start
    last.finished = true →
      last.notices.filterMap Notice.ticket? =
          (start.accepted inputs).filterMap Submission.ticket? ∧
        (∃ result, last.notices.filterMap Notice.outcome? = [result]) ∧
        ∃ before after,
          last.notices = (before ++ .entered .closed :: after) ++
            ((start.accepted inputs).filterMap Submission.waiter).map .closed ∧
          .entered .closed ∉ before ∧
          (∀ completion, .completed completion ∈ after → completion.result = .error .closed) ∧
          (before ++ after).filterMap Notice.waiter? = [] := by
  intro start last hfinished
  have hledger : Ledger last ([] ++ start.accepted inputs) :=
    (ledger_openOver login tlsAvailable fault).run inputs
  rw [List.nil_append] at hledger
  obtain ⟨hclosed, -, hentries, hsubmissions, hestablishing, hwaiters⟩ := hledger.finished hfinished
  obtain ⟨news, told, hnotices, horder, hall, -⟩ := hledger.waiters
  rw [hclosed] at horder
  obtain ⟨before, after, rfl, hbefore, hafter⟩ := horder.exists_split
  refine ⟨?_, ?_, before, after, ?_, hbefore, hafter, ?_⟩
  · have htickets := hledger.tickets
    rw [hentries, hsubmissions] at htickets
    simpa using htickets
  · have houtcomes := hledger.outcomes
    rw [hestablishing] at houtcomes
    exact List.length_eq_one_iff.mp houtcomes
  · rw [hwaiters, hsubmissions] at hall
    rw [List.filterMap_nil, List.append_nil, List.append_nil] at hall
    rw [← hall]
    exact hnotices
  · have hnone := horder.waiters_eq_nil
    rw [List.filterMap_append] at hnone ⊢
    exact hnone

/-- What a client brings along that has an account and nothing else. -/
def plainLogin : Login where
  username := "root"
  password := []
  database := none
  tlsMode := .disable
  secureTransport := false
  charset := utf8mb4GeneralCi
  maxPacketSize := 0
  attributes := []
  capabilities := .clientDefault
  entropy := []

/-- A ping is submitted, the end is asked for, and a last ping comes too late to be taken. -/
def lastInputs : List (Input Ping) :=
  [.submit (.command ⟨1, {}⟩), .serve, .submit (.close 7), .submit (.command ⟨2, {}⟩), .serve]

/-- Both pings are told that the session is closed, and then the waiter that it has ended. -/
theorem completed_once_of_lastInputs :
    let last := lastInputs.foldl Connection.step (openOver plainLogin false fun _ => none)
    last.finished = true ∧ last.notices.filterMap Notice.ticket? = [1, 2] ∧
      last.notices.filterMap Notice.waiter? = [7] := by
  have hfinished :
      (lastInputs.foldl Connection.step (openOver plainLogin false fun _ => none)).finished =
        true := by
    decide +kernel
  have htold := completed_once_of_finished plainLogin false (fun _ => none) lastInputs hfinished
  refine ⟨hfinished, ?_, by decide +kernel⟩
  rw [htold.1]
  decide +kernel

end Connection

end MySqlClient
