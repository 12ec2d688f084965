import MySqlClient.Proofs.Connection.Discipline

/-!
# What is written before commands may flow

While a session is being established the lifecycle is told one event after the other, and says
something now and then.  Nobody else has anything to write: whatever a journal notes as written is
what the lifecycle has just said, in a step of the one run that it makes.

* `Happening.IsOpening`: what may happen before commands may flow.
* `IsOpening`: what may have happened on the way from the start to a state of the lifecycle;
  `IsOpening.step`: **the lifecycle is told an event, and what it says is written.**
* `IsOpening.payloads_eq_nil`: commands write nothing.
* `IsRecord`: what may have happened at a connection, from its beginning to its end.
-/

namespace MySqlClient

/-! ## Openings -/

/-- What may happen before commands may flow, behind what has happened.  The lifecycle is told
events; what it says in a step is written, once, and before it is told anything else; and commands
may be told to be complete. -/
def Happening.IsOpening (login : Login) (front : List Happening) : Happening → Prop
  | .told step => step.state.isReady = false
  | .wrote octets => ∃ before step, ∃ tickets : List Nat,
      front = before ++ .told step :: tickets.map .completed ∧ step.Writes login octets
  | .completed _ => True
  | _ => False

/-- What may have happened on the way from the start to a state of the lifecycle, while commands may
not flow: the steps that are noted are one run, which leads to that state. -/
structure IsOpening (login : Login) (opening : List Happening) (state : Lifecycle) : Prop where
  run : ∃ events, opening.filterMap Happening.step? = Lifecycle.steps login .start events ∧
    state = Lifecycle.reached login .start events
  allowed : ∀ front happening back, opening = front ++ happening :: back →
    happening.IsOpening login front

namespace IsOpening

variable {login : Login} {opening : List Happening} {state : Lifecycle}

theorem start (login : Login) : IsOpening login [] .start where
  run := ⟨[], rfl, rfl⟩
  allowed front _ _ h := by cases front <;> cases h

/-- What is told to commands is no step. -/
theorem append_completed (h : IsOpening login opening state) (tickets : List Nat) :
    IsOpening login (opening ++ tickets.map .completed) state where
  run := by
    have hnone : (tickets.map Happening.completed).filterMap Happening.step? = [] := by
      rw [List.filterMap_map]
      exact List.filterMap_eq_nil_iff.mpr fun _ _ => rfl
    rw [List.filterMap_append, hnone, List.append_nil]
    exact h.run
  allowed := forall_split_append h.allowed fun front happening back heq => by
    have hmem : happening ∈ tickets.map .completed := by
      rw [heq]
      simp
    obtain ⟨ticket, -, rfl⟩ := List.mem_map.mp hmem
    trivial

/-- The lifecycle is told an event. -/
theorem concat_told (h : IsOpening login opening state) (hready : state.isReady = false)
    (event : Lifecycle.Event) :
    IsOpening login (opening ++ [.told ⟨state, event⟩])
      (Lifecycle.Step.next login ⟨state, event⟩) where
  run := by
    obtain ⟨events, hsteps, rfl⟩ := h.run
    refine ⟨events ++ [event], ?_, (Lifecycle.reached_concat _ _ _).symm⟩
    rw [List.filterMap_append, hsteps, Lifecycle.steps_concat]
    rfl
  allowed := forall_split_append h.allowed (forall_split_singleton hready)

/-- **One step of the login**: the lifecycle is told an event, commands may be complete with that,
and what is said is written. -/
theorem step (h : IsOpening login opening state) (hready : state.isReady = false)
    (event : Lifecycle.Event) (tickets : List Nat) {written : Option Bytes}
    (hwritten : ∀ octets ∈ written, Lifecycle.Step.Writes login ⟨state, event⟩ octets) :
    IsOpening login
      (opening ++ ([.told ⟨state, event⟩] ++ (tickets.map .completed ++ written.toList.map .wrote)))
      (Lifecycle.Step.next login ⟨state, event⟩) := by
  have hquiet := (h.concat_told hready event).append_completed tickets
  rw [← List.append_assoc, ← List.append_assoc]
  cases written with
  | none =>
    rw [Option.toList_none, List.map_nil, List.append_nil]
    exact hquiet
  | some octets =>
    refine ⟨?_, forall_split_append hquiet.allowed (forall_split_singleton ?_)⟩
    · obtain ⟨events, hsteps, hstate⟩ := hquiet.run
      refine ⟨events, ?_, hstate⟩
      rw [List.filterMap_append, hsteps]
      exact List.append_nil _
    · refine ⟨opening, ⟨state, event⟩, tickets, ?_, hwritten octets rfl⟩
      rw [List.append_nil, List.append_assoc]
      rfl

/-- The login writes no packet of a command. -/
theorem payloads_eq_nil (h : IsOpening login opening state) :
    opening.filterMap Happening.payload? = [] := by
  rw [List.filterMap_eq_nil_iff]
  intro happening hmem
  cases happening with
  | asked asker payload =>
    obtain ⟨front, back, heq⟩ := List.append_of_mem hmem
    exact (h.allowed front _ back heq).elim
  | _ => rfl

end IsOpening

/-! ## Records -/

/-- What may have happened at a connection: at first the login, and once commands may flow, if they
ever may, a disciplined session. -/
def IsRecord (login : Login) (log : List Happening) : Prop :=
  ∃ opening rest state, log = opening ++ rest ∧ IsOpening login opening state ∧
    (rest = [] ∨ ∃ capabilities session, state = .ready capabilities ∧
      rest = .ready capabilities :: session ∧ Disciplined capabilities session)

namespace IsRecord

variable {login : Login} {log opening session : List Happening} {state : Lifecycle}
  {capabilities : Capabilities}

theorem of_opening (h : IsOpening login log state) : IsRecord login log :=
  ⟨log, [], state, (List.append_nil log).symm, h, Or.inl rfl⟩

theorem of_session (hopening : IsOpening login opening (.ready capabilities))
    (hsession : Disciplined capabilities session) :
    IsRecord login (opening ++ .ready capabilities :: session) :=
  ⟨opening, _, _, rfl, hopening, Or.inr ⟨capabilities, session, rfl, rfl, hsession⟩⟩

theorem append_completed (h : IsRecord login log) (tickets : List Nat) :
    IsRecord login (log ++ tickets.map .completed) := by
  obtain ⟨opening, rest, state, rfl, hopening,
    rfl | ⟨capabilities, session, rfl, rfl, hsession⟩⟩ := h
  · rw [List.append_nil]
    exact of_opening (hopening.append_completed tickets)
  · rw [List.append_assoc, List.cons_append]
    exact of_session hopening (hsession.append_heard (by simp))

end IsRecord

end MySqlClient
