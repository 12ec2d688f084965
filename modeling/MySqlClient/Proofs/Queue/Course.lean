import MySqlClient.Proofs.Queue.Contract

/-!
# The course of a queue

Whatever a queue is asked for, and in whatever order, its active head is a command that has been
activated and has gone on since.  So what a command comes to by its activation, and keeps while it
goes on, holds of the active head at all times.

* `Queue.apply`: the queue once something has been asked of it.
* `Turn.GoesOn`: a step of a command that goes on leads to a command with some property.
* `Command.Keeps`: a property that commands come to by their activation and keep;
  `Keeps.activate_map` and `Keeps.handle_map` are about the parts of a sum.
* `Queue.HeadHas`: the active head has it; `HeadHas.apply` and `HeadHas.foldl`: **it has it in every
  course of the queue**.
-/

namespace MySqlClient

/-! ## Commands that go on -/

section

variable {σ : Type} {P : σ → Prop}

/-- If the step goes on, then it leads to a command with the property. -/
def Turn.GoesOn (P : σ → Prop) (step : Outcome (Turn × σ)) : Prop :=
  ∀ turn next, step = .ok (turn, next) → turn.done = false → P next

namespace Turn.GoesOn

theorem error (error : Error) : GoesOn P (.error error) := nofun

theorem of_next {turn : Turn} {next : σ} (h : P next) : GoesOn P (.ok (turn, next)) := by
  rintro _ _ ⟨⟩ -
  exact h

theorem of_done {turn : Turn} {next : σ} (h : turn.done = true) : GoesOn P (.ok (turn, next)) := by
  rintro _ _ ⟨⟩ hdone
  rw [h] at hdone
  cases hdone

theorem bind {α : Type} {outcome : Outcome α} {step : α → Outcome (Turn × σ)}
    (h : ∀ value, GoesOn P (step value)) : GoesOn P (outcome >>= step) := by
  cases outcome with
  | error fault => exact error fault
  | ok value => exact h value

theorem ite {p : Prop} [Decidable p] {step other : Outcome (Turn × σ)} (hthen : GoesOn P step)
    (helse : GoesOn P other) : GoesOn P (if p then step else other) := by
  split
  · exact hthen
  · exact helse

theorem keepOnError {command next : σ} {step : Outcome (Turn × σ)} {turn : Turn}
    (h : GoesOn P step) (hstep : Turn.keepOnError command step = (.ok turn, next))
    (hdone : turn.done = false) : P next := by
  cases step with
  | error error => cases hstep
  | ok answer =>
    cases hstep
    exact h _ _ rfl hdone

end Turn.GoesOn

/-- Commands come to the property by their activation, and keep it while they go on. -/
structure Command.Keeps [Command σ] (P : σ → Prop) : Prop where
  activate : ∀ {capabilities : Capabilities} {command next : σ} {turn : Turn},
    Command.activate capabilities command = (.ok turn, next) → turn.done = false → P next
  handle : ∀ {capabilities : Capabilities} {packet : Packet} {command next : σ} {turn : Turn},
    P command → Command.handle capabilities packet command = (.ok turn, next) →
    turn.done = false → P next
/-! ### Parts of a sum -/

variable {τ : Type} [Command σ] [Command τ] {Q : τ → Prop} {f : σ → τ}
  {capabilities : Capabilities} {packet : Packet} {command : σ} {next : τ} {turn : Turn}

/-- A command inside another one comes to what it comes to alone. -/
theorem Command.Keeps.activate_map (hf : Command.Respects f)
    (h : Command.Keeps fun command => Q (f command))
    (hactivate : Command.activate capabilities (f command) = (.ok turn, next))
    (hdone : turn.done = false) : Q next := by
  rw [hf.activate_eq, Prod.map, Prod.mk.injEq] at hactivate
  rw [← hactivate.2]
  exact h.activate (Prod.ext hactivate.1 rfl) hdone

/-- It keeps what it keeps alone. -/
theorem Command.Keeps.handle_map (hf : Command.Respects f)
    (h : Command.Keeps fun command => Q (f command)) (hcommand : Q (f command))
    (hhandle : Command.handle capabilities packet (f command) = (.ok turn, next))
    (hdone : turn.done = false) : Q next := by
  rw [hf.handle_eq, Prod.map, Prod.mk.injEq] at hhandle
  rw [← hhandle.2]
  exact h.handle hcommand (Prod.ext hhandle.1 rfl) hdone

end

/-! ## The active head -/

namespace Queue

variable {σ : Type} {P : σ → Prop} {queue : Queue σ}

/-- If the head is active, then it is there and its command has the property. -/
def HeadHas (P : σ → Prop) (queue : Queue σ) : Prop :=
  queue.active = true → ∃ head rest, queue.entries = head :: rest ∧ P head.command

theorem headHas_of_inactive (h : queue.active = false) : HeadHas P queue := by
  intro hactive
  rw [h] at hactive
  cases hactive

/-- What waits behind the head does not matter, nor what has been agreed on. -/
theorem HeadHas.of_append (h : HeadHas P queue) (entries : List (Entry σ))
    (capabilities : Option Capabilities) :
    HeadHas P { queue with entries := queue.entries ++ entries, capabilities } := by
  intro hactive
  obtain ⟨head, rest, hentries, hhead⟩ := h hactive
  refine ⟨head, rest ++ entries, ?_, hhead⟩
  show queue.entries ++ entries = _
  rw [hentries, List.cons_append]

variable [Command σ]

/-- The queue once something has been asked of it. -/
def apply (queue : Queue σ) : Input σ → Queue σ
  | .start capabilities => (queue.start capabilities).queue
  | .push entry => (queue.push entry).queue
  | .handle packet => (queue.handle packet).queue
  | .failAll => queue.failAll.queue

/-- An active head takes every packet but reports of progress. -/
theorem handle_of_active {capabilities : Capabilities} {packet : Packet}
    (h : isProgressReport capabilities packet.payload = false) (head : Entry σ)
    (rest : List (Entry σ)) :
    handle ⟨head :: rest, true, some capabilities⟩ packet =
      handleHead ⟨head :: rest, true, some capabilities⟩ capabilities packet head rest := by
  simp only [handle, h, Bool.false_eq_true, if_false, Bool.not_true]

theorem headHas_activateFirst (hP : Command.Keeps P) (capabilities : Capabilities)
    (entries : List (Entry σ)) : HeadHas P (activateFirst capabilities entries).queue := by
  induction entries with
  | nil => exact headHas_of_inactive rfl
  | cons entry rest ih =>
    rw [activateFirst]
    rcases hactivate : Command.activate capabilities entry.command with ⟨error | turn, command⟩
    · exact ih
    · cases hdone : turn.done with
      | true => simpa only [hdone, if_true] using ih
      | false =>
        simp only [hdone, Bool.false_eq_true, if_false]
        exact fun _ => ⟨_, rest, rfl, hP.activate hactivate hdone⟩

theorem HeadHas.activateHead (h : HeadHas P queue) (hP : Command.Keeps P) :
    HeadHas P queue.activateHead.queue := by
  unfold Queue.activateHead
  split
  · exact headHas_activateFirst hP _ _
  · exact h

theorem HeadHas.handleHead (hP : Command.Keeps P) (capabilities : Capabilities) (packet : Packet)
    {head : Entry σ} (hhead : P head.command) (rest : List (Entry σ)) :
    HeadHas P (queue.handleHead capabilities packet head rest).queue := by
  unfold Queue.handleHead
  rcases hhandle : Command.handle capabilities packet head.command with ⟨error | turn, command⟩
  · exact headHas_of_inactive rfl
  · cases hdone : turn.done with
    | true =>
      have hrest : HeadHas P (queue.withoutHead rest) := headHas_of_inactive rfl
      simp only [hdone, if_true]
      split
      · exact hrest
      · exact hrest.activateHead hP
    | false =>
      simp only [hdone, Bool.false_eq_true, if_false]
      exact fun _ => ⟨_, rest, rfl, hP.handle hhead hhandle hdone⟩

theorem HeadHas.handle (h : HeadHas P queue) (hP : Command.Keeps P) (packet : Packet) :
    HeadHas P (queue.handle packet).queue := by
  unfold Queue.handle
  split
  · exact h
  · split
    · exact h
    · split
      · exact h
      · next hactive =>
        obtain ⟨head, rest, hentries, hhead⟩ := h (by simpa using hactive)
        rw [hentries]
        exact handleHead hP _ packet hhead rest

/-- **Whatever is asked of a queue keeps what its active head has.** -/
theorem HeadHas.apply (h : HeadHas P queue) (hP : Command.Keeps P) (input : Input σ) :
    HeadHas P (queue.apply input) := by
  cases input with
  | start capabilities =>
    have hstarted : HeadHas P { queue with capabilities := some capabilities } := by
      simpa using h.of_append [] (some capabilities)
    exact hstarted.activateHead hP
  | push entry => exact (h.of_append [entry] queue.capabilities).activateHead hP
  | handle packet => exact h.handle hP packet
  | failAll => exact headHas_of_inactive rfl

/-- **So it is in every course of a queue.** -/
theorem HeadHas.foldl (h : HeadHas P queue) (hP : Command.Keeps P) (inputs : List (Input σ)) :
    HeadHas P (inputs.foldl Queue.apply queue) := by
  induction inputs generalizing queue with
  | nil => exact h
  | cons input inputs ih => exact ih (h.apply hP input)

end Queue

end MySqlClient
