import MySqlClient.Queue

/-!
# Commands that keep a record

A queue looks into its commands only by calling them, so that a map of commands that goes with the
calls goes with the queue as well.  One such map forgets the record of a command that writes down
how it has been called.

* `Command.Respects`: a map of commands that goes with their calls.
* `Queue.start_map`, `Queue.push_map`, `Queue.handle_map`: **it goes with what a queue does while
  the session lasts.**
* `Recorded`: a command with the record of its calls; `Recorded.respects_command`: forgetting the
  record is such a map.  So a queue of commands that keep a record tells what a queue of the
  commands does to them.
-/

namespace MySqlClient

variable {σ τ : Type} [Command σ] [Command τ] {f : σ → τ}

/-- The map goes with the calls of commands. -/
structure Command.Respects (f : σ → τ) : Prop where
  name_eq : ∀ command, Command.name (f command) = Command.name command
  activate_eq : ∀ capabilities command,
    Command.activate capabilities (f command) =
      Prod.map id f (Command.activate capabilities command)
  handle_eq : ∀ capabilities packet command,
    Command.handle capabilities packet (f command) =
      Prod.map id f (Command.handle capabilities packet command)

/-! ## Maps of queues -/

section

omit [Command σ] [Command τ]

/-- Map the command. -/
def Entry.map (f : σ → τ) (entry : Entry σ) : Entry τ :=
  ⟨entry.ticket, f entry.command⟩

/-- Map the command. -/
def Completion.map (f : σ → τ) (completion : Completion σ) : Completion τ :=
  ⟨completion.ticket, f completion.command, completion.result⟩

namespace Queue

/-- Map the commands. -/
def map (f : σ → τ) (queue : Queue σ) : Queue τ :=
  ⟨queue.entries.map (Entry.map f), queue.active, queue.capabilities⟩

/-- Map the commands. -/
def Effect.map (f : σ → τ) (effect : Effect σ) : Effect τ :=
  ⟨effect.queue.map f, effect.outbound, effect.completions.map (Completion.map f)⟩

/-- Map the commands. -/
def Handled.map (f : σ → τ) (handled : Handled σ) : Handled τ :=
  ⟨handled.queue.map f, handled.result, handled.completions.map (Completion.map f)⟩

end Queue

end

namespace Queue

theorem activateFirst_map (hf : Command.Respects f) (capabilities : Capabilities)
    (entries : List (Entry σ)) :
    activateFirst capabilities (entries.map (Entry.map f)) =
      (activateFirst capabilities entries).map f := by
  induction entries with
  | nil => rfl
  | cons entry rest ih =>
    rw [List.map_cons, activateFirst, activateFirst, Entry.map, hf.activate_eq, ih]
    rcases Command.activate capabilities entry.command with ⟨error | turn, command⟩
    · rfl
    · cases hdone : turn.done <;> simp [hdone, Effect.map, Queue.map, Completion.map, Entry.map,
        complete]

theorem activateHead_map (hf : Command.Respects f) (queue : Queue σ) :
    (queue.map f).activateHead = queue.activateHead.map f := by
  rcases queue with ⟨entries, _ | _, _ | capabilities⟩
  · rfl
  · exact activateFirst_map hf capabilities entries
  · rfl
  · rfl

theorem push_map (hf : Command.Respects f) (queue : Queue σ) (entry : Entry σ) :
    (queue.map f).push (entry.map f) = (queue.push entry).map f := by
  rw [push, push, ← activateHead_map hf]
  simp [Queue.map]

theorem start_map (hf : Command.Respects f) (queue : Queue σ) (capabilities : Capabilities) :
    (queue.map f).start capabilities = (queue.start capabilities).map f :=
  activateHead_map hf { queue with capabilities := some capabilities }

theorem handleHead_map (hf : Command.Respects f) (queue : Queue σ) (capabilities : Capabilities)
    (packet : Packet) (entry : Entry σ) (rest : List (Entry σ)) :
    (queue.map f).handleHead capabilities packet (entry.map f) (rest.map (Entry.map f)) =
      (queue.handleHead capabilities packet entry rest).map f := by
  have hfatal (failure : Option Error) :
      fatalError? (f entry.command) failure = fatalError? entry.command failure := by
    simp only [fatalError?, hf.name_eq]
  have hrest : (queue.map f).withoutHead (rest.map (Entry.map f)) =
      (queue.withoutHead rest).map f := rfl
  rw [handleHead, handleHead, Entry.map, hf.handle_eq, hf.name_eq, hrest, activateHead_map hf]
  simp only [hfatal]
  rcases Command.handle capabilities packet entry.command with ⟨error | turn, command⟩
  · rfl
  · cases hdone : turn.done
    · simp [hdone, Handled.map, Queue.map, Entry.map]
    · cases hfailure : fatalError? entry.command turn.failure <;>
        simp [hdone, hfailure, Handled.map, Effect.map, Completion.map, complete]

/-- **A map that goes with commands goes with the queue.** -/
theorem handle_map (hf : Command.Respects f) (queue : Queue σ) (packet : Packet) :
    (queue.map f).handle packet = (queue.handle packet).map f := by
  rcases queue with ⟨entries, active, _ | capabilities⟩
  · rfl
  · cases hprogress : isProgressReport capabilities packet.payload
    · cases active
      · simp [handle, Queue.map, hprogress, Handled.map]
      · cases entries with
        | nil => simp [handle, Queue.map, hprogress, Handled.map]
        | cons entry rest =>
          have hhead := handleHead_map hf ⟨entry :: rest, true, some capabilities⟩ capabilities
            packet entry rest
          simpa [handle, Queue.map, hprogress] using hhead
    · simp [handle, Queue.map, hprogress, Handled.map]

end Queue

/-! ## Records -/

/-- A call of a command, with its answer. -/
inductive Call where
  | activated (answer : Outcome Turn)
  | handed (packet : Packet) (answer : Outcome Turn)

/-- A command, and how it has been called so far. -/
structure Recorded (σ : Type) where
  command : σ
  calls : List Call := []

namespace Recorded

omit [Command σ] in
/-- A command that has not been called. -/
def fresh (command : σ) : Recorded σ :=
  { command }

instance : Command (Recorded σ) where
  name recorded := Command.name recorded.command
  activate capabilities recorded :=
    let (answer, command) := Command.activate capabilities recorded.command
    (answer, ⟨command, recorded.calls ++ [.activated answer]⟩)
  handle capabilities packet recorded :=
    let (answer, command) := Command.handle capabilities packet recorded.command
    (answer, ⟨command, recorded.calls ++ [.handed packet answer]⟩)

/-- **To forget the records goes with the calls.** -/
theorem respects_command : Command.Respects (command : Recorded σ → σ) where
  name_eq _ := rfl
  activate_eq _ _ := rfl
  handle_eq _ _ _ := rfl

end Recorded

end MySqlClient
