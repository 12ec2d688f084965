import MySqlClient.Proofs.Queue.Recorded

/-!
# Pipelining does not depend on when commands are submitted

Commands are submitted to a queue, and it is handed packets, each in an order of their own.  How the
two are merged does not matter, as long as packets only come while a command is active.

* `Queue.Operation`, `Queue.perform?`, `Queue.run?`: the operations of a schedule, one after the
  other.
* `Queue.activateFirst_append`: to activate with one command more is to activate, and to submit it.
* `Queue.perform?_handle_push`: **to submit a command and to hand over a packet commute.**
* `Queue.Merges`: a schedule merges submissions and packets; `Queue.Merges.run?_eq_some`: **to
  submit everything first has the same effect.**
* `Queue.run?_map`: a map that goes with commands goes with runs, such as to forget a record of the
  calls; `Queue.pushesFirst_of_merges`: so every command has also been called in the same way.
-/

namespace MySqlClient

namespace Queue

variable {σ τ : Type} [Command σ] [Command τ] {queue : Queue σ} {effect : Effect σ}

/-! ## Effects, one after the other -/

/-- What comes of a call and of another one behind it. -/
def Effect.andThen (first next : Effect σ) : Effect σ where
  queue := next.queue
  outbound := first.outbound ++ next.outbound
  completions := first.completions ++ next.completions

omit [Command σ] in
theorem Effect.andThen_assoc (first second third : Effect σ) :
    (first.andThen second).andThen third = first.andThen (second.andThen third) := by
  simp [Effect.andThen]

omit [Command σ] in
/-- A call of which nothing comes but the queue. -/
theorem Effect.mk_andThen (queue : Queue σ) (next : Effect σ) :
    Effect.andThen { queue } next = next := rfl

/-- What may be done to a queue. -/
inductive Operation (σ : Type) where
  | push (entry : Entry σ)
  | handle (packet : Packet)

/-- What comes of routing a packet, if that does not end the session. -/
def Handled.effect? (handled : Handled σ) : Option (Effect σ) :=
  match handled.result with
  | .ok outbound => some ⟨handled.queue, outbound, handled.completions⟩
  | .error _ => none

/-- Do something to a queue.  A packet may only come while a command is active, and must not end the
session. -/
def perform? (queue : Queue σ) : Operation σ → Option (Effect σ)
  | .push entry => some (queue.push entry)
  | .handle packet => if queue.active then (queue.handle packet).effect? else none

/-- Do one thing after the other.  Everything that is to be written is collected, and so are the
commands that became complete. -/
def run? (queue : Queue σ) : List (Operation σ) → Option (Effect σ)
  | [] => some { queue }
  | operation :: operations =>
    (queue.perform? operation).bind fun first =>
      (run? first.queue operations).map first.andThen

theorem run?_cons_eq_some_iff {operation : Operation σ} {operations : List (Operation σ)} :
    queue.run? (operation :: operations) = some effect ↔
      ∃ first rest, queue.perform? operation = some first ∧
        first.queue.run? operations = some rest ∧ first.andThen rest = effect := by
  simp only [run?, Option.bind_eq_some_iff, Option.map_eq_some_iff]
  constructor
  · rintro ⟨first, hfirst, rest, hrest, heffect⟩
    exact ⟨first, rest, hfirst, hrest, heffect⟩
  · rintro ⟨first, rest, hfirst, hrest, heffect⟩
    exact ⟨first, hfirst, rest, hrest, heffect⟩

/-! ## Submissions and packets commute -/

/-- While a command is active, a submission only makes the queue longer. -/
theorem push_of_active (h : queue.active = true) (entry : Entry σ) :
    queue.push entry = { queue := { queue with entries := queue.entries ++ [entry] } } := by
  rw [push, activateHead]
  simp [h]

/-- **To activate with one command more is to activate, and to submit it.** -/
theorem activateFirst_append (capabilities : Capabilities) (entries : List (Entry σ))
    (entry : Entry σ) :
    activateFirst capabilities (entries ++ [entry]) =
      (activateFirst capabilities entries).andThen
        ((activateFirst capabilities entries).queue.push entry) := by
  -- along the commands that are complete when they have been activated
  induction entries with
  | nil => rfl
  | cons head rest ih =>
    rw [List.cons_append, activateFirst, activateFirst]
    rcases Command.activate capabilities head.command with ⟨error | turn, command⟩
    · simp only [ih]
      rfl
    · dsimp only
      split
      · simp [ih, Effect.andThen]
      · rw [push_of_active rfl]
        simp [Effect.andThen]

/-- What the head does with a packet does not depend on how many commands wait behind it. -/
theorem effect?_handleHead_append {capabilities : Capabilities} {packet : Packet}
    {head : Entry σ} {rest : List (Entry σ)} (hactive : queue.active = true)
    (hcapabilities : queue.capabilities = some capabilities)
    (h : (queue.handleHead capabilities packet head rest).effect? = some effect)
    (entry : Entry σ) :
    (queue.handleHead capabilities packet head (rest ++ [entry])).effect? =
      some (effect.andThen (effect.queue.push entry)) := by
  have hbehind (rest : List (Entry σ)) :
      (queue.withoutHead rest).activateHead = activateFirst capabilities rest := by
    simp only [withoutHead, activateHead, hcapabilities]
  unfold handleHead at h ⊢
  generalize Command.handle capabilities packet head.command = answered at h ⊢
  rcases answered with ⟨error | turn, command⟩
  · cases h
  dsimp only at h ⊢
  by_cases hdone : turn.done = true
  · rw [if_pos hdone] at h ⊢
    cases hfatal : fatalError? head.command turn.failure with
    | some error =>
      rw [hfatal] at h
      cases h
    | none =>
      rw [hfatal] at h
      rw [hbehind] at h ⊢
      cases h
      simp [Handled.effect?, activateFirst_append, Effect.andThen]
  · rw [if_neg hdone] at h ⊢
    cases h
    dsimp only
    rw [push_of_active (by exact hactive)]
    simp [Handled.effect?, Effect.andThen]

/-- **To submit a command and to hand over a packet commute.** -/
theorem perform?_handle_push {packet : Packet}
    (h : queue.perform? (.handle packet) = some effect) (entry : Entry σ) :
    (queue.push entry).queue.perform? (.handle packet) =
      some (effect.andThen (effect.queue.push entry)) := by
  rcases queue with ⟨entries, _ | _, _ | capabilities⟩
  · cases h
  · cases h
  · cases h
  rw [push_of_active rfl]
  simp only [perform?, if_true, handle] at h ⊢
  by_cases hprogress : isProgressReport capabilities packet.payload = true
  · rw [if_pos hprogress] at h ⊢
    cases h
    rw [push_of_active rfl]
    rfl
  · rw [if_neg hprogress] at h ⊢
    cases entries with
    | nil => cases h
    | cons head rest => exact effect?_handleHead_append rfl rfl h entry

/-- A submission right behind a packet may as well come right in front of it. -/
theorem run?_push_handle {packet : Packet} {entry : Entry σ} {operations : List (Operation σ)}
    (h : queue.run? (.handle packet :: .push entry :: operations) = some effect) :
    queue.run? (.push entry :: .handle packet :: operations) = some effect := by
  obtain ⟨handled, rest, hhandled, hrest, rfl⟩ := run?_cons_eq_some_iff.mp h
  obtain ⟨pushed, last, hpushed, hlast, rfl⟩ := run?_cons_eq_some_iff.mp hrest
  cases hpushed
  have hactive : queue.active = true := by
    cases hidle : queue.active with
    | true => rfl
    | false => simp [perform?, hidle] at hhandled
  refine run?_cons_eq_some_iff.mpr ⟨_, _, rfl, run?_cons_eq_some_iff.mpr
    ⟨_, last, perform?_handle_push hhandled entry, hlast, rfl⟩, ?_⟩
  rw [push_of_active hactive, Effect.mk_andThen, Effect.andThen_assoc]

/-- Submissions right behind a packet may as well come in front of it. -/
theorem run?_pushes_handle {packet : Packet} {operations : List (Operation σ)}
    (entries : List (Entry σ))
    (h : queue.run? (.handle packet :: (entries.map .push ++ operations)) = some effect) :
    queue.run? (entries.map .push ++ .handle packet :: operations) = some effect := by
  induction entries generalizing queue effect with
  | nil => exact h
  | cons entry entries ih =>
    obtain ⟨first, rest, hfirst, hrest, rfl⟩ := run?_cons_eq_some_iff.mp (run?_push_handle h)
    exact run?_cons_eq_some_iff.mpr ⟨first, rest, hfirst, ih hrest, rfl⟩

/-! ## Schedules -/

/-- The schedule merges submissions and packets, each in its order. -/
inductive Merges : List (Entry σ) → List Packet → List (Operation σ) → Prop
  | nil : Merges [] [] []
  | push {entry : Entry σ} {entries : List (Entry σ)} {packets : List Packet}
      {operations : List (Operation σ)} (h : Merges entries packets operations) :
      Merges (entry :: entries) packets (.push entry :: operations)
  | handle {packet : Packet} {entries : List (Entry σ)} {packets : List Packet}
      {operations : List (Operation σ)} (h : Merges entries packets operations) :
      Merges entries (packet :: packets) (.handle packet :: operations)

/-- The schedule in which all submissions come first. -/
def pushesFirst (entries : List (Entry σ)) (packets : List Packet) : List (Operation σ) :=
  entries.map .push ++ packets.map .handle

/-- **To submit everything first has the same effect**: what is left in the queue, what is written,
and which commands are complete with what results. -/
theorem Merges.run?_eq_some {entries : List (Entry σ)} {packets : List Packet}
    {operations : List (Operation σ)} (hmerges : Merges entries packets operations)
    (h : queue.run? operations = some effect) :
    queue.run? (pushesFirst entries packets) = some effect := by
  -- along the schedule; a packet in front lets all submissions behind it pass
  induction hmerges generalizing queue effect with
  | nil => exact h
  | push _ ih =>
    obtain ⟨first, rest, hfirst, hrest, rfl⟩ := run?_cons_eq_some_iff.mp h
    exact run?_cons_eq_some_iff.mpr ⟨first, rest, hfirst, ih hrest, rfl⟩
  | handle _ ih =>
    obtain ⟨first, rest, hfirst, hrest, rfl⟩ := run?_cons_eq_some_iff.mp h
    exact run?_pushes_handle _ (run?_cons_eq_some_iff.mpr ⟨first, rest, hfirst, ih hrest, rfl⟩)

/-! ## Records -/

/-- Map the command that is submitted. -/
def Operation.map (f : σ → τ) : Operation σ → Operation τ
  | .push entry => .push (entry.map f)
  | .handle packet => .handle packet

theorem perform?_map {f : σ → τ} (hf : Command.Respects f) (queue : Queue σ)
    (operation : Operation σ) :
    (queue.map f).perform? (operation.map f) =
      (queue.perform? operation).map (Effect.map f) := by
  cases operation with
  | push entry => exact congrArg some (push_map hf queue entry)
  | handle packet =>
    show (if queue.active then ((queue.map f).handle packet).effect? else none) = _
    rw [handle_map hf, perform?]
    cases queue.active
    · rfl
    · rcases queue.handle packet with ⟨_, _ | _, _⟩ <;> rfl

/-- **A map that goes with commands goes with runs.** -/
theorem run?_map {f : σ → τ} (hf : Command.Respects f) (queue : Queue σ)
    (operations : List (Operation σ)) :
    (queue.map f).run? (operations.map (Operation.map f)) =
      (queue.run? operations).map (Effect.map f) := by
  induction operations generalizing queue with
  | nil => rfl
  | cons operation operations ih =>
    rw [List.map_cons, run?, run?, perform?_map hf]
    cases queue.perform? operation with
    | none => rfl
    | some first =>
      simp only [Option.map_some, Option.bind_some]
      rw [show (first.map f).queue = first.queue.map f from rfl, ih]
      cases first.queue.run? operations <;> simp [Effect.map, Effect.andThen]

/-- A schedule of commands that keep a record. -/
def recorded (operations : List (Operation σ)) : List (Operation (Recorded σ)) :=
  operations.map (Operation.map Recorded.fresh)

omit [Command σ] in
theorem Merges.recorded {entries : List (Entry σ)} {packets : List Packet}
    {operations : List (Operation σ)} (h : Merges entries packets operations) :
    Merges (entries.map (Entry.map Recorded.fresh)) packets (Queue.recorded operations) := by
  induction h with
  | nil => exact .nil
  | push _ ih => exact .push ih
  | handle _ ih => exact .handle ih

/-- **Pipelining does not depend on when commands are submitted.**  Whatever the commands, to submit
them all in front of the first packet has the same effect as any schedule in which packets only come
while a command is active and none of them ends the session: the same commands are left in the
queue, the same is written, and the same commands are complete with the same results.  Every command
has been called in the same way, and so has been handed the same packets. -/
theorem pushesFirst_of_merges (capabilities : Capabilities) {entries : List (Entry σ)}
    {packets : List Packet} {operations : List (Operation σ)}
    (hmerges : Merges entries packets operations)
    (h : (({} : Queue σ).start capabilities).queue.run? operations = some effect) :
    (({} : Queue σ).start capabilities).queue.run? (pushesFirst entries packets) = some effect ∧
      ∃ record : Effect (Recorded σ),
        record.map Recorded.command = effect ∧
        (({} : Queue (Recorded σ)).start capabilities).queue.run? (recorded operations) =
          some record ∧
        (({} : Queue (Recorded σ)).start capabilities).queue.run?
            (pushesFirst (entries.map (Entry.map Recorded.fresh)) packets) =
          some record := by
  have hforget : (recorded operations).map (Operation.map Recorded.command) = operations := by
    have hid : Operation.map Recorded.command ∘ Operation.map Recorded.fresh =
        (id : Operation σ → Operation σ) := by
      funext operation
      cases operation <;> rfl
    rw [recorded, List.map_map, hid, List.map_id]
  have hstart : (({} : Queue (Recorded σ)).start capabilities).queue.map Recorded.command =
      (({} : Queue σ).start capabilities).queue :=
    congrArg Effect.queue (start_map Recorded.respects_command {} capabilities).symm
  have hrecord := run?_map Recorded.respects_command
    (({} : Queue (Recorded σ)).start capabilities).queue (recorded operations)
  rw [hforget, hstart, h] at hrecord
  obtain ⟨record, hrun, hmap⟩ := Option.map_eq_some_iff.mp hrecord.symm
  exact ⟨hmerges.run?_eq_some h, record, hmap, hrun, hmerges.recorded.run?_eq_some hrun⟩

/-- Three pings. -/
def pings : List (Entry Ping) :=
  [⟨1, {}⟩, ⟨2, {}⟩, ⟨3, {}⟩]

/-- Their answers. -/
def pongs : List Packet :=
  [⟨1, [0x00]⟩, ⟨1, [0x00]⟩, ⟨1, [0x00]⟩]

/-- The last ping is submitted when the others have been answered. -/
def lastPingLate : List (Operation Ping) :=
  [.push ⟨1, {}⟩, .push ⟨2, {}⟩, .handle ⟨1, [0x00]⟩, .handle ⟨1, [0x00]⟩, .push ⟨3, {}⟩,
    .handle ⟨1, [0x00]⟩]

/-- What comes of the pings and their answers. -/
def pingsAnswered : Effect Ping where
  queue := { capabilities := some .protocol41 }
  outbound := pings.map fun _ => ⟨[Request.ping.encode], true⟩
  completions := pings.map fun ping => ⟨ping.ticket, ping.command, .ok ()⟩

theorem pushesFirst_pings :
    Merges pings pongs lastPingLate ∧
      (({} : Queue Ping).start .protocol41).queue.run? lastPingLate = some pingsAnswered ∧
      (({} : Queue Ping).start .protocol41).queue.run? (pushesFirst pings pongs) =
        some pingsAnswered := by
  have hmerges : Merges pings pongs lastPingLate :=
    .push (.push (.handle (.handle (.push (.handle .nil)))))
  have hrun : (({} : Queue Ping).start .protocol41).queue.run? lastPingLate =
      some pingsAnswered := rfl
  exact ⟨hmerges, hrun, (pushesFirst_of_merges .protocol41 hmerges hrun).1⟩

end Queue

end MySqlClient
