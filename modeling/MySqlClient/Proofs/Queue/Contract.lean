import MySqlClient.Proofs.Queue.Attended

/-!
# A queue keeps the contract of its commands

Whatever the commands of a queue are, it calls them as they may count on, as long as it is used as
it wants to be: when a packet has ended the session, all commands have to be failed before anything
else.

* `Queue.Input`, `Queue.Usage`: what may be asked of a queue, and a queue in use, with all that has
  become of it; `Usage.run?`: one thing after the other.
* `Usage.KeepsContract`: what the records of the commands show.
* `Usage.Sound`: the invariant; `Sound.serve?` is one step, and `Sound.run?` a whole run.
* `Usage.run?_map`: a map that goes with commands goes with runs, such as to forget a record.
* `Queue.keepsContract_of_run?`: **in every run the contract is kept.**
-/

namespace MySqlClient

namespace Queue

variable {σ : Type} [Command σ]

/-! ## Runs -/

/-- What may be asked of a queue. -/
inductive Input (σ : Type) where
  | start (capabilities : Capabilities)
  | push (entry : Entry σ)
  | handle (packet : Packet)
  | failAll

omit [Command σ] in
/-- The command that is submitted, if one is. -/
def Input.entry? : Input σ → Option (Entry σ)
  | push entry => some entry
  | _ => none

/-- A queue in use. -/
structure Usage (σ : Type) where
  queue : Queue σ := {}
  /-- The commands that have become complete, in order. -/
  completions : List (Completion σ) := []
  /-- A packet has ended the session, and the commands have not been failed yet. -/
  ended : Bool := false

namespace Usage

omit [Command σ] in
/-- All commands that have been submitted: those that are complete, and behind them those that
wait. -/
def entries (usage : Usage σ) : List (Entry σ) :=
  usage.completions.map Completion.entry ++ usage.queue.entries

/-- Something has been done to the queue. -/
def after (usage : Usage σ) (effect : Effect σ) : Usage σ where
  queue := effect.queue
  completions := usage.completions ++ effect.completions

/-- Do to the queue what is asked. -/
def serve (usage : Usage σ) : Input σ → Usage σ
  | .start capabilities => usage.after (usage.queue.start capabilities)
  | .push entry => usage.after (usage.queue.push entry)
  | .handle packet =>
    let handled := usage.queue.handle packet
    { queue := handled.queue
      completions := usage.completions ++ handled.completions
      ended := !handled.result.isOk }
  | .failAll => usage.after usage.queue.failAll

/-- Do what is asked, if it may be asked: when a packet has ended the session, all commands have to
be failed before anything else. -/
def serve? (usage : Usage σ) (input : Input σ) : Option (Usage σ) :=
  match usage.ended, input with
  | true, .failAll => some (usage.serve .failAll)
  | true, _ => none
  | false, input => some (usage.serve input)

/-- Do one thing after the other. -/
def run? (usage : Usage σ) (inputs : List (Input σ)) : Option (Usage σ) :=
  inputs.foldlM serve? usage

theorem eq_of_serve? {usage next : Usage σ} {input : Input σ}
    (h : usage.serve? input = some next) :
    next = usage.serve input ∧ (usage.ended = false ∨ input = .failAll) := by
  unfold serve? at h
  split at h
  · cases h
    exact ⟨rfl, Or.inr rfl⟩
  · cases h
  · next hgoing =>
    cases h
    exact ⟨rfl, Or.inl hgoing⟩

theorem run?_cons_eq_some_iff {usage last : Usage σ} {input : Input σ}
    {inputs : List (Input σ)} :
    usage.run? (input :: inputs) = some last ↔
      ∃ next, usage.serve? input = some next ∧ next.run? inputs = some last := by
  rw [run?, List.foldlM_cons]
  exact Option.bind_eq_some_iff

theorem run?_append (usage : Usage σ) (front back : List (Input σ)) :
    usage.run? (front ++ back) = (usage.run? front).bind (run? · back) :=
  List.foldlM_append

/-- The contract of all commands has been kept so far.  Only the command at the head of those that
wait has been called, and none before the session was established. -/
structure KeepsContract (usage : Usage (Recorded σ)) : Prop where
  lawful : ∀ entry ∈ usage.entries, Call.Lawful entry.command.calls
  onlyHead : Untouched usage.queue.entries.tail
  unstarted : usage.queue.capabilities = none → Untouched usage.entries

/-- What every step keeps. -/
structure Sound (usage : Usage (Recorded σ)) : Prop where
  attendsHead : AttendsHead usage.queue
  lawful : ∀ completion ∈ usage.completions, Call.Lawful completion.command.calls
  unstarted : usage.queue.capabilities = none →
    ∀ completion ∈ usage.completions, completion.command.calls = []
  prompt : usage.ended = false → IsPrompt usage.queue

omit [Command σ] in
theorem sound_empty : Sound ({} : Usage (Recorded σ)) :=
  ⟨.idle (by simp [Untouched]), by simp, by simp, by simp [IsPrompt]⟩

omit [Command σ] in
theorem Sound.keepsContract {usage : Usage (Recorded σ)} (h : Sound usage) :
    KeepsContract usage where
  lawful := by
    intro entry hmem
    rcases List.mem_append.mp hmem with hmem | hmem
    · obtain ⟨completion, hcompletion, rfl⟩ := List.mem_map.mp hmem
      exact h.lawful completion hcompletion
    · exact h.attendsHead.lawful entry hmem
  onlyHead := h.attendsHead.untouched_tail
  unstarted := by
    intro hnone entry hmem
    rcases List.mem_append.mp hmem with hmem | hmem
    · obtain ⟨completion, hcompletion, rfl⟩ := List.mem_map.mp hmem
      exact h.unstarted hnone completion hcompletion
    · exact h.attendsHead.untouched_of_inactive (h.attendsHead.inactive_of_unstarted hnone) entry
        hmem

/-- What is done to the queue is done to the commands that wait. -/
theorem Sound.exists_attended {usage : Usage (Recorded σ)} {input : Input (Recorded σ)}
    (h : Sound usage) (hfresh : ∀ entry ∈ input.entry?, entry.command.calls = [])
    (hmay : usage.ended = false ∨ input = .failAll) :
    ∃ completions, (usage.serve input).completions = usage.completions ++ completions ∧
      Attended (usage.queue.entries ++ input.entry?.toList) (usage.serve input).queue completions ∧
      ((usage.serve input).ended = false → IsPrompt (usage.serve input).queue) ∧
      ((usage.serve input).queue.capabilities = none → usage.queue.capabilities = none) := by
  have hnil : usage.queue.entries ++ [] = usage.queue.entries := List.append_nil _
  cases input with
  | start capabilities =>
    obtain ⟨hattended, hprompt⟩ := attended_start h.attendsHead capabilities
    refine ⟨_, rfl, hnil.symm ▸ hattended, fun _ => hprompt, fun hnone => ?_⟩
    cases hnone.symm.trans
      (capabilities_activateHead { usage.queue with capabilities := some capabilities })
  | push entry =>
    obtain ⟨hattended, hprompt⟩ := attended_push h.attendsHead (hfresh entry rfl)
    refine ⟨_, rfl, hattended, fun _ => hprompt, fun hnone => ?_⟩
    exact (capabilities_activateHead
      { usage.queue with entries := usage.queue.entries ++ [entry] }).symm.trans hnone
  | handle packet =>
    have hgoing : usage.ended = false := hmay.resolve_right nofun
    obtain ⟨hattended, hprompt⟩ := attended_handle h.attendsHead (h.prompt hgoing) packet
    refine ⟨_, rfl, hnil.symm ▸ hattended, fun hok => hprompt ?_, fun hnone => ?_⟩
    · have hfine : (!(usage.queue.handle packet).result.isOk) = false := hok
      simpa using hfine
    · exact (capabilities_handle usage.queue packet).symm.trans hnone
  | failAll =>
    obtain ⟨hattended, hprompt⟩ := attended_failAll h.attendsHead
    exact ⟨_, rfl, hnil.symm ▸ hattended, fun _ => hprompt, id⟩

/-- **One step**: the invariant is kept, and every command becomes what calls make of it. -/
theorem Sound.serve? {usage next : Usage (Recorded σ)} {input : Input (Recorded σ)}
    (h : Sound usage) (hfresh : ∀ entry ∈ input.entry?, entry.command.calls = [])
    (hserve : usage.serve? input = some next) :
    Sound next ∧
      List.Forall₂ Entry.Becomes (usage.entries ++ input.entry?.toList) next.entries := by
  obtain ⟨rfl, hmay⟩ := eq_of_serve? hserve
  obtain ⟨completions, hcompletions, hattended, hprompt, hunstarted⟩ :=
    h.exists_attended hfresh hmay
  refine ⟨⟨hattended.attendsHead, ?_, fun hnone => ?_, hprompt⟩, ?_⟩
  · rw [hcompletions]
    exact List.forall_mem_append.mpr ⟨h.lawful, hattended.lawful⟩
  · rw [hcompletions]
    exact List.forall_mem_append.mpr ⟨h.unstarted (hunstarted hnone), hattended.unstarted hnone⟩
  · rw [entries, entries, hcompletions, List.map_append, List.append_assoc, List.append_assoc]
    exact List.rel_append (Entry.Becomes.forall₂_refl _) hattended.becomes

/-- **A whole run.** -/
theorem Sound.run? {usage last : Usage (Recorded σ)} {inputs : List (Input (Recorded σ))}
    (h : Sound usage) (hfresh : Untouched (inputs.filterMap Input.entry?))
    (hrun : usage.run? inputs = some last) :
    Sound last ∧
      List.Forall₂ Entry.Becomes (usage.entries ++ inputs.filterMap Input.entry?) last.entries := by
  induction inputs generalizing usage with
  | nil =>
    cases hrun
    rw [List.filterMap_nil, List.append_nil]
    exact ⟨h, Entry.Becomes.forall₂_refl _⟩
  | cons input inputs ih =>
    obtain ⟨next, hserve, hrest⟩ := run?_cons_eq_some_iff.mp hrun
    have hsubmitted : (input :: inputs).filterMap Input.entry? =
        input.entry?.toList ++ inputs.filterMap Input.entry? := by
      rw [List.filterMap_cons]
      cases input.entry? <;> rfl
    rw [hsubmitted] at hfresh ⊢
    obtain ⟨hfirst, hlater⟩ := List.forall_mem_append.mp hfresh
    obtain ⟨hnext, hstep⟩ := h.serve? (by simpa using hfirst) hserve
    obtain ⟨hlast, hsteps⟩ := ih hnext hlater hrest
    refine ⟨hlast, ?_⟩
    rw [← List.append_assoc]
    exact Entry.Becomes.forall₂_trans
      (List.rel_append hstep (Entry.Becomes.forall₂_refl _)) hsteps

end Usage

/-! ## Records -/

section

variable {τ : Type} [Command τ] {f : σ → τ}

omit [Command σ] [Command τ] in
/-- Map the command that is submitted. -/
def Input.map (f : σ → τ) : Input σ → Input τ
  | start capabilities => .start capabilities
  | push entry => .push (entry.map f)
  | handle packet => .handle packet
  | failAll => .failAll

omit [Command σ] [Command τ] in
/-- Map the commands. -/
def Usage.map (f : σ → τ) (usage : Usage σ) : Usage τ :=
  ⟨usage.queue.map f, usage.completions.map (Completion.map f), usage.ended⟩

omit [Command σ] [Command τ] in
theorem failAll_map (queue : Queue σ) : (queue.map f).failAll = queue.failAll.map f := by
  simp [failAll, Queue.map, Effect.map, Completion.map, complete, Entry.map]

namespace Usage

omit [Command σ] [Command τ] in
theorem after_map (usage : Usage σ) (effect : Effect σ) :
    (usage.map f).after (effect.map f) = (usage.after effect).map f := by
  simp [after, map, Effect.map]

theorem serve_map (hf : Command.Respects f) (usage : Usage σ) (input : Input σ) :
    (usage.map f).serve (input.map f) = (usage.serve input).map f := by
  cases input with
  | start capabilities =>
    show (usage.map f).after ((usage.queue.map f).start capabilities) = _
    rw [start_map hf, after_map]
    rfl
  | push entry =>
    show (usage.map f).after ((usage.queue.map f).push (entry.map f)) = _
    rw [push_map hf, after_map]
    rfl
  | handle packet =>
    simp only [Input.map, serve, map, handle_map hf, Handled.map, List.map_append]
  | failAll =>
    show (usage.map f).after (usage.queue.map f).failAll = _
    rw [failAll_map, after_map]
    rfl

theorem serve?_map (hf : Command.Respects f) (usage : Usage σ) (input : Input σ) :
    (usage.map f).serve? (input.map f) = (usage.serve? input).map (map f) := by
  unfold serve?
  rw [show (usage.map f).ended = usage.ended from rfl]
  cases usage.ended with
  | true => cases input <;> simp [Input.map, ← serve_map hf]
  | false => simp [serve_map hf]

/-- **A map that goes with commands goes with runs.** -/
theorem run?_map (hf : Command.Respects f) (usage : Usage σ) (inputs : List (Input σ)) :
    (usage.map f).run? (inputs.map (Input.map f)) = (usage.run? inputs).map (map f) := by
  induction inputs generalizing usage with
  | nil => rfl
  | cons input inputs ih =>
    rw [List.map_cons, run?, List.foldlM_cons, run?, List.foldlM_cons, serve?_map hf]
    cases usage.serve? input with
    | none => rfl
    | some next => exact ih next

end Usage

end

/-- The inputs of a queue whose commands keep a record. -/
def Input.recorded (inputs : List (Input σ)) : List (Input (Recorded σ)) :=
  inputs.map (Input.map Recorded.fresh)

omit [Command σ] in
theorem Input.map_recorded (inputs : List (Input σ)) :
    (recorded inputs).map (Input.map Recorded.command) = inputs := by
  have hid : Input.map Recorded.command ∘ Input.map Recorded.fresh =
      (id : Input σ → Input σ) := by
    funext input
    cases input <;> rfl
  rw [recorded, List.map_map, hid, List.map_id]

omit [Command σ] in
theorem Input.untouched_recorded (inputs : List (Input σ)) :
    Untouched ((recorded inputs).filterMap Input.entry?) := by
  intro entry hmem
  obtain ⟨input, hinput, hentry⟩ := List.mem_filterMap.mp hmem
  obtain ⟨original, -, rfl⟩ := List.mem_map.mp hinput
  cases original <;> cases hentry
  rfl

/-- **In every run of a queue the contract of its commands is kept**, whatever they are, and
whatever is asked of the queue as long as all commands are failed right after a packet that has
ended the session.  A record of all calls shows that

* the calls of each command keep the contract, and of those that wait only the head has been
  called, and none before the session was established;
* from any time on, the commands that are complete are the first ones of those submitted, each of
  them told once, and each command becomes what its calls make of it.

And while the session lasts a command is active exactly if there is one, so that no packet ever
finds an active head missing. -/
theorem keepsContract_of_run? {inputs : List (Input σ)} {usage : Usage σ}
    (h : ({} : Usage σ).run? inputs = some usage) :
    ∃ record : Usage (Recorded σ),
      record.map Recorded.command = usage ∧
      ({} : Usage (Recorded σ)).run? (Input.recorded inputs) = some record ∧
      record.KeepsContract ∧
      (∀ front back middle, inputs = front ++ back →
        ({} : Usage (Recorded σ)).run? (Input.recorded front) = some middle →
        List.Forall₂ Entry.Becomes
          (middle.entries ++ (Input.recorded back).filterMap Input.entry?) record.entries) ∧
      (usage.ended = false → IsPrompt usage.queue) ∧
      ∀ packet, (usage.queue.handle packet).result ≠ .error (.protocol .noActiveCommand) := by
  have hforget := Usage.run?_map
    (Recorded.respects_command : Command.Respects (Recorded.command : Recorded σ → σ)) {}
    (Input.recorded inputs)
  rw [Input.map_recorded] at hforget
  obtain ⟨record, hrecord, rfl⟩ := Option.map_eq_some_iff.mp (hforget.symm.trans h)
  obtain ⟨hsound, -⟩ := Usage.sound_empty.run? (Input.untouched_recorded inputs) hrecord
  refine ⟨record, rfl, hrecord, hsound.keepsContract, ?_, fun hgoing => ?_, fun packet => ?_⟩
  · rintro front back middle rfl hfront
    rw [Input.recorded, List.map_append, Usage.run?_append,
      show ({} : Usage (Recorded σ)).run? (front.map _) = _ from hfront] at hrecord
    obtain ⟨hmiddle, -⟩ := Usage.sound_empty.run? (Input.untouched_recorded front) hfront
    exact (hmiddle.run? (Input.untouched_recorded back) hrecord).2
  · simpa [IsPrompt, Usage.map, Queue.map] using hsound.prompt hgoing
  · show ((record.queue.map Recorded.command).handle packet).result ≠ _
    rw [handle_map Recorded.respects_command]
    exact result_handle_ne_noActiveCommand hsound.attendsHead packet

/-- A ping is answered, another one is not answered as it should be, which ends the session, and the
queue is used again after that. -/
def pingsUse : List (Input Ping) :=
  [.push ⟨1, {}⟩, .start .protocol41, .push ⟨2, {}⟩, .push ⟨3, {}⟩, .handle ⟨1, [0x00]⟩,
    .handle ⟨1, [0x05]⟩, .failAll, .push ⟨4, {}⟩]

/-- What has become of the pings. -/
def pingsUsed : Usage Ping where
  queue := { entries := [⟨4, {}⟩], active := true, capabilities := some .protocol41 }
  completions := [⟨1, {}, .ok ()⟩, ⟨2, {}, .error (.protocol .pingResponse)⟩,
    ⟨3, {}, .error .closed⟩]

theorem keepsContract_pings :
    ({} : Usage Ping).run? pingsUse = some pingsUsed ∧
      ∃ record : Usage (Recorded Ping), record.map Recorded.command = pingsUsed ∧
        ({} : Usage (Recorded Ping)).run? (Input.recorded pingsUse) = some record ∧
        record.KeepsContract ∧ IsPrompt pingsUsed.queue := by
  have hrun : ({} : Usage Ping).run? pingsUse = some pingsUsed := rfl
  obtain ⟨record, hmap, hrecord, hkeeps, -, hprompt, -⟩ := keepsContract_of_run? hrun
  exact ⟨hrun, record, hmap, hrecord, hkeeps, hprompt rfl⟩

end Queue

end MySqlClient
