import Mathlib.Data.List.Forall2
import Mathlib.Logic.Relation
import MySqlClient.Proofs.Queue.Recorded
import MySqlClient.Proofs.Wire.Ensures

/-!
# How a queue calls its commands

A command may count on how it is called: it is activated once, when its turn has come, it is handed
packets from then on, and it is left alone when it has said that it is done or has failed.  Here
this is said of the record of its calls, and shown of every operation of a queue.

* `Call.Lawful`: the calls of a command keep the contract; `Call.Open`: it is in the middle of its
  exchange.
* `Entry.Becomes`: calls have been made of an entry's command.
* `Queue.AttendsHead`: the head that is active is in the middle of its exchange, and no other
  command has been called; `Queue.IsPrompt`: a command is active exactly if there is one.
* `Queue.Attended`: what an operation does to the commands that wait; `attended_start`,
  `attended_push`, `attended_handle`, `attended_failAll`: **every operation does.**
* `Queue.result_handle_ne_noActiveCommand`: so an active head is never missed.
-/

namespace MySqlClient

/-! ## Calls -/

namespace Call

/-- What the command has answered. -/
def answer : Call → Outcome Turn
  | activated answer => answer
  | handed _ answer => answer

/-- The calls of a command keep the contract.  It is activated first and only then; every later call
hands it a packet; and every call but the last one was answered by a turn that is not done. -/
structure Lawful (calls : List Call) : Prop where
  first : ∀ call ∈ calls.head?, ∃ answer, call = .activated answer
  later : ∀ call ∈ calls.tail, ∃ packet answer, call = .handed packet answer
  goesOn : ∀ call ∈ calls.dropLast, ∃ turn, call.answer = .ok turn ∧ turn.done = false

/-- A command with these calls is in the middle of its exchange. -/
structure Open (calls : List Call) : Prop where
  lawful : Lawful calls
  ne_nil : calls ≠ []
  goesOn : ∀ call ∈ calls, ∃ turn, call.answer = .ok turn ∧ turn.done = false

theorem lawful_nil : Lawful [] :=
  ⟨by simp, by simp, by simp⟩

theorem lawful_activated (answer : Outcome Turn) : Lawful [.activated answer] :=
  ⟨by simp, by simp, by simp⟩

theorem open_activated {turn : Turn} (h : turn.done = false) : Open [.activated (.ok turn)] :=
  ⟨lawful_activated _, by simp, by simpa [answer] using h⟩

variable {calls : List Call}

/-- In the middle of its exchange a command may be handed a packet. -/
theorem Open.lawful_concat (h : Open calls) (packet : Packet) (answer : Outcome Turn) :
    Lawful (calls ++ [.handed packet answer]) where
  first := by
    rw [List.head?_append_of_ne_nil _ h.ne_nil]
    exact h.lawful.first
  later := by
    rw [List.tail_append_of_ne_nil h.ne_nil]
    intro call hmem
    rcases List.mem_append.mp hmem with hmem | hmem
    · exact h.lawful.later call hmem
    · exact ⟨packet, answer, List.mem_singleton.mp hmem⟩
  goesOn := by
    rw [List.dropLast_concat]
    exact h.goesOn

/-- If it is not done with the packet, its exchange goes on. -/
theorem Open.concat (h : Open calls) (packet : Packet) {turn : Turn} (hwait : turn.done = false) :
    Open (calls ++ [.handed packet (.ok turn)]) where
  lawful := h.lawful_concat packet (.ok turn)
  ne_nil := by simp
  goesOn := by
    intro call hmem
    rcases List.mem_append.mp hmem with hmem | hmem
    · exact h.goesOn call hmem
    · rw [List.mem_singleton.mp hmem]
      exact ⟨turn, rfl, hwait⟩

end Call

namespace Recorded

variable {σ : Type} [Command σ]

/-- One command is what a call makes of the other. -/
inductive Called : Recorded σ → Recorded σ → Prop
  | activate (capabilities : Capabilities) (recorded : Recorded σ) :
      Called recorded (Command.activate capabilities recorded).2
  | handle (capabilities : Capabilities) (packet : Packet) (recorded : Recorded σ) :
      Called recorded (Command.handle capabilities packet recorded).2

theorem calls_activate {capabilities : Capabilities} {recorded next : Recorded σ}
    {answer : Outcome Turn} (h : Command.activate capabilities recorded = (answer, next)) :
    next.calls = recorded.calls ++ [.activated answer] := by
  cases h
  rfl

theorem calls_handle {capabilities : Capabilities} {packet : Packet} {recorded next : Recorded σ}
    {answer : Outcome Turn} (h : Command.handle capabilities packet recorded = (answer, next)) :
    next.calls = recorded.calls ++ [.handed packet answer] := by
  cases h
  rfl

end Recorded

/-- The same entry later: calls have been made of its command. -/
def Entry.Becomes {σ : Type} [Command σ] (before after : Entry (Recorded σ)) : Prop :=
  after.ticket = before.ticket ∧
    Relation.ReflTransGen Recorded.Called before.command after.command

namespace Entry.Becomes

variable {σ : Type} [Command σ]

theorem refl (entry : Entry (Recorded σ)) : entry.Becomes entry :=
  ⟨rfl, .refl⟩

theorem trans {first second third : Entry (Recorded σ)} (h : first.Becomes second)
    (h' : second.Becomes third) : first.Becomes third :=
  ⟨h'.1.trans h.1, h.2.trans h'.2⟩

theorem of_activate {capabilities : Capabilities} {entry : Entry (Recorded σ)}
    {answer : Outcome Turn} {next : Recorded σ}
    (h : Command.activate capabilities entry.command = (answer, next)) :
    entry.Becomes ⟨entry.ticket, next⟩ := by
  refine ⟨rfl, .single ?_⟩
  have hcalled := Recorded.Called.activate capabilities entry.command
  rwa [h] at hcalled

theorem of_handle {capabilities : Capabilities} {packet : Packet} {entry : Entry (Recorded σ)}
    {answer : Outcome Turn} {next : Recorded σ}
    (h : Command.handle capabilities packet entry.command = (answer, next)) :
    entry.Becomes ⟨entry.ticket, next⟩ := by
  refine ⟨rfl, .single ?_⟩
  have hcalled := Recorded.Called.handle capabilities packet entry.command
  rwa [h] at hcalled

/-- Entries that all stay as they are. -/
theorem forall₂_refl (entries : List (Entry (Recorded σ))) :
    List.Forall₂ Becomes entries entries :=
  List.forall₂_same.mpr fun entry _ => refl entry

theorem forall₂_trans {first second third : List (Entry (Recorded σ))}
    (h : List.Forall₂ Becomes first second) (h' : List.Forall₂ Becomes second third) :
    List.Forall₂ Becomes first third := by
  induction h generalizing third with
  | nil => exact h'
  | cons hhead _ ih =>
    cases h' with
    | cons hhead' htail' => exact .cons (hhead.trans hhead') (ih htail')

end Entry.Becomes

/-- The entry that is complete, with the command as it was at the end. -/
def Completion.entry {σ : Type} (completion : Completion σ) : Entry σ :=
  ⟨completion.ticket, completion.command⟩

namespace Queue

/-! ## Operations -/

variable {σ : Type}

/-- No command in the list has been called. -/
def Untouched (entries : List (Entry (Recorded σ))) : Prop :=
  ∀ entry ∈ entries, entry.command.calls = []

/-- The head that is active is in the middle of its exchange, and no other command has been
called. -/
inductive AttendsHead : Queue (Recorded σ) → Prop
  | idle {entries : List (Entry (Recorded σ))} {capabilities : Option Capabilities}
      (h : Untouched entries) : AttendsHead ⟨entries, false, capabilities⟩
  | busy {head : Entry (Recorded σ)} {rest : List (Entry (Recorded σ))}
      {capabilities : Capabilities} (hhead : Call.Open head.command.calls)
      (hrest : Untouched rest) : AttendsHead ⟨head :: rest, true, some capabilities⟩

/-- Once the session is established, a command is active exactly if there is one. -/
def IsPrompt (queue : Queue σ) : Prop :=
  queue.capabilities.isSome = true → (queue.active = true ↔ queue.entries ≠ [])

namespace AttendsHead

variable {queue : Queue (Recorded σ)}

theorem untouched_tail (h : AttendsHead queue) : Untouched queue.entries.tail := by
  cases h with
  | idle h => exact fun entry hmem => h entry (List.mem_of_mem_tail hmem)
  | busy _ hrest => exact hrest

theorem untouched_of_inactive (h : AttendsHead queue) (hinactive : queue.active = false) :
    Untouched queue.entries := by
  cases h with
  | idle h => exact h
  | busy => cases hinactive

theorem inactive_of_unstarted (h : AttendsHead queue) (hnone : queue.capabilities = none) :
    queue.active = false := by
  cases h with
  | idle => rfl
  | busy => cases hnone

theorem lawful (h : AttendsHead queue) :
    ∀ entry ∈ queue.entries, Call.Lawful entry.command.calls := by
  intro entry hmem
  cases h with
  | idle h =>
    rw [h entry hmem]
    exact Call.lawful_nil
  | busy hhead hrest =>
    rcases List.mem_cons.mp hmem with rfl | hmem
    · exact hhead.lawful
    · rw [hrest entry hmem]
      exact Call.lawful_nil

end AttendsHead

variable [Command σ]

/-- What every operation does to the commands that wait: those that become complete are the first
ones, calls have been made of all of them, and the contract is kept. -/
structure Attended (before : List (Entry (Recorded σ))) (queue : Queue (Recorded σ))
    (completions : List (Completion (Recorded σ))) : Prop where
  becomes : List.Forall₂ Entry.Becomes before (completions.map Completion.entry ++ queue.entries)
  lawful : ∀ completion ∈ completions, Call.Lawful completion.command.calls
  attendsHead : AttendsHead queue
  unstarted : queue.capabilities = none →
    ∀ completion ∈ completions, completion.command.calls = []

/-- Nothing happens. -/
theorem attended_refl {queue : Queue (Recorded σ)} (h : AttendsHead queue) :
    Attended queue.entries queue [] :=
  ⟨Entry.Becomes.forall₂_refl _, by simp, h, by simp⟩

theorem capabilities_activateFirst (capabilities : Capabilities) (entries : List (Entry σ)) :
    (activateFirst capabilities entries).queue.capabilities = some capabilities := by
  induction entries with
  | nil => rfl
  | cons entry rest ih =>
    rw [activateFirst]
    rcases Command.activate capabilities entry.command with ⟨error | turn, command⟩
    · exact ih
    · dsimp only
      split
      · exact ih
      · rfl

theorem capabilities_activateHead (queue : Queue σ) :
    queue.activateHead.queue.capabilities = queue.capabilities := by
  rcases queue with ⟨entries, _ | _, _ | capabilities⟩
  · rfl
  · exact capabilities_activateFirst capabilities entries
  · rfl
  · rfl

theorem capabilities_handle (queue : Queue σ) (packet : Packet) :
    (queue.handle packet).queue.capabilities = queue.capabilities := by
  unfold handle
  split
  · rfl
  · split
    · rfl
    · split
      · rfl
      · split
        · rfl
        · next entry rest _ =>
          unfold handleHead
          rcases Command.handle _ packet entry.command with ⟨error | turn, command⟩
          · rfl
          · dsimp only
            split
            · split
              · rfl
              · exact capabilities_activateHead (queue.withoutHead rest)
            · rfl

/-- **To activate is to activate one command after the other**, until one is not done. -/
theorem attended_activateFirst (capabilities : Capabilities)
    {entries : List (Entry (Recorded σ))} (h : Untouched entries) :
    Attended entries (activateFirst capabilities entries).queue
        (activateFirst capabilities entries).completions ∧
      IsPrompt (activateFirst capabilities entries).queue := by
  induction entries with
  | nil => exact ⟨attended_refl (.idle h), by simp [IsPrompt, activateFirst]⟩
  | cons entry rest ih =>
    obtain ⟨hentry, hrest⟩ := List.forall_mem_cons.mp h
    obtain ⟨hattended, hprompt⟩ := ih hrest
    rcases hactivate : Command.activate capabilities entry.command with ⟨answer, command⟩
    have hbecomes : entry.Becomes ⟨entry.ticket, command⟩ := .of_activate hactivate
    have hcalls : command.calls = [.activated answer] := by
      rw [Recorded.calls_activate hactivate, hentry]
      rfl
    -- a command that is complete when it has been activated stands in front of what follows
    have hover (result : Outcome Unit) :
        Attended (entry :: rest) (activateFirst capabilities rest).queue
          (complete entry command result :: (activateFirst capabilities rest).completions) := by
      refine ⟨.cons hbecomes hattended.becomes, ?_, hattended.attendsHead, fun hnone => ?_⟩
      · refine List.forall_mem_cons.mpr ⟨?_, hattended.lawful⟩
        show Call.Lawful command.calls
        rw [hcalls]
        exact Call.lawful_activated answer
      · rw [capabilities_activateFirst] at hnone
        cases hnone
    rw [activateFirst, hactivate]
    cases answer with
    | error error => exact ⟨hover _, hprompt⟩
    | ok turn =>
      dsimp only
      split
      · exact ⟨hover _, hprompt⟩
      · next hwait =>
        have hopen : Call.Open command.calls := by
          rw [hcalls]
          exact Call.open_activated (by simpa using hwait)
        exact ⟨⟨.cons hbecomes (Entry.Becomes.forall₂_refl rest), by simp, .busy hopen hrest,
          by simp⟩, by simp [IsPrompt]⟩

variable {queue : Queue (Recorded σ)}

/-- A queue without an active head activates one if the session is established. -/
theorem attended_activateHead (h : Untouched queue.entries) (hinactive : queue.active = false) :
    Attended queue.entries queue.activateHead.queue queue.activateHead.completions ∧
      IsPrompt queue.activateHead.queue := by
  rcases queue with ⟨entries, _ | _, _ | capabilities⟩
  · exact ⟨attended_refl (.idle h), by simp [IsPrompt, activateHead]⟩
  · exact attended_activateFirst capabilities h
  · cases hinactive
  · cases hinactive

/-- The session is established. -/
theorem attended_start (h : AttendsHead queue) (capabilities : Capabilities) :
    Attended queue.entries (queue.start capabilities).queue
        (queue.start capabilities).completions ∧
      IsPrompt (queue.start capabilities).queue := by
  cases h with
  | idle h => exact attended_activateFirst capabilities h
  | @busy head rest _ hhead hrest =>
    have hbusy : AttendsHead ⟨head :: rest, true, some capabilities⟩ := .busy hhead hrest
    exact ⟨attended_refl hbusy, by simp [IsPrompt, start, activateHead]⟩

/-- A command that is submitted waits behind the others. -/
theorem attended_push (h : AttendsHead queue) {entry : Entry (Recorded σ)}
    (hfresh : entry.command.calls = []) :
    Attended (queue.entries ++ [entry]) (queue.push entry).queue (queue.push entry).completions ∧
      IsPrompt (queue.push entry).queue := by
  have hbehind {entries : List (Entry (Recorded σ))} (hentries : Untouched entries) :
      Untouched (entries ++ [entry]) := by
    intro other hmem
    rcases List.mem_append.mp hmem with hmem | hmem
    · exact hentries other hmem
    · rw [List.mem_singleton.mp hmem]
      exact hfresh
  cases h with
  | @idle entries capabilities h =>
    have hidle : AttendsHead ⟨entries ++ [entry], false, capabilities⟩ := .idle (hbehind h)
    exact attended_activateHead (hidle.untouched_of_inactive rfl) rfl
  | busy hhead hrest =>
    exact ⟨attended_refl (.busy hhead (hbehind hrest)), by simp [IsPrompt, push, activateHead]⟩

/-- **Only the head is handed a packet.**  If it is complete then, the next command is activated,
unless the session is over. -/
theorem attended_handleHead {capabilities : Capabilities} {head : Entry (Recorded σ)}
    {rest : List (Entry (Recorded σ))} (hopen : Call.Open head.command.calls)
    (hrest : Untouched rest) (packet : Packet) :
    let queue : Queue (Recorded σ) := ⟨head :: rest, true, some capabilities⟩
    let handled := queue.handleHead capabilities packet head rest
    Attended (head :: rest) handled.queue handled.completions ∧
      (handled.result.isOk = true → IsPrompt handled.queue) := by
  intro queue handled
  rcases hhandle : Command.handle capabilities packet head.command with ⟨answer, command⟩
  have hbecomes : head.Becomes ⟨head.ticket, command⟩ := .of_handle hhandle
  have hcalls := Recorded.calls_handle hhandle
  have hlawful : Call.Lawful command.calls := by
    rw [hcalls]
    exact hopen.lawful_concat packet answer
  -- the head is complete, and the others have not been called
  have hover (result : Outcome Unit) : Attended (head :: rest) (queue.withoutHead rest)
      [complete head command result] :=
    ⟨.cons hbecomes (Entry.Becomes.forall₂_refl rest), by simpa [complete] using hlawful,
      .idle hrest, fun hnone => by cases hnone⟩
  show Attended (head :: rest) (queue.handleHead capabilities packet head rest).queue
      (queue.handleHead capabilities packet head rest).completions ∧ _
  unfold handled handleHead
  rw [hhandle]
  cases answer with
  | error error => exact ⟨hover _, fun hok => by cases hok⟩
  | ok turn =>
    dsimp only
    split
    · split
      · exact ⟨hover _, fun hok => by cases hok⟩
      · obtain ⟨hnext, hprompt⟩ := attended_activateFirst capabilities hrest
        refine ⟨⟨.cons hbecomes hnext.becomes, ?_, hnext.attendsHead, fun hnone => ?_⟩,
          fun _ => hprompt⟩
        · exact List.forall_mem_cons.mpr ⟨hlawful, hnext.lawful⟩
        · rw [show (queue.withoutHead rest).activateHead = activateFirst capabilities rest from rfl,
            capabilities_activateFirst] at hnone
          cases hnone
    · next hwait =>
      have hgoes : Call.Open command.calls := by
        rw [hcalls]
        exact hopen.concat packet (by simpa using hwait)
      exact ⟨⟨.cons hbecomes (Entry.Becomes.forall₂_refl rest), by simp, .busy hgoes hrest,
        by simp⟩, by simp [IsPrompt, queue]⟩

/-- **A packet goes to the head that is active, or to nobody.** -/
theorem attended_handle (h : AttendsHead queue) (hprompt : IsPrompt queue) (packet : Packet) :
    Attended queue.entries (queue.handle packet).queue (queue.handle packet).completions ∧
      ((queue.handle packet).result.isOk = true → IsPrompt (queue.handle packet).queue) := by
  have hstays : Attended queue.entries queue [] ∧ IsPrompt queue := ⟨attended_refl h, hprompt⟩
  unfold handle
  split
  · exact ⟨hstays.1, nofun⟩
  · next capabilities hcapabilities =>
    split
    · exact ⟨hstays.1, fun _ => hprompt⟩
    · split
      · exact ⟨hstays.1, nofun⟩
      · next hactive =>
        cases h with
        | idle => simp at hactive
        | busy hhead hrest =>
          cases hcapabilities
          exact attended_handleHead hhead hrest packet

/-- The session is over. -/
theorem attended_failAll (h : AttendsHead queue) :
    Attended queue.entries queue.failAll.queue queue.failAll.completions ∧
      IsPrompt queue.failAll.queue := by
  have hentries : queue.failAll.completions.map Completion.entry = queue.entries := by
    unfold failAll
    rw [List.map_map]
    exact List.map_id _
  refine ⟨⟨?_, ?_, .idle (by simp [Untouched]), ?_⟩, by simp [IsPrompt, failAll]⟩
  · rw [hentries]
    show List.Forall₂ _ _ (queue.entries ++ [])
    rw [List.append_nil]
    exact Entry.Becomes.forall₂_refl _
  · intro completion hmem
    obtain ⟨entry, hentry, rfl⟩ := List.mem_map.mp hmem
    exact h.lawful entry hentry
  · intro hnone completion hmem
    obtain ⟨entry, hentry, rfl⟩ := List.mem_map.mp hmem
    exact h.untouched_of_inactive (h.inactive_of_unstarted hnone) entry hentry

/-- **An active head is never missed.** -/
theorem result_handle_ne_noActiveCommand (h : AttendsHead queue) (packet : Packet) :
    (queue.handle packet).result ≠ .error (.protocol .noActiveCommand) := by
  have hreport (report : ServerError) : report.toError ≠ .protocol .noActiveCommand := by
    intro heq
    have hcarried := ServerError.serverError?_toError report
    rw [heq] at hcarried
    cases hcarried
  unfold handle
  split
  · nofun
  · next capabilities hcapabilities =>
    split
    · nofun
    · split
      · -- nobody waits for the packet
        show Except.error (unsolicited capabilities packet) ≠ _
        rw [Ne, Except.error.injEq]
        unfold unsolicited
        split
        · split
          · exact hreport _
          · next hparse =>
            have hreader : Reader.Ensures (ServerError.reader capabilities) (fun _ => True)
                (· ≠ .protocol .noActiveCommand) :=
              ServerError.ensures_reader capabilities nofun nofun nofun
            exact hreader.of_parse_error hparse
        · nofun
      · next hactive =>
        cases h with
        | idle => simp at hactive
        | @busy head =>
          dsimp only
          unfold handleHead
          rcases Command.handle capabilities packet head.command with ⟨error | turn, command⟩
          · nofun
          · dsimp only
            split
            · split
              · next error hfatal =>
                show Except.error error ≠ _
                rw [Ne, Except.error.injEq]
                obtain ⟨failure, -, rfl⟩ := Option.map_eq_some_iff.mp hfatal
                split
                · exact hreport _
                · nofun
              · nofun
            · nofun

end Queue

end MySqlClient
