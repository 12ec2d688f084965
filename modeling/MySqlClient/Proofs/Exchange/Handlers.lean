import MySqlClient.Proofs.Exchange.Reactions

/-!
# Handlers cannot disturb the exchange

What a command writes, and when it is done, does not depend on the handlers of its caller.  Only the
failure that it reports at the end may be the handler's.

* `Command.handleEach`: what a command answers to every one of some packets.
* `Reactions`: the reactions of a command to one packet after the other, which it has under all
  handlers; `Reactions.answers_eq`, `Reactions.collected?_eq` and `Reactions.decodedRows_eq` are
  **what a run under some handlers is**.
* `Undisturbed`, `Builtin.undisturbed`: **two runs with different handlers agree in everything but
  the failure of the handler of rows**; this handler is called for the rows in order, up to the
  first one with which it fails; and this first failure is the one that is reported, unless an ERR
  packet ends the exchange.
-/

namespace MySqlClient

/-! ## Runs -/

/-- What a command answers to every one of the packets, and what becomes of it.  It is handed all of
them, also behind an answer with which it fails or is done. -/
def Command.handleEach {σ : Type} [Command σ] (capabilities : Capabilities) :
    List Packet → σ → List (Outcome Turn) × σ
  | [], command => ([], command)
  | packet :: packets, command =>
    let (answer, next) := Command.handle capabilities packet command
    let (answers, final) := handleEach capabilities packets next
    (answer :: answers, final)

/-- The rows that a command decodes in the packets, of all of its results. -/
def Builtin.decodedRows {η : Type} (capabilities : Capabilities) :
    List Packet → Builtin η → List Row
  | [], _ => []
  | packet :: packets, command =>
    (command.row? packet).toList ++
      decodedRows capabilities packets (Command.handle capabilities packet command).2

section

variable {ε τ : Type} {capabilities : Capabilities} {packet : Packet} {packets : List Packet}
  {command : Builtin ε} {reaction : Reaction ε} {reactions : List (Reaction ε)}

namespace Builtin

theorem collected?_under (command : Builtin ε) (delivery : Delivery τ) :
    (command.under delivery).collected? = command.collected?.map fun _ => delivery.state := by
  cases command <;> rfl

theorem row?_under (command : Builtin ε) (delivery : Delivery τ) (packet : Packet) :
    (command.under delivery).row? packet = command.row? packet := by
  cases command with
  | ping p => rfl
  | query q =>
    obtain ⟨sql, told, stage⟩ := q
    cases stage <;> rfl
  | prepared q =>
    obtain ⟨sql, parameters, told, stage, statement, released, mismatch⟩ := q
    cases stage <;> rfl

theorem activate_under (capabilities : Capabilities) (command : Builtin ε)
    (delivery : Delivery τ) :
    Command.activate capabilities (command.under delivery) =
      ((Command.activate capabilities command).1,
        (Command.activate capabilities command).2.under delivery) := by
  cases command <;> rfl

end Builtin

namespace Reaction

/-- Everything that is handed over. -/
def told (reactions : List (Reaction ε)) : List Delivered :=
  reactions.flatMap Reaction.things

theorem told_cons (reaction : Reaction ε) (reactions : List (Reaction ε)) :
    told (reaction :: reactions) = reaction.things ++ told reactions :=
  List.flatMap_cons

/-- With the failure of the handler a command reports that it is over. -/
theorem Fits.isSilent_of_reports (h : reaction.Fits capabilities packet command)
    (hreports : reaction.reports = true) : reaction.next.isSilent = true := by
  obtain ⟨answer, things, reports, next⟩ := reaction
  cases hreports
  rcases h.answers with _ | _ | _ | _ | ⟨-, hdone, -⟩
  exact h.silenced _ rfl hdone

/-- A command with handlers has some behind a packet, and one without has none. -/
theorem IsOf.collected?_next (h : reaction.IsOf capabilities packet command)
    (delivery : Delivery τ) :
    (reaction.next.under delivery).collected? = (command.under delivery).collected? := by
  have hnext := congrArg Prod.snd (h.handle_eq τ delivery)
  rw [Reaction.under] at hnext
  cases command <;> cases hreaction : reaction.next <;> rw [hreaction] at hnext <;>
    first | rfl | cases hnext

end Reaction

/-! ## Reactions to one packet after the other -/

/-- The reactions of a command to one packet after the other. -/
inductive Reactions (capabilities : Capabilities) :
    Builtin ε → List Packet → List (Reaction ε) → Prop
  | nil {command : Builtin ε} : Reactions capabilities command [] []
  | cons {command : Builtin ε} {packet : Packet} {packets : List Packet} {reaction : Reaction ε}
      {reactions : List (Reaction ε)} (h : reaction.IsOf capabilities packet command)
      (hrest : Reactions capabilities reaction.next packets reactions) :
      Reactions capabilities command (packet :: packets) (reaction :: reactions)

/-- **A command reacts to one packet after the other.** -/
theorem Builtin.exists_reactions (capabilities : Capabilities) (packets : List Packet)
    (command : Builtin ε) : ∃ reactions, Reactions capabilities command packets reactions := by
  induction packets generalizing command with
  | nil => exact ⟨[], .nil⟩
  | cons packet packets ih =>
    obtain ⟨reaction, hreaction⟩ := command.exists_reaction capabilities packet
    obtain ⟨reactions, hreactions⟩ := ih reaction.next
    exact ⟨reaction :: reactions, .cons hreaction hreactions⟩

namespace Reactions

/-- Behind its last turn a command hands nothing over and reports nothing. -/
theorem silent (h : Reactions capabilities command packets reactions)
    (hsilent : command.isSilent = true) :
    Reaction.told reactions = [] ∧ ∀ reaction ∈ reactions, reaction.reports = false := by
  induction h with
  | nil => exact ⟨rfl, by simp⟩
  | cons hreaction _ ih =>
    obtain ⟨hnext, hthings, hreports⟩ := hreaction.silent hsilent
    obtain ⟨htold, hrest⟩ := ih hnext
    refine ⟨?_, List.forall_mem_cons.mpr ⟨hreports, hrest⟩⟩
    rw [Reaction.told_cons, hthings, htold, List.append_nil]

/-- The delivery behind a reaction.  It forgets the failure that has been reported, but then nothing
follows that asks for it. -/
theorem behind (h : Reactions capabilities reaction.next packets reactions)
    (hfits : reaction.Fits capabilities packet command) (delivery : Delivery τ) :
    let after := if reaction.reports then delivery.reported else delivery
    reactions.map (Reaction.answerWith (after.handAll (Reaction.told reactions)).failure) =
        reactions.map (Reaction.answerWith (delivery.handAll (Reaction.told reactions)).failure) ∧
      (after.handAll (Reaction.told reactions)).state =
        (delivery.handAll (Reaction.told reactions)).state := by
  cases hreports : reaction.reports with
  | false => exact ⟨rfl, rfl⟩
  | true =>
    obtain ⟨htold, hquiet⟩ := h.silent (hfits.isSilent_of_reports hreports)
    rw [htold]
    refine ⟨List.map_congr_left fun next hnext => ?_, rfl⟩
    rw [Reaction.answerWith, Reaction.answerWith, hquiet next hnext]
    rfl

/-- **The answers of a run**: the failure of the handler is reported at the end. -/
theorem answers_eq (h : Reactions capabilities command packets reactions)
    (delivery : Delivery τ) :
    (Command.handleEach capabilities packets (command.under delivery)).1 =
      reactions.map
        (Reaction.answerWith (delivery.handAll (Reaction.told reactions)).failure) := by
  -- packet by packet
  induction h generalizing delivery with
  | nil => rfl
  | @cons command packet packets reaction reactions hreaction hrest ih =>
    have hbehind := (hrest.behind hreaction.toFits (delivery.handAll reaction.things)).1
    have hhead : reaction.answerWith (delivery.handAll reaction.things).failure =
        reaction.answerWith
          (delivery.handAll (Reaction.told (reaction :: reactions))).failure := by
      cases hreports : reaction.reports with
      | false =>
        rw [Reaction.answerWith, Reaction.answerWith, hreports]
        rfl
      | true =>
        rw [Reaction.told_cons, (hrest.silent (hreaction.isSilent_of_reports hreports)).1,
          List.append_nil]
    rw [Command.handleEach, hreaction.handle_eq, Reaction.under, List.map_cons, ← hhead,
      Reaction.told_cons, Delivery.handAll_append, ← hbehind, ← ih]

/-- **What the handlers hold behind a run**: they have been given what the reactions hand over. -/
theorem collected?_eq (h : Reactions capabilities command packets reactions)
    (delivery : Delivery τ) :
    (Command.handleEach capabilities packets (command.under delivery)).2.collected? =
      (command.under (delivery.handAll (Reaction.told reactions))).collected? := by
  -- packet by packet
  induction h generalizing delivery with
  | nil => rfl
  | @cons command packet packets reaction reactions hreaction hrest ih =>
    have hbehind := (hrest.behind hreaction.toFits (delivery.handAll reaction.things)).2
    rw [Command.handleEach, hreaction.handle_eq, Reaction.under, Reaction.told_cons,
      Delivery.handAll_append, Builtin.collected?_under command, ← hbehind,
      ← Builtin.collected?_under command, ← hreaction.collected?_next, ← ih]

/-- **The rows that are handed over are the ones that the command decodes.** -/
theorem decodedRows_eq (h : Reactions capabilities command packets reactions)
    (delivery : Delivery τ) :
    Builtin.decodedRows capabilities packets (command.under delivery) =
      (Reaction.told reactions).filterMap Delivered.row? := by
  -- packet by packet
  induction h generalizing delivery with
  | nil => rfl
  | cons hreaction _ ih =>
    rw [Builtin.decodedRows, hreaction.handle_eq, Reaction.under, ih, Builtin.row?_under,
      ← hreaction.rows, Reaction.told_cons, List.filterMap_append]

/-- Each reaction fits the command at its place.  If nothing had been handed over by then, and
nothing is handed over any more, then nothing is handed over at all. -/
theorem exists_fits (h : Reactions capabilities command packets reactions)
    (hmem : (packet, reaction) ∈ packets.zip reactions) :
    ∃ place : Builtin ε, reaction.Fits capabilities packet place ∧
      (place.isUntold = true → command.isUntold = true) ∧
      (place.isUntold = true → reaction.things = [] → reaction.next.isSilent = true →
        Reaction.told reactions = []) := by
  induction h with
  | nil => simp at hmem
  | cons hfirst hrest ih =>
    rw [List.zip_cons_cons, List.mem_cons] at hmem
    rcases hmem with heq | hmem
    · obtain ⟨rfl, rfl⟩ := Prod.mk.inj heq
      refine ⟨_, hfirst.toFits, id, fun _ hthings hnext => ?_⟩
      rw [Reaction.told_cons, hthings, (hrest.silent hnext).1, List.append_nil]
    · obtain ⟨place, hplace, hback, htold⟩ := ih hmem
      refine ⟨place, hplace, fun huntold => (hfirst.untold (hback huntold)).1,
        fun huntold hthings hnext => ?_⟩
      rw [Reaction.told_cons, (hfirst.untold (hback huntold)).2, htold huntold hthings hnext,
        List.append_nil]

/-- **What a turn of a run can be**: one of waiting, or the last one, which reports what an ERR
packet does, or the failure of the handler, unless the command is over before there was anything to
hand over. -/
theorem turn_cases (h : Reactions capabilities command packets reactions) {turn : Turn}
    (delivery : Delivery τ)
    (hmem : (packet, .ok turn) ∈ packets.zip (reactions.map
      (Reaction.answerWith (delivery.handAll (Reaction.told reactions)).failure))) :
    turn.done = false ∧ turn.failure = none ∨
      turn.done = true ∧ packet.isErr = true ∧
        (∃ report, ServerError.parse capabilities packet.payload = .ok report ∧
          turn.failure = some report.toError) ∨
      turn.done = true ∧ packet.isErr = false ∧ Reaction.told reactions = [] ∧
        (turn.failure = none ∨ ∃ fault, turn.failure = some (.parameterMismatch fault)) ∨
      turn.done = true ∧ packet.isErr = false ∧
        turn.failure = (delivery.handAll (Reaction.told reactions)).failure := by
  rw [List.zip_map_right, List.mem_map] at hmem
  obtain ⟨⟨_, ⟨answer, things, reports, next⟩⟩, hreaction, heq⟩ := hmem
  obtain ⟨rfl, hturn⟩ := Prod.mk.inj heq
  obtain ⟨place, hfits, -, htold⟩ := h.exists_fits hreaction
  rcases hfits.answers with _ | ⟨hdone, hfailure⟩ | ⟨herr, hreport, hdone, hfailure⟩ |
      ⟨herr, huntold, hdone, hfailure⟩ | ⟨herr, hdone, -⟩
  · cases hturn
  · cases hturn
    exact Or.inl ⟨hdone, hfailure⟩
  · cases hturn
    exact Or.inr (Or.inl ⟨hdone, herr, _, hreport, hfailure⟩)
  · cases hturn
    exact Or.inr (Or.inr (Or.inl
      ⟨hdone, herr, htold huntold rfl (hfits.silenced _ rfl hdone), hfailure⟩))
  · cases hturn
    exact Or.inr (Or.inr (Or.inr ⟨hdone, herr, rfl⟩))

end Reactions

/-! ## Two runs -/

/-- The turn without the failure of a handler. -/
def Turn.regardless (turn : Turn) : Turn :=
  match turn.failure with
  | some (.rowHandler _) => { turn with failure := none }
  | _ => turn

/-- The failure of a handler is all that an answer has from it. -/
theorem Reaction.regardless_answerWith {η : Type} (reaction : Reaction ε) (delivery : Delivery η)
    (other : Delivery τ) :
    (reaction.answerWith delivery.failure).map Turn.regardless =
      (reaction.answerWith other.failure).map Turn.regardless := by
  have hreported {κ : Type} (delivery : Delivery κ) (turn : Turn) :
      Turn.regardless { turn with failure := delivery.failure } =
        { turn with failure := none } := by
    rw [Delivery.failure]
    cases delivery.refusal <;> rfl
  obtain ⟨answer, things, _ | _, next⟩ := reaction
  · rfl
  · cases answer with
    | error error => rfl
    | ok turn =>
      exact congrArg Except.ok ((hreported delivery turn).trans (hreported other turn).symm)

namespace Builtin

variable {η : Type}

/-- The command with handlers that have not been called yet. -/
def served (command : Builtin ε) (sink : Sink η) (state : η) : Builtin η :=
  command.under { sink, state }

/-- What a command answers to the packets, behind its activation. -/
def answers (capabilities : Capabilities) (packets : List Packet) (command : Builtin η) :
    List (Outcome Turn) :=
  (Command.handleEach capabilities packets (Command.activate capabilities command).2).1

/-- What the handlers of a command hold behind the packets. -/
def holds (capabilities : Capabilities) (packets : List Packet) (command : Builtin η) : Option η :=
  (Command.handleEach capabilities packets (Command.activate capabilities command).2).2.collected?

/-- How handlers are called by a command because of the packets: what they note down. -/
def handings (capabilities : Capabilities) (packets : List Packet) (command : Builtin ε)
    (sink : Sink η) (state : η) : List Handing :=
  ((holds capabilities packets (command.served sink.noting (state, []))).map Prod.snd).getD []

/-- The handlers of a caller do not disturb the exchange of a command. -/
structure Undisturbed (capabilities : Capabilities) (packets : List Packet)
    (command : Builtin ε) (sink : Sink η) (state : η) : Prop where
  /-- With other handlers the command asks for the same. -/
  asks : ∀ {τ : Type} (other : Sink τ) (start : τ),
    (Command.activate capabilities (command.served sink state)).1 =
      (Command.activate capabilities (command.served other start)).1
  /-- With other handlers it answers the same to every packet, but for the failure of a handler. -/
  agrees : ∀ {τ : Type} (other : Sink τ) (start : τ),
    (answers capabilities packets (command.served sink state)).map (Except.map Turn.regardless) =
      (answers capabilities packets (command.served other start)).map (Except.map Turn.regardless)
  /-- The handler of summaries is called as the other one is. -/
  summarizes : ∀ {τ : Type} (other : Sink τ) (start : τ),
    Handing.summaries (command.handings capabilities packets sink state) =
      Handing.summaries (command.handings capabilities packets other start)
  /-- The handler of rows is called for the rows, up to the first one with which it fails. -/
  rows : UntilRefusal
    (decodedRows capabilities packets
      (Command.activate capabilities (command.served sink state)).2)
    (Handing.rowCalls (command.handings capabilities packets sink state))
  /-- Before the end nothing is reported. -/
  waits : ∀ packet turn,
    (packet, .ok turn) ∈ packets.zip (answers capabilities packets (command.served sink state)) →
    turn.done = false → turn.failure = none
  /-- An ERR packet that ends the exchange is what is reported. -/
  fails : ∀ packet turn,
    (packet, .ok turn) ∈ packets.zip (answers capabilities packets (command.served sink state)) →
    turn.done = true → packet.isErr = true →
    ∃ report, ServerError.parse capabilities packet.payload = .ok report ∧
      turn.failure = some report.toError
  /-- Otherwise the first failure of the handler is. -/
  ends : ∀ packet turn,
    (packet, .ok turn) ∈ packets.zip (answers capabilities packets (command.served sink state)) →
    turn.done = true → packet.isErr = false →
    ∀ text, turn.failure = some (.rowHandler text) ↔
      Handing.refusal? (command.handings capabilities packets sink state) = some text
  /-- Handlers that note down their calls are the given ones otherwise. -/
  notes :
    answers capabilities packets (command.served sink.noting (state, [])) =
        answers capabilities packets (command.served sink state) ∧
      (holds capabilities packets (command.served sink.noting (state, []))).map Prod.fst =
        holds capabilities packets (command.served sink state)

end Builtin

namespace Reactions

variable {η : Type} (h : Reactions capabilities (Command.activate capabilities command).2 packets
  reactions) (sink : Sink η) (state : η)

include h

theorem answers_served :
    Builtin.answers capabilities packets (command.served sink state) =
      reactions.map (Reaction.answerWith
        ((⟨sink, state, none⟩ : Delivery η).handAll (Reaction.told reactions)).failure) := by
  rw [Builtin.answers, Builtin.served, Builtin.activate_under, h.answers_eq]

theorem holds_served :
    Builtin.holds capabilities packets (command.served sink state) =
      (Command.activate capabilities command).2.collected?.map fun _ =>
        ((⟨sink, state, none⟩ : Delivery η).handAll (Reaction.told reactions)).state := by
  rw [Builtin.holds, Builtin.served, Builtin.activate_under, h.collected?_eq,
    Builtin.collected?_under]

/-- **How handlers are called**: for what the reactions hand over. -/
theorem handings_eq :
    command.handings capabilities packets sink state =
      (⟨sink, state, none⟩ : Delivery η).calls (Reaction.told reactions) := by
  rw [Builtin.handings, h.holds_served, Delivery.noting_handAll_nil]
  cases hstarted : (Command.activate capabilities command).2 with
  | query q => rfl
  | prepared q => rfl
  | ping p =>
    -- a ping has no handlers, and hands nothing over
    rw [hstarted] at h
    rw [(h.silent rfl).1]
    rfl

end Reactions

/-- **Handlers cannot disturb the exchange.**  For every command, all packets and all handlers with
a state of their own: with other handlers the command writes the same, is done with the same packets
and fails with the same ones, and the handler of summaries is called in the same way.  The handler
of rows is called for the rows in order, up to the first one with which it fails, and never again;
and the command reports this failure when it is over, unless an ERR packet ends it. -/
theorem Builtin.undisturbed {η : Type} (capabilities : Capabilities) (packets : List Packet)
    (command : Builtin ε) (sink : Sink η) (state : η) :
    Undisturbed capabilities packets command sink state := by
  obtain ⟨reactions, h⟩ :=
    exists_reactions capabilities packets (Command.activate capabilities command).2
  obtain ⟨huntil, hrefusal⟩ := Delivery.untilRefusal_calls (show (⟨sink, state, none⟩ :
    Delivery η).refusal = none from rfl) (Reaction.told reactions)
  exact {
    asks := fun other start => by
      rw [served, served, activate_under, activate_under]
    agrees := fun other start => by
      rw [h.answers_served, h.answers_served, List.map_map, List.map_map]
      exact List.map_congr_left fun reaction _ => reaction.regardless_answerWith _ _
    summarizes := fun other start => by
      rw [h.handings_eq, h.handings_eq, Delivery.summaries_calls, Delivery.summaries_calls]
    rows := by
      rw [h.handings_eq, served, activate_under, h.decodedRows_eq]
      exact huntil
    waits := fun packet turn hmem hdone => by
      rw [h.answers_served] at hmem
      rcases h.turn_cases _ hmem with ⟨-, hfailure⟩ | ⟨hlast, -⟩ | ⟨hlast, -⟩ | ⟨hlast, -⟩
      · exact hfailure
      all_goals
        rw [hdone] at hlast
        cases hlast
    fails := fun packet turn hmem hdone herr => by
      rw [h.answers_served] at hmem
      rcases h.turn_cases _ hmem with ⟨hwait, -⟩ | ⟨-, -, hreport⟩ | ⟨-, hno, -⟩ | ⟨-, hno, -⟩
      · rw [hdone] at hwait
        cases hwait
      · exact hreport
      all_goals
        rw [herr] at hno
        cases hno
    ends := fun packet turn hmem hdone herr text => by
      rw [h.answers_served] at hmem
      rw [h.handings_eq, ← hrefusal]
      rcases h.turn_cases _ hmem with ⟨hwait, -⟩ | ⟨-, hserver, -⟩ | ⟨-, -, htold, hfailure⟩ |
          ⟨-, -, hfailure⟩
      · rw [hdone] at hwait
        cases hwait
      · rw [herr] at hserver
        cases hserver
      · -- nothing has been handed over, and so the handler has not failed
        rw [htold]
        rcases hfailure with hfailure | ⟨fault, hfailure⟩ <;> simp [hfailure]
      · rw [hfailure, Delivery.failure]
        simp
    notes := by
      rw [h.answers_served, h.answers_served, h.holds_served, h.holds_served,
        Delivery.noting_handAll_nil, Option.map_map]
      exact ⟨rfl, rfl⟩ }

end

end MySqlClient
