import MySqlClient.Command

/-!
# Feeding a command

What a command makes of packets that come one after the other, outside of any queue.

* `Command.feed`: what it answers to them, up to the first answer with which it fails or is done,
  and what has become of it then; `feed_of_ok`, `feed_of_error` take one packet.
* `Command.since`, `Command.course`: the same from a turn on, and from its activation on.
* `Command.Completes`: it is done with the last packet, not before, and nothing has failed;
  `Command.CompletesSince` says the same from a turn on, and `Command.completes_cons_iff` takes one
  packet.
* `Command.written`: everything that some answers ask to write.
-/

namespace MySqlClient

namespace Command

variable {σ : Type} [Command σ]

/-- Behind this answer the command is fed nothing more: it has failed, or is done. -/
def isFinal : Outcome Turn → Bool
  | .ok turn => turn.done
  | .error _ => true

/-- What a command answers to packets, and what becomes of it.  It is fed nothing behind the first
answer with which it fails or is done. -/
def feed (capabilities : Capabilities) : List Packet → σ → List (Outcome Turn) × σ
  | [], command => ([], command)
  | packet :: packets, command =>
    let (answer, next) := Command.handle capabilities packet command
    if isFinal answer then ([answer], next)
    else
      let (answers, final) := feed capabilities packets next
      (answer :: answers, final)

/-- What a command answers that has given a turn, and what becomes of it, when packets come. -/
def since (capabilities : Capabilities) (packets : List Packet) (given : Turn × σ) :
    List (Outcome Turn) × σ :=
  if given.1.done then ([.ok given.1], given.2)
  else
    let (answers, final) := feed capabilities packets given.2
    (.ok given.1 :: answers, final)

/-- What a command answers to its activation and to packets, and what becomes of it. -/
def course (capabilities : Capabilities) (packets : List Packet) (command : σ) :
    List (Outcome Turn) × σ :=
  match Command.activate capabilities command with
  | (.ok turn, next) => since capabilities packets (turn, next)
  | (.error error, next) => ([.error error], next)

/-- The command is done with the last of the packets, and not before, and nothing has failed. -/
def Completes (capabilities : Capabilities) (command : σ) (packets : List Packet) (final : σ) :
    Prop :=
  ∃ answers turn, feed capabilities packets command = (answers ++ [.ok turn], final) ∧
    answers.length + 1 = packets.length ∧ turn.done = true ∧ turn.failure = none

/-- The command is done with the turn that it has given, and no packet is left, or it completes with
the packets. -/
def CompletesSince (capabilities : Capabilities) (packets : List Packet) (final : σ)
    (given : Turn × σ) : Prop :=
  if given.1.done then packets = [] ∧ given.1.failure = none ∧ final = given.2
  else Completes capabilities given.2 packets final

/-- Everything that answers ask to write, in order. -/
def written (answers : List (Outcome Turn)) : List Bytes :=
  answers.flatMap fun answer =>
    match answer with
    | .ok turn => turn.packets
    | .error _ => []

theorem written_append (answers more : List (Outcome Turn)) :
    written (answers ++ more) = written answers ++ written more :=
  List.flatMap_append

/-! ## One packet -/

variable {capabilities : Capabilities} {command next final : σ} {packet : Packet}
  {packets : List Packet} {turn : Turn}

@[simp] theorem feed_nil (capabilities : Capabilities) (command : σ) :
    feed capabilities [] command = ([], command) := rfl

theorem feed_of_ok (h : Command.handle capabilities packet command = (.ok turn, next))
    (packets : List Packet) :
    feed capabilities (packet :: packets) command = since capabilities packets (turn, next) := by
  rw [feed, h, since]
  rfl

theorem since_of_done (hdone : turn.done = true) (packets : List Packet) (next : σ) :
    since capabilities packets (turn, next) = ([.ok turn], next) :=
  if_pos hdone

theorem since_of_wait (hdone : turn.done = false) (packets : List Packet) (next : σ) :
    since capabilities packets (turn, next) =
      (.ok turn :: (feed capabilities packets next).1, (feed capabilities packets next).2) := by
  rw [since, hdone]
  rfl

theorem feed_of_error {error : Error}
    (h : Command.handle capabilities packet command = (.error error, next))
    (packets : List Packet) :
    feed capabilities (packet :: packets) command = ([.error error], next) := by
  rw [feed, h]
  rfl

@[simp] theorem not_completes_nil : ¬ Completes capabilities command [] final := by
  rintro ⟨answers, turn, -, hlength, -⟩
  cases hlength

/-- **A command completes with some packets if it takes the first one, and completes with the others
since.** -/
theorem completes_cons_iff :
    Completes capabilities command (packet :: packets) final ↔
      ∃ given : Turn × σ, Command.handle capabilities packet command = (.ok given.1, given.2) ∧
        CompletesSince capabilities packets final given := by
  constructor
  · rintro ⟨answers, last, hfeed, hlength, hlast, hfailure⟩
    rcases hhandle : Command.handle capabilities packet command with ⟨error | turn, next⟩
    · rw [feed_of_error hhandle, Prod.mk.injEq, List.singleton_eq_append_iff] at hfeed
      simp at hfeed
    · refine ⟨(turn, next), rfl, ?_⟩
      by_cases hdone : turn.done = true
      · rw [feed_of_ok hhandle, since_of_done hdone, Prod.mk.injEq,
          List.singleton_eq_append_iff] at hfeed
        simp only [List.cons_ne_nil, and_false, or_false] at hfeed
        obtain ⟨⟨rfl, hturn⟩, rfl⟩ := hfeed
        cases hturn
        rw [CompletesSince, if_pos hdone]
        exact ⟨List.length_eq_zero_iff.mp (Nat.succ.inj hlength).symm, hfailure, rfl⟩
      · have hwait : turn.done = false := by simpa using hdone
        rw [feed_of_ok hhandle, since_of_wait hwait, Prod.mk.injEq,
          List.cons_eq_append_iff] at hfeed
        rw [CompletesSince, if_neg hdone]
        rcases hfeed with ⟨⟨rfl, heq⟩ | ⟨before, rfl, hrest⟩, hfinal⟩
        · cases (List.cons.inj heq).1
          exact absurd hlast hdone
        · exact ⟨before, last, Prod.ext hrest hfinal, Nat.succ.inj hlength, hlast, hfailure⟩
  · rintro ⟨⟨turn, next⟩, hhandle, hrest⟩
    by_cases hdone : turn.done = true
    · rw [CompletesSince, if_pos hdone] at hrest
      obtain ⟨rfl, hfailure, rfl⟩ := hrest
      exact ⟨[], turn, (feed_of_ok hhandle []).trans (since_of_done hdone [] _), rfl, hdone,
        hfailure⟩
    · rw [CompletesSince, if_neg hdone] at hrest
      obtain ⟨answers, last, hfeed, hlength, hlast, hfailure⟩ := hrest
      have hwait : turn.done = false := by simpa using hdone
      refine ⟨.ok turn :: answers, last, ?_, ?_, hlast, hfailure⟩
      · rw [feed_of_ok hhandle, since_of_wait hwait, hfeed]
        rfl
      · rw [List.length_cons, hlength, List.length_cons]

end Command

end MySqlClient
