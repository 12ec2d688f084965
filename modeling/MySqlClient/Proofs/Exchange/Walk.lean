import MySqlClient.Proofs.Exchange.Feed
import MySqlClient.Proofs.Exchange.Places

/-!
# Commands that walk along results

* `ResultPlace.IsOpen`: a place where a command can stand and wait for a packet.
* `ResultPlace.Walks`: a command takes a packet at a place exactly if the packet leads on from
  there, and is then at the place it leads to.
* `ResultPlace.Walks.completes_iff`: **such a command completes with exactly the packets that lead
  past the results**, and has been given what they deliver; `ResultPlace.Walks.completes_first_iff`
  says the same with results in the place of packets.
-/

namespace MySqlClient

/-- A chain succeeds exactly if each of its steps does. -/
theorem Outcome.bind_eq_ok_iff {α β : Type} {outcome : Outcome α} {next : α → Outcome β}
    {result : β} :
    (outcome >>= next) = .ok result ↔ ∃ value, outcome = .ok value ∧ next value = .ok result := by
  constructor
  · exact Outcome.bind_eq_ok
  · rintro ⟨value, rfl, h⟩
    exact h

/-- A step that is guarded by a test. -/
theorem Outcome.ite_eq_ok_iff {α : Type} {test : Bool} {value result : α} {error : Error} :
    (if test then .ok value else .error error : Outcome α) = .ok result ↔
      test = true ∧ result = value := by
  cases test
  · simp
  · simp [eq_comm]

namespace ResultPlace

/-- A packet is waited for at the place. -/
def IsOpen : ResultPlace → Prop
  | .columns remaining _ => 0 < remaining
  | .past => False
  | _ => True

variable {capabilities : Capabilities} {format : Format} {place next : ResultPlace}
  {packet : Packet} {given : Option Delivered}

/-- Every packet leads to a place where another one is waited for, or past the results. -/
theorem Step.isOpen (h : Step capabilities format place packet given next)
    (hnext : next ≠ .past) : next.IsOpen := by
  have hresult (summary : Summary) (hne : behindResult summary ≠ .past) :
      (behindResult summary).IsOpen := by
    unfold behindResult at *
    split
    · trivial
    · next hlast => exact absurd (if_neg hlast) hne
  cases h with
  | done => exact hresult _ hnext
  | count => exact Nat.succ_pos _
  | noColumns => trivial
  | column => exact Nat.succ_pos _
  | lastColumn =>
    unfold behindColumns
    split <;> trivial
  | columnsEnd => trivial
  | row => trivial
  | ending => exact hresult _ hnext

variable {σ : Type} [Command σ]

/-- A command goes from place to place.  It is `state place told` at a place when the things in
`told` have been handed over; behind the results it gives the last turn and is left as `close told`
says. -/
structure Walks (capabilities : Capabilities) (format : Format)
    (state : ResultPlace → List Delivered → σ) (close : List Delivered → Turn × σ) : Prop where
  handle_iff : ∀ {place : ResultPlace} {packet : Packet} {told : List Delivered}
    {answer : Turn × σ}, place.IsOpen → packet.isErr = false →
      (Command.handle capabilities packet (state place told) = (.ok answer.1, answer.2) ↔
        ∃ given behind, Step capabilities format place packet given behind ∧
          answer =
            if behind = .past then close (told ++ given.toList)
            else (.wait, state behind (told ++ given.toList)))
  close_done : ∀ told, (close told).1.done = true

/-- **A command that walks along results completes with exactly the packets that lead past
them.** -/
theorem Walks.completes_iff {state : ResultPlace → List Delivered → σ}
    {close : List Delivered → Turn × σ} (h : Walks capabilities format state close)
    {told : List Delivered} {packets : List Packet} {final : σ} (hplace : place.IsOpen)
    (hpackets : ∀ packet ∈ packets, packet.isErr = false) :
    Command.Completes capabilities (state place told) packets final ↔
      ∃ things, Path capabilities format place packets things ∧
        (close (told ++ things)).1.failure = none ∧ final = (close (told ++ things)).2 := by
  -- packet by packet
  induction packets generalizing place told with
  | nil =>
    refine iff_of_false Command.not_completes_nil ?_
    rintro ⟨things, hpath, -⟩
    rw [(path_nil_iff.mp hpath).1] at hplace
    exact hplace
  | cons packet packets ih =>
    rw [List.forall_mem_cons] at hpackets
    have hbehind {given : Option Delivered} {behind : ResultPlace}
        (hstep : Step capabilities format place packet given behind) :
        Command.CompletesSince capabilities packets final
            (if behind = .past then close (told ++ given.toList)
            else (.wait, state behind (told ++ given.toList))) ↔
          ∃ things, Path capabilities format behind packets things ∧
            (close (told ++ (given.toList ++ things))).1.failure = none ∧
            final = (close (told ++ (given.toList ++ things))).2 := by
      by_cases hpast : behind = .past
      · subst hpast
        rw [if_pos rfl, Command.CompletesSince, if_pos (h.close_done _)]
        simp only [path_past_iff]
        constructor
        · rintro ⟨rfl, hclose⟩
          exact ⟨[], ⟨rfl, rfl⟩, by rwa [List.append_nil]⟩
        · rintro ⟨things, ⟨rfl, rfl⟩, hclose⟩
          rw [List.append_nil] at hclose
          exact ⟨rfl, hclose⟩
      · rw [if_neg hpast]
        simp only [← List.append_assoc]
        exact ih (hstep.isOpen hpast) hpackets.2
    rw [Command.completes_cons_iff]
    simp only [h.handle_iff hplace hpackets.1]
    constructor
    · rintro ⟨answer, ⟨given, behind, hstep, rfl⟩, hrest⟩
      obtain ⟨things, hpath, hclose⟩ := (hbehind hstep).mp hrest
      exact ⟨_, .step hstep hpath, hclose⟩
    · rintro ⟨things, hpath, hclose⟩
      obtain ⟨given, behind, rest, hstep, rfl, hrest⟩ := path_cons_iff.mp hpath
      exact ⟨_, ⟨given, behind, hstep, rfl⟩, (hbehind hstep).mpr ⟨rest, hrest, hclose⟩⟩

/-- **In front of its results, a command that ends without a failure completes with exactly the
packets of some results.** -/
theorem Walks.completes_first_iff {state : ResultPlace → List Delivered → σ}
    {close : List Delivered → Turn × σ} (h : Walks capabilities format state close)
    (hclose : ∀ told, (close told).1.failure = none) {packets : List Packet}
    (hpackets : ∀ packet ∈ packets, packet.isErr = false) (final : σ) :
    Command.Completes capabilities (state .first []) packets final ↔
      ∃ results, Received.AreResults format capabilities results packets ∧
        final = (close (results.flatMap Received.Result.delivered)).2 := by
  have hfirst : IsOpen .first := trivial
  rw [h.completes_iff hfirst hpackets]
  simp only [List.nil_append, hclose, true_and, path_first_iff]
  constructor
  · rintro ⟨things, ⟨results, hresults, rfl⟩, hfinal⟩
    exact ⟨results, hresults, hfinal⟩
  · rintro ⟨results, hresults, hfinal⟩
    exact ⟨_, ⟨results, hresults, rfl⟩, hfinal⟩

end ResultPlace

end MySqlClient
