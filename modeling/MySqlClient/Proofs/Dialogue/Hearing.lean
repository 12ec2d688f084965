import MySqlClient.Command
import MySqlClient.Proofs.Dialogue.Answer

/-!
# Commands that take answers

* `Hears`: a command takes one packet, whatever its sequence number.
* `Takes`: a command takes all packets of an answer: it waits after each of them but the last.
* `Onward`: the packet ends the answer, or leads to a place in front of what is still to come.
* `Follows`: a command that knows, wherever it stands in an answer, what to do with the next packet
  and with an ERR packet in its place.
* `Follows.exists_takes`: **such a command takes the whole answer**, with and without a cut, and is
  where the answer puts it.
-/

namespace MySqlClient

variable {σ : Type} [Command σ]

/-- The command takes a packet with the payload, which is no progress report. -/
def Hears (capabilities : Capabilities) (command : σ) (payload : Bytes) (turn : Turn) (next : σ) :
    Prop :=
  isProgressReport capabilities payload = false ∧
    ∀ sequence, Command.handle capabilities ⟨sequence, payload⟩ command = (.ok turn, next)

/-- The command takes the packets one after the other, and asks for nothing before the last one. -/
inductive Takes (capabilities : Capabilities) : σ → List Bytes → Turn → σ → Prop
  | last {command : σ} {payload : Bytes} {turn : Turn} {final : σ}
      (h : Hears capabilities command payload turn final) :
      Takes capabilities command [payload] turn final
  | more {command next : σ} {payload : Bytes} {payloads : List Bytes} {turn : Turn} {final : σ}
      (h : Hears capabilities command payload .wait next)
      (rest : Takes capabilities next payloads turn final) :
      Takes capabilities command (payload :: payloads) turn final

/-- An answer has a packet. -/
theorem Takes.ne_nil {capabilities : Capabilities} {command final : σ} {payloads : List Bytes}
    {turn : Turn} (h : Takes capabilities command payloads turn final) : payloads ≠ [] := by
  cases h <;> exact List.cons_ne_nil _ _

/-- What a packet does in front of the items that are still to come: it ends the answer, if there
are none, or leads to a place where they may come.  `Ahead place items` says that they may; `state
place told` is the command there, when the things in `told` have been handed over; and `Ends told
failure` is how the answer may leave it. -/
def Onward {π : Type} (capabilities : Capabilities) (Ahead : π → List Sent.Item → Prop)
    (state : π → List Delivered → σ) (Ends : List Delivered → Option Error → Turn → σ → Prop)
    (told : List Delivered) (command : σ) (payload : Bytes) (items : List Sent.Item) : Prop :=
  (items = [] ∧ ∃ turn final, Ends told none turn final ∧
      Hears capabilities command payload turn final) ∨
    (items ≠ [] ∧ ∃ next, Ahead next items ∧
      Hears capabilities command payload .wait (state next told))

/-- A command knows what to do wherever it stands in an answer. -/
structure Follows {π : Type} (capabilities : Capabilities) (Ahead : π → List Sent.Item → Prop)
    (state : π → List Delivered → σ)
    (Ends : List Delivered → Option Error → Turn → σ → Prop) : Prop where
  /-- The next packet leads to another place, or ends the answer. -/
  item : ∀ {place : π} {item : Sent.Item} {items : List Sent.Item}, Ahead place (item :: items) →
    ∀ told, Onward capabilities Ahead state Ends (told ++ item.delivered.toList)
      (state place told) item.payload items
  /-- An ERR packet ends the answer. -/
  cut : ∀ {place : π} {item : Sent.Item} {items : List Sent.Item}, Ahead place (item :: items) →
    ∀ told {err : Sent.Err}, err.IsPassing capabilities →
      ∃ turn final, Ends told (some err.report.toError) turn final ∧
        Hears capabilities (state place told) err.encode turn final

namespace Follows

variable {π : Type} {capabilities : Capabilities} {Ahead : π → List Sent.Item → Prop}
  {state : π → List Delivered → σ} {Ends : List Delivered → Option Error → Turn → σ → Prop}

/-- What the items deliver, the first one apart. -/
theorem append_filterMap_delivered (told : List Delivered) (item : Sent.Item)
    (items : List Sent.Item) :
    (told ++ item.delivered.toList) ++ items.filterMap Sent.Item.delivered =
      told ++ (item :: items).filterMap Sent.Item.delivered := by
  rw [List.append_assoc, List.filterMap_cons]
  cases item.delivered <;> rfl

/-- The answer to its end. -/
theorem takes_items (h : Follows capabilities Ahead state Ends) {place : π}
    {items : List Sent.Item} (hahead : Ahead place items) (hne : items ≠ [])
    (told : List Delivered) :
    ∃ turn final, Ends (told ++ items.filterMap Sent.Item.delivered) none turn final ∧
      Takes capabilities (state place told) (items.map Sent.Item.payload) turn final := by
  -- packet by packet
  induction items generalizing place told with
  | nil => exact absurd rfl hne
  | cons item items ih =>
    rw [← append_filterMap_delivered]
    rcases h.item hahead told with ⟨rfl, turn, final, hends, hhears⟩ | ⟨hne, next, hnext, hhears⟩
    · refine ⟨turn, final, ?_, .last hhears⟩
      rwa [List.filterMap_nil, List.append_nil]
    · obtain ⟨turn, final, hends, htakes⟩ := ih hnext hne (told ++ item.delivered.toList)
      exact ⟨turn, final, hends, .more hhears htakes⟩

/-- The answer up to an ERR packet. -/
theorem takes_cut (h : Follows capabilities Ahead state Ends) {place : π} {items : List Sent.Item}
    (hahead : Ahead place items) {index : Nat} (hindex : index < items.length) {err : Sent.Err}
    (herr : err.IsPassing capabilities) (told : List Delivered) :
    ∃ turn final,
      Ends (told ++ (items.take index).filterMap Sent.Item.delivered) (some err.report.toError)
        turn final ∧
      Takes capabilities (state place told)
        ((items.take index).map Sent.Item.payload ++ [err.encode]) turn final := by
  induction index generalizing place items told with
  | zero =>
    obtain ⟨item, items, rfl⟩ := List.exists_cons_of_length_pos hindex
    obtain ⟨turn, final, hends, hhears⟩ := h.cut hahead told herr
    refine ⟨turn, final, ?_, .last hhears⟩
    rwa [List.take_zero, List.filterMap_nil, List.append_nil]
  | succ index ih =>
    cases items with
    | nil => exact absurd hindex (Nat.not_lt_zero _)
    | cons item items =>
      have hshort : index < items.length := Nat.lt_of_succ_lt_succ hindex
      rcases h.item hahead told with ⟨rfl, -⟩ | ⟨-, next, hnext, hhears⟩
      · exact absurd hshort (Nat.not_lt_zero _)
      · obtain ⟨turn, final, hends, htakes⟩ := ih hnext hshort (told ++ item.delivered.toList)
        refine ⟨turn, final, ?_, .more hhears htakes⟩
        rw [List.take_succ_cons, ← append_filterMap_delivered]
        exact hends

/-- **A command that knows what to do takes the whole answer**, and has been given what is in it. -/
theorem exists_takes (h : Follows capabilities Ahead state Ends) (place : π) {answer : Sent.Answer}
    (hahead : Ahead place (answer.body.items capabilities))
    (hne : answer.body.items capabilities ≠ []) (hcut : answer.CutFits capabilities) :
    ∃ turn final, Ends (answer.delivered capabilities) answer.failure turn final ∧
      Takes capabilities (state place []) (answer.packets capabilities) turn final := by
  unfold Sent.Answer.delivered Sent.Answer.packets Sent.Answer.items Sent.Answer.failure
  cases hanswer : answer.cut with
  | none => exact h.takes_items hahead hne []
  | some cut =>
    obtain ⟨index, err⟩ := cut
    obtain ⟨hindex, herr⟩ := hcut index err hanswer
    obtain ⟨turn, final, hends, htakes⟩ := h.takes_cut hahead hindex herr []
    refine ⟨turn, final, ?_, ?_⟩
    · simpa using hends
    · simpa using htakes

end Follows

end MySqlClient
