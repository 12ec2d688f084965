import MySqlClient.Connection
import MySqlClient.Proofs.Framing.Carried

/-!
# Steps of a connection

What a connection does at each step, as equations without the recursion behind it.

* `consume_of_inattentive`, `consume_of_none`, `consume_of_error`, `consume_of_packet`: taking
  packets off some octets, by what is found at the front of them.
* `take_of_not_isReady`, `take_of_isReady`: where a packet goes.
* `Outbound.requests`: writes each of which starts an exchange; `Outbound.encodeAll_requests`.
* `exists_writeOrFail_requests`: writing them over a transport without faults.
-/

namespace MySqlClient

namespace Outbound

/-- Packets each of which starts an exchange. -/
def requests (payloads : List Bytes) : List Outbound :=
  payloads.map fun payload => ⟨[payload], true⟩

@[simp] theorem requests_nil : requests [] = [] := rfl

@[simp] theorem requests_append (payloads more : List Bytes) :
    requests (payloads ++ more) = requests payloads ++ requests more :=
  List.map_append

theorem isEmpty_requests (payloads : List Bytes) :
    (requests payloads).isEmpty = payloads.isEmpty := by
  cases payloads <;> rfl

/-- **Requests are written one behind the other, each from zero on.** -/
theorem encodeAll_requests {framing : Framing} (h : framing.unfinished = none)
    (payloads : List Bytes) :
    (encodeAll framing (requests payloads)).1 = Framing.writeRequests payloads ∧
      (encodeAll framing (requests payloads)).2.unfinished = none ∧
      ∀ last, payloads.getLast? = some last →
        (encodeAll framing (requests payloads)).2.sequence =
          (Framing.encode {} last).2.sequence := by
  induction payloads generalizing framing with
  | nil => exact ⟨rfl, h, by simp⟩
  | cons payload payloads ih =>
    have hrestart : framing.restart = {} := by
      rw [Framing.restart, h]
    have hcons : encodeAll framing (requests (payload :: payloads)) =
        ((Framing.encode {} payload).1 ++ [] ++
            (encodeAll (Framing.encode {} payload).2 (requests payloads)).1,
          (encodeAll (Framing.encode {} payload).2 (requests payloads)).2) := by
      rw [← hrestart]
      rfl
    obtain ⟨hoctets, hunfinished, hlast⟩ :=
      ih (show (Framing.encode {} payload).2.unfinished = none from rfl)
    rw [hcons]
    refine ⟨?_, hunfinished, fun last hgetLast => ?_⟩
    · rw [List.append_nil, hoctets]
      rfl
    · cases payloads with
      | nil =>
        cases hgetLast
        rfl
      | cons next payloads =>
        rw [List.getLast?_cons_cons] at hgetLast
        exact hlast last hgetLast

end Outbound

namespace Connection

variable {σ : Type} [Command σ]

/-! ## Taking packets off octets -/

theorem consume_of_inattentive {connection : Connection σ} (h : connection.isAttentive = false)
    (octets : Bytes) : connection.consume octets = { connection with inbox := octets } := by
  rw [consume, if_neg (by simp [h])]

theorem consume_of_none {connection : Connection σ} {octets rest : Bytes} {framing : Framing}
    (h : connection.isAttentive = true)
    (hdecode : connection.framing.decode octets = ⟨.ok none, framing, rest⟩) :
    connection.consume octets = { connection with framing, inbox := rest } := by
  rw [consume, if_pos h]
  split
  · next hread =>
    rw [hdecode] at hread
    cases hread
    rfl
  · next hread =>
    rw [hdecode] at hread
    cases hread
  · next hread =>
    rw [hdecode] at hread
    cases hread

theorem consume_nil {connection : Connection σ} (h : connection.isAttentive = true) :
    connection.consume [] = { connection with inbox := [] } :=
  consume_of_none h (Framing.decode_nil _)

theorem consume_of_error {connection : Connection σ} {octets rest : Bytes} {framing : Framing}
    {error : Error} (h : connection.isAttentive = true)
    (hdecode : connection.framing.decode octets = ⟨.error error, framing, rest⟩) :
    connection.consume octets =
      { connection with framing, inbox := rest }.dispatch (.failed error) := by
  rw [consume, if_pos h]
  split
  · next hread =>
    rw [hdecode] at hread
    cases hread
  · next hread =>
    rw [hdecode] at hread
    cases hread
    rfl
  · next hread =>
    rw [hdecode] at hread
    cases hread

theorem consume_of_packet {connection : Connection σ} {octets rest : Bytes} {framing : Framing}
    {packet : Packet} (h : connection.isAttentive = true)
    (hdecode : connection.framing.decode octets = ⟨.ok (some packet), framing, rest⟩) :
    connection.consume octets =
      ({ connection with framing, inbox := rest }.take packet).consume rest := by
  rw [consume, if_pos h]
  split
  · next hread =>
    rw [hdecode] at hread
    cases hread
  · next hread =>
    rw [hdecode] at hread
    cases hread
  · next hread =>
    rw [hdecode] at hread
    cases hread
    rfl

/-- Before commands may flow packets go to the lifecycle. -/
theorem take_of_not_isReady {connection : Connection σ}
    (h : connection.lifecycle.isReady = false) (packet : Packet) :
    connection.take packet = connection.dispatch (.packet packet) := by
  rw [take, if_neg (by simp [h])]

/-- The connection once the queue has handled a packet. -/
def handled (connection : Connection σ) (packet : Packet) : Connection σ :=
  { connection with queue := (connection.queue.handle packet).queue }.complete
    (connection.queue.handle packet).completions

/-- Once commands may flow packets go to the queue. -/
theorem take_of_isReady {connection : Connection σ} (h : connection.lifecycle.isReady = true)
    (packet : Packet) :
    connection.take packet =
      match (connection.queue.handle packet).result with
      | .ok outbound => (connection.handled packet).writeOrFail outbound
      | .error error => (connection.handled packet).dispatch (.failed error) := by
  rw [take, if_pos h]
  rfl

theorem take_of_ok {connection : Connection σ} (h : connection.lifecycle.isReady = true)
    {packet : Packet} {outbound : List Outbound}
    (hresult : (connection.queue.handle packet).result = .ok outbound) :
    connection.take packet = (connection.handled packet).writeOrFail outbound := by
  rw [take_of_isReady h, hresult]

theorem take_of_error {connection : Connection σ} (h : connection.lifecycle.isReady = true)
    {packet : Packet} {error : Error}
    (hresult : (connection.queue.handle packet).result = .error error) :
    connection.take packet = (connection.handled packet).dispatch (.failed error) := by
  rw [take_of_isReady h, hresult]

/-! ## Writing requests -/

/-- **Requests are written over a transport without faults.** -/
theorem exists_writeOrFail_requests {connection : Connection σ}
    (hfault : ∀ n, connection.transport.fault n = none)
    (hunfinished : connection.framing.unfinished = none) (payloads : List Bytes) :
    ∃ framing transport, connection.writeOrFail (Outbound.requests payloads) =
        { connection with framing, transport } ∧
      framing.unfinished = none ∧
      (∀ last, payloads.getLast? = some last →
        framing.sequence = (Framing.encode {} last).2.sequence) ∧
      transport.fault = connection.transport.fault ∧
      ∃ writes, transport.sent = connection.transport.sent ++ writes ∧
        writes.flatten = Framing.writeRequests payloads := by
  cases payloads with
  | nil =>
    exact ⟨connection.framing, connection.transport, rfl, hunfinished, by simp, rfl, [], by simp,
      rfl⟩
  | cons payload payloads =>
    let written := Outbound.encodeAll connection.framing (Outbound.requests (payload :: payloads))
    let transport : Transport :=
      { connection.transport with
        attempts := connection.transport.attempts + 1
        sent := connection.transport.sent ++ [written.1] }
    obtain ⟨hoctets, hnext, hlast⟩ :=
      Outbound.encodeAll_requests hunfinished (payload :: payloads)
    have hwrite : connection.write (Outbound.requests (payload :: payloads)) =
        ({ connection with framing := written.2, transport }, .ok ()) := by
      rw [write, Outbound.isEmpty_requests, if_neg (by simp)]
      simp only [Transport.write, hfault]
      rfl
    refine ⟨written.2, transport, ?_, hnext, hlast, rfl, [written.1], rfl, ?_⟩
    · rw [writeOrFail, hwrite]
    · rw [List.flatten_singleton]
      exact hoctets

end Connection

end MySqlClient
