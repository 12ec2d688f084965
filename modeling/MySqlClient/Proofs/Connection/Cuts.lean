import MySqlClient.Proofs.Connection.Course
import MySqlClient.Proofs.Connection.TlsBoundary
import MySqlClient.Proofs.Framing.Stops

/-!
# How reads are cut

A connection that does not use TLS goes on in the same way however the octets of the server are cut
into reads, well formed or not: what it is told, what it writes and what it comes to is the same.
Only a connection that has closed keeps octets that it has not looked at, and which of them are in
its inbox depends on the cuts.

* `Connection.consume_append`: **taking packets goes on where it stopped.**
* `Connection.Agrees`: the same but for the inbox of a connection that has closed.
* `Connection.agrees_receive_append`: a read that is cut in two.
* `Connection.agrees_foldl_receive`: a read that is cut into pieces.
* `Connection.receive_pieces`: **any two ways to cut the octets come to the same.**
-/

namespace MySqlClient

namespace Connection

variable {σ : Type}

theorem isAttentive_of_open {connection : Connection σ} (hawake : connection.suspension = none)
    (hopen : connection.lifecycle.isClosed = false) : connection.isAttentive = true := by
  rw [isAttentive, hawake, hopen]
  rfl

theorem isAttentive_of_closed {connection : Connection σ}
    (hclosed : connection.lifecycle.isClosed = true) : connection.isAttentive = false := by
  rw [isAttentive, hclosed]
  rfl

/-- The same but for the inbox of a connection that has closed. -/
def Agrees (first second : Connection σ) : Prop :=
  second = first.setInbox second.inbox ∧
    (first.lifecycle.isClosed = false → second = first)

namespace Agrees

variable {first second third : Connection σ}

theorem refl (connection : Connection σ) : Agrees connection connection :=
  ⟨rfl, fun _ => rfl⟩

theorem lifecycle (h : Agrees first second) : second.lifecycle = first.lifecycle := by
  rw [h.1]
  rfl

theorem symm (h : Agrees first second) : Agrees second first := by
  refine ⟨?_, fun hopen => ?_⟩
  · rw [h.1]
    rfl
  · rw [h.lifecycle] at hopen
    exact (h.2 hopen).symm

theorem trans (h : Agrees first second) (h' : Agrees second third) : Agrees first third := by
  refine ⟨?_, fun hopen => ?_⟩
  · rw [h'.1, h.1]
    rfl
  · rw [← h.lifecycle] at hopen
    rw [h'.2 hopen]
    rw [h.lifecycle] at hopen
    exact h.2 hopen

end Agrees

variable [Command σ]

theorem writeOrFail_setInbox (connection : Connection σ) (octets : Bytes)
    (outbound : List Outbound) :
    (connection.setInbox octets).writeOrFail outbound =
      (connection.writeOrFail outbound).setInbox octets := by
  unfold writeOrFail
  rw [write_setInbox]
  rcases connection.write outbound with ⟨next, error | done⟩
  · exact dispatch_setInbox next octets (.failed error)
  · rfl

/-- A packet comes to the same whatever the inbox holds. -/
theorem take_setInbox (connection : Connection σ) (octets : Bytes) (packet : Packet) :
    (connection.setInbox octets).take packet = (connection.take packet).setInbox octets := by
  cases hready : connection.lifecycle.isReady with
  | true =>
    have hset : (connection.setInbox octets).lifecycle.isReady = true := hready
    rcases hresult : (connection.queue.handle packet).result with error | outbound
    · have hagain : ((connection.setInbox octets).queue.handle packet).result = .error error :=
        hresult
      rw [take_of_error hready hresult, take_of_error hset hagain]
      exact dispatch_setInbox (connection.handled packet) octets (.failed error)
    · have hagain : ((connection.setInbox octets).queue.handle packet).result = .ok outbound :=
        hresult
      rw [take_of_ok hready hresult, take_of_ok hset hagain]
      exact writeOrFail_setInbox (connection.handled packet) octets outbound
  | false =>
    have hset : (connection.setInbox octets).lifecycle.isReady = false := hready
    rw [take_of_not_isReady hready, take_of_not_isReady hset]
    exact dispatch_setInbox connection octets _

/-- What is taken off some octets depends on what is decoded of them. -/
theorem consume_congr {connection : Connection σ} {octets more : Bytes} {framing : Framing}
    (h : connection.isAttentive = true)
    (hdecode : framing.decode more = connection.framing.decode octets) (inbox : Bytes) :
    Connection.consume { connection with framing, inbox } more = connection.consume octets := by
  have hsame : ({ connection with framing, inbox } : Connection σ).isAttentive = true := h
  rcases hread : connection.framing.decode octets with ⟨error | ⟨_ | packet⟩, next, rest⟩
  · rw [consume_of_error h hread, consume_of_error hsame (hdecode.trans hread)]
  · rw [consume_of_none h hread, consume_of_none hsame (hdecode.trans hread)]
  · rw [consume_of_packet h hread, consume_of_packet hsame (hdecode.trans hread)]

/-- **Taking packets goes on where it stopped.** -/
theorem consume_append (connection : Connection σ) (octets more : Bytes) :
    connection.consume (octets ++ more) =
      (connection.consume octets).consume ((connection.consume octets).inbox ++ more) := by
  -- packet by packet
  induction hn : octets.length using Nat.strongRecOn generalizing connection octets with
  | ind n ih =>
    subst hn
    cases hattentive : connection.isAttentive with
    | false =>
      have hset : (connection.setInbox octets).isAttentive = false := hattentive
      rw [consume_of_inattentive hattentive, consume_of_inattentive hattentive]
      exact (consume_of_inattentive hset _).symm
    | true =>
      rcases hdecode : connection.framing.decode octets with ⟨error | ⟨_ | packet⟩, next, rest⟩
      · -- behind an error nothing is looked at
        let failed : Connection σ :=
          { connection with framing := next, inbox := rest }.dispatch (.failed error)
        have hclosed : failed.lifecycle = .closed :=
          lifecycle_drain_closing (Lifecycle.onEvent_failed_fst _ _ _) 2
        have hinbox : failed.inbox = rest := (dispatch_octets _ _).inbox
        have hmore := (Framing.decode_append_of_error hdecode more).1
        rw [consume_of_error hattentive hdecode, consume_of_error hattentive hmore]
        show _ = failed.consume (failed.inbox ++ more)
        rw [consume_of_inattentive (isAttentive_of_closed (by rw [hclosed]; rfl)), hinbox]
        exact dispatch_setInbox { connection with framing := next, inbox := rest } (rest ++ more) _
      · rw [consume_of_none hattentive hdecode]
        exact (consume_congr hattentive (Framing.decode_append_of_none hdecode more).symm rest).symm
      · let read : Connection σ := { connection with framing := next, inbox := rest }
        have hmore := Framing.decode_append_of_packet hdecode more
        rw [consume_of_packet hattentive hdecode, consume_of_packet hattentive hmore]
        show ((read.setInbox (rest ++ more)).take packet).consume (rest ++ more) = _
        rw [take_setInbox, consume_setInbox]
        exact ih rest.length (Framing.length_lt_of_decode hdecode) (read.take packet) rest rfl

/-! ## Reads -/

/-- **A read that is cut in two.** -/
theorem agrees_receive_append {connection : Connection σ} (hawake : connection.suspension = none)
    {octets : Bytes} (hstays : (connection.step (.receive octets)).suspension = none)
    (more : Bytes) :
    Agrees (connection.step (.receive (octets ++ more)))
      ((connection.step (.receive octets)).step (.receive more)) := by
  cases hclosed : connection.lifecycle.isClosed with
  | true =>
    have hinattentive := isAttentive_of_closed hclosed
    simp only [step, whenAwake, hinattentive, Bool.false_eq_true, if_false]
    exact .refl connection
  | false =>
    have hattentive := isAttentive_of_open hawake hclosed
    have hreceive (octets : Bytes) : connection.step (.receive octets) =
        (connection.consume (connection.inbox ++ octets)).settle := by
      rw [step, whenAwake, if_pos hattentive]
    let next := connection.consume (connection.inbox ++ octets)
    have hwhole : connection.step (.receive (octets ++ more)) =
        (next.consume (next.inbox ++ more)).settle := by
      rw [hreceive, ← List.append_assoc, consume_append]
    rw [hwhole, hreceive octets]
    rw [hreceive octets] at hstays
    show Agrees _ (next.settle.step (.receive more))
    cases hend : next.lifecycle.isClosed with
    | true =>
      -- what comes after the end stays in the inbox
      have hinattentive := isAttentive_of_closed hend
      have hended : next.settle.isAttentive = false := by
        apply isAttentive_of_closed
        rw [lifecycle_settle, hend]
      rw [consume_of_inattentive hinattentive, step, whenAwake, if_neg (by simp [hended])]
      show Agrees (next.setInbox (next.inbox ++ more)).settle next.settle
      rw [settle_setInbox]
      refine Agrees.symm ⟨rfl, fun hopen => ?_⟩
      rw [lifecycle_settle, hend] at hopen
      cases hopen
    | false =>
      rw [settle_of_open hend] at hstays ⊢
      rw [step, whenAwake, if_pos (isAttentive_of_open hstays hend)]
      exact .refl _

/-- **A read that is cut into pieces.** -/
theorem agrees_foldl_receive {connection : Connection σ}
    (hawake : ∀ inputs : List (Input σ), (inputs.foldl step connection).suspension = none)
    (piece : Bytes) (pieces : List Bytes) :
    Agrees (connection.step (.receive (piece :: pieces).flatten))
      (((piece :: pieces).map Input.receive).foldl step connection) := by
  induction pieces generalizing connection piece with
  | nil =>
    rw [List.flatten_singleton]
    exact .refl _
  | cons next pieces ih =>
    have hrest := ih (fun inputs => hawake (.receive piece :: inputs)) next
    have hcut :=
      agrees_receive_append (hawake []) (hawake [.receive piece]) (next :: pieces).flatten
    exact hcut.trans hrest

/-- **Any two ways to cut the octets come to the same.**  A connection that does not use TLS has
come to any state.  Octets arrive, well formed or not, in pieces that are not empty and with nothing
in between.  However they are cut, lifecycle, queue, framing, what was written, what was told and
everything else are the same in the end, whether writes succeed or not; the inbox is the same too
unless the connection has closed. -/
theorem receive_pieces (login : Login) (tlsAvailable : Bool) (fault : Nat → Option Error)
    (hmode : login.tlsMode = .disable) (before : List (Input σ)) (pieces others : List Bytes)
    (hpieces : [] ∉ pieces) (hothers : [] ∉ others) (hsame : pieces.flatten = others.flatten) :
    let start : Connection σ := before.foldl step (openOver login tlsAvailable fault)
    let first := (pieces.map Input.receive).foldl step start
    let second := (others.map Input.receive).foldl step start
    second = first.setInbox second.inbox ∧
      (first.lifecycle ≠ .closed → second.inbox = first.inbox) := by
  intro start first second
  have hopened : Continues { login, tlsAvailable, transport := { fault } : Connection σ }
      (openOver login tlsAvailable fault) := continues_dispatch _ _
  have hawake (inputs : List (Input σ)) : (inputs.foldl step start).suspension = none := by
    show (inputs.foldl step (before.foldl step (openOver login tlsAvailable fault))).suspension = _
    rw [← List.foldl_append]
    refine suspension_of_disabled (hopened.login ▸ hmode)
      (ledger_openOver login tlsAvailable fault).poised ?_ _
    exact nofun
  have hagrees : Agrees first second := by
    cases pieces with
    | nil =>
      cases others with
      | nil => exact .refl _
      | cons other others => simp_all
    | cons piece pieces =>
      cases others with
      | nil => simp_all
      | cons other others =>
        have hfirst := agrees_foldl_receive hawake piece pieces
        have hsecond := agrees_foldl_receive hawake other others
        rw [hsame] at hfirst
        exact hfirst.symm.trans hsecond
  refine ⟨hagrees.1, fun hopen => ?_⟩
  rw [hagrees.2]
  cases hlifecycle : first.lifecycle with
  | closed => exact absurd hlifecycle hopen
  | _ => rfl

/-- A login, packet by packet and cut inside the length of the first frame. -/
theorem receive_pieces_login :
    let start : Connection Ping := openOver plainLogin false fun _ => none
    let accepted : Bytes := [0x07, 0x00, 0x00, 0x02, 0x00, 0x00, 0x00, 0x02, 0x00, 0x00, 0x00]
    let first := [.receive tlsGreeting, .receive accepted].foldl step start
    let second := [.receive (tlsGreeting.take 2),
      .receive (tlsGreeting.drop 2 ++ accepted)].foldl step start
    first.lifecycle.isReady = true ∧ second = first := by
  intro start accepted first second
  have hready : first.lifecycle.isReady = true := by
    decide +kernel
  have hopen : first.lifecycle ≠ .closed := by
    intro hclosed
    rw [hclosed] at hready
    cases hready
  obtain ⟨hsame, hinbox⟩ := receive_pieces plainLogin false (fun _ => none) rfl
    ([] : List (Input Ping)) [tlsGreeting, accepted]
    [tlsGreeting.take 2, tlsGreeting.drop 2 ++ accepted] (by decide) (by decide) (by decide)
  refine ⟨hready, hsame.trans ?_⟩
  rw [hinbox hopen]
  rfl

end Connection

end MySqlClient
