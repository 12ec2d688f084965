import MySqlClient.Proofs.Framing.Stops

/-!
# Packets of a stream

A reader puts the octets that arrive behind those that are left, and takes packets until none is
found.  How the stream is cut into pieces has no part in what it finds, whether the stream is well
formed or not; and a stream that was written packet by packet is read packet by packet.

* `Framing.decodeAll`: take packets off some octets, until none is found; `Drained`: what comes of
  it.
* `Framing.decode_of_decodeAll`: **what it stopped at is what looking again finds.**
* `Drained.feed`: take packets off what is left and one more piece; `Drained.foldl_feed`: **the
  pieces of a stream come to the same as the stream.**
* `Framing.numbered`: the packets with given payloads, numbered as they are written.
* `Drained.feed_encodeEach`: **what is written is read back, however it is cut.**
-/

namespace MySqlClient

/-- What comes of taking packets until none is found: the packets, the error that ended it, if one
did, the framing after it, and the octets that were not taken. -/
structure Drained where
  packets : List Packet := []
  failure : Option Error := none
  framing : Framing
  rest : Bytes := []
  deriving DecidableEq

/-- The same behind other packets. -/
def Drained.behind (packets : List Packet) (drained : Drained) : Drained :=
  { drained with packets := packets ++ drained.packets }

namespace Framing

/-- Take packets off some octets, until none is found. -/
def decodeAll (framing : Framing) (octets : Bytes) : Drained :=
  match _h : framing.decode octets with
  | ⟨.ok none, framing, rest⟩ => { framing, rest }
  | ⟨.error error, framing, rest⟩ => { failure := some error, framing, rest }
  | ⟨.ok (some packet), framing, rest⟩ => (framing.decodeAll rest).behind [packet]
termination_by octets.length
decreasing_by exact length_lt_of_decode (by assumption)

theorem decodeAll_of_none {framing next : Framing} {octets rest : Bytes}
    (h : framing.decode octets = ⟨.ok none, next, rest⟩) :
    framing.decodeAll octets = { framing := next, rest } := by
  rw [decodeAll]
  split <;> simp_all

theorem decodeAll_of_error {framing next : Framing} {octets rest : Bytes} {error : Error}
    (h : framing.decode octets = ⟨.error error, next, rest⟩) :
    framing.decodeAll octets = { failure := some error, framing := next, rest } := by
  rw [decodeAll]
  split <;> simp_all

theorem decodeAll_of_packet {framing next : Framing} {octets rest : Bytes} {packet : Packet}
    (h : framing.decode octets = ⟨.ok (some packet), next, rest⟩) :
    framing.decodeAll octets = (next.decodeAll rest).behind [packet] := by
  rw [decodeAll]
  split <;> simp_all

@[simp] theorem decodeAll_nil (framing : Framing) : framing.decodeAll [] = { framing } :=
  decodeAll_of_none (decode_nil framing)

/-- **What taking packets stopped at is what looking again finds**, and looking again changes
nothing. -/
theorem decode_of_decodeAll (framing : Framing) (octets : Bytes) :
    (framing.decodeAll octets).framing.decode (framing.decodeAll octets).rest =
      ⟨match (framing.decodeAll octets).failure with
        | none => .ok none
        | some error => .error error,
        (framing.decodeAll octets).framing, (framing.decodeAll octets).rest⟩ := by
  -- packet by packet
  induction hn : octets.length using Nat.strongRecOn generalizing framing octets with
  | ind n ih =>
    subst hn
    rcases hdecode : framing.decode octets with ⟨error | ⟨_ | packet⟩, next, rest⟩
    · rw [decodeAll_of_error hdecode]
      have hagain := (decode_append_of_error hdecode []).2
      rwa [List.append_nil] at hagain
    · rw [decodeAll_of_none hdecode]
      have hagain := decode_append_of_none hdecode []
      rw [List.append_nil, List.append_nil, hdecode] at hagain
      exact hagain.symm
    · rw [decodeAll_of_packet hdecode]
      exact ih rest.length (length_lt_of_decode hdecode) next rest rfl

end Framing

namespace Drained

/-- Take packets off what is left and some more octets. -/
def feed (drained : Drained) (octets : Bytes) : Drained :=
  (drained.framing.decodeAll (drained.rest ++ octets)).behind drained.packets

theorem feed_behind (drained : Drained) (packets : List Packet) (octets : Bytes) :
    (drained.behind packets).feed octets = (drained.feed octets).behind packets := by
  simp only [feed, behind, List.append_assoc]

end Drained

namespace Framing

/-- **Octets that come later come to the same.** -/
theorem decodeAll_append (framing : Framing) (octets more : Bytes) :
    framing.decodeAll (octets ++ more) = (framing.decodeAll octets).feed more := by
  -- packet by packet
  induction hn : octets.length using Nat.strongRecOn generalizing framing octets with
  | ind n ih =>
    subst hn
    rcases hdecode : framing.decode octets with ⟨error | ⟨_ | packet⟩, next, rest⟩
    · obtain ⟨hmore, hagain⟩ := decode_append_of_error hdecode more
      rw [decodeAll_of_error hdecode, decodeAll_of_error hmore, Drained.feed,
        decodeAll_of_error hagain]
      rfl
    · rw [decodeAll_of_none hdecode, Drained.feed, decodeAll, decodeAll,
        decode_append_of_none hdecode more]
      rfl
    · rw [decodeAll_of_packet hdecode, decodeAll_of_packet (decode_append_of_packet hdecode more),
        ih rest.length (length_lt_of_decode hdecode) next rest rfl, Drained.feed_behind]

end Framing

namespace Drained

/-- Feeding a stream goes on where taking its front stopped. -/
theorem foldl_feed_decodeAll (framing : Framing) (octets : Bytes) (pieces : List Bytes) :
    pieces.foldl feed (framing.decodeAll octets) =
      framing.decodeAll (octets ++ pieces.flatten) := by
  induction pieces generalizing octets with
  | nil => rw [List.foldl_nil, List.flatten_nil, List.append_nil]
  | cons piece pieces ih =>
    rw [List.foldl_cons, ← Framing.decodeAll_append, ih, List.flatten_cons, List.append_assoc]

/-- **The pieces of a stream come to the same as the stream.** -/
theorem foldl_feed (framing : Framing) (pieces : List Bytes) :
    pieces.foldl feed { framing } = framing.decodeAll pieces.flatten := by
  rw [← Framing.decodeAll_nil framing]
  exact foldl_feed_decodeAll framing [] pieces

/-- An error stays whatever is fed. -/
theorem failure_feed (framing : Framing) (octets more : Bytes) {error : Error}
    (h : (framing.decodeAll octets).failure = some error) :
    ((framing.decodeAll octets).feed more).failure = some error := by
  have hagain := Framing.decode_of_decodeAll framing octets
  rw [h] at hagain
  rw [feed, Framing.decodeAll_of_error (Framing.decode_append_of_error hagain more).1]
  rfl

end Drained

namespace Framing

/-- The packets with given payloads, each with the number of its first frame when they are written
one after another. -/
def numbered (framing : Framing) : List Bytes → List Packet
  | [] => []
  | payload :: payloads =>
    ⟨framing.sequence, payload⟩ :: (framing.encode payload).2.numbered payloads

/-- A written packet is read back by a reader that has the number of the writer. -/
theorem decode_encode_append_of_fresh (writer : Framing) (payload rest : Bytes) :
    decode { sequence := writer.sequence } ((writer.encode payload).1 ++ rest) =
      ⟨.ok (some ⟨writer.sequence, payload⟩), { sequence := (writer.encode payload).2.sequence },
        rest⟩ :=
  decode_encode_append { sequence := writer.sequence } payload rest

/-- **What is written is taken back**, and what follows it is left. -/
theorem decodeAll_encodeEach_append (writer : Framing) (payloads : List Bytes) (rest : Bytes) :
    decodeAll { sequence := writer.sequence } ((writer.encodeEach payloads).1 ++ rest) =
      (decodeAll { sequence := (writer.encodeEach payloads).2.sequence } rest).behind
        (writer.numbered payloads) := by
  induction payloads generalizing writer with
  | nil => rfl
  | cons payload payloads ih =>
    rw [encodeEach_cons_fst, encodeEach_cons_snd, List.append_assoc,
      decodeAll_of_packet (decode_encode_append_of_fresh writer payload _), ih, numbered]
    rfl

end Framing

namespace Drained

/-- **What is written is read back, however it is cut.**  A reader that starts with the number of
the writer and is fed the octets of the written packets piece by piece never meets an error.  In the
end it has taken exactly these packets, in order and each with the number of its first frame, no
octet is left, no packet has begun, and reader and writer go on with the same number. -/
theorem feed_encodeEach (writer : Framing) (payloads pieces : List Bytes)
    (h : pieces.flatten = (writer.encodeEach payloads).1) :
    (∀ fed, fed <+: pieces →
      (fed.foldl feed { framing := { sequence := writer.sequence } }).failure = none) ∧
    pieces.foldl feed { framing := { sequence := writer.sequence } } =
      { packets := writer.numbered payloads
        failure := none
        framing := { sequence := (writer.encodeEach payloads).2.sequence, unfinished := none }
        rest := [] } := by
  have hall : pieces.foldl feed { framing := { sequence := writer.sequence } } =
      { packets := writer.numbered payloads
        failure := none
        framing := { sequence := (writer.encodeEach payloads).2.sequence, unfinished := none }
        rest := [] } := by
    have hwritten := Framing.decodeAll_encodeEach_append writer payloads []
    rw [List.append_nil, Framing.decodeAll_nil] at hwritten
    rw [foldl_feed, h, hwritten, behind, List.append_nil]
  refine ⟨?_, hall⟩
  -- an error on the way would still be there in the end
  rintro fed ⟨unfed, rfl⟩
  rw [foldl_feed, List.flatten_append, Framing.decodeAll_append] at hall
  rw [foldl_feed, Option.eq_none_iff_forall_not_mem]
  intro error herror
  have hstays := failure_feed _ fed.flatten unfed.flatten herror
  rw [hall] at hstays
  cases hstays

/-- A full frame with its empty terminator, an empty payload and a short one, cut inside the first
header and inside the first chunk; the number wraps around on the way. -/
theorem feed_encodeEach_fullFrame :
    let writer : Framing := { sequence := 255 }
    let full : Bytes := List.replicate Packet.maxFramePayload 0
    let octets := (writer.encodeEach [full, [], [7]]).1
    [octets.take 2, (octets.drop 2).take 5, (octets.drop 2).drop 5].foldl feed
        { framing := { sequence := 255 } } =
      { packets := [⟨255, full⟩, ⟨1, []⟩, ⟨2, [7]⟩]
        framing := { sequence := 3 } } := by
  intro writer full octets
  have hlength : full.length = Packet.maxFramePayload := List.length_replicate
  have hframes : Frame.ofPayload 255 full = [⟨255, full⟩, ⟨0, []⟩] := by
    rw [Frame.ofPayload_of_le 255 (Nat.le_of_eq hlength.symm), ← hlength, List.take_length,
      List.drop_length, Frame.ofPayload_of_lt (255 + 1) (by decide)]
    rfl
  have hfull : (writer.encode full).2 = { sequence := 1 } := by
    rw [Framing.encode_snd, hframes]
    show Framing.mk (255 + UInt8.ofNat 2) none = ⟨1, none⟩
    decide
  have hempty : (Framing.encode { sequence := 1 } []).2 = { sequence := 2 } := by
    rw [Framing.encode_of_lt (by decide)]
    rfl
  have hshort : (Framing.encode { sequence := 2 } [7]).2 = { sequence := 3 } := by
    rw [Framing.encode_of_lt (by decide)]
    rfl
  have hcut : [octets.take 2, (octets.drop 2).take 5, (octets.drop 2).drop 5].flatten = octets := by
    rw [List.flatten_cons, List.flatten_cons, List.flatten_cons, List.flatten_nil, List.append_nil,
      List.take_append_drop, List.take_append_drop]
  have hread := (feed_encodeEach writer [full, [], [7]] _ hcut).2
  rw [Framing.encodeEach_cons_snd, Framing.encodeEach_cons_snd, Framing.encodeEach_cons_snd,
    Framing.encodeEach_nil] at hread
  simp only [Framing.numbered, hfull, hempty, hshort] at hread
  exact hread

end Drained

end MySqlClient
