import MySqlClient.Proofs.Framing.Frames

/-!
# Packets under way

A stream of octets that carries packets stays one while it is read: whatever part of it has come,
looking for a packet gives the next one or nothing yet, never an error, and what is left, with what
is still to come, carries the rest.

* `Framing.decode_encode_append`: a written packet is read back.
* `Framing.decode_of_prefix`: the front of a written packet is kept until the rest comes.
* `Framing.Carries`: the octets are the rest of the packets with the given payloads;
  `Framing.carries_encodeEach`: what one end writes carries the packets to the other.
* `Framing.decode_of_carries`: **looking for a packet in a part of the stream.**
* `Framing.readRequests`: the packets in some octets, each of which starts an exchange.
-/

namespace MySqlClient

namespace Framing

/-- What has come of an unfinished packet. -/
def begun (framing : Framing) : Bytes :=
  match framing.unfinished with
  | some packet => packet.payload
  | none => []

theorem begun_of_unfinished_none {framing : Framing} (h : framing.unfinished = none) :
    framing.begun = [] := by
  rw [begun, h]

/-- The number of the first frame of the packet that comes next. -/
def firstSequence (framing : Framing) : UInt8 :=
  match framing.unfinished with
  | some packet => packet.sequence
  | none => framing.sequence

/-- A further chunk is put behind what has come. -/
theorem extend_eq (framing : Framing) (chunk : Bytes) :
    framing.extend ⟨framing.sequence, chunk⟩ =
      ⟨framing.firstSequence, framing.begun ++ chunk⟩ := by
  unfold extend begun firstSequence
  cases framing.unfinished <;> rfl

/-! ## One packet -/

/-- **A written packet is read back**, behind what has come of it before. -/
theorem decode_encode_append (framing : Framing) (tail rest : Bytes) :
    framing.decode ((framing.encode tail).1 ++ rest) =
      ⟨.ok (some ⟨framing.firstSequence, framing.begun ++ tail⟩),
        ⟨(framing.encode tail).2.sequence, none⟩, rest⟩ := by
  -- frame by frame
  induction hn : tail.length using Nat.strongRecOn generalizing framing tail with
  | ind n ih =>
    subst hn
    rcases Nat.lt_or_ge tail.length Packet.maxFramePayload with hlast | hmore
    · rw [encode_of_lt hlast]
      have hread := Frame.read?_encode_append (show (Frame.mk framing.sequence tail).chunk.length ≤
        Packet.maxFramePayload from Nat.le_of_lt hlast) rest
      rw [decode_of_last hread rfl (by simpa [Frame.isContinued] using hlast), extend_eq]
    · let next : Framing := ⟨framing.sequence + 1,
        some (framing.extend ⟨framing.sequence, tail.take Packet.maxFramePayload⟩)⟩
      obtain ⟨hoctets, hsequence⟩ := encode_of_le hmore next rfl
      let frame : Frame := ⟨framing.sequence, tail.take Packet.maxFramePayload⟩
      have hchunk : frame.chunk.length ≤ Packet.maxFramePayload := List.length_take_le _ _
      have hread := Frame.read?_encode_append hchunk
        ((next.encode (tail.drop Packet.maxFramePayload)).1 ++ rest)
      have hdecode := decode_of_continued hread (show frame.sequence = framing.sequence from rfl)
        (by simp [frame, Frame.isContinued, hmore])
      have hshort : (tail.drop Packet.maxFramePayload).length < tail.length := by
        rw [List.length_drop]
        simp only [Packet.maxFramePayload] at hmore ⊢
        omega
      rw [hoctets, List.append_assoc, hdecode, ih _ hshort next _ rfl, hsequence]
      have hbegun : next.begun ++ tail.drop Packet.maxFramePayload = framing.begun ++ tail := by
        show (framing.extend _).payload ++ _ = _
        rw [extend_eq, List.append_assoc, List.take_append_drop]
      have hfirst : next.firstSequence = framing.firstSequence := by
        show (framing.extend _).sequence = _
        rw [extend_eq]
      rw [hbegun, hfirst]

/-- **The front of a written packet is kept until the rest comes**: whole frames in the unfinished
packet, and the front of a frame where it is. -/
theorem decode_of_prefix {framing : Framing} {front back tail : Bytes}
    (h : front ++ back = (framing.encode tail).1) (hback : back ≠ []) :
    ∃ next left tail', framing.decode front = ⟨.ok none, next, left⟩ ∧
      framing.begun ++ tail = next.begun ++ tail' ∧
      left ++ back = (next.encode tail').1 ∧
      (next.encode tail').2.sequence = (framing.encode tail).2.sequence := by
  induction hn : tail.length using Nat.strongRecOn generalizing framing front tail with
  | ind n ih =>
    subst hn
    rcases Nat.lt_or_ge tail.length Packet.maxFramePayload with hlast | hmore
    · have hchunk : (Frame.mk framing.sequence tail).chunk.length ≤ Packet.maxFramePayload :=
        Nat.le_of_lt hlast
      have hoctets := h
      rw [encode_of_lt hlast, ← List.append_nil (Frame.encode _)] at hoctets
      rcases Frame.read?_of_append_eq hchunk hoctets with ⟨hnone, -⟩ | ⟨left, -, hleft⟩
      · exact ⟨framing, front, tail, decode_of_none hnone, rfl, h, rfl⟩
      · exact absurd (List.append_eq_nil_iff.mp hleft).2 hback
    · have hchunk : (Frame.mk framing.sequence (tail.take Packet.maxFramePayload)).chunk.length ≤
          Packet.maxFramePayload := List.length_take_le _ _
      let next : Framing := ⟨framing.sequence + 1,
        some (framing.extend ⟨framing.sequence, tail.take Packet.maxFramePayload⟩)⟩
      obtain ⟨hencode, hsequence⟩ := encode_of_le hmore next rfl
      have hoctets := h
      rw [hencode] at hoctets
      rcases Frame.read?_of_append_eq hchunk hoctets with ⟨hnone, -⟩ | ⟨left, hread, hleft⟩
      · exact ⟨framing, front, tail, decode_of_none hnone, rfl, h, rfl⟩
      · have hshort : (tail.drop Packet.maxFramePayload).length < tail.length := by
          rw [List.length_drop]
          simp only [Packet.maxFramePayload] at hmore ⊢
          omega
        have hbegun : next.begun ++ tail.drop Packet.maxFramePayload = framing.begun ++ tail := by
          show (framing.extend _).payload ++ _ = _
          rw [extend_eq, List.append_assoc, List.take_append_drop]
        obtain ⟨last, rest, tail', hdecode, htail, hrest, hlast⟩ := ih _ hshort hleft rfl
        refine ⟨last, rest, tail', ?_, ?_, hrest, ?_⟩
        · rw [decode_of_continued hread rfl (by simp [Frame.isContinued, hmore])]
          exact hdecode
        · rw [← hbegun, htail]
        · rw [hlast, hsequence]

/-! ## Several packets -/

/-- The octets are the rest of packets with the given payloads, where the first packet may have
begun before them. -/
def Carries (framing : Framing) (octets : Bytes) : List Bytes → Prop
  | [] => framing.unfinished = none ∧ octets = []
  | payload :: payloads =>
    ∃ tail, payload = framing.begun ++ tail ∧ octets = (framing.encodeEach (tail :: payloads)).1

/-- What is written depends on the sequence number only. -/
theorem encodeEach_fst_congr {framing other : Framing} (h : framing.sequence = other.sequence)
    (payloads : List Bytes) : (framing.encodeEach payloads).1 = (other.encodeEach payloads).1 := by
  induction payloads generalizing framing other with
  | nil => rfl
  | cons payload payloads ih =>
    rw [encodeEach_cons_fst, encodeEach_cons_fst, encode_fst, encode_fst, h]
    congr 1
    apply ih
    rw [encode_snd, encode_snd, h]

/-- **What one end writes carries the packets to the other end.** -/
theorem carries_encodeEach {framing writer : Framing} (hfresh : framing.unfinished = none)
    (hseq : framing.sequence = writer.sequence) (payloads : List Bytes) :
    framing.Carries (writer.encodeEach payloads).1 payloads := by
  cases payloads with
  | nil => exact ⟨hfresh, rfl⟩
  | cons payload payloads =>
    refine ⟨payload, ?_, encodeEach_fst_congr hseq.symm _⟩
    rw [begun_of_unfinished_none hfresh, List.nil_append]

/-- Packets are octets. -/
theorem encodeEach_ne_nil {payloads : List Bytes} (h : payloads ≠ []) (framing : Framing) :
    (framing.encodeEach payloads).1 ≠ [] := by
  obtain ⟨payload, payloads, rfl⟩ := List.exists_cons_of_ne_nil h
  obtain ⟨frame, frames, hframes⟩ := List.exists_cons_of_length_pos
    (Frame.length_ofPayload_pos framing.sequence payload)
  obtain ⟨a, b, c, hframe, -⟩ := frame.exists_encode_eq
  rw [encodeEach_cons_fst, encode_fst, hframes, Frame.encodeAll_cons, hframe]
  exact List.cons_ne_nil _ _

/-- **Looking for a packet in a part of the stream** gives the next packet whole, or nothing while
a part of it is still to come. -/
theorem decode_of_carries {framing : Framing} {front back payload : Bytes}
    {payloads : List Bytes} (h : framing.Carries (front ++ back) (payload :: payloads)) :
    (∃ next left, framing.decode front = ⟨.ok none, next, left⟩ ∧
        next.Carries (left ++ back) (payload :: payloads) ∧ back ≠ []) ∨
      ∃ sequence next left, framing.decode front = ⟨.ok (some ⟨sequence, payload⟩), next, left⟩ ∧
        next.Carries (left ++ back) payloads := by
  obtain ⟨tail, rfl, hoctets⟩ := h
  rw [encodeEach_cons_fst] at hoctets
  rcases List.append_eq_append_iff.mp hoctets with ⟨middle, hfront, hback⟩ | ⟨left, hfront, hleft⟩
  · by_cases hmiddle : middle = []
    · -- the front is the packet
      right
      rw [hmiddle, List.append_nil] at hfront
      have hdecode := decode_encode_append framing tail []
      rw [List.append_nil, hfront] at hdecode
      refine ⟨_, _, _, hdecode, ?_⟩
      rw [hback, hmiddle, List.nil_append, List.nil_append]
      apply carries_encodeEach <;> rfl
    · -- the packet is cut
      left
      obtain ⟨next, left, tail', hdecode, htail, hleft, hsequence⟩ :=
        decode_of_prefix hfront.symm hmiddle
      refine ⟨next, left, hdecode, ⟨tail', htail, ?_⟩, ?_⟩
      · rw [hback, ← List.append_assoc, hleft, encodeEach_cons_fst]
        congr 1
        exact encodeEach_fst_congr hsequence.symm payloads
      · rw [hback]
        exact List.append_ne_nil_of_left_ne_nil hmiddle _
  · right
    have hdecode := decode_encode_append framing tail left
    rw [← hfront] at hdecode
    refine ⟨_, _, _, hdecode, ?_⟩
    rw [← hleft]
    apply carries_encodeEach <;> rfl

/-! ## Requests -/

/-- The packets in some octets, each of which starts an exchange, with the sequence number that the
answer has to go on with. -/
def readRequests (octets : Bytes) : List (Bytes × UInt8) :=
  match _h : decode {} octets with
  | ⟨.ok (some packet), framing, rest⟩ => (packet.payload, framing.sequence) :: readRequests rest
  | _ => []
termination_by octets.length
decreasing_by exact length_lt_of_decode (by assumption)

/-- The octets of packets each of which starts an exchange. -/
def writeRequests (payloads : List Bytes) : Bytes :=
  payloads.flatMap fun payload => (encode {} payload).1

@[simp] theorem writeRequests_nil : writeRequests [] = [] := rfl

@[simp] theorem writeRequests_append (payloads more : List Bytes) :
    writeRequests (payloads ++ more) = writeRequests payloads ++ writeRequests more :=
  List.flatMap_append

/-- **Requests are read back.** -/
theorem readRequests_writeRequests (payloads : List Bytes) :
    readRequests (writeRequests payloads) =
      payloads.map fun payload => (payload, (encode {} payload).2.sequence) := by
  induction payloads with
  | nil =>
    rw [writeRequests_nil, readRequests]
    simp
  | cons payload payloads ih =>
    have hdecode := decode_encode_append {} payload (writeRequests payloads)
    have hoctets : writeRequests (payload :: payloads) =
        (encode {} payload).1 ++ writeRequests payloads := rfl
    rw [hoctets, readRequests]
    split
    · next packet framing rest hread =>
      rw [hdecode] at hread
      cases hread
      rw [ih]
      rfl
    · next hother =>
      exact absurd hdecode (hother _ _ _)

end Framing

end MySqlClient
