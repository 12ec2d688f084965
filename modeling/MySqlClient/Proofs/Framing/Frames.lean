import MySqlClient.Framing

/-!
# Frames on the wire

Reading a frame takes exactly the octets that writing it gives, and needs all of them.

* `Frame.read?_encode_append`, `Frame.eq_encode_append_of_read?`: the two directions.
* `Frame.read?_eq_none_of_short`: the front of a frame is no frame; `Frame.read?_of_append_eq` puts
  both together for octets that are cut anywhere.
* `Framing.decode_of_none`, `decode_of_mismatch`, `decode_of_continued`, `decode_of_last`: what
  looking for a packet does, by the frame at the front.
* `Frame.ofPayload_of_lt`, `Frame.ofPayload_of_le`: the frames of a payload.
-/

namespace MySqlClient

namespace Frame

/-- The octets of a frame one by one, for a chunk that fits into a frame. -/
theorem exists_encode_eq (frame : Frame) :
    ∃ a b c, frame.encode = a :: b :: c :: frame.sequence :: frame.chunk ∧
      Bytes.toNat [a, b, c] = frame.chunk.length % Bytes.capacity 3 := by
  refine ⟨_, _, _, rfl, ?_⟩
  exact Bytes.toNat_ofNat 3 frame.chunk.length

theorem mod_length_chunk {frame : Frame} (h : frame.chunk.length ≤ Packet.maxFramePayload) :
    frame.chunk.length % Bytes.capacity 3 = frame.chunk.length := by
  apply Nat.mod_eq_of_lt
  simp only [Packet.maxFramePayload] at h
  simp only [Bytes.capacity]
  omega

/-- **A written frame is read back**, and what follows it is left. -/
theorem read?_encode_append {frame : Frame}
    (h : frame.chunk.length ≤ Packet.maxFramePayload) (rest : Bytes) :
    read? (frame.encode ++ rest) = some (frame, rest) := by
  obtain ⟨a, b, c, he, hlen⟩ := exists_encode_eq frame
  rw [mod_length_chunk h] at hlen
  rw [he]
  simp [read?, hlen]

/-- **What is read as a frame was written as one.** -/
theorem eq_encode_append_of_read? {octets rest : Bytes} {frame : Frame}
    (h : read? octets = some (frame, rest)) :
    octets = frame.encode ++ rest ∧ frame.chunk.length ≤ Packet.maxFramePayload := by
  unfold read? at h
  split at h
  · next a b c sequence body =>
    dsimp only at h
    split at h
    · next hbody =>
      rw [Bytes.hasAtLeast_eq, decide_eq_true_eq] at hbody
      cases h
      have hlt : Bytes.toNat [a, b, c] < 256 * (256 * (256 * 1)) := Bytes.toNat_lt [a, b, c]
      have hlen : (body.take (Bytes.toNat [a, b, c])).length = Bytes.toNat [a, b, c] := by
        rw [List.length_take]
        omega
      have hword : Bytes.ofNat 3 (Bytes.toNat [a, b, c]) = [a, b, c] := Bytes.ofNat_toNat [a, b, c]
      constructor
      · rw [encode, hlen, hword]
        simp only [List.cons_append, List.nil_append, List.take_append_drop]
      · rw [hlen, Packet.maxFramePayload]
        omega
    · cases h
  · cases h

/-- **The front of a frame is no frame.** -/
theorem read?_eq_none_of_short {frame : Frame} {front back more : Bytes}
    (hchunk : frame.chunk.length ≤ Packet.maxFramePayload)
    (h : front ++ back = frame.encode ++ more) (hshort : front.length < frame.encode.length) :
    read? front = none := by
  cases hread : read? front with
  | none => rfl
  | some found =>
    obtain ⟨other, rest⟩ := found
    -- a frame at the front would be the same frame, which does not fit
    obtain ⟨hfront, -⟩ := eq_encode_append_of_read? hread
    have hfull : read? (front ++ back) = some (other, rest ++ back) := by
      rw [hfront, List.append_assoc]
      exact read?_encode_append (eq_encode_append_of_read? hread).2 _
    rw [h, read?_encode_append hchunk] at hfull
    cases hfull
    rw [hfront, List.length_append] at hshort
    omega

/-- **Octets that start with a frame, cut anywhere**: the front holds the whole frame, or none of it
is read yet. -/
theorem read?_of_append_eq {frame : Frame} {front back more : Bytes}
    (hchunk : frame.chunk.length ≤ Packet.maxFramePayload)
    (h : front ++ back = frame.encode ++ more) :
    (read? front = none ∧ back ≠ []) ∨
      ∃ left, read? front = some (frame, left) ∧ left ++ back = more := by
  rcases Nat.lt_or_ge front.length frame.encode.length with hshort | hlong
  · refine Or.inl ⟨read?_eq_none_of_short hchunk h hshort, ?_⟩
    rintro rfl
    have hlen := congrArg List.length h
    simp only [List.append_nil, List.length_append] at hlen
    omega
  · have hfull : frame.encode <+: front ++ back := ⟨more, h.symm⟩
    obtain ⟨left, rfl⟩ :=
      List.prefix_of_prefix_length_le hfull (List.prefix_append front back) hlong
    refine Or.inr ⟨left, read?_encode_append hchunk left, ?_⟩
    rw [List.append_assoc] at h
    exact List.append_cancel_left h

/-! ## The frames of a payload -/

theorem ofPayload_of_lt {payload : Bytes} (sequence : UInt8)
    (h : payload.length < Packet.maxFramePayload) :
    ofPayload sequence payload = [⟨sequence, payload⟩] := by
  rw [ofPayload]
  simp [Nat.not_le.mpr h]

theorem ofPayload_of_le {payload : Bytes} (sequence : UInt8)
    (h : Packet.maxFramePayload ≤ payload.length) :
    ofPayload sequence payload =
      ⟨sequence, payload.take Packet.maxFramePayload⟩ ::
        ofPayload (sequence + 1) (payload.drop Packet.maxFramePayload) := by
  rw [ofPayload]
  simp [h]

/-- Every payload has a frame. -/
theorem length_ofPayload_pos (sequence : UInt8) (payload : Bytes) :
    0 < (ofPayload sequence payload).length := by
  rcases Nat.lt_or_ge payload.length Packet.maxFramePayload with h | h
  · rw [ofPayload_of_lt sequence h]
    exact Nat.one_pos
  · rw [ofPayload_of_le sequence h]
    exact Nat.succ_pos _

@[simp] theorem encodeAll_nil : encodeAll [] = [] := rfl

@[simp] theorem encodeAll_cons (frame : Frame) (frames : List Frame) :
    encodeAll (frame :: frames) = frame.encode ++ encodeAll frames := rfl

theorem encodeAll_append (frames more : List Frame) :
    encodeAll (frames ++ more) = encodeAll frames ++ encodeAll more := by
  induction frames with
  | nil => rfl
  | cons frame frames ih =>
    rw [List.cons_append, encodeAll_cons, ih, encodeAll_cons, List.append_assoc]

end Frame

namespace Framing

/-! ## Looking for a packet, by the frame at the front -/

theorem decode_of_none {framing : Framing} {octets : Bytes} (h : Frame.read? octets = none) :
    framing.decode octets = ⟨.ok none, framing, octets⟩ := by
  rw [decode]
  split
  · rfl
  · simp_all

theorem decode_of_mismatch {framing : Framing} {octets rest : Bytes} {frame : Frame}
    (h : Frame.read? octets = some (frame, rest)) (hne : frame.sequence ≠ framing.sequence) :
    framing.decode octets =
      ⟨.error (.framing (.sequenceMismatch framing.sequence frame.sequence)), framing, octets⟩ := by
  rw [decode]
  split
  · simp_all
  · next hread =>
    rw [h] at hread
    cases hread
    rw [if_pos hne]

theorem decode_of_continued {framing : Framing} {octets rest : Bytes} {frame : Frame}
    (h : Frame.read? octets = some (frame, rest)) (hseq : frame.sequence = framing.sequence)
    (hmore : frame.isContinued = true) :
    framing.decode octets =
      decode ⟨framing.sequence + 1, some (framing.extend frame)⟩ rest := by
  rw [decode]
  split
  · simp_all
  · next hread =>
    rw [h] at hread
    cases hread
    rw [if_neg (not_not_intro hseq)]
    dsimp only
    rw [if_pos hmore]

theorem decode_of_last {framing : Framing} {octets rest : Bytes} {frame : Frame}
    (h : Frame.read? octets = some (frame, rest)) (hseq : frame.sequence = framing.sequence)
    (hlast : frame.isContinued = false) :
    framing.decode octets =
      ⟨.ok (some (framing.extend frame)), ⟨framing.sequence + 1, none⟩, rest⟩ := by
  rw [decode]
  split
  · simp_all
  · next hread =>
    rw [h] at hread
    cases hread
    rw [if_neg (not_not_intro hseq)]
    dsimp only
    rw [if_neg (by simp [hlast])]

@[simp] theorem decode_nil (framing : Framing) : framing.decode [] = ⟨.ok none, framing, []⟩ :=
  decode_of_none rfl

/-! ## Writing packets -/

theorem encode_fst (framing : Framing) (payload : Bytes) :
    (framing.encode payload).1 = Frame.encodeAll (Frame.ofPayload framing.sequence payload) := rfl

theorem encode_snd (framing : Framing) (payload : Bytes) :
    (framing.encode payload).2 = { framing with
      sequence := framing.sequence +
        UInt8.ofNat (Frame.ofPayload framing.sequence payload).length } := rfl

/-- A payload that fits into one frame is written as that frame. -/
theorem encode_of_lt {framing : Framing} {payload : Bytes}
    (h : payload.length < Packet.maxFramePayload) :
    framing.encode payload =
      ((Frame.mk framing.sequence payload).encode,
        { framing with sequence := framing.sequence + 1 }) := by
  rw [encode, Frame.ofPayload_of_lt framing.sequence h]
  simp

/-- A longer payload is written as a full frame and the rest of the payload. -/
theorem encode_of_le {framing : Framing} {payload : Bytes}
    (h : Packet.maxFramePayload ≤ payload.length) (next : Framing)
    (hnext : next.sequence = framing.sequence + 1) :
    (framing.encode payload).1 =
        (Frame.mk framing.sequence (payload.take Packet.maxFramePayload)).encode ++
          (next.encode (payload.drop Packet.maxFramePayload)).1 ∧
      (framing.encode payload).2.sequence =
        (next.encode (payload.drop Packet.maxFramePayload)).2.sequence := by
  have hframes := Frame.ofPayload_of_le framing.sequence h
  constructor
  · rw [encode_fst, encode_fst, hframes, Frame.encodeAll_cons, hnext]
  · rw [encode_snd, encode_snd, hframes, hnext, List.length_cons, UInt8.ofNat_add]
    show framing.sequence + (_ + 1) = framing.sequence + 1 + _
    rw [UInt8.add_assoc, UInt8.add_comm 1]

@[simp] theorem encodeEach_nil (framing : Framing) : framing.encodeEach [] = ([], framing) := rfl

theorem encodeEach_cons_fst (framing : Framing) (payload : Bytes) (payloads : List Bytes) :
    (framing.encodeEach (payload :: payloads)).1 =
      (framing.encode payload).1 ++ ((framing.encode payload).2.encodeEach payloads).1 := rfl

theorem encodeEach_cons_snd (framing : Framing) (payload : Bytes) (payloads : List Bytes) :
    (framing.encodeEach (payload :: payloads)).2 =
      ((framing.encode payload).2.encodeEach payloads).2 := rfl

end Framing

end MySqlClient
