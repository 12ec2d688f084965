import MySqlClient.Proofs.Framing.Carried

/-!
# Octets that looking for a packet takes

What looking for a packet finds does not depend on where the octets are cut, and the octets that it
takes are the frames of what it finds.

* `Framing.decode_append_of_none`: looking goes on where it stopped.
* `Framing.exists_encode_of_decode`: **a packet that is found takes the octets that writing it
  gives**, behind what has come of it before.
* `Framing.eq_or_unfinished_of_none`: without a packet, either nothing is taken or a packet has
  begun.
* `Framing.Holds`: the octets that have come since a packet has begun; `Framing.keeps_decode`:
  **looking for a packet neither loses nor adds any**, even where numbers do not fit.
-/

namespace MySqlClient

namespace Framing

/-- A frame that is read is read in front of further octets. -/
theorem read?_append {octets rest : Bytes} {frame : Frame}
    (h : Frame.read? octets = some (frame, rest)) (more : Bytes) :
    Frame.read? (octets ++ more) = some (frame, rest ++ more) := by
  obtain ⟨rfl, hchunk⟩ := Frame.eq_encode_append_of_read? h
  rw [List.append_assoc]
  exact Frame.read?_encode_append hchunk _

/-- Without a packet: there is no frame either, or one that another has to follow. -/
theorem exists_of_decode_none {framing next : Framing} {octets left : Bytes}
    (h : framing.decode octets = ⟨.ok none, next, left⟩) :
    (next = framing ∧ left = octets) ∨
      ∃ frame rest, Frame.read? octets = some (frame, rest) ∧ frame.sequence = framing.sequence ∧
        frame.isContinued = true ∧
        decode ⟨framing.sequence + 1, some (framing.extend frame)⟩ rest =
          ⟨.ok none, next, left⟩ := by
  cases hread : Frame.read? octets with
  | none =>
    rw [decode_of_none hread] at h
    cases h
    exact Or.inl ⟨rfl, rfl⟩
  | some found =>
    obtain ⟨frame, rest⟩ := found
    by_cases hseq : frame.sequence = framing.sequence
    · cases hcontinued : frame.isContinued with
      | true =>
        rw [decode_of_continued hread hseq hcontinued] at h
        exact Or.inr ⟨frame, rest, rfl, hseq, hcontinued, h⟩
      | false =>
        rw [decode_of_last hread hseq hcontinued] at h
        cases h
    · rw [decode_of_mismatch hread hseq] at h
      cases h

/-- **Looking for a packet goes on where it stopped.** -/
theorem decode_append_of_none {framing next : Framing} {octets left : Bytes}
    (h : framing.decode octets = ⟨.ok none, next, left⟩) (more : Bytes) :
    framing.decode (octets ++ more) = next.decode (left ++ more) := by
  -- frame by frame
  induction hn : octets.length using Nat.strongRecOn generalizing framing octets with
  | ind n ih =>
    subst hn
    rcases exists_of_decode_none h with
      ⟨rfl, rfl⟩ | ⟨frame, rest, hread, hseq, hcontinued, hdecode⟩
    · rfl
    · rw [decode_of_continued (read?_append hread more) hseq hcontinued]
      exact ih rest.length (Frame.length_lt_of_read? hread) hdecode rfl

/-- **Without a packet, either nothing is taken or a packet has begun.** -/
theorem eq_or_unfinished_of_none {framing next : Framing} {octets left : Bytes}
    (h : framing.decode octets = ⟨.ok none, next, left⟩) :
    (next = framing ∧ left = octets) ∨ next.unfinished.isSome = true := by
  induction hn : octets.length using Nat.strongRecOn generalizing framing octets with
  | ind n ih =>
    subst hn
    rcases exists_of_decode_none h with hnothing | ⟨frame, rest, hread, -, -, hdecode⟩
    · exact Or.inl hnothing
    · rcases ih rest.length (Frame.length_lt_of_read? hread) hdecode rfl with ⟨rfl, -⟩ | hbegun
      · exact Or.inr rfl
      · exact Or.inr hbegun

/-- **A packet that is found takes the octets that writing it gives**, behind what has come of it
before. -/
theorem exists_encode_of_decode {framing next : Framing} {octets rest : Bytes} {packet : Packet}
    (h : framing.decode octets = ⟨.ok (some packet), next, rest⟩) :
    ∃ tail, octets = (framing.encode tail).1 ++ rest ∧
      packet = ⟨framing.firstSequence, framing.begun ++ tail⟩ ∧
      next = ⟨(framing.encode tail).2.sequence, none⟩ := by
  induction hn : octets.length using Nat.strongRecOn generalizing framing octets with
  | ind n ih =>
    subst hn
    cases hread : Frame.read? octets with
    | none =>
      rw [decode_of_none hread] at h
      cases h
    | some found =>
      obtain ⟨frame, left⟩ := found
      obtain ⟨hoctets, hchunk⟩ := Frame.eq_encode_append_of_read? hread
      by_cases hseq : frame.sequence = framing.sequence
      · have hframe : frame = ⟨framing.sequence, frame.chunk⟩ := by rw [← hseq]
        cases hcontinued : frame.isContinued with
        | true =>
          have hlength : frame.chunk.length = Packet.maxFramePayload := by
            simp only [Frame.isContinued, Bytes.hasAtLeast_eq, decide_eq_true_eq] at hcontinued
            omega
          rw [decode_of_continued hread hseq hcontinued] at h
          obtain ⟨tail, hleft, hpacket, hnext⟩ :=
            ih left.length (Frame.length_lt_of_read? hread) h rfl
          have hlong : Packet.maxFramePayload ≤ (frame.chunk ++ tail).length := by
            rw [List.length_append]
            omega
          obtain ⟨hencode, hsequence⟩ := encode_of_le hlong
            ⟨framing.sequence + 1, some (framing.extend frame)⟩
            (show _ = framing.sequence + 1 from rfl)
          rw [List.take_left' hlength, List.drop_left' hlength] at hencode
          rw [List.drop_left' hlength] at hsequence
          refine ⟨frame.chunk ++ tail, ?_, ?_, ?_⟩
          · rw [hencode, List.append_assoc, ← hframe, ← hleft, ← hoctets]
          · rw [hpacket, hframe, extend_eq]
            simp only [firstSequence, begun, List.append_assoc]
          · rw [hnext, hsequence]
        | false =>
          have hshort : frame.chunk.length < Packet.maxFramePayload := by
            simp only [Frame.isContinued, Bytes.hasAtLeast_eq, decide_eq_false_iff_not]
              at hcontinued
            omega
          rw [decode_of_last hread hseq hcontinued] at h
          cases h
          refine ⟨frame.chunk, ?_, ?_, ?_⟩
          · rw [encode_of_lt hshort, ← hframe, ← hoctets]
          · rw [← extend_eq, ← hframe]
          · rw [encode_of_lt hshort]
      · rw [decode_of_mismatch hread hseq] at h
        cases h

/-- Octets that hold a packet and nothing behind it. -/
theorem decode_of_decode_append {framing next : Framing} {front rest : Bytes} {packet : Packet}
    (h : framing.decode (front ++ rest) = ⟨.ok (some packet), next, rest⟩) (more : Bytes) :
    framing.decode (front ++ more) = ⟨.ok (some packet), next, more⟩ := by
  obtain ⟨tail, hoctets, rfl, rfl⟩ := exists_encode_of_decode h
  rw [List.append_cancel_right hoctets]
  exact decode_encode_append framing tail more

/-! ## The frames of what has begun -/

/-- The octets are the frames of the unfinished packet and what is behind them. -/
def Holds (framing : Framing) (octets behind : Bytes) : Prop :=
  ∃ frames : List Frame, octets = Frame.encodeAll frames ++ behind ∧
    framing.begun = frames.flatMap Frame.chunk ∧ (framing.unfinished = none ↔ frames = [])

theorem holds_of_unfinished_none {framing : Framing} (h : framing.unfinished = none)
    (octets : Bytes) : framing.Holds octets octets :=
  ⟨[], rfl, begun_of_unfinished_none h, by simp [h]⟩

/-- What has begun is all that the frames are about. -/
theorem Holds.congr {framing other : Framing} {octets behind : Bytes}
    (h : framing.Holds octets behind) (hother : other.unfinished = framing.unfinished) :
    other.Holds octets behind := by
  obtain ⟨frames, hoctets, hbegun, hnone⟩ := h
  refine ⟨frames, hoctets, ?_, by rw [hother, hnone]⟩
  rw [← hbegun, begun, begun, hother]

theorem Holds.append {framing : Framing} {octets behind : Bytes} (h : framing.Holds octets behind)
    (more : Bytes) : framing.Holds (octets ++ more) (behind ++ more) := by
  obtain ⟨frames, rfl, hbegun, hnone⟩ := h
  exact ⟨frames, List.append_assoc _ _ _, hbegun, hnone⟩

/-- Nothing is held when no packet has begun and nothing is behind it. -/
theorem Holds.eq_nil_iff {framing : Framing} {octets behind : Bytes}
    (h : framing.Holds octets behind) :
    octets = [] ↔ framing.unfinished = none ∧ behind = [] := by
  obtain ⟨frames, rfl, -, hnone⟩ := h
  rw [hnone, List.append_eq_nil_iff]
  refine and_congr_left fun _ => ⟨fun hframes => ?_, fun hframes => by rw [hframes]; rfl⟩
  cases frames with
  | nil => rfl
  | cons frame frames =>
    obtain ⟨a, b, c, hframe, -⟩ := frame.exists_encode_eq
    rw [Frame.encodeAll_cons, hframe] at hframes
    cases hframes

/-- The octets are the frames of the packet that is found and what is behind it; without a packet,
those of what has begun. -/
def Decoded.Keeps (decoded : Decoded) (octets : Bytes) : Prop :=
  match decoded.result with
  | .ok (some packet) =>
    ∃ frames : List Frame, octets = Frame.encodeAll frames ++ decoded.rest ∧
      packet.payload = frames.flatMap Frame.chunk ∧ decoded.framing.unfinished = none
  | _ => decoded.framing.Holds octets decoded.rest

/-- **Looking for a packet neither loses nor adds octets**, whatever comes of it. -/
theorem keeps_decode {framing : Framing} {octets behind : Bytes}
    (h : framing.Holds octets behind) : (framing.decode behind).Keeps octets := by
  -- frame by frame
  induction hn : behind.length using Nat.strongRecOn generalizing framing behind with
  | ind n ih =>
    subst hn
    cases hread : Frame.read? behind with
    | none =>
      rw [decode_of_none hread]
      exact h
    | some found =>
      obtain ⟨frame, rest⟩ := found
      obtain ⟨hbehind, -⟩ := Frame.eq_encode_append_of_read? hread
      by_cases hseq : frame.sequence = framing.sequence
      · obtain ⟨frames, hoctets, hbegun, -⟩ := h
        have hmore : octets = Frame.encodeAll (frames ++ [frame]) ++ rest := by
          rw [Frame.encodeAll_append, hoctets, hbehind, List.append_assoc, Frame.encodeAll_cons,
            Frame.encodeAll_nil, List.append_nil]
        have hpayload : (framing.extend frame).payload =
            (frames ++ [frame]).flatMap Frame.chunk := by
          have hframe : frame = ⟨framing.sequence, frame.chunk⟩ := by rw [← hseq]
          rw [hframe, extend_eq, hbegun]
          simp
        cases hcontinued : frame.isContinued with
        | true =>
          rw [decode_of_continued hread hseq hcontinued]
          exact ih rest.length (Frame.length_lt_of_read? hread)
            ⟨frames ++ [frame], hmore, hpayload, by simp⟩ rfl
        | false =>
          rw [decode_of_last hread hseq hcontinued]
          exact ⟨frames ++ [frame], hmore, hpayload, rfl⟩
      · rw [decode_of_mismatch hread hseq]
        exact h

end Framing

end MySqlClient
