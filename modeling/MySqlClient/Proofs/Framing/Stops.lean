import MySqlClient.Proofs.Framing.Taken

/-!
# Where looking for a packet stops

Looking for a packet goes over full frames, each of which another one has to follow, and stops at
the first octets that are not such a frame with the number that comes next: at a shorter frame,
which is the last one of its packet, at a frame with another number, or where no frame is complete.

* `Frame.IsRun`: full frames with consecutive numbers; `Framing.advanceAll`: the framing behind
  them.
* `Framing.decode_encodeAll_append`: **looking for a packet goes over a run of full frames.**
* `Framing.exists_isRun_append`: all octets are a run of full frames and something that stops it.
* `Framing.exists_isRun_of_none`, `Framing.exists_isRun_of_error`: the octets in front of the place
  where nothing is found, and in front of a frame with a wrong number.
* `Framing.decode_append_of_error`: **behind a wrong number nothing changes the outcome.**
-/

namespace MySqlClient

namespace Frame

/-- Full frames with consecutive numbers, the first of them `sequence`. -/
def IsRun (sequence : UInt8) : List Frame → Prop
  | [] => True
  | frame :: frames =>
    frame.sequence = sequence ∧ frame.chunk.length = Packet.maxFramePayload ∧
      IsRun (sequence + 1) frames

theorem isContinued_iff_of_read? {octets rest : Bytes} {frame : Frame}
    (h : read? octets = some (frame, rest)) :
    frame.isContinued = true ↔ frame.chunk.length = Packet.maxFramePayload := by
  obtain ⟨-, hchunk⟩ := eq_encode_append_of_read? h
  rw [isContinued, Bytes.hasAtLeast_eq, decide_eq_true_eq]
  omega

end Frame

namespace Packet

/-- The packet that some frames are the beginning of, if there are any. -/
def ofFrames (frames : List Frame) : Option Packet :=
  frames.head?.map fun first => ⟨first.sequence, frames.flatMap Frame.chunk⟩

theorem ofFrames_eq_none_iff {frames : List Frame} : ofFrames frames = none ↔ frames = [] := by
  cases frames <;> simp [ofFrames]

end Packet

namespace Framing

/-- The framing behind a full frame. -/
def advance (framing : Framing) (frame : Frame) : Framing :=
  ⟨framing.sequence + 1, some (framing.extend frame)⟩

/-- The framing behind some full frames. -/
def advanceAll (framing : Framing) (frames : List Frame) : Framing :=
  frames.foldl advance framing

@[simp] theorem advanceAll_nil (framing : Framing) : framing.advanceAll [] = framing := rfl

@[simp] theorem advanceAll_cons (framing : Framing) (frame : Frame) (frames : List Frame) :
    framing.advanceAll (frame :: frames) = (framing.advance frame).advanceAll frames := rfl

/-- The next number counts all frames. -/
theorem sequence_advanceAll (framing : Framing) (frames : List Frame) :
    (framing.advanceAll frames).sequence = framing.sequence + UInt8.ofNat frames.length := by
  induction frames generalizing framing with
  | nil => simp
  | cons frame frames ih =>
    rw [advanceAll_cons, ih, List.length_cons, UInt8.ofNat_add]
    show framing.sequence + 1 + _ = framing.sequence + (_ + 1)
    rw [UInt8.add_assoc, UInt8.add_comm 1]

/-- An unfinished packet is followed by the chunks of all frames. -/
theorem unfinished_advanceAll_of_some {framing : Framing} {packet : Packet}
    (h : framing.unfinished = some packet) (frames : List Frame) :
    (framing.advanceAll frames).unfinished =
      some ⟨packet.sequence, packet.payload ++ frames.flatMap Frame.chunk⟩ := by
  induction frames generalizing framing packet with
  | nil => simp [h]
  | cons frame frames ih =>
    have hnext : (framing.advance frame).unfinished =
        some ⟨packet.sequence, packet.payload ++ frame.chunk⟩ := by
      simp only [advance, extend, h]
    rw [advanceAll_cons, ih hnext, List.flatMap_cons, List.append_assoc]

/-- **What has begun behind some frames is the packet that they begin.** -/
theorem unfinished_advanceAll {framing : Framing} (h : framing.unfinished = none)
    (frames : List Frame) :
    (framing.advanceAll frames).unfinished = Packet.ofFrames frames := by
  cases frames with
  | nil => exact h
  | cons frame frames =>
    have hnext : (framing.advance frame).unfinished = some ⟨frame.sequence, frame.chunk⟩ := by
      simp only [advance, extend, h]
    rw [advanceAll_cons, unfinished_advanceAll_of_some hnext]
    simp [Packet.ofFrames]

/-- **Looking for a packet goes over a run of full frames.** -/
theorem decode_encodeAll_append {framing : Framing} {frames : List Frame}
    (h : Frame.IsRun framing.sequence frames) (octets : Bytes) :
    framing.decode (Frame.encodeAll frames ++ octets) =
      (framing.advanceAll frames).decode octets := by
  induction frames generalizing framing with
  | nil => rfl
  | cons frame frames ih =>
    obtain ⟨hsequence, hfull, hrun⟩ := h
    have hread := Frame.read?_encode_append (Nat.le_of_eq hfull) (Frame.encodeAll frames ++ octets)
    have hcontinued := (Frame.isContinued_iff_of_read? hread).mpr hfull
    rw [Frame.encodeAll_cons, List.append_assoc, decode_of_continued hread hsequence hcontinued]
    exact ih hrun

/-- **All octets are a run of full frames and something that stops it**: no frame, a frame with
another number, or the last frame of a packet. -/
theorem exists_isRun_append (framing : Framing) (octets : Bytes) :
    ∃ frames left, octets = Frame.encodeAll frames ++ left ∧
      Frame.IsRun framing.sequence frames ∧
      ∀ frame rest, Frame.read? left = some (frame, rest) →
        frame.sequence = (framing.advanceAll frames).sequence → frame.isContinued = false := by
  induction hn : octets.length using Nat.strongRecOn generalizing framing octets with
  | ind n ih =>
    subst hn
    by_cases hgoes : ∃ frame rest, Frame.read? octets = some (frame, rest) ∧
        frame.sequence = framing.sequence ∧ frame.isContinued = true
    · obtain ⟨frame, rest, hread, hsequence, hcontinued⟩ := hgoes
      obtain ⟨hoctets, -⟩ := Frame.eq_encode_append_of_read? hread
      obtain ⟨frames, left, hrest, hrun, hstop⟩ :=
        ih rest.length (Frame.length_lt_of_read? hread) (framing.advance frame) rest rfl
      refine ⟨frame :: frames, left, ?_, ⟨hsequence, ?_, hrun⟩, hstop⟩
      · rw [hoctets, hrest, Frame.encodeAll_cons, List.append_assoc]
      · exact (Frame.isContinued_iff_of_read? hread).mp hcontinued
    · refine ⟨[], octets, rfl, trivial, fun frame rest hread hsequence => ?_⟩
      rw [← Bool.not_eq_true]
      intro hcontinued
      exact hgoes ⟨frame, rest, hread, hsequence, hcontinued⟩

/-- **Nothing is found** behind a run of full frames where no frame is complete. -/
theorem exists_isRun_of_none {framing next : Framing} {octets left : Bytes}
    (h : framing.decode octets = ⟨.ok none, next, left⟩) :
    ∃ frames, octets = Frame.encodeAll frames ++ left ∧ Frame.IsRun framing.sequence frames ∧
      next = framing.advanceAll frames ∧ Frame.read? left = none := by
  obtain ⟨frames, stop, rfl, hrun, hstop⟩ := exists_isRun_append framing octets
  rw [decode_encodeAll_append hrun] at h
  cases hread : Frame.read? stop with
  | none =>
    rw [decode_of_none hread] at h
    cases h
    exact ⟨frames, rfl, hrun, rfl, hread⟩
  | some found =>
    obtain ⟨frame, rest⟩ := found
    by_cases hsequence : frame.sequence = (framing.advanceAll frames).sequence
    · rw [decode_of_last hread hsequence (hstop frame rest hread hsequence)] at h
      cases h
    · rw [decode_of_mismatch hread hsequence] at h
      cases h

/-- **Looking for a packet fails** behind a run of full frames, at a complete frame with another
number. -/
theorem exists_isRun_of_error {framing next : Framing} {octets left : Bytes} {error : Error}
    (h : framing.decode octets = ⟨.error error, next, left⟩) :
    ∃ frames frame rest, octets = Frame.encodeAll frames ++ left ∧
      Frame.IsRun framing.sequence frames ∧ next = framing.advanceAll frames ∧
      Frame.read? left = some (frame, rest) ∧ frame.sequence ≠ next.sequence ∧
      error = .framing (.sequenceMismatch next.sequence frame.sequence) := by
  obtain ⟨frames, stop, rfl, hrun, hstop⟩ := exists_isRun_append framing octets
  rw [decode_encodeAll_append hrun] at h
  cases hread : Frame.read? stop with
  | none =>
    rw [decode_of_none hread] at h
    cases h
  | some found =>
    obtain ⟨frame, rest⟩ := found
    by_cases hsequence : frame.sequence = (framing.advanceAll frames).sequence
    · rw [decode_of_last hread hsequence (hstop frame rest hread hsequence)] at h
      cases h
    · rw [decode_of_mismatch hread hsequence] at h
      cases h
      exact ⟨frames, frame, rest, rfl, hrun, rfl, hread, hsequence, rfl⟩

/-- **Behind a wrong number nothing changes the outcome**: neither further octets nor looking
again. -/
theorem decode_append_of_error {framing next : Framing} {octets left : Bytes} {error : Error}
    (h : framing.decode octets = ⟨.error error, next, left⟩) (more : Bytes) :
    framing.decode (octets ++ more) = ⟨.error error, next, left ++ more⟩ ∧
      next.decode (left ++ more) = ⟨.error error, next, left ++ more⟩ := by
  obtain ⟨frames, frame, rest, rfl, hrun, rfl, hread, hsequence, rfl⟩ := exists_isRun_of_error h
  have hagain := decode_of_mismatch (read?_append hread more) hsequence
  constructor
  · rw [List.append_assoc, decode_encodeAll_append hrun, hagain]
  · exact hagain

/-- **A packet that is found is found in front of further octets.** -/
theorem decode_append_of_packet {framing next : Framing} {octets left : Bytes} {packet : Packet}
    (h : framing.decode octets = ⟨.ok (some packet), next, left⟩) (more : Bytes) :
    framing.decode (octets ++ more) = ⟨.ok (some packet), next, left ++ more⟩ := by
  obtain ⟨tail, rfl, rfl, rfl⟩ := exists_encode_of_decode h
  rw [List.append_assoc]
  exact decode_encode_append framing tail (left ++ more)

end Framing

end MySqlClient
