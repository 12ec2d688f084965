import MySqlClient.Proofs.Framing.Stream

/-!
# Every octet of a stream is accounted for

Whatever octets come, well formed or not, a reader that takes packets until none is found has split
them into three parts: the packets, exactly as they would have been written; full frames, which are
the packet that has begun; and a rest, at which it cannot go on.

* `Frame.IsFront`: some octets begin with a frame.
* `Drained.Accounts`: the three parts, and what they have to do with the framing.
* `Framing.exists_accounts_decodeAll`: **all octets have these parts.**
* `Framing.read?_of_failure_none`, `Framing.exists_read?_of_failure`: why taking packets stops.
* `Framing.decodeAll_exact`: **taking packets is exact**, also where it ends with an error.
-/

namespace MySqlClient

namespace Frame

/-- The octets begin with the whole frame. -/
def IsFront (frame : Frame) (octets : Bytes) : Prop :=
  frame.chunk.length ≤ Packet.maxFramePayload ∧ frame.encode <+: octets

/-- **What is read at the front is what is there.** -/
theorem isFront_iff {frame : Frame} {octets : Bytes} :
    frame.IsFront octets ↔ ∃ rest, read? octets = some (frame, rest) := by
  constructor
  · rintro ⟨hchunk, rest, rfl⟩
    exact ⟨rest, read?_encode_append hchunk rest⟩
  · rintro ⟨rest, hread⟩
    obtain ⟨hoctets, hchunk⟩ := eq_encode_append_of_read? hread
    exact ⟨hchunk, rest, hoctets.symm⟩

/-- There is at most one frame at the front. -/
theorem IsFront.eq {frame other : Frame} {octets : Bytes} (h : frame.IsFront octets)
    (hother : other.IsFront octets) : frame = other := by
  obtain ⟨rest, hread⟩ := isFront_iff.mp h
  obtain ⟨left, hleft⟩ := isFront_iff.mp hother
  rw [hread] at hleft
  cases hleft
  rfl

end Frame

/-- The octets are the packets as a writer that starts with `sequence` writes them, then `frames`,
which go on with its numbers and are the packet that has begun, then what is left. -/
structure Drained.Accounts (drained : Drained) (sequence : UInt8) (octets : Bytes)
    (frames : List Frame) : Prop where
  octets_eq : octets =
    (Framing.encodeEach { sequence } (drained.packets.map Packet.payload)).1 ++
      (Frame.encodeAll frames ++ drained.rest)
  packets_eq : drained.packets =
    Framing.numbered { sequence } (drained.packets.map Packet.payload)
  isRun : Frame.IsRun
    (Framing.encodeEach { sequence } (drained.packets.map Packet.payload)).2.sequence frames
  sequence_eq : drained.framing.sequence =
    (Framing.encodeEach { sequence } (drained.packets.map Packet.payload)).2.sequence +
      UInt8.ofNat frames.length
  unfinished_eq : drained.framing.unfinished = Packet.ofFrames frames

namespace Drained

/-- Where no packet is found all frames belong to the packet that has begun. -/
theorem accounts_of_isRun {sequence : UInt8} {frames : List Frame}
    (h : Frame.IsRun sequence frames) (rest : Bytes) (failure : Option Error) :
    Accounts { failure, framing := Framing.advanceAll { sequence } frames, rest } sequence
      (Frame.encodeAll frames ++ rest) frames where
  octets_eq := rfl
  packets_eq := rfl
  isRun := h
  sequence_eq := Framing.sequence_advanceAll { sequence } frames
  unfinished_eq := Framing.unfinished_advanceAll rfl frames

/-- A packet in front is one packet more. -/
theorem Accounts.behind {drained : Drained} {sequence : UInt8} {payload octets : Bytes}
    {frames : List Frame}
    (h : drained.Accounts (Framing.encode { sequence } payload).2.sequence octets frames) :
    (drained.behind [⟨sequence, payload⟩]).Accounts sequence
      ((Framing.encode { sequence } payload).1 ++ octets) frames where
  octets_eq := by
    show _ = (Framing.encodeEach _ (payload :: drained.packets.map Packet.payload)).1 ++ _
    rw [Framing.encodeEach_cons_fst, List.append_assoc]
    exact congrArg _ h.octets_eq
  packets_eq := congrArg (Packet.mk sequence payload :: ·) h.packets_eq
  isRun := h.isRun
  sequence_eq := h.sequence_eq
  unfinished_eq := h.unfinished_eq

end Drained

namespace Framing

/-- **All octets have these parts.** -/
theorem exists_accounts_decodeAll (sequence : UInt8) (octets : Bytes) :
    ∃ frames, (decodeAll { sequence } octets).Accounts sequence octets frames := by
  -- packet by packet
  induction hn : octets.length using Nat.strongRecOn generalizing sequence octets with
  | ind n ih =>
    subst hn
    rcases hdecode : decode { sequence } octets with ⟨error | ⟨_ | packet⟩, next, rest⟩
    · obtain ⟨frames, -, -, hoctets, hrun, rfl, -⟩ := exists_isRun_of_error hdecode
      rw [decodeAll_of_error hdecode, hoctets]
      exact ⟨frames, Drained.accounts_of_isRun hrun rest (some error)⟩
    · obtain ⟨frames, hoctets, hrun, rfl, -⟩ := exists_isRun_of_none hdecode
      rw [decodeAll_of_none hdecode, hoctets]
      exact ⟨frames, Drained.accounts_of_isRun hrun rest none⟩
    · obtain ⟨payload, hoctets, rfl, rfl⟩ := exists_encode_of_decode hdecode
      rw [decodeAll_of_packet hdecode]
      obtain ⟨frames, h⟩ := ih rest.length (length_lt_of_decode hdecode)
        (encode { sequence } payload).2.sequence rest rfl
      rw [hoctets]
      exact ⟨frames, h.behind⟩

/-- Without an error taking packets stops where no frame is complete. -/
theorem read?_of_failure_none {framing : Framing} {octets : Bytes}
    (h : (framing.decodeAll octets).failure = none) :
    Frame.read? (framing.decodeAll octets).rest = none := by
  have hagain := decode_of_decodeAll framing octets
  rw [h] at hagain
  obtain ⟨-, -, -, -, hnone⟩ := exists_isRun_of_none hagain
  exact hnone

/-- **An error is a complete frame with another number**, which is left. -/
theorem exists_read?_of_failure {framing : Framing} {octets : Bytes} {error : Error}
    (h : (framing.decodeAll octets).failure = some error) :
    ∃ frame behind, Frame.read? (framing.decodeAll octets).rest = some (frame, behind) ∧
      frame.sequence ≠ (framing.decodeAll octets).framing.sequence ∧
      error = .framing (.sequenceMismatch (framing.decodeAll octets).framing.sequence
        frame.sequence) := by
  have hagain := decode_of_decodeAll framing octets
  rw [h] at hagain
  obtain ⟨-, frame, behind, -, -, -, hfound⟩ := exists_isRun_of_error hagain
  exact ⟨frame, behind, hfound⟩

/-- What is left does not begin with a frame that has the number that comes next. -/
theorem sequence_ne_of_isFront {framing : Framing} {octets : Bytes} {frame : Frame}
    (h : frame.IsFront (framing.decodeAll octets).rest) :
    frame.sequence ≠ (framing.decodeAll octets).framing.sequence := by
  obtain ⟨rest, hread⟩ := Frame.isFront_iff.mp h
  cases hfailure : (framing.decodeAll octets).failure with
  | none =>
    rw [read?_of_failure_none hfailure] at hread
    cases hread
  | some error =>
    obtain ⟨other, behind, hother, hne, -⟩ := exists_read?_of_failure hfailure
    rw [hread] at hother
    cases hother
    exact hne

/-- **Taking packets ends with an error exactly at a complete frame with another number.** -/
theorem failure_eq_some_iff {framing : Framing} {octets : Bytes} {error : Error} :
    (framing.decodeAll octets).failure = some error ↔
      ∃ frame : Frame, frame.IsFront (framing.decodeAll octets).rest ∧
        frame.sequence ≠ (framing.decodeAll octets).framing.sequence ∧
        error = .framing (.sequenceMismatch (framing.decodeAll octets).framing.sequence
          frame.sequence) := by
  constructor
  · intro hfailure
    obtain ⟨frame, behind, hread, hne, herror⟩ := exists_read?_of_failure hfailure
    exact ⟨frame, Frame.isFront_iff.mpr ⟨behind, hread⟩, hne, herror⟩
  · rintro ⟨frame, hfront, -, rfl⟩
    cases hfailure : (framing.decodeAll octets).failure with
    | none =>
      obtain ⟨rest, hread⟩ := Frame.isFront_iff.mp hfront
      rw [read?_of_failure_none hfailure] at hread
      cases hread
    | some other =>
      obtain ⟨found, behind, hfound, -, rfl⟩ := exists_read?_of_failure hfailure
      rw [hfront.eq (Frame.isFront_iff.mpr ⟨behind, hfound⟩)]

/-- **Taking packets is exact.**  Octets of which a reader, starting with a number and without a
packet that has begun, has taken packets until none was found or an error came, are the packets as
they are written from that number on, then full frames that go on with their numbers and hold the
packet that has begun, and then what is left; there are no such frames if and only if no packet has
begun.  What is left does not begin with a complete frame that has the number that comes next.  It
begins with a complete frame that has another number exactly when there was an error, which names
the two numbers; and then, as without an error, looking again comes to the same and changes
nothing. -/
theorem decodeAll_exact (sequence : UInt8) (octets : Bytes) :
    let drained := decodeAll { sequence } octets
    (∃ frames, drained.Accounts sequence octets frames ∧
      (drained.framing.unfinished = none ↔ frames = [])) ∧
    (∀ frame : Frame, frame.IsFront drained.rest → frame.sequence ≠ drained.framing.sequence) ∧
    (∀ error, drained.failure = some error ↔
      ∃ frame : Frame, frame.IsFront drained.rest ∧
        frame.sequence ≠ drained.framing.sequence ∧
        error = .framing (.sequenceMismatch drained.framing.sequence frame.sequence)) ∧
    drained.framing.decode drained.rest =
      ⟨match drained.failure with
        | none => .ok none
        | some error => .error error,
        drained.framing, drained.rest⟩ := by
  intro drained
  obtain ⟨frames, haccounts⟩ := exists_accounts_decodeAll sequence octets
  refine ⟨⟨frames, haccounts, ?_⟩, fun frame => sequence_ne_of_isFront, fun error =>
    failure_eq_some_iff, decode_of_decodeAll { sequence } octets⟩
  rw [haccounts.unfinished_eq]
  exact Packet.ofFrames_eq_none_iff

end Framing

end MySqlClient
