import MySqlClient.Error
import MySqlClient.Packet

/-!
# Frames

On the wire a packet is a run of frames: three octets of length, one of sequence number, and the
chunk.  A frame with the largest possible chunk is continued by the next one, so the last frame of
a packet is the first that is shorter.  The sequence numbers of an exchange count the frames of both
directions modulo 256.

* `Frame.read?` splits a complete frame off the front of some octets, `Frame.encode` writes one.
* `Framing` is what one end remembers between calls: the number of the next frame, and the part of
  a packet whose last frame has not come yet.
* `Framing.decode` takes the next packet off the front of some octets.  Octets of an incomplete
  frame are left, and so is a frame with the wrong number.
* `Framing.encode` writes a packet.
-/

namespace MySqlClient

/-- One frame. -/
structure Frame where
  sequence : UInt8
  chunk : Bytes
  deriving DecidableEq

namespace Frame

/-- The octets of a frame. -/
def encode (frame : Frame) : Bytes :=
  Bytes.ofNat 3 frame.chunk.length ++ frame.sequence :: frame.chunk

/-- The octets of some frames. -/
def encodeAll : List Frame → Bytes
  | [] => []
  | frame :: frames => frame.encode ++ encodeAll frames

/-- The number of octets of the frame that begins some octets, once its length is there. -/
def announcedSize? : Bytes → Option Nat
  | a :: b :: c :: _sequence :: _ => some (4 + Bytes.toNat [a, b, c])
  | _ => none

/-- The frame at the front of some octets and what follows it, once the frame is complete. -/
def read? : Bytes → Option (Frame × Bytes)
  | a :: b :: c :: sequence :: body =>
    let length := Bytes.toNat [a, b, c]
    if Bytes.hasAtLeast length body then some (⟨sequence, body.take length⟩, body.drop length)
    else none
  | _ => none

/-- What follows a frame is shorter than what started with it. -/
theorem length_lt_of_read? {octets rest : Bytes} {frame : Frame}
    (h : read? octets = some (frame, rest)) : rest.length < octets.length := by
  unfold read? at h
  split at h
  · dsimp only at h
    split at h
    · cases h
      simp only [List.length_drop, List.length_cons]
      omega
    · cases h
  · cases h

/-- A frame with the largest possible chunk announces another one. -/
def isContinued (frame : Frame) : Bool :=
  frame.chunk.hasAtLeast Packet.maxFramePayload

/-- The frames of a payload, numbered from `sequence`. -/
def ofPayload (sequence : UInt8) (payload : Bytes) : List Frame :=
  if payload.hasAtLeast Packet.maxFramePayload then
    ⟨sequence, payload.take Packet.maxFramePayload⟩ ::
      ofPayload (sequence + 1) (payload.drop Packet.maxFramePayload)
  else [⟨sequence, payload⟩]
termination_by payload.length
decreasing_by
  rename_i h
  simp only [Bytes.hasAtLeast_eq, decide_eq_true_eq, Packet.maxFramePayload] at h
  simp only [List.length_drop, Packet.maxFramePayload]
  omega

/-- All complete frames at the front of some octets, and what is left. -/
def readAll (octets : Bytes) : List Frame × Bytes :=
  match _h : read? octets with
  | none => ([], octets)
  | some (frame, rest) =>
    let (frames, left) := readAll rest
    (frame :: frames, left)
termination_by octets.length
decreasing_by exact length_lt_of_read? (by assumption)

end Frame

/-- What one end of an exchange remembers about its frames. -/
structure Framing where
  /-- The sequence number of the next frame, in either direction. -/
  sequence : UInt8 := 0
  /-- A packet whose last frame has not come yet. -/
  unfinished : Option Packet := none
  deriving DecidableEq

namespace Framing

/-- Start a new exchange.  An unfinished packet stays. -/
def restart (framing : Framing) : Framing :=
  { framing with sequence := 0 }

/-- The packet so far, with one more chunk. -/
def extend (framing : Framing) (frame : Frame) : Packet :=
  match framing.unfinished with
  | some packet => { packet with payload := packet.payload ++ frame.chunk }
  | none => ⟨frame.sequence, frame.chunk⟩

/-- What comes of looking for a packet: the packet, nothing yet or an error; the framing after it;
and the octets that were not taken. -/
structure Decoded where
  result : Outcome (Option Packet)
  framing : Framing
  rest : Bytes

/-- Take the next packet off the front of some octets. -/
def decode (framing : Framing) (octets : Bytes) : Decoded :=
  match h : Frame.read? octets with
  | none => ⟨.ok none, framing, octets⟩
  | some (frame, rest) =>
    if frame.sequence ≠ framing.sequence then
      ⟨.error (.framing (.sequenceMismatch framing.sequence frame.sequence)), framing, octets⟩
    else
      let packet := framing.extend frame
      if frame.isContinued then decode ⟨framing.sequence + 1, some packet⟩ rest
      else ⟨.ok (some packet), ⟨framing.sequence + 1, none⟩, rest⟩
termination_by octets.length
decreasing_by exact Frame.length_lt_of_read? h

/-- Write a packet: its octets, and the framing after it. -/
def encode (framing : Framing) (payload : Bytes) : Bytes × Framing :=
  let frames := Frame.ofPayload framing.sequence payload
  (Frame.encodeAll frames,
    { framing with sequence := framing.sequence + UInt8.ofNat frames.length })

/-- Write several packets. -/
def encodeEach (framing : Framing) : List Bytes → Bytes × Framing
  | [] => ([], framing)
  | packet :: packets =>
    let (octets, next) := framing.encode packet
    let (more, last) := next.encodeEach packets
    (octets ++ more, last)

/-! ## Laws -/

/-- A packet takes octets away. -/
theorem length_lt_of_decode {framing framing' : Framing} {octets rest : Bytes} {packet : Packet}
    (h : framing.decode octets = ⟨.ok (some packet), framing', rest⟩) :
    rest.length < octets.length := by
  induction hn : octets.length using Nat.strongRecOn generalizing framing octets with
  | ind n ih =>
    subst hn
    rw [decode] at h
    split at h
    · cases h
    · next frame tail hread =>
      have hlt := Frame.length_lt_of_read? hread
      split at h
      · cases h
      · split at h
        · exact Nat.lt_trans (ih tail.length hlt h rfl) hlt
        · cases h
          exact hlt

end Framing

end MySqlClient
