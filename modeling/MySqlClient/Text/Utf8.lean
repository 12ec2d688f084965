import MySqlClient.Bytes

/-!
# UTF-8

Octets that come from a peer need not be text.  Three readings are used:

* `Utf8.decode?`: the text, if the octets are well-formed UTF-8.
* `Utf8.decodeLossy`: a text for every octet string.  Each maximal part that starts a character but
  does not finish one, and each octet that starts none, becomes one U+FFFD.
* `Utf8.fault?`: where well-formedness ends, for error messages.

A character is read by `Utf8.first?`, which looks at no more than four octets.
-/

namespace MySqlClient.Utf8

/-- The character that starts the octets, if they start with a well-formed one. -/
def first? (bytes : Bytes) : Option Char :=
  (bytes.take 4).toByteArray.utf8DecodeChar? 0

theorem first?_encode_append (c : Char) (rest : Bytes) :
    first? (String.utf8EncodeChar c ++ rest) = some c := by
  have hlen : (String.utf8EncodeChar c).length ≤ 4 := by
    rw [String.length_utf8EncodeChar]
    exact Char.utf8Size_le_four c
  rw [first?, List.take_append, List.take_of_length_le hlen, List.toByteArray_append]
  exact ByteArray.utf8DecodeChar?_utf8EncodeChar_append

/-- A range of octets, both ends included. -/
structure OctetRange where
  low : UInt8
  high : UInt8
  deriving DecidableEq

/-- Whether the octets start with one in the range. -/
def OctetRange.startsWith (range : OctetRange) : Bytes → Bool
  | [] => false
  | b :: _ => range.low ≤ b && b ≤ range.high

/-- The octets that may continue a character. -/
def continuation : OctetRange := ⟨0x80, 0xBF⟩

/-- What must follow the first octet of a character of two or more octets: the range of its second
octet, and how many octets come after that. -/
def afterLead (lead : UInt8) : Option (OctetRange × Nat) :=
  if 0xC2 ≤ lead && lead ≤ 0xDF then some (continuation, 0)
  else if lead == 0xE0 then some (⟨0xA0, 0xBF⟩, 1)
  else if lead == 0xED then some (⟨0x80, 0x9F⟩, 1)
  else if 0xE1 ≤ lead && lead ≤ 0xEF then some (continuation, 1)
  else if lead == 0xF0 then some (⟨0x90, 0xBF⟩, 2)
  else if 0xF1 ≤ lead && lead ≤ 0xF3 then some (continuation, 2)
  else if lead == 0xF4 then some (⟨0x80, 0x8F⟩, 2)
  else none

/-- What stands where no well-formed character starts: how many octets belong to the broken
character, and whether it is broken only because the octets end. -/
structure Broken where
  length : Nat
  endsEarly : Bool
  deriving DecidableEq

/-- Follow `missing` further continuation octets after `seen` good ones. -/
def brokenTail : Nat → Nat → Bytes → Broken
  | _, seen, [] => ⟨seen, true⟩
  | 0, seen, _ :: _ => ⟨seen, false⟩
  | missing + 1, seen, b :: rest =>
    if continuation.startsWith (b :: rest) then brokenTail missing (seen + 1) rest
    else ⟨seen, false⟩

/-- The broken character at the front of octets that start with no well-formed one. -/
def broken : Bytes → Broken
  | [] => ⟨0, true⟩
  | lead :: rest =>
    match afterLead lead with
    | none => ⟨1, false⟩
    | some (second, more) =>
      match rest with
      | [] => ⟨1, true⟩
      | b :: rest => if second.startsWith (b :: rest) then brokenTail more 2 rest else ⟨1, false⟩

/-- The size of the first character, or of what stands in its place; never zero. -/
def step (bytes : Bytes) : Char × Nat :=
  match first? bytes with
  | some c => (c, c.utf8Size)
  | none => ('\uFFFD', max 1 (broken bytes).length)

theorem one_le_step (bytes : Bytes) : 1 ≤ (step bytes).2 := by
  unfold step
  split
  · exact Char.utf8Size_pos _
  · exact Nat.le_max_left _ _

/-- The characters of `decodeLossy`. -/
def lossyChars : Bytes → List Char
  | [] => []
  | b :: rest =>
    (step (b :: rest)).1 :: lossyChars (rest.drop ((step (b :: rest)).2 - 1))
termination_by bytes => bytes.length
decreasing_by simp only [List.length_drop, List.length_cons]; omega

@[simp] theorem lossyChars_nil : lossyChars [] = [] := by simp only [lossyChars]

theorem lossyChars_cons (b : UInt8) (rest : Bytes) :
    lossyChars (b :: rest) =
      (step (b :: rest)).1 :: lossyChars ((b :: rest).drop (step (b :: rest)).2) := by
  obtain ⟨n, hn⟩ : ∃ n, (step (b :: rest)).2 = n + 1 :=
    ⟨_, (Nat.sub_add_cancel (one_le_step (b :: rest))).symm⟩
  rw [lossyChars, hn, List.drop_succ_cons, Nat.add_sub_cancel]

/-- The text of any octet string: whatever is not well-formed reads as U+FFFD. -/
def decodeLossy (bytes : Bytes) : String :=
  String.ofList (lossyChars bytes)

theorem decodeLossy_nil : decodeLossy [] = "" := by
  rw [decodeLossy, lossyChars_nil]

/-- The text of well-formed octets. -/
def decode? (bytes : Bytes) : Option String :=
  String.fromUTF8? bytes.toByteArray

/-- Where octets stop being well-formed: the octets before it, and the broken character there. -/
structure Fault where
  validUpTo : Nat
  broken : Broken
  deriving DecidableEq

/-- The wording of a fault. -/
def Fault.message (fault : Fault) : String :=
  if fault.broken.endsEarly then
    s!"incomplete utf-8 byte sequence from index {fault.validUpTo}"
  else
    s!"invalid utf-8 sequence of {fault.broken.length} bytes from index {fault.validUpTo}"

/-- The first fault at or after position `at` of the whole octet string. -/
def faultFrom (position : Nat) : Bytes → Option Fault
  | [] => none
  | b :: rest =>
    match first? (b :: rest) with
    | none => some ⟨position, broken (b :: rest)⟩
    | some c => faultFrom (position + c.utf8Size) (rest.drop (c.utf8Size - 1))
termination_by bytes => bytes.length
decreasing_by simp only [List.length_drop, List.length_cons]; omega

/-- The first fault of an octet string; well-formed octets have none. -/
def fault? (bytes : Bytes) : Option Fault :=
  faultFrom 0 bytes

/-! ## Well-formed text reads back -/

/-- Reading back the UTF-8 form of some characters gives the characters. -/
theorem lossyChars_encode (chars : List Char) :
    lossyChars (chars.flatMap String.utf8EncodeChar) = chars := by
  induction chars with
  | nil => simp
  | cons c chars ih =>
    have hpos := Char.utf8Size_pos c
    have hlen := String.length_utf8EncodeChar c
    rcases henc : String.utf8EncodeChar c with _ | ⟨b, tail⟩
    · rw [henc, List.length_nil] at hlen
      omega
    · have hfirst := first?_encode_append c (chars.flatMap String.utf8EncodeChar)
      rw [List.flatMap_cons]
      rw [henc, List.cons_append] at hfirst ⊢
      rw [lossyChars_cons, step, hfirst]
      have hdrop : (b :: (tail ++ chars.flatMap String.utf8EncodeChar)).drop c.utf8Size =
          chars.flatMap String.utf8EncodeChar := by
        rw [← List.cons_append, ← hlen, henc, List.drop_left]
      simp only [hdrop, ih]

/-- A text read back from its UTF-8 form is the text. -/
theorem decodeLossy_ofString (text : String) : decodeLossy (Bytes.ofString text) = text := by
  rw [decodeLossy, Bytes.ofString, lossyChars_encode, String.ofList_toList]

end MySqlClient.Utf8
