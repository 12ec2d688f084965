import MySqlClient.Request
import MySqlClient.Response
import MySqlClient.Proofs.NullBitmap.Bits
import MySqlClient.Proofs.NullBitmap.Marks
import MySqlClient.Proofs.Response.Layout
import MySqlClient.Proofs.Wire.RoundTrip

/-!
# Execute requests as a server reads them

A server that has prepared a statement knows how many parameters it has, and nothing else of an
execute request.  It reads which of them are NULL, then their types, and cuts each value by its
type alone: the format of a value is not on the wire.

* `Execution`, `Argument`: what the server gets.
* `Execution.reader`: how it reads a request.
* `Value.IsDelimited`: the octets of a value are what its type makes the server expect.
* `Execution.reads_encode`: **a request with such values is read back**, with whatever may follow.
* `Value.IsConverted`: the values that are made for binding; `Execution.reader_encode`: **a request
  with these is used up and read back.**
-/

namespace MySqlClient

open Reader

/-- A parameter as the server gets it. -/
structure Argument where
  type : ColumnType
  unsigned : Bool
  /-- The octets; `none` is SQL NULL. -/
  content : Option Bytes
  deriving DecidableEq

/-- The argument that a value is meant to be.  NULL has a type of its own. -/
def Argument.ofValue (v : Value) : Argument :=
  match v.data with
  | some content => ⟨v.type, v.unsigned, some content⟩
  | none => ⟨.null, v.unsigned, none⟩

/-- An execute request as the server gets it. -/
structure Execution where
  statementId : UInt32
  cursor : UInt8
  iterations : UInt32
  arguments : List Argument
  deriving DecidableEq

namespace Execution

/-! ## Reading -/

/-- Read a type tag and the sign flag. -/
def announcementReader : Reader (ColumnType × Bool) := do
  let type ← ColumnType.reader
  let flags ← Reader.u8
  return (type, flags &&& Request.unsignedFlag != 0)

/-- Read the types of `count` parameters. -/
def announcements : Nat → Reader (List (ColumnType × Bool))
  | 0 => return []
  | count + 1 => do
    let announced ← announcementReader
    return announced :: (← announcements count)

/-- Read the octets of an argument that is not NULL. -/
def contentReader (type : ColumnType) : Reader Bytes := do
  match type.fixedLength with
  | some width => Reader.take width
  | none =>
    match ← Reader.lenEncBytes with
    | some octets => return octets
    | none => Reader.fail .nullLength

/-- Read an argument, unless it is NULL. -/
def argumentReader (isNull : Bool) (type : ColumnType) (unsigned : Bool) : Reader Argument :=
  if isNull then return ⟨type, unsigned, none⟩
  else do return ⟨type, unsigned, some (← contentReader type)⟩

/-- Read the arguments from position `position` on.  The binary digits of `nulls` tell which are
NULL. -/
def argumentsFrom (nulls position : Nat) : List (ColumnType × Bool) → Reader (List Argument)
  | [] => return []
  | (type, unsigned) :: announced => do
    let argument ← argumentReader (nulls.testBit position) type unsigned
    return argument :: (← argumentsFrom nulls (position + 1) announced)

/-- Read some arguments, if there are any: the bitmap, the mark of new types, the types, and the
values. -/
def argumentsReader : Nat → Reader (List Argument)
  | 0 => return []
  | count + 1 => do
    let nulls ← Reader.number ((count + 1 + 7) / 8)
    Reader.header 1 (.other "the types are missing")
    let announced ← announcements (count + 1)
    argumentsFrom nulls 0 announced

/-- Read a request for a statement with `count` parameters. -/
def reader (count : Nat) : Reader Execution := do
  Reader.header 0x17 (.other "not an execute request")
  let statementId ← Reader.u32
  let cursor ← Reader.u8
  let iterations ← Reader.u32
  return { statementId, cursor, iterations, arguments := ← argumentsReader count }

end Execution

/-- The octets of a value are as wide as its type, or can stand behind their length. -/
def Value.IsDelimited (v : Value) : Prop :=
  ∀ content, v.data = some content →
    match v.type.fixedLength with
    | some width => v.format = .binary ∧ content.length = width
    | none => content.length < UInt64.size

theorem Value.encodeParameter_of_none {v : Value} (h : v.data = none) : v.encodeParameter = [] := by
  rw [encodeParameter, h]

namespace Execution

variable {parameters : List Value}

theorem reads_announcement (v : Value) :
    Reads announcementReader (Request.announcement v) (v.parameterType, v.unsigned) := by
  have hflag : ((if v.unsigned then Request.unsignedFlag else 0) &&& Request.unsignedFlag != 0) =
      v.unsigned := by
    cases v.unsigned <;> rfl
  have hflags := (reads_u8 (if v.unsigned then Request.unsignedFlag else 0)).map
    fun flags => (v.parameterType, flags &&& Request.unsignedFlag != 0)
  rw [hflag] at hflags
  exact (Sent.Column.reads_tag v.parameterType).bind _ hflags

/-- **The types are read back.** -/
theorem reads_announcements (parameters : List Value) :
    Reads (announcements parameters.length) (parameters.flatMap Request.announcement)
      (parameters.map fun v => (v.parameterType, v.unsigned)) := by
  induction parameters with
  | nil => exact Reads.pure []
  | cons v parameters ih => exact (reads_announcement v).bind _ (ih.map _)

theorem reads_content {v : Value} (h : v.IsDelimited) {content : Bytes}
    (hdata : v.data = some content) : Reads (contentReader v.type) v.encodeParameter content := by
  have hcontent := h content hdata
  unfold contentReader Value.encodeParameter
  rw [hdata]
  cases hwidth : v.type.fixedLength with
  | some width =>
    simp only [hwidth] at hcontent
    obtain ⟨hformat, rfl⟩ := hcontent
    simp only [hformat, Option.isSome_some, and_self, if_true]
    exact reads_take content
  | none =>
    simp only [hwidth] at hcontent
    simp only [Option.isSome_none, Bool.false_eq_true, and_false, if_false]
    exact reads_lenEncBytes_required _ hcontent

/-- **A value is read back**, unless it is NULL. -/
theorem reads_argument {v : Value} (h : v.IsDelimited) :
    Reads (argumentReader v.isNull v.parameterType v.unsigned) v.encodeParameter
      (Argument.ofValue v) := by
  unfold argumentReader Argument.ofValue Value.parameterType Value.isNull
  cases hdata : v.data with
  | none =>
    rw [Value.encodeParameter_of_none hdata]
    exact Reads.pure _
  | some content =>
    exact (reads_content h hdata).map fun content => (⟨v.type, v.unsigned, some content⟩ : Argument)

/-- From a position on, the binary digits of a number tell which values are NULL. -/
def MarksNulls (nulls position : Nat) (parameters : List Value) : Prop :=
  ∀ i, nulls.testBit (position + i) = (parameters.map Value.isNull).getD i false

theorem MarksNulls.head {nulls position : Nat} {v : Value}
    (h : MarksNulls nulls position (v :: parameters)) : nulls.testBit position = v.isNull := by
  simpa using h 0

theorem MarksNulls.tail {nulls position : Nat} {v : Value}
    (h : MarksNulls nulls position (v :: parameters)) :
    MarksNulls nulls (position + 1) parameters := by
  intro i
  rw [Nat.add_assoc, Nat.add_comm 1]
  simpa using h (i + 1)

/-- **The values are read back**, if the bitmap tells which of them are NULL. -/
theorem reads_argumentsFrom {nulls position : Nat} (h : ∀ v ∈ parameters, v.IsDelimited)
    (hnulls : MarksNulls nulls position parameters) :
    Reads (argumentsFrom nulls position (parameters.map fun v => (v.parameterType, v.unsigned)))
      (parameters.flatMap Value.encodeParameter) (parameters.map Argument.ofValue) := by
  induction parameters generalizing position with
  | nil => exact Reads.pure []
  | cons v parameters ih =>
    rw [List.forall_mem_cons] at h
    have hargument := reads_argument h.1
    rw [← hnulls.head] at hargument
    exact hargument.bind _ ((ih h.2 hnulls.tail).map _)

/-- The bitmap of a request. -/
def nullOctets (parameters : List Value) : Bytes :=
  (NullBitmap.ofMarks NullBitmap.parameterOffset (parameters.map Value.isNull)).bytes

theorem marksNulls_nullOctets (parameters : List Value) :
    MarksNulls (nullOctets parameters).toNat 0 parameters := by
  intro i
  rw [Nat.zero_add, ← NullBitmap.isNull_ofMarks NullBitmap.parameterOffset,
    ← NullBitmap.mk_bytes_ofMarks, NullBitmap.isNull_eq_testBit]
  rfl

theorem reads_nullOctets (parameters : List Value) :
    Reads (Reader.number ((parameters.length + 7) / 8)) (nullOctets parameters)
      (nullOctets parameters).toNat := by
  have hlength : (nullOctets parameters).length = (parameters.length + 7) / 8 := by
    rw [nullOctets, NullBitmap.length_ofMarks, List.length_map]
    rfl
  exact (reads_take_of_length_eq hlength).map Bytes.toNat

/-- In front of the values, all that is read is what was written. -/
theorem argumentsReader_append (v : Value) (others : List Value) (rest : Bytes) :
    argumentsReader (others.length + 1) (Request.parameterBlock (v :: others) ++ rest) =
      argumentsFrom (nullOctets (v :: others)).toNat 0
        ((v :: others).map fun v => (v.parameterType, v.unsigned))
        ((v :: others).flatMap Value.encodeParameter ++ rest) := by
  have hblock : Request.parameterBlock (v :: others) ++ rest = nullOctets (v :: others) ++
      ([1] ++ ((v :: others).flatMap Request.announcement ++
        ((v :: others).flatMap Value.encodeParameter ++ rest))) := by
    simp only [Request.parameterBlock, nullOctets, List.isEmpty_cons, Bool.false_eq_true,
      if_false, List.append_assoc]
  have hnulls := reads_nullOctets (v :: others)
  rw [List.length_cons] at hnulls
  rw [hblock, argumentsReader, bind_of_ok (hnulls _), bind_of_ok (reads_header _ _ _)]
  exact bind_of_ok (reads_announcements (v :: others) _) _

/-- In front of the parameters, all that is read is what was written. -/
theorem reader_encode_append (statementId : UInt32) (count : Nat) (parameters : List Value)
    (rest : Bytes) :
    reader count (Request.encode (.execute statementId parameters) ++ rest) =
      (argumentsReader count >>= fun arguments =>
        Pure.pure (⟨statementId, 0, 1, arguments⟩ : Execution))
        (Request.parameterBlock parameters ++ rest) := by
  have hencode : Request.encode (.execute statementId parameters) ++ rest = [0x17] ++
      (Bytes.ofNat 4 statementId.toNat ++ ([0] ++ (Bytes.ofNat 4 (1 : UInt32).toNat ++
        (Request.parameterBlock parameters ++ rest)))) := by
    simp only [Request.encode, Request.code, Request.body, Request.statementField,
      List.append_assoc]
    rfl
  rw [hencode, reader, bind_of_ok (reads_header _ _ _), bind_of_ok (reads_u32 statementId _),
    bind_of_ok (reads_u8 0 _), bind_of_ok (reads_u32 1 _)]

/-- **Bitmap, types and values are read back.** -/
theorem reads_arguments (h : ∀ v ∈ parameters, v.IsDelimited) :
    Reads (argumentsReader parameters.length) (Request.parameterBlock parameters)
      (parameters.map Argument.ofValue) := by
  intro rest
  cases parameters with
  | nil => rfl
  | cons v others =>
    rw [List.length_cons, argumentsReader_append]
    exact reads_argumentsFrom h (marksNulls_nullOctets (v :: others)) rest

/-- **A request is read back**, with whatever may follow. -/
theorem reads_encode (statementId : UInt32) (h : ∀ v ∈ parameters, v.IsDelimited) :
    Reads (reader parameters.length) (Request.encode (.execute statementId parameters))
      ⟨statementId, 0, 1, parameters.map Argument.ofValue⟩ := by
  intro rest
  rw [reader_encode_append]
  exact (reads_arguments h).map _ rest

end Execution

/-! ## Values that are made for binding -/

/-- The values that are made for binding.  Texts and byte strings are as long as their length can
tell. -/
inductive Value.IsConverted : Value → Prop
  | int8 (n : Int8) : IsConverted (ofInt8 n)
  | uint8 (n : UInt8) : IsConverted (ofUInt8 n)
  | int16 (n : Int16) : IsConverted (ofInt16 n)
  | uint16 (n : UInt16) : IsConverted (ofUInt16 n)
  | int32 (n : Int32) : IsConverted (ofInt32 n)
  | uint32 (n : UInt32) : IsConverted (ofUInt32 n)
  | int64 (n : Int64) : IsConverted (ofInt64 n)
  | uint64 (n : UInt64) : IsConverted (ofUInt64 n)
  | binary32 (bits : UInt32) : IsConverted (ofBinary32 bits)
  | binary64 (x : Binary64) : IsConverted (ofBinary64 x)
  | bool (b : Bool) : IsConverted (ofBool b)
  | string (text : String) (h : (Bytes.ofString text).length < UInt64.size) :
      IsConverted (ofString text)
  | bytes (octets : Bytes) (h : octets.length < UInt64.size) : IsConverted (ofBytes octets)
  | temporal (t : Temporal) : IsConverted (ofTemporal t)
  | option {α : Type} {value : α → Value} (a? : Option α)
      (h : ∀ a, a? = some a → IsConverted (value a)) : IsConverted (ofOption value a?)

namespace Value

/-- A value in the binary format whose octets are as wide as its type. -/
theorem isDelimited_ofBinary {type : ColumnType} {unsigned : Bool} {octets : Bytes}
    (h : type.fixedLength = some octets.length) : (ofBinary type unsigned octets).IsDelimited := by
  rintro content ⟨⟩
  simp only [ofBinary, h, and_self]

/-- A value that stands behind its length. -/
theorem isDelimited_of_none {v : Value} (hwidth : v.type.fixedLength = none)
    (hlength : ∀ content, v.data = some content → content.length < UInt64.size) :
    v.IsDelimited := by
  intro content hdata
  simp only [hwidth]
  exact hlength content hdata

/-- Dates and times stand behind their length, which is at most twelve. -/
theorem isDelimited_ofTemporal (t : Temporal) : (ofTemporal t).IsDelimited := by
  refine isDelimited_of_none ?_ ?_
  · unfold ofTemporal
    dsimp only
    split <;> rfl
  · rintro content ⟨⟩
    have hlength : t.encodedLength ≤ 12 := by
      unfold Temporal.encodedLength
      split <;> decide
    rw [Temporal.length_encode]
    exact Nat.lt_of_le_of_lt hlength (by decide)

/-- **Values that are made for binding are what a server expects.** -/
theorem IsConverted.isDelimited {v : Value} (h : v.IsConverted) : v.IsDelimited := by
  induction h with
  | int8 | uint8 | int16 | uint16 | int32 | uint32 | int64 | uint64 | binary32 | binary64 =>
    exact isDelimited_ofBinary (by rw [Bytes.length_ofNat]; rfl)
  | bool => exact isDelimited_ofBinary rfl
  | string text h =>
    refine isDelimited_of_none rfl ?_
    rintro content ⟨⟩
    exact h
  | bytes octets h =>
    refine isDelimited_of_none rfl ?_
    rintro content ⟨⟩
    exact h
  | temporal t => exact isDelimited_ofTemporal t
  | option a? _ ih =>
    cases a? with
    | some a => exact ih a rfl
    | none => exact fun content hdata => nomatch hdata

end Value

namespace Execution

/-- **A request with values that are made for binding is used up and read back**: the statement,
which parameters are NULL, and of the others the type, the sign and the octets.  Without parameters
it consists of ten octets. -/
theorem reader_encode (statementId : UInt32) {parameters : List Value}
    (h : ∀ v ∈ parameters, v.IsConverted) :
    reader parameters.length (Request.encode (.execute statementId parameters)) =
        .ok ⟨statementId, 0, 1, parameters.map Argument.ofValue⟩ [] ∧
      (parameters = [] → Request.encode (.execute statementId parameters) =
        0x17 :: (Bytes.ofNat 4 statementId.toNat ++ [0, 1, 0, 0, 0])) := by
  constructor
  · have hread := reads_encode statementId fun v hv => (h v hv).isDelimited
    rw [← List.append_nil (Request.encode _)]
    exact hread []
  · rintro rfl
    simp only [Request.encode, Request.code, Request.body, Request.statementField,
      Request.parameterBlock, List.isEmpty_nil, if_true, List.append_assoc, List.append_nil]
    rfl

/-- Nine parameters, of which two are missing: the bitmap has two octets. -/
def nineParameters : List Value :=
  [.ofInt8 (-1), .ofOption .ofInt32 none, .ofUInt16 513, .ofBool true, .ofString "id",
    .ofBytes [0xFB], .ofTemporal { hour := some 7 }, .ofBinary32 0x3F800000,
    .ofOption .ofString none]

/-- What the server gets of them. -/
theorem reader_encode_nineParameters :
    (∀ v ∈ nineParameters, v.IsConverted) ∧
      reader 9 (Request.encode (.execute 1 nineParameters)) =
        .ok ⟨1, 0, 1,
          [⟨.tiny, false, some [0xFF]⟩, ⟨.null, false, none⟩, ⟨.short, true, some [1, 2]⟩,
            ⟨.tiny, false, some [1]⟩, ⟨.varString, false, some [0x69, 0x64]⟩,
            ⟨.blob, false, some [0xFB]⟩, ⟨.time, false, some [0, 0, 0, 0, 0, 7, 0, 0]⟩,
            ⟨.float, false, some [0, 0, 0x80, 0x3F]⟩, ⟨.null, false, none⟩]⟩ [] := by
  have hconverted : ∀ v ∈ nineParameters, v.IsConverted := by
    simp only [nineParameters, List.forall_mem_cons]
    refine ⟨.int8 _, .option none (by rintro a ⟨⟩), .uint16 _, .bool _, .string _ (by decide),
      .bytes _ (by decide), .temporal _, .binary32 _, .option none (by rintro a ⟨⟩), ?_⟩
    exact List.forall_mem_nil _
  exact ⟨hconverted, (reader_encode 1 hconverted).1⟩

end Execution

end MySqlClient
