import Mathlib.Data.List.Forall2
import MySqlClient.Packet
import MySqlClient.Row
import MySqlClient.Proofs.NullBitmap.Marks
import MySqlClient.Proofs.Wire.RoundTrip

/-!
# Rows as a server sends them

* `Row.encodeText`, `Row.encodeBinary`: the two layouts of a row; `Row.encode` takes the form.
* `Row.Fits`: the fields are ones that the columns can have.
* `Row.decode_encode`: **a client reads the fields that the server put into the row.**
* `Row.head?_encode_ne`, `Row.isResultSetEnd_encode`: a row is taken for nothing else.
-/

namespace MySqlClient

open Reader

namespace Row

/-! ## Layouts -/

/-- A field of the text form. -/
def encodeTextField : Option Bytes → Bytes
  | none => [0xFB]
  | some octets => Wire.lenEncBytes octets

/-- A row of the text form. -/
def encodeText (fields : List (Option Bytes)) : Bytes :=
  fields.flatMap encodeTextField

/-- A field of the binary form.  NULL is told by the bitmap alone. -/
def encodeBinaryField (column : Column) : Option Bytes → Bytes
  | none => []
  | some octets =>
    match column.type.fixedLength with
    | some _ => octets
    | none => Wire.lenEncBytes octets

/-- The fields of the binary form. -/
def encodeBinaryFields : List Column → List (Option Bytes) → Bytes
  | column :: columns, field :: fields =>
    encodeBinaryField column field ++ encodeBinaryFields columns fields
  | _, _ => []

/-- A row of the binary form. -/
def encodeBinary (columns : List Column) (fields : List (Option Bytes)) : Bytes :=
  0 :: ((NullBitmap.ofMarks NullBitmap.rowOffset (fields.map Option.isNone)).bytes ++
    encodeBinaryFields columns fields)

/-- A row in either form. -/
def encode (format : Format) (columns : List Column) (fields : List (Option Bytes)) : Bytes :=
  match format with
  | .text => encodeText fields
  | .binary => encodeBinary columns fields

/-- A field that is not NULL has the width of its column's type, or a length that can be written. -/
def FieldFits (format : Format) (column : Column) (field : Option Bytes) : Prop :=
  ∀ octets, field = some octets →
    match format, column.type.fixedLength with
    | .binary, some width => octets.length = width
    | _, _ => octets.length < UInt64.size

/-- A row has one field for each column. -/
def Fits (format : Format) (columns : List Column) (fields : List (Option Bytes)) : Prop :=
  List.Forall₂ (FieldFits format) columns fields

/-- The row in either form. -/
def decode (format : Format) (columns : List Column) (payload : Bytes) : Outcome Row :=
  match format with
  | .text => decodeText columns payload
  | .binary => decodeBinary columns payload

/-! ## Reading -/

theorem reads_textField {column : Column} {field : Option Bytes}
    (h : FieldFits .text column field) : Reads lenEncBytes (encodeTextField field) field := by
  cases field with
  | none => exact reads_lenEncBytes_null
  | some octets => exact reads_lenEncBytes (h octets rfl)

theorem reads_textFields {columns : List Column} {fields : List (Option Bytes)}
    (h : Fits .text columns fields) : Reads (textFields columns) (encodeText fields) fields := by
  induction h with
  | nil => exact Reads.pure []
  | @cons _ field _ _ hfield _ ih =>
    have hrest := ih.map (List.cons field)
    exact (reads_textField hfield).bind _ hrest

theorem reads_fieldReader {column : Column} {octets : Bytes}
    (h : FieldFits .binary column (some octets)) :
    Reads (fieldReader column) (encodeBinaryField column (some octets)) octets := by
  have hlength := h octets rfl
  unfold fieldReader encodeBinaryField
  cases hwidth : column.type.fixedLength with
  | some width =>
    simp only [hwidth] at hlength ⊢
    exact reads_take_of_length_eq hlength
  | none =>
    simp only [hwidth] at hlength ⊢
    exact reads_lenEncBytes_required _ hlength

theorem reads_binaryField {column : Column} {field : Option Bytes}
    (h : FieldFits .binary column field) :
    Reads (if field.isNone then Pure.pure none else some <$> fieldReader column)
      (encodeBinaryField column field) field := by
  cases field with
  | none => exact Reads.pure none
  | some octets =>
    intro rest
    have hread := reads_fieldReader h rest
    rw [if_neg (by simp)]
    show EStateM.map some (fieldReader column) _ = _
    rw [EStateM.map, hread]

theorem binaryFields_cons (nulls : NullBitmap) (position : Nat) (column : Column)
    (columns : List Column) :
    binaryFields nulls position (column :: columns) =
      (do
        let field ← (if nulls.isNull position then Pure.pure none else some <$> fieldReader column)
        return field :: (← binaryFields nulls (position + 1) columns)) := by
  rw [binaryFields]
  split <;> rfl

theorem reads_binaryFields {columns : List Column} {fields : List (Option Bytes)}
    (h : Fits .binary columns fields) {nulls : NullBitmap} {position : Nat}
    (hnulls : ∀ i, nulls.isNull (position + i) = (fields.map Option.isNone).getD i false) :
    Reads (binaryFields nulls position columns) (encodeBinaryFields columns fields) fields := by
  induction h generalizing position with
  | nil => exact Reads.pure []
  | @cons column field columns fields hfield _ ih =>
    have hhead : nulls.isNull position = field.isNone := by
      simpa using hnulls 0
    have htail : ∀ i, nulls.isNull (position + 1 + i) =
        (fields.map Option.isNone).getD i false := by
      intro i
      rw [Nat.add_assoc, Nat.add_comm 1]
      simpa using hnulls (i + 1)
    have hrest := (ih htail).map (List.cons field)
    have hfirst := reads_binaryField hfield
    rw [← hhead] at hfirst
    rw [binaryFields_cons]
    exact hfirst.bind _ hrest

theorem reads_textReader {columns : List Column} {fields : List (Option Bytes)}
    (h : Fits .text columns fields) :
    Reads (textReader columns) (encodeText fields) ⟨columns, fields, .text⟩ :=
  (reads_textFields h).map fun fields => (⟨columns, fields, .text⟩ : Row)

theorem reads_binaryReader {columns : List Column} {fields : List (Option Bytes)}
    (h : Fits .binary columns fields) :
    Reads (binaryReader columns) (encodeBinary columns fields) ⟨columns, fields, .binary⟩ := by
  let nulls := NullBitmap.ofMarks NullBitmap.rowOffset (fields.map Option.isNone)
  have hcount : (fields.map Option.isNone).length = columns.length := by
    rw [List.length_map, h.length_eq]
  have hbytes : nulls.bytes.length =
      NullBitmap.byteLength columns.length NullBitmap.rowOffset := by
    rw [NullBitmap.length_ofMarks, hcount]
  have hbitmap : Reads (NullBitmap.reader columns.length NullBitmap.rowOffset) nulls.bytes
      nulls :=
    NullBitmap.reads_reader (NullBitmap.offset_ofMarks _ _) hbytes
  have hfields : Reads (binaryFields nulls 0 columns) (encodeBinaryFields columns fields)
      fields := by
    apply reads_binaryFields h
    intro i
    rw [Nat.zero_add]
    exact NullBitmap.isNull_ofMarks _ _ _
  have hrow : Reads (do return (⟨columns, ← binaryFields nulls 0 columns, .binary⟩ : Row)) _ _ :=
    hfields.map fun fields => (⟨columns, fields, .binary⟩ : Row)
  exact (reads_u8 0).bind _ (hbitmap.bind _ hrow)

/-- **A client reads the fields that the server put into the row.** -/
theorem decode_encode {format : Format} {columns : List Column} {fields : List (Option Bytes)}
    (h : Fits format columns fields) :
    decode format columns (encode format columns fields) = .ok ⟨columns, fields, format⟩ := by
  cases format with
  | text => exact (reads_textReader h).parse
  | binary => exact (reads_binaryReader h).parse

/-! ## Classes -/

/-- A row does not begin like an error packet. -/
theorem head?_encode_ne {format : Format} {columns : List Column} {fields : List (Option Bytes)}
    (h : Fits format columns fields) (hcolumns : columns ≠ []) :
    (encode format columns fields).head? ≠ some Packet.errHeader := by
  cases format with
  | binary =>
    show some 0 ≠ _
    decide
  | text =>
    cases h with
    | nil => exact absurd rfl hcolumns
    | @cons _ field _ _ _ _ =>
      show (encodeTextField field ++ _).head? ≠ _
      cases field with
      | none =>
        show some 0xFB ≠ _
        decide
      | some octets =>
        obtain ⟨lead, rest, hlead, hne⟩ := Wire.exists_lenEncBytes_eq_cons octets
        rw [encodeTextField, hlead, List.cons_append, List.head?_cons]
        exact fun heq => hne (Option.some.inj heq)

/-- With the lead octet of an EOF packet a row fills a frame: its first field has a length of eight
octets. -/
theorem maxFramePayload_le_length_encode {format : Format} {columns : List Column}
    {fields : List (Option Bytes)} (h : Fits format columns fields)
    (hhead : (encode format columns fields).head? = some Packet.eofHeader) :
    Packet.maxFramePayload ≤ (encode format columns fields).length := by
  cases format with
  | binary => exact absurd hhead (by show some 0 ≠ _; decide)
  | text =>
    cases h with
    | nil => cases hhead
    | @cons column field columns fields hfield _ =>
      -- NULL has a lead octet of its own
      cases field with
      | none => exact absurd hhead (by show some 0xFB ≠ _; decide)
      | some octets =>
        obtain ⟨lead, rest, hlead, -, -, -, hlong⟩ :=
          Wire.exists_lenEncInt_eq_cons (UInt64.ofNat octets.length)
        have hform : encode .text (column :: columns) (some octets :: fields) =
            (Wire.lenEncInt (UInt64.ofNat octets.length) ++ octets) ++ encodeText fields := rfl
        rw [hform] at hhead ⊢
        rw [hlead] at hhead
        have hsize := hlong (Option.some.inj hhead)
        rw [UInt64.toNat_ofNat_of_lt' (hfield octets rfl)] at hsize
        have hmax : Packet.maxFramePayload ≤ Bytes.capacity 3 := by decide
        rw [List.length_append, List.length_append]
        omega

/-- **A row is not taken for the end of its result set.** -/
theorem isResultSetEnd_encode {format : Format} {columns : List Column}
    {fields : List (Option Bytes)} (h : Fits format columns fields) (sequence : UInt8) :
    (Packet.mk sequence (encode format columns fields)).isResultSetEnd = false := by
  rw [Bool.eq_false_iff, ne_eq, Packet.isResultSetEnd_iff]
  rintro ⟨hhead, hshort⟩
  exact Nat.not_lt.mpr (maxFramePayload_le_length_encode h hhead) hshort

end Row

end MySqlClient
