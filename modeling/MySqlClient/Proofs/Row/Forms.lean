import MySqlClient.Proofs.NullBitmap.Bits
import MySqlClient.Proofs.Row.Layout
import MySqlClient.Proofs.Wire.Forms

/-!
# What is taken for a row

* `Row.IsBinaryField`, `Row.AreBinaryFields`: the fields of the binary form, one for each column.
  NULL fields leave no octets; the bitmap tells which they are.
* `Row.AreTextFields`: the fields of the text form.
* `Row.recognizes_binaryFields`, `Row.recognizes_textFields`: **these are what a client takes.**
* `Row.decodeBinary_exact`: **a packet is a binary row exactly if it has the layout of one**, and
  what becomes of its fields; a packet that ends within a row is refused.
-/

namespace MySqlClient

open Reader

namespace Row

/-! ## Forms -/

/-- A field that is not NULL: it has the width of its type, or stands behind its length. -/
def IsBinaryField (column : Column) (content octets : Bytes) : Prop :=
  match column.type.fixedLength with
  | some width => octets = content ∧ content.length = width
  | none => Wire.IsLenEncBytes content octets

/-- The fields of the columns from a position on, in order. -/
inductive AreBinaryFields (bitmap : Bytes) :
    Nat → List Column → List (Option Bytes) → Bytes → Prop
  | nil {position : Nat} : AreBinaryFields bitmap position [] [] []
  | null {position : Nat} {column : Column} {columns : List Column} {fields : List (Option Bytes)}
      {octets : Bytes} (hbit : bitmap.toNat.testBit (position + 2) = true)
      (hrest : AreBinaryFields bitmap (position + 1) columns fields octets) :
      AreBinaryFields bitmap position (column :: columns) (none :: fields) octets
  | value {position : Nat} {column : Column} {columns : List Column} {fields : List (Option Bytes)}
      {content octets rest : Bytes} (hbit : bitmap.toNat.testBit (position + 2) = false)
      (hfield : IsBinaryField column content octets)
      (hrest : AreBinaryFields bitmap (position + 1) columns fields rest) :
      AreBinaryFields bitmap position (column :: columns) (some content :: fields) (octets ++ rest)

/-- The fields of the text form, in order. -/
inductive AreTextFields : List Column → List (Option Bytes) → Bytes → Prop
  | nil : AreTextFields [] [] []
  | cons {column : Column} {columns : List Column} {field : Option Bytes}
      {fields : List (Option Bytes)} {octets rest : Bytes}
      (hfield : Wire.IsLenEncField field octets) (hrest : AreTextFields columns fields rest) :
      AreTextFields (column :: columns) (field :: fields) (octets ++ rest)

variable {columns : List Column} {fields : List (Option Bytes)} {bitmap octets payload : Bytes}
  {row : Row}

theorem AreBinaryFields.length_eq {position : Nat}
    (h : AreBinaryFields bitmap position columns fields octets) :
    fields.length = columns.length := by
  induction h with
  | nil => rfl
  | null _ _ ih => exact congrArg Nat.succ ih
  | value _ _ _ ih => exact congrArg Nat.succ ih

/-- The bitmap tells which fields are NULL. -/
theorem AreBinaryFields.getElem?_eq_none_iff {position : Nat}
    (h : AreBinaryFields bitmap position columns fields octets) {i : Nat}
    (hi : i < columns.length) :
    fields[i]? = some none ↔ bitmap.toNat.testBit (position + i + 2) = true := by
  induction h generalizing i with
  | nil => exact absurd hi (Nat.not_lt_zero i)
  | null hbit _ ih =>
    cases i with
    | zero => exact iff_of_true rfl hbit
    | succ i =>
      rw [List.getElem?_cons_succ, ih (Nat.lt_of_succ_lt_succ hi), Nat.add_assoc _ 1 i,
        Nat.add_comm 1 i]
  | value hbit _ _ ih =>
    cases i with
    | zero =>
      refine iff_of_false ?_ (Bool.eq_false_iff.mp hbit)
      intro hsome
      cases hsome
    | succ i =>
      rw [List.getElem?_cons_succ, ih (Nat.lt_of_succ_lt_succ hi), Nat.add_assoc _ 1 i,
        Nat.add_comm 1 i]

/-! ## Reading -/

theorem recognizes_fieldReader (column : Column) :
    Recognizes (fieldReader column) (IsBinaryField column) := by
  unfold fieldReader IsBinaryField
  cases column.type.fixedLength with
  | some width => exact recognizes_take width
  | none => exact recognizes_lenEncBytes_required _

/-- A field that the bitmap may declare NULL. -/
theorem recognizes_binaryField (column : Column) (isNull : Bool) :
    Recognizes (if isNull then Pure.pure none else some <$> fieldReader column)
      fun field octets => isNull = true ∧ field = none ∧ octets = [] ∨
        ∃ content, isNull = false ∧ field = some content ∧ IsBinaryField column content octets := by
  cases isNull with
  | true =>
    refine (recognizes_pure none).congr fun field octets => ?_
    simp
  | false =>
    have hmap : some <$> fieldReader column = fieldReader column >>= fun octets =>
        Pure.pure (some octets) := by
      funext octets
      show EStateM.map some (fieldReader column) octets = _
      rw [bind_apply, EStateM.map]
      cases fieldReader column octets <;> rfl
    rw [if_neg Bool.false_ne_true, hmap]
    refine ((recognizes_fieldReader column).map some).congr fun field octets => ?_
    simp [and_comm]

/-- **The fields of a binary row are what a client takes for them.** -/
theorem recognizes_binaryFields (bitmap : Bytes) (position : Nat) (columns : List Column) :
    Recognizes (binaryFields ⟨NullBitmap.rowOffset, bitmap⟩ position columns)
      (AreBinaryFields bitmap position columns) := by
  induction columns generalizing position with
  | nil =>
    refine (recognizes_pure []).congr fun fields octets => ?_
    constructor
    · rintro ⟨rfl, rfl⟩
      exact .nil
    · rintro ⟨⟩
      exact ⟨rfl, rfl⟩
  | cons column columns ih =>
    rw [binaryFields_cons, NullBitmap.isNull_eq_testBit]
    have hrest (field : Option Bytes) := (ih (position + 1)).map (List.cons field)
    refine ((recognizes_binaryField column _).bind hrest).congr fun fields octets => ?_
    constructor
    · rintro ⟨field, front, back, hfield, ⟨rest, hback, rfl⟩, rfl⟩
      rcases hfield with ⟨hbit, rfl, rfl⟩ | ⟨content, hbit, rfl, hcontent⟩
      · exact .null hbit hback
      · exact .value hbit hcontent hback
    · intro hfields
      cases hfields with
      | null hbit hback =>
        exact ⟨none, [], octets, .inl ⟨hbit, rfl, rfl⟩, ⟨_, hback, rfl⟩, rfl⟩
      | value hbit hcontent hback =>
        exact ⟨_, _, _, .inr ⟨_, hbit, rfl, hcontent⟩, ⟨_, hback, rfl⟩, rfl⟩

/-- **The fields of a text row are what a client takes for them.** -/
theorem recognizes_textFields (columns : List Column) :
    Recognizes (textFields columns) (AreTextFields columns) := by
  induction columns with
  | nil =>
    refine (recognizes_pure []).congr fun fields octets => ?_
    constructor
    · rintro ⟨rfl, rfl⟩
      exact .nil
    · rintro ⟨⟩
      exact ⟨rfl, rfl⟩
  | cons column columns ih =>
    have hrest (field : Option Bytes) := ih.map (List.cons field)
    refine (recognizes_lenEncBytes.bind hrest).congr fun fields octets => ?_
    constructor
    · rintro ⟨field, front, back, hfield, ⟨rest, hback, rfl⟩, rfl⟩
      exact .cons hfield hback
    · rintro ⟨⟩
      next hfield hback => exact ⟨_, _, _, hfield, ⟨_, hback, rfl⟩, rfl⟩

/-- What follows the lead octet of a binary row: as many octets for the bitmap as `n + 2` bits fill,
and the fields. -/
def IsBinaryBody (columns : List Column) (row : Row) (octets : Bytes) : Prop :=
  ∃ bitmap body fields, bitmap.length = (columns.length + 9) / 8 ∧
    AreBinaryFields bitmap 0 columns fields body ∧ row = ⟨columns, fields, .binary⟩ ∧
    octets = bitmap ++ body

/-- Bitmap and fields are read one behind the other. -/
theorem recognizes_binaryBody (columns : List Column) :
    Recognizes (do
      let nulls ← NullBitmap.reader columns.length NullBitmap.rowOffset
      return (⟨columns, ← binaryFields nulls 0 columns, .binary⟩ : Row))
      (IsBinaryBody columns) := by
  have hrow (bitmap : Bytes) := (recognizes_binaryFields bitmap 0 columns).map
    fun fields => (⟨columns, fields, .binary⟩ : Row)
  have hbody := (recognizes_take ((columns.length + 9) / 8)).bind hrow
  unfold NullBitmap.reader
  rw [bind_pure_bind]
  refine hbody.congr fun row octets => ?_
  constructor
  · rintro ⟨bitmap, front, body, ⟨rfl, hlength⟩, ⟨fields, hfields, rfl⟩, rfl⟩
    exact ⟨front, body, fields, hlength, hfields, rfl, rfl⟩
  · rintro ⟨bitmap, body, fields, hlength, hfields, rfl, rfl⟩
    exact ⟨bitmap, bitmap, body, ⟨rfl, hlength⟩, ⟨fields, hfields, rfl⟩, rfl⟩

/-- A binary row begins with a zero octet. -/
theorem recognizes_binaryReader (columns : List Column) :
    Recognizes (binaryReader columns) fun row octets =>
      ∃ body, IsBinaryBody columns row body ∧ octets = 0 :: body := by
  have hnext (lead : UInt8) : Recognizes (if lead != 0 then Reader.fail .rowLead else do
      let nulls ← NullBitmap.reader columns.length NullBitmap.rowOffset
      return (⟨columns, ← binaryFields nulls 0 columns, .binary⟩ : Row))
      fun row octets => lead = 0 ∧ IsBinaryBody columns row octets := by
    by_cases hlead : lead = 0
    · subst hlead
      exact (recognizes_binaryBody columns).congr fun row octets => by simp
    · rw [if_pos (by simpa using hlead)]
      exact (recognizes_fail _).congr fun row octets => by simp [hlead]
  have hreader : binaryReader columns = u8 >>= fun lead =>
      if lead != 0 then Reader.fail .rowLead else do
      let nulls ← NullBitmap.reader columns.length NullBitmap.rowOffset
      return (⟨columns, ← binaryFields nulls 0 columns, .binary⟩ : Row) := rfl
  rw [hreader]
  refine (recognizes_u8.bind hnext).congr fun row octets => ?_
  constructor
  · rintro ⟨lead, -, body, rfl, ⟨rfl, hbody⟩, rfl⟩
    exact ⟨body, hbody, rfl⟩
  · rintro ⟨body, hbody, rfl⟩
    exact ⟨0, [0], body, rfl, ⟨rfl, hbody⟩, rfl⟩

/-- The packets that are binary rows: a zero octet, a bitmap, the fields that the bitmap does not
declare NULL, and anything behind them. -/
theorem decodeBinary_eq_ok_iff {columns : List Column} {payload : Bytes} {row : Row} :
    decodeBinary columns payload = .ok row ↔
      ∃ bitmap body rest fields, payload = 0 :: (bitmap ++ body ++ rest) ∧
        bitmap.length = (columns.length + 9) / 8 ∧ AreBinaryFields bitmap 0 columns fields body ∧
        row = ⟨columns, fields, .binary⟩ := by
  refine (recognizes_binaryReader columns).parse_eq_ok_iff.trans ⟨?_, ?_⟩
  · rintro ⟨-, rest, ⟨-, ⟨bitmap, body, fields, hlength, hfields, rfl, rfl⟩, rfl⟩, rfl⟩
    exact ⟨bitmap, body, rest, fields, rfl, hlength, hfields, rfl⟩
  · rintro ⟨bitmap, body, rest, fields, rfl, hlength, hfields, rfl⟩
    exact ⟨_, rest, ⟨_, ⟨bitmap, body, fields, hlength, hfields, rfl, rfl⟩, rfl⟩, rfl⟩

/-- The bits behind the first two of the bitmap tell which fields of a row are NULL. -/
theorem fields_of_decodeBinary {columns : List Column} {payload : Bytes} {row : Row}
    (h : decodeBinary columns payload = .ok row) :
    row.fields.length = columns.length ∧
      ∀ i < columns.length,
        row.fields[i]? = some none ↔ (Bytes.toNat (payload.drop 1)).testBit (i + 2) = true := by
  obtain ⟨bitmap, body, rest, fields, rfl, hlength, hfields, rfl⟩ := decodeBinary_eq_ok_iff.mp h
  refine ⟨hfields.length_eq, fun i hi => ?_⟩
  have hinside : (i + 2) / 8 < bitmap.length := by omega
  have hbit := hfields.getElem?_eq_none_iff hi
  rw [Nat.zero_add] at hbit
  rw [List.drop_one, List.tail_cons, List.append_assoc, Bytes.testBit_toNat_append _ hinside]
  exact hbit

/-- **Which packets are binary rows, and what becomes of their fields.**  A packet is read exactly
if it has the layout of a row; the bitmap tells which fields are NULL; and the row that a server
sends is read back, while a part of it is refused. -/
theorem decodeBinary_exact (columns : List Column) :
    (∀ payload row, decodeBinary columns payload = .ok row ↔
      ∃ bitmap body rest fields, payload = 0 :: (bitmap ++ body ++ rest) ∧
        bitmap.length = (columns.length + 9) / 8 ∧ AreBinaryFields bitmap 0 columns fields body ∧
        row = ⟨columns, fields, .binary⟩) ∧
    (∀ payload row, decodeBinary columns payload = .ok row →
      row.fields.length = columns.length ∧
      ∀ i < columns.length,
        row.fields[i]? = some none ↔ (Bytes.toNat (payload.drop 1)).testBit (i + 2) = true) ∧
    (∀ fields, Fits .binary columns fields →
      decodeBinary columns (encodeBinary columns fields) = .ok ⟨columns, fields, .binary⟩ ∧
      ∀ front more, front ++ more = encodeBinary columns fields → more ≠ [] →
        ∃ error, decodeBinary columns front = .error error) := by
  refine ⟨fun payload row => decodeBinary_eq_ok_iff, fun payload row => fields_of_decodeBinary, ?_⟩
  intro fields hfits
  have hreads := reads_binaryReader hfits
  refine ⟨hreads.parse, fun front more hsplit hmore => ?_⟩
  rw [← hsplit] at hreads
  exact (recognizes_binaryReader columns).exists_parse_eq_error hreads hmore

/-- A column of some type. -/
def columnOf (name : String) (type : ColumnType) : Column where
  schema := "shop"
  table := "users"
  orgTable := "users"
  name
  orgName := name
  charset := 63
  length := 20
  type
  flags := ⟨0⟩
  decimals := 0

/-- Three columns, of which the first one has a fixed width. -/
def threeColumns : List Column :=
  [columnOf "age" .tiny, columnOf "nick" .varString, columnOf "city" .varString]

/-- A row whose second field is missing. -/
def secondMissing : List (Option Bytes) :=
  [some [0x2A], none, some [0x4F, 0x79]]

/-- The third field of the row is found in its place, and one octet less is not enough. -/
theorem decodeBinary_exact_secondMissing :
    Fits .binary threeColumns secondMissing ∧
      decodeBinary threeColumns [0, 0x08, 0x2A, 2, 0x4F, 0x79] =
        .ok ⟨threeColumns, secondMissing, .binary⟩ ∧
      ∃ error, decodeBinary threeColumns [0, 0x08, 0x2A, 2, 0x4F] = .error error := by
  have hfits : Fits .binary threeColumns secondMissing := by
    refine .cons ?_ (.cons ?_ (.cons ?_ .nil))
    · rintro octets ⟨⟩
      rfl
    · rintro octets ⟨⟩
    · rintro octets ⟨⟩
      show 2 < UInt64.size
      decide
  have hencode : encodeBinary threeColumns secondMissing = [0, 0x08, 0x2A, 2, 0x4F, 0x79] := by
    decide
  obtain ⟨hdecode, hshort⟩ := (decodeBinary_exact threeColumns).2.2 secondMissing hfits
  rw [hencode] at hdecode hshort
  exact ⟨hfits, hdecode, hshort [0, 0x08, 0x2A, 2, 0x4F] [0x79] rfl (by decide)⟩

end Row

end MySqlClient
