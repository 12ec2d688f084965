import MySqlClient.Proofs.Request.Leftovers
import MySqlClient.Proofs.Row.Forms

/-!
# Fetched values as parameters

A value that was fetched from a row can be bound again.  A parameter is announced with the type of
its column, and the server cuts it by that type.  The octets of a value from a text row stand behind
their length, whatever its type is: for a type of fixed width that is not what the server expects.

* `Value.IsFetched`: the values that rows give.
* `Value.HasAnnouncedLayout`: the octets of a parameter are laid out as its type is;
  `Value.hasAnnouncedLayout_iff`: **when that is so.**
* `Execution.reader_encode_fetched`: **fetched values arrive exactly if no text among them is
  announced as a value of fixed width.**
-/

namespace MySqlClient

open Reader

/-! ## What rows give -/

namespace Row

variable {columns : List Column} {fields : List (Option Bytes)} {bitmap octets : Bytes}

/-- A field that is there has the form that its column asks for. -/
theorem AreBinaryFields.exists_isBinaryField {position : Nat}
    (h : AreBinaryFields bitmap position columns fields octets) {i : Nat} {column : Column}
    {content : Bytes} (hcolumn : columns[i]? = some column)
    (hfield : fields[i]? = some (some content)) :
    ∃ octets, IsBinaryField column content octets := by
  induction h generalizing i with
  | nil => cases hcolumn
  | null _ _ ih =>
    cases i with
    | zero => cases hfield
    | succ i => exact ih hcolumn hfield
  | value _ hvalue _ ih =>
    cases i with
    | zero =>
      cases hcolumn
      cases hfield
      exact ⟨_, hvalue⟩
    | succ i => exact ih hcolumn hfield

/-- A field of a text row has a length that fits in 64 bits. -/
theorem AreTextFields.length_lt (h : AreTextFields columns fields octets) {content : Bytes}
    (hfield : some content ∈ fields) : content.length < UInt64.size := by
  induction h with
  | nil => cases hfield
  | cons hform _ ih =>
    rcases List.mem_cons.mp hfield with rfl | hrest
    · exact Wire.IsLenEncBytes.length_lt hform
    · exact ih hrest

end Row

namespace Value

/-- The value was asked of a row. -/
def IsFetched (v : Value) : Prop :=
  ∃ columns payload row index,
    (Row.decodeText columns payload = .ok row ∨ Row.decodeBinary columns payload = .ok row) ∧
      row.value? index = some v

/-- A value of a row is a field with what its column says. -/
theorem exists_of_value? {row : Row} {index : Nat} {v : Value} (h : row.value? index = some v) :
    ∃ column, row.columns[index]? = some column ∧ row.fields[index]? = some v.data ∧
      v.type = column.type ∧ v.format = row.format := by
  simp only [Row.value?, Option.bind_eq_bind, Option.bind_eq_some_iff, Option.pure_def,
    Option.some.injEq] at h
  obtain ⟨column, hcolumn, field, hfield, rfl⟩ := h
  exact ⟨column, hcolumn, hfield, rfl, rfl⟩

/-- What is fetched from a text row is text that can stand behind its length. -/
theorem of_decodeText {columns : List Column} {payload : Bytes} {row : Row} {index : Nat}
    {v : Value} (hdecode : Row.decodeText columns payload = .ok row)
    (h : row.value? index = some v) :
    v.format = .text ∧ ∀ content, v.data = some content → content.length < UInt64.size := by
  obtain ⟨column, -, hfield, -, hformat⟩ := exists_of_value? h
  have hreader := (Row.recognizes_textFields columns).map fun fields =>
    (⟨columns, fields, .text⟩ : Row)
  obtain ⟨front, rest, ⟨fields, hfields, rfl⟩, -⟩ := hreader.parse_eq_ok_iff.mp hdecode
  refine ⟨hformat, fun content hdata => ?_⟩
  rw [hdata] at hfield
  exact hfields.length_lt (List.mem_of_getElem? hfield)

/-- What is fetched from a binary row is as a server expects it. -/
theorem of_decodeBinary {columns : List Column} {payload : Bytes} {row : Row} {index : Nat}
    {v : Value} (hdecode : Row.decodeBinary columns payload = .ok row)
    (h : row.value? index = some v) : v.format = .binary ∧ v.IsDelimited := by
  obtain ⟨column, hcolumn, hfield, htype, hformat⟩ := exists_of_value? h
  obtain ⟨bitmap, body, rest, fields, -, -, hfields, rfl⟩ :=
    Row.decodeBinary_eq_ok_iff.mp hdecode
  refine ⟨hformat, fun content hdata => ?_⟩
  rw [hdata] at hfield
  obtain ⟨octets, hform⟩ := hfields.exists_isBinaryField hcolumn hfield
  unfold Row.IsBinaryField at hform
  rw [htype]
  cases hwidth : column.type.fixedLength with
  | some width =>
    simp only [hwidth] at hform
    exact ⟨hformat, hform.2⟩
  | none =>
    simp only [hwidth] at hform
    exact hform.length_lt

/-- A text is announced as a value of fixed width. -/
def IsMisannounced (v : Value) : Prop :=
  v.format = .text ∧ v.type.fixedLength.isSome = true ∧ v.data ≠ none

/-- What is fetched is as a server expects it, or is a text of some length. -/
theorem IsFetched.cases {v : Value} (h : v.IsFetched) :
    v.format = .binary ∧ v.IsDelimited ∨
      v.format = .text ∧ ∀ content, v.data = some content → content.length < UInt64.size := by
  obtain ⟨columns, payload, row, index, hdecode | hdecode, hvalue⟩ := h
  · exact .inr (of_decodeText hdecode hvalue)
  · exact .inl (of_decodeBinary hdecode hvalue)

/-- What is fetched is as a server expects it, unless it is misannounced. -/
theorem IsFetched.isDelimited {v : Value} (h : v.IsFetched) (hannounced : ¬ v.IsMisannounced) :
    v.IsDelimited := by
  rcases h.cases with ⟨-, hdelimited⟩ | ⟨hformat, hlength⟩
  · exact hdelimited
  · intro content hdata
    cases hwidth : v.type.fixedLength with
    | some width =>
      have hsome : v.data ≠ none := by simp [hdata]
      exact absurd ⟨hformat, by rw [hwidth]; rfl, hsome⟩ hannounced
    | none => exact hlength content hdata

theorem IsFetched.length_lt {v : Value} (h : v.IsFetched) {content : Bytes}
    (hdata : v.data = some content) : content.length < UInt64.size := by
  rcases h.cases with ⟨-, hdelimited⟩ | ⟨-, hlength⟩
  · have hcontent := hdelimited content hdata
    cases hwidth : v.type.fixedLength with
    | some width =>
      simp only [hwidth] at hcontent
      have hwide := ColumnType.fixedLength_le hwidth
      rw [hcontent.2]
      exact Nat.lt_of_le_of_lt hwide (by decide)
    | none =>
      simp only [hwidth] at hcontent
      exact hcontent
  · exact hlength content hdata

/-! ## Layouts -/

/-- The octets of a parameter that is not NULL are laid out as the type is with which it is
announced. -/
def HasAnnouncedLayout (v : Value) : Prop :=
  v.isNull = false →
    match v.parameterType.fixedLength with
    | some width => v.encodeParameter.length = width
    | none => ∃ content, Wire.IsLenEncBytes content v.encodeParameter ∧
        (v.parameterType.isTemporal = true → ∃ t, Temporal.decode content = .ok t)

/-- A string behind its length is as short as a value of fixed width only by one length. -/
theorem length_lenEncBytes_eq_iff {content : Bytes} {width : Nat} (h : width ≤ 8) :
    (Wire.lenEncBytes content).length = width ↔ content.length + 1 = width := by
  rcases Nat.lt_or_ge content.length 251 with hshort | hlong
  · rw [Wire.lenEncBytes_of_lt hshort, List.length_cons]
  · have hlength : content.length ≤ (Wire.lenEncBytes content).length := by
      rw [Wire.lenEncBytes, List.length_append]
      exact Nat.le_add_left _ _
    omega

/-- A string behind its length is the form of no other string. -/
theorem isLenEncBytes_lenEncBytes_iff {content other : Bytes} (h : content.length < UInt64.size) :
    Wire.IsLenEncBytes other (Wire.lenEncBytes content) ↔ other = content := by
  constructor
  · intro hform
    have hother : Reads lenEncBytes _ (some other) := recognizes_lenEncBytes.reads hform
    have hread := hother []
    rw [reads_lenEncBytes h] at hread
    injection hread with hsome _
    exact (Option.some.inj hsome).symm
  · rintro rfl
    exact recognizes_lenEncBytes.form_of_reads (reads_lenEncBytes h)

/-- **When the octets of a fetched value are laid out as its type is.** -/
theorem hasAnnouncedLayout_iff {v : Value} (h : v.IsFetched) :
    v.HasAnnouncedLayout ↔ ∀ content, v.data = some content →
      match v.type.fixedLength with
      | some width => v.format = .binary ∨ content.length + 1 = width
      | none => v.type.isTemporal = true → ∃ t, Temporal.decode content = .ok t := by
  unfold HasAnnouncedLayout parameterType isNull encodeParameter
  cases hdata : v.data with
  | none => simp
  | some content =>
    simp only [Option.isNone_some, Bool.false_eq_true, if_false, forall_const, Option.some.injEq,
      forall_eq']
    cases hwidth : v.type.fixedLength with
    | some width =>
      have hwide := ColumnType.fixedLength_le hwidth
      simp only [Option.isSome_some, and_true]
      rcases h.cases with ⟨hformat, hdelimited⟩ | ⟨hformat, -⟩
      · have hcontent := hdelimited content hdata
        simp only [hwidth] at hcontent
        simp [hformat, hcontent.2]
      · simp [hformat, length_lenEncBytes_eq_iff hwide]
    | none =>
      simp only [Option.isSome_none, Bool.false_eq_true, and_false, if_false,
        isLenEncBytes_lenEncBytes_iff (h.length_lt hdata), exists_eq_left]

/-- **Which fetched values a server expects.** -/
theorem IsFetched.isDelimited_iff {v : Value} (h : v.IsFetched) :
    v.IsDelimited ↔ ¬ v.IsMisannounced := by
  refine ⟨?_, h.isDelimited⟩
  rintro hdelimited ⟨hformat, hwidth, hdata⟩
  obtain ⟨width, hwidth⟩ := Option.isSome_iff_exists.mp hwidth
  obtain ⟨content, hdata⟩ := Option.ne_none_iff_exists'.mp hdata
  have hcontent := hdelimited content hdata
  simp only [hwidth, hformat, reduceCtorEq, false_and] at hcontent

end Value

namespace Execution

/-- **Fetched values as parameters.**  The octets of such a value are laid out as its type is, with
two exceptions: a text that is announced as a value of fixed width (unless it happens to be one
octet shorter than the type is wide), and a temporal value whose octets are none of the layouts of
dates and times.  A server reads the request back exactly if there is none of the first kind. -/
theorem reader_encode_fetched (statementId : UInt32) {parameters : List Value}
    (h : ∀ v ∈ parameters, v.IsFetched) :
    (∀ v ∈ parameters, v.HasAnnouncedLayout ↔ ∀ content, v.data = some content →
      match v.type.fixedLength with
      | some width => v.format = .binary ∨ content.length + 1 = width
      | none => v.type.isTemporal = true → ∃ t, Temporal.decode content = .ok t) ∧
    (reader parameters.length (Request.encode (.execute statementId parameters)) =
        .ok ⟨statementId, 0, 1, parameters.map Argument.ofValue⟩ [] ↔
      ∀ v ∈ parameters, v.format = .text → v.type.fixedLength.isSome = true → v.data = none) := by
  refine ⟨fun v hv => Value.hasAnnouncedLayout_iff (h v hv), ?_⟩
  rw [reader_encode_eq_ok_iff]
  refine forall₂_congr fun v hv => ?_
  rw [(h v hv).isDelimited_iff]
  unfold Value.IsMisannounced
  simp only [not_and, ne_eq, not_not]

/-- A row of the text protocol: a number and a string. -/
def textRow : Row where
  columns := [Row.columnOf "id" .longLong, Row.columnOf "name" .varString]
  fields := [some [0x34, 0x32], some [0x78]]
  format := .text

/-- The number and the string as parameters. -/
def textParameters : List Value :=
  [⟨.longLong, .text, false, some [0x34, 0x32]⟩, ⟨.varString, .text, false, some [0x78]⟩]

/-- Three octets are written for the number, and the server waits for eight. -/
theorem reader_encode_textParameters :
    (∀ v ∈ textParameters, v.IsFetched) ∧
      ¬ (⟨.longLong, .text, false, some [0x34, 0x32]⟩ : Value).HasAnnouncedLayout ∧
      Request.encode (.execute 1 textParameters) =
        [0x17, 1, 0, 0, 0, 0, 1, 0, 0, 0, 0, 1, 8, 0, 0xFD, 0, 2, 0x34, 0x32, 1, 0x78] ∧
      reader 2 (Request.encode (.execute 1 textParameters)) ≠
        .ok ⟨1, 0, 1, textParameters.map Argument.ofValue⟩ [] := by
  have hdecode : Row.decodeText textRow.columns [2, 0x34, 0x32, 1, 0x78] = .ok textRow := by
    rfl
  have hfetched : ∀ v ∈ textParameters, v.IsFetched := by
    simp only [textParameters, List.forall_mem_cons]
    exact ⟨⟨_, _, textRow, 0, .inl hdecode, rfl⟩, ⟨_, _, textRow, 1, .inl hdecode, rfl⟩,
      List.forall_mem_nil _⟩
  obtain ⟨hlayout, hread⟩ := reader_encode_fetched 1 hfetched
  rw [textParameters, List.forall_mem_cons] at hlayout
  refine ⟨hfetched, ?_, by decide, ?_⟩
  · rw [hlayout.1]
    intro h
    have hwidth : Format.text = .binary ∨ 2 + 1 = 8 := h _ rfl
    exact absurd hwidth (by decide)
  · intro h
    exact absurd (hread.mp h _ (List.mem_cons_self ..) rfl rfl) (by decide)

end Execution

end MySqlClient
