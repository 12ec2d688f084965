import MySqlClient.Proofs.Response.Layout
import MySqlClient.Proofs.Wire.Ensures
import MySqlClient.Proofs.Wire.Forms

/-!
# Column definitions, whole and cut off

A column definition has eight fields of no fixed place in front of the type of the column.  Only the
octet in the place of the type can be what no definition has there; everything else that is wrong
with a definition is that it ends too early.

* `Wire.Fields`: octets that consist of fields of given forms; `Reader.Takes`: a reader takes such
  octets, whatever it makes of them, with `Takes.bind` for readers one behind the other.
* `Column.IsFront`: what may stand in front of the type; `Column.Front`, `Column.frontReader`: how it
  is read; `Column.reader_eq`: a definition is read in two parts, before and from the type on.
* `Column.parse_eq_decode_iff`: **only an octet that stands for no type fails as one.**
* `Column.exists_parse_eq_error`: a definition that is cut off is refused.
* `Sent.Column.ofTexts`: the packet for a definition; `Column.parse_sent`: both together, with the
  definition read back.
-/

namespace MySqlClient

/-! ## Fields, whatever they say -/

namespace Wire

/-- Fields of given forms, one behind the other. -/
inductive Fields : List (Bytes → Prop) → Bytes → Prop
  | nil : Fields [] []
  | cons {form : Bytes → Prop} {forms : List (Bytes → Prop)} {front back : Bytes}
      (h : form front) (hback : Fields forms back) : Fields (form :: forms) (front ++ back)

theorem Fields.single {form : Bytes → Prop} {octets : Bytes} (h : form octets) :
    Fields [form] octets := by
  have hfields := Fields.cons h .nil
  rwa [List.append_nil] at hfields

/-- A length-encoded string, or NULL in its place. -/
def IsText (octets : Bytes) : Prop :=
  ∃ field, IsLenEncField field octets

/-- A length-encoded number. -/
def IsCount (octets : Bytes) : Prop :=
  ∃ n, IsLenEncInt n octets

/-- A number of fixed width. -/
def IsWord (width : Nat) (octets : Bytes) : Prop :=
  octets.length = width

/-- The tag of a type. -/
def IsTag (octets : Bytes) : Prop :=
  ∃ type : ColumnType, octets = [type.tag]

end Wire

/-- The packet is malformed. -/
def Error.IsMalformed (error : Error) : Prop :=
  ∃ fault, error = .protocol fault

namespace Reader

variable {α β : Type}

/-- The reader takes octets of the form, whatever it makes of them, and leaves what is behind. -/
def Takes (reader : Reader α) (form : Bytes → Prop) : Prop :=
  ∀ octets rest, (∃ value, reader octets = .ok value rest) ↔
    ∃ front, form front ∧ octets = front ++ rest

section

variable {reader : Reader α} {next : α → Reader β} {form : Bytes → Prop}
  {forms : List (Bytes → Prop)}

theorem Recognizes.takes {forms : α → Bytes → Prop} (h : Recognizes reader forms)
    (hform : ∀ octets, (∃ value, forms value octets) ↔ form octets) : Takes reader form := by
  intro octets rest
  constructor
  · rintro ⟨value, hread⟩
    obtain ⟨front, hfront, rfl⟩ := (h _ _ _).mp hread
    exact ⟨front, (hform front).mp ⟨value, hfront⟩, rfl⟩
  · rintro ⟨front, hfront, rfl⟩
    obtain ⟨value, hvalue⟩ := (hform front).mpr hfront
    exact ⟨value, h.reads hvalue rest⟩

theorem takes_pure (value : β) : Takes (Pure.pure value) (Wire.Fields []) := by
  refine (recognizes_pure value).takes fun octets => ?_
  constructor
  · rintro ⟨-, -, rfl⟩
    exact .nil
  · rintro ⟨⟩
    exact ⟨value, rfl, rfl⟩

/-- **One reader behind the other**: one field more. -/
theorem Takes.bind (h : Takes reader form) (hnext : ∀ value, Takes (next value) (Wire.Fields forms)) :
    Takes (reader >>= next) (Wire.Fields (form :: forms)) := by
  intro octets rest
  constructor
  · rintro ⟨result, hread⟩
    obtain ⟨value, between, hfirst, hsecond⟩ := bind_eq_ok_iff.mp hread
    obtain ⟨front, hform, rfl⟩ := (h _ _).mp ⟨value, hfirst⟩
    obtain ⟨back, hback, rfl⟩ := (hnext value _ _).mp ⟨result, hsecond⟩
    exact ⟨front ++ back, .cons hform hback, (List.append_assoc front back rest).symm⟩
  · rintro ⟨_, hfields, rfl⟩
    cases hfields with
    | cons hform hback =>
      obtain ⟨value, hfirst⟩ := (h _ _).mpr ⟨_, hform, List.append_assoc _ _ rest⟩
      obtain ⟨result, hsecond⟩ := (hnext value _ _).mpr ⟨_, hback, rfl⟩
      exact ⟨result, bind_eq_ok_iff.mpr ⟨value, _, hfirst, hsecond⟩⟩

/-- What a reader takes can be cut off in one way only. -/
theorem Takes.append_inj (h : Takes reader form) {front front' left left' : Bytes}
    (hfront : form front) (hfront' : form front') (heq : front ++ left = front' ++ left') :
    front = front' ∧ left = left' := by
  obtain ⟨value, hread⟩ := (h _ left).mpr ⟨front, hfront, rfl⟩
  obtain ⟨value', hread'⟩ := (h _ left').mpr ⟨front', hfront', heq⟩
  rw [hread] at hread'
  injection hread' with _ hleft
  exact ⟨List.append_cancel_right (hleft ▸ heq), hleft⟩

/-- **A packet that is cut off is refused**: what is missing is more than the reader would leave. -/
theorem Takes.exists_parse_eq_error (h : Takes reader form) {front more rest : Bytes} {value : α}
    (hread : reader (front ++ more) = .ok value rest) (hmore : rest.length < more.length) :
    ∃ error, reader.parse front = .error error := by
  cases hfront : reader front with
  | error error left => exact ⟨error, by rw [parse, hfront]⟩
  | ok other left =>
    -- the reader would stop earlier in the whole as well, and leave all that was cut off
    obtain ⟨taken, htaken, rfl⟩ := (h _ _).mp ⟨other, hfront⟩
    obtain ⟨found, hwhole⟩ := (h _ (left ++ more)).mpr ⟨taken, htaken, List.append_assoc _ _ _⟩
    rw [hread] at hwhole
    injection hwhole with _ hrest
    rw [hrest, List.length_append] at hmore
    omega

end

/-! ## Which fields are taken -/

theorem takes_lenEncText : Takes lenEncText Wire.IsText := by
  refine (recognizes_lenEncBytes.map fun field => Utf8.decodeLossy (field.getD [])).takes
    fun octets => ?_
  constructor
  · rintro ⟨-, field, hfield, -⟩
    exact ⟨field, hfield⟩
  · rintro ⟨field, hfield⟩
    exact ⟨_, field, hfield, rfl⟩

/-- A count is a length-encoded number that is not NULL. -/
theorem lenEncCount_eq :
    lenEncCount = lenEncInt >>= fun found => found.elim (fail .nullLength) Pure.pure := by
  refine congrArg (lenEncInt >>= ·) (funext fun found => ?_)
  cases found <;> rfl

theorem takes_lenEncCount : Takes lenEncCount Wire.IsCount := by
  have hnext (found : Option UInt64) : Recognizes (found.elim (fail .nullLength) Pure.pure)
      (fun n octets => found = some n ∧ octets = []) := by
    cases found with
    | some m =>
      refine (recognizes_pure m).congr fun n octets => ?_
      rw [Option.some.injEq, eq_comm]
    | none => exact (recognizes_fail _).congr fun n octets => by simp
  rw [lenEncCount_eq]
  refine (recognizes_lenEncInt.bind hnext).takes fun octets => ?_
  constructor
  · rintro ⟨n, -, front, -, hform, ⟨rfl, rfl⟩, rfl⟩
    exact ⟨n.toNat, (List.append_nil front).symm ▸ hform⟩
  · rintro ⟨n, hform⟩
    have hn := UInt64.toNat_ofNat_of_lt' hform.lt_size
    refine ⟨UInt64.ofNat n, some (UInt64.ofNat n), octets, [], ?_, ⟨rfl, rfl⟩,
      (List.append_nil octets).symm⟩
    show Wire.IsLenEncInt (UInt64.ofNat n).toNat octets
    rwa [hn]

/-- A number of fixed width that is changed afterwards. -/
theorem takes_number (width : Nat) (f : Nat → β) :
    Takes (number width >>= fun n => Pure.pure (f n)) (Wire.IsWord width) := by
  refine ((recognizes_number width).map f).takes fun octets => ?_
  constructor
  · rintro ⟨-, n, ⟨hlength, -⟩, -⟩
    exact hlength
  · intro hlength
    exact ⟨_, _, ⟨hlength, rfl⟩, rfl⟩

theorem takes_u16 : Takes u16 (Wire.IsWord 2) :=
  takes_number 2 UInt16.ofNat

theorem takes_u32 : Takes u32 (Wire.IsWord 4) :=
  takes_number 4 UInt32.ofNat

theorem takes_u8 : Takes u8 (Wire.IsWord 1) := by
  refine recognizes_u8.takes fun octets => ?_
  constructor
  · rintro ⟨octet, rfl⟩
    rfl
  · intro hlength
    exact List.length_eq_one_iff.mp hlength

theorem takes_columnType : Takes ColumnType.reader Wire.IsTag := by
  intro octets rest
  constructor
  · rintro ⟨type, hread⟩
    obtain ⟨tag, left, htag, hrest⟩ := bind_eq_ok_iff.mp hread
    obtain ⟨-, rfl, rfl⟩ := (recognizes_u8 _ _ _).mp htag
    cases htype : ColumnType.ofTag? tag with
    | none =>
      rw [htype] at hrest
      cases hrest
    | some found =>
      rw [htype] at hrest
      cases hrest
      exact ⟨[tag], ⟨type, by rw [ColumnType.tag_of_ofTag? htype]⟩, rfl⟩
  · rintro ⟨-, ⟨type, rfl⟩, rfl⟩
    exact ⟨type, Sent.Column.reads_tag type rest⟩

/-! ## Errors of fields -/

theorem ensures_lenEncInt : Ensures lenEncInt (fun _ => True) Error.IsMalformed := by
  refine (ensures_u8 ⟨_, rfl⟩).bind fun lead _ => ?_
  have hnumber (width : Nat) : Ensures (number width >>= fun n =>
      Pure.pure (some (UInt64.ofNat n))) (fun _ => True) Error.IsMalformed :=
    (ensures_number ⟨_, rfl⟩).bind fun _ _ => .pure trivial
  split
  · exact .pure trivial
  split
  · exact hnumber 2
  split
  · exact hnumber 3
  split
  · exact hnumber 8
  split
  · exact .fail ⟨_, rfl⟩
  · exact .pure trivial

theorem ensures_lenEncCount : Ensures lenEncCount (fun _ => True) Error.IsMalformed := by
  refine ensures_lenEncInt.bind fun found _ => ?_
  cases found with
  | none => exact .fail ⟨_, rfl⟩
  | some n => exact .pure trivial

theorem ensures_lenEncText : Ensures lenEncText (fun _ => True) Error.IsMalformed := by
  have hbytes : Ensures lenEncBytes (fun _ => True) Error.IsMalformed := by
    refine ensures_lenEncInt.bind fun found _ => ?_
    cases found with
    | none => exact .pure trivial
    | some n => exact (ensures_take ⟨_, rfl⟩).bind fun _ _ => .pure trivial
  exact hbytes.bind fun _ _ => .pure trivial

theorem ensures_u32 : Ensures u32 (fun _ => True) Error.IsMalformed :=
  (ensures_number ⟨_, rfl⟩).bind fun _ _ => .pure trivial

end Reader

/-! ## Before the type, and from it on -/

namespace Column

open Reader

/-- What a definition says before the type. -/
structure Front where
  schema : String
  table : String
  orgTable : String
  name : String
  orgName : String
  charset : UInt16
  length : UInt32

/-- Read what stands before the type. -/
def frontReader : Reader Front := do
  let _catalog ← lenEncText
  let schema ← lenEncText
  let table ← lenEncText
  let orgTable ← lenEncText
  let name ← lenEncText
  let orgName ← lenEncText
  let _length ← lenEncCount
  let charset ← u16
  let length ← u32
  return { schema, table, orgTable, name, orgName, charset, length }

/-- Read what stands behind the type. -/
def Front.readEnd (front : Front) (type : ColumnType) : Reader Column := do
  let flags ← u16
  let decimals ← u8
  return { schema := front.schema, table := front.table, orgTable := front.orgTable,
           name := front.name, orgName := front.orgName, charset := front.charset,
           length := front.length, type, flags := ⟨flags⟩, decimals }

/-- A definition is read in two parts. -/
theorem reader_eq :
    reader = frontReader >>= fun front => ColumnType.reader >>= front.readEnd := by
  simp only [reader, frontReader, bind_assoc, pure_bind]
  rfl

/-- What may stand before the type: six texts, the length of what follows them, two numbers. -/
def IsFront : Bytes → Prop :=
  Wire.Fields [Wire.IsText, Wire.IsText, Wire.IsText, Wire.IsText, Wire.IsText, Wire.IsText,
    Wire.IsCount, Wire.IsWord 2, Wire.IsWord 4]

theorem takes_frontReader : Takes frontReader IsFront :=
  takes_lenEncText.bind fun _ => takes_lenEncText.bind fun _ => takes_lenEncText.bind fun _ =>
    takes_lenEncText.bind fun _ => takes_lenEncText.bind fun _ => takes_lenEncText.bind fun _ =>
    takes_lenEncCount.bind fun _ => takes_u16.bind fun _ => takes_u32.bind fun _ => takes_pure _

theorem takes_reader :
    Takes reader (Wire.Fields [IsFront, Wire.IsTag, Wire.IsWord 2, Wire.IsWord 1]) := by
  rw [reader_eq]
  exact takes_frontReader.bind fun _ => takes_columnType.bind fun _ => takes_u16.bind fun _ =>
    takes_u8.bind fun _ => takes_pure _

theorem ensures_frontReader : Ensures frontReader (fun _ => True) Error.IsMalformed :=
  ensures_lenEncText.bind fun _ _ => ensures_lenEncText.bind fun _ _ =>
    ensures_lenEncText.bind fun _ _ => ensures_lenEncText.bind fun _ _ =>
    ensures_lenEncText.bind fun _ _ => ensures_lenEncText.bind fun _ _ =>
    ensures_lenEncCount.bind fun _ _ => (ensures_u16 ⟨_, rfl⟩).bind fun _ _ =>
    ensures_u32.bind fun _ _ => .pure trivial

theorem ensures_readEnd (front : Front) (type : ColumnType) :
    Ensures (front.readEnd type) (fun _ => True) Error.IsMalformed :=
  (ensures_u16 ⟨_, rfl⟩).bind fun _ _ => (ensures_u8 ⟨_, rfl⟩).bind fun _ _ => .pure trivial

/-! ## Octets that stand for no type -/

/-- From an octet in the place of the type on, only that octet can fail as no type. -/
theorem readType_eq_decode_iff (front : Front) (tag : UInt8) (rest : Bytes) (fault : DecodeFault) :
    (ColumnType.reader >>= front.readEnd).parse (tag :: rest) = .error (.decode fault) ↔
      ColumnType.ofTag? tag = none ∧ fault = .columnType tag := by
  cases htype : ColumnType.ofTag? tag with
  | none =>
    have hread : ColumnType.reader (tag :: rest) = .error (.decode (.columnType tag)) rest := by
      rw [ColumnType.reader, bind_of_ok (u8_cons tag rest), htype]
      rfl
    rw [Reader.parse, bind_apply, hread]
    simp [eq_comm]
  | some type =>
    have hread : ColumnType.reader (tag :: rest) = .ok type rest := by
      rw [ColumnType.reader, bind_of_ok (u8_cons tag rest), htype]
      rfl
    have hparse : (ColumnType.reader >>= front.readEnd).parse (tag :: rest) =
        (front.readEnd type).parse rest := by
      rw [Reader.parse, bind_of_ok hread, Reader.parse]
    rw [hparse]
    constructor
    · intro hfails
      obtain ⟨malformed, heq⟩ := (ensures_readEnd front type).of_parse_error hfails
      cases heq
    · rintro ⟨hnone, -⟩
      cases hnone

/-- An octet stands for no type exactly if it is the tag of none. -/
theorem ofTag?_eq_none_iff {tag : UInt8} :
    ColumnType.ofTag? tag = none ↔ ∀ type : ColumnType, type.tag ≠ tag := by
  constructor
  · rintro hnone type rfl
    rw [ColumnType.ofTag?_tag] at hnone
    cases hnone
  · intro hne
    cases htype : ColumnType.ofTag? tag with
    | none => rfl
    | some type => exact absurd (ColumnType.tag_of_ofTag? htype) (hne type)

/-- **Only an octet that stands for no type fails as one**, behind everything that stands before the
type. -/
theorem parse_eq_decode_iff {payload : Bytes} {fault : DecodeFault} :
    parse payload = .error (.decode fault) ↔
      ∃ front tag rest, payload = front ++ tag :: rest ∧ IsFront front ∧
        (∀ type : ColumnType, type.tag ≠ tag) ∧ fault = .columnType tag := by
  cases hfront : frontReader payload with
  | error error left =>
    have hparse : parse payload = .error error := by
      rw [parse, reader_eq, Reader.parse, bind_apply, hfront]
    rw [hparse]
    refine iff_of_false (fun hfails => ?_) ?_
    · have hmalformed := ensures_frontReader payload
      rw [hfront] at hmalformed
      obtain ⟨malformed, rfl⟩ := hmalformed
      cases hfails
    · rintro ⟨front, tag, rest, rfl, hform, -⟩
      obtain ⟨value, hread⟩ := (takes_frontReader _ (tag :: rest)).mpr ⟨front, hform, rfl⟩
      rw [hread] at hfront
      cases hfront
  | ok value left =>
    have hparse : parse payload = (ColumnType.reader >>= value.readEnd).parse left := by
      rw [parse, reader_eq, Reader.parse, bind_of_ok hfront, Reader.parse]
    rw [hparse]
    obtain ⟨front, hform, rfl⟩ := (takes_frontReader _ _).mp ⟨value, hfront⟩
    cases left with
    | nil =>
      refine iff_of_false (fun hfails => ?_) ?_
      · cases hfails
      · rintro ⟨front', tag, rest, heq, hform', -⟩
        cases (takes_frontReader.append_inj hform hform' heq).2
    | cons octet left =>
      rw [readType_eq_decode_iff, ofTag?_eq_none_iff]
      constructor
      · rintro ⟨hne, rfl⟩
        exact ⟨front, octet, left, rfl, hform, hne, rfl⟩
      · rintro ⟨front', tag, rest, heq, hform', hne, rfl⟩
        obtain ⟨rfl, rfl⟩ := List.cons_eq_cons.mp
          (takes_frontReader.append_inj hform hform' heq).2
        exact ⟨hne, rfl⟩

end Column

/-! ## The packet for a definition -/

namespace Sent.Column

open Reader

/-- The packet in which a server that writes UTF-8 puts a definition. -/
def ofTexts (catalog : String) (column : MySqlClient.Column) (more : Bytes) : Column where
  catalog := Bytes.ofString catalog
  schema := Bytes.ofString column.schema
  table := Bytes.ofString column.table
  orgTable := Bytes.ofString column.orgTable
  name := Bytes.ofString column.name
  orgName := Bytes.ofString column.orgName
  charset := column.charset
  length := column.length
  type := column.type
  flags := column.flags
  decimals := column.decimals
  more

theorem definition_ofTexts (catalog : String) (column : MySqlClient.Column) (more : Bytes) :
    (ofTexts catalog column more).definition = column := by
  simp only [definition, ofTexts, Utf8.decodeLossy_ofString]

variable {column : Column}

/-- What stands before the type. -/
def front (column : Column) : Bytes :=
  Wire.lenEncBytes column.catalog ++ (Wire.lenEncBytes column.schema ++
    (Wire.lenEncBytes column.table ++ (Wire.lenEncBytes column.orgTable ++
    (Wire.lenEncBytes column.name ++ (Wire.lenEncBytes column.orgName ++
    (Wire.lenEncInt 0x0C ++ (Bytes.ofNat 2 column.charset.toNat ++
    Bytes.ofNat 4 column.length.toNat)))))))

/-- The packet with any octet in the place of the type. -/
def encodeAs (tag : UInt8) (column : Column) : Bytes :=
  column.front ++ tag :: (Bytes.ofNat 2 column.flags.bits.toNat ++ column.decimals :: column.more)

/-- What a server puts before the type is what may stand there. -/
theorem isFront_front (h : column.Fits) : MySqlClient.Column.IsFront column.front := by
  simp only [Fits, texts, List.forall_mem_cons] at h
  obtain ⟨hcatalog, hschema, htable, horgTable, hname, horgName, -⟩ := h
  have htext {octets : Bytes} (hlength : octets.length < UInt64.size) :
      Wire.IsText (Wire.lenEncBytes octets) :=
    ⟨_, recognizes_lenEncBytes.form_of_reads (reads_lenEncBytes hlength)⟩
  have hcount : Wire.IsCount (Wire.lenEncInt 0x0C) :=
    ⟨_, recognizes_lenEncInt.form_of_reads (reads_lenEncInt 0x0C)⟩
  exact .cons (htext hcatalog) <| .cons (htext hschema) <| .cons (htext htable) <|
    .cons (htext horgTable) <| .cons (htext hname) <| .cons (htext horgName) <| .cons hcount <|
    .cons (Bytes.length_ofNat 2 _) <| .single (Bytes.length_ofNat 4 _)

/-- A definition that ends before its last field does is refused. -/
theorem exists_parse_eq_error (h : column.Fits) {cut rest : Bytes}
    (hcut : column.encode = cut ++ rest) (hrest : column.more.length < rest.length) :
    ∃ error, MySqlClient.Column.parse cut = .error error := by
  have hread := read_encode h
  rw [hcut] at hread
  exact MySqlClient.Column.takes_reader.exists_parse_eq_error hread hrest

/-- A definition with any octet in the place of the type fails for it exactly if it has come that
far, and the octet stands for no type. -/
theorem exists_parse_eq_decode_iff (h : column.Fits) {tag : UInt8} {cut rest : Bytes}
    (hcut : column.encodeAs tag = cut ++ rest) :
    (∃ fault, MySqlClient.Column.parse cut = .error (.decode fault)) ↔
      column.front.length < cut.length ∧ ∀ type : ColumnType, type.tag ≠ tag := by
  simp only [MySqlClient.Column.parse_eq_decode_iff]
  constructor
  · rintro ⟨-, front, octet, left, rfl, hfront, hne, -⟩
    rw [encodeAs, List.append_assoc] at hcut
    obtain ⟨rfl, htail⟩ :=
      MySqlClient.Column.takes_frontReader.append_inj (isFront_front h) hfront hcut
    obtain ⟨rfl, -⟩ := List.cons_eq_cons.mp htail
    refine ⟨?_, hne⟩
    rw [List.length_append, List.length_cons]
    omega
  · rintro ⟨hlength, hne⟩
    rcases List.append_eq_append_iff.mp hcut with ⟨between, rfl, htail⟩ | ⟨between, hfront, -⟩
    · cases between with
      | nil =>
        rw [List.append_nil] at hlength
        exact absurd hlength (Nat.lt_irrefl _)
      | cons octet left =>
        obtain ⟨rfl, -⟩ := List.cons_eq_cons.mp htail
        exact ⟨_, column.front, tag, left, rfl, isFront_front h, hne, rfl⟩
    · rw [hfront, List.length_append] at hlength
      omega

end Sent.Column

namespace Column

/-- **A definition is read back, and only a definition is.**  The packet for it, with anything behind
it, is read as the definition.  A packet that ends before the last field does is refused.  With
another octet in the place of the type, the packet or what has come of it fails for that octet
exactly if the octet has come, and stands for no type.  And whatever octets they are, they fail for
one of them exactly if it stands for no type, behind everything that stands before the type. -/
theorem parse_sent {catalog : String} {column : Column} {more : Bytes}
    (h : (Sent.Column.ofTexts catalog column more).Fits) :
    let sent := Sent.Column.ofTexts catalog column more
    parse sent.encode = .ok column ∧
      (∀ cut rest, sent.encode = cut ++ rest → more.length < rest.length →
        ∃ error, parse cut = .error error) ∧
      (∀ tag cut rest, sent.encodeAs tag = cut ++ rest →
        ((∃ fault, parse cut = .error (.decode fault)) ↔
          sent.front.length < cut.length ∧ ∀ type : ColumnType, type.tag ≠ tag)) ∧
      ∀ payload fault, parse payload = .error (.decode fault) ↔
        ∃ front tag rest, payload = front ++ tag :: rest ∧ IsFront front ∧
          (∀ type : ColumnType, type.tag ≠ tag) ∧ fault = .columnType tag := by
  intro sent
  refine ⟨?_, fun cut rest hcut hrest => ?_, fun tag cut rest hcut => ?_, fun payload fault => ?_⟩
  · rw [Sent.Column.parse_encode h, Sent.Column.definition_ofTexts]
  · exact Sent.Column.exists_parse_eq_error h hcut hrest
  · exact Sent.Column.exists_parse_eq_decode_iff h hcut
  · exact parse_eq_decode_iff

/-- A column of a table `t`, with a key that has no sign. -/
def keyColumn : Column where
  schema := "d"
  table := "t"
  orgTable := "t"
  name := "id"
  orgName := "id"
  charset := 63
  length := 20
  type := .longLong
  flags := ⟨0x0023⟩
  decimals := 0

/-- What is read of it; a cut in the flags; and another octet in the place of the type. -/
theorem parse_sent_keyColumn :
    let front : Bytes := [3, 0x64, 0x65, 0x66, 1, 0x64, 1, 0x74, 1, 0x74, 2, 0x69, 0x64, 2, 0x69, 0x64,
      0x0C, 63, 0, 20, 0, 0, 0]
    parse (front ++ [0x08, 0x23, 0, 0, 0, 0]) = .ok keyColumn ∧
      (∃ error, parse (front ++ [0x08, 0x23]) = .error error) ∧
      ∃ fault, parse (front ++ [0x42]) = .error (.decode fault) := by
  intro front
  have hfits : (Sent.Column.ofTexts "def" keyColumn [0, 0]).Fits := by
    show ∀ text ∈ _, _
    decide +kernel
  obtain ⟨hread, hcut, htag, -⟩ := parse_sent hfits
  refine ⟨hread, hcut _ [0, 0, 0, 0] rfl (by decide), ?_⟩
  exact (htag 0x42 (front ++ [0x42]) [0x23, 0, 0, 0, 0] rfl).mpr ⟨by decide, fun type => by
    cases type <;> decide⟩

end Column

end MySqlClient
