import MySqlClient.Column
import MySqlClient.Response
import MySqlClient.Proofs.Wire.RoundTrip

/-!
# Responses as a server sends them

The packets a server answers with as data, with their layouts, and what a client reads in them.

* `Sent.Ok`: an OK packet, also in the place of the EOF packet that ends a result set;
  `Sent.Ok.parse_encode`, `Sent.Ok.parseEnd_encodeEnd`.
* `EofPacket.encode`, `PrepareOk.encode`: packets without text.
* `Sent.Err`: an ERR packet; `Sent.Err.parse_encode`.
* `Sent.Column`: the definition of a column; `Sent.Column.parse_encode`.

Texts are octets here, in whichever character set the server has; a client reads them as UTF-8, and
puts a mark where they are not.
-/

namespace MySqlClient

open Reader

theorem Reader.reads_header (expected : UInt8) (fault : ProtocolFault) :
    Reads (Reader.header expected fault) [expected] () := by
  intro rest
  rw [Reader.header, bind_of_ok (reads_u8 expected rest), if_neg (by simp)]
  rfl

namespace Sent

/-- An OK packet. -/
structure Ok where
  affectedRows : UInt64 := 0
  lastInsertId : UInt64 := 0
  status : StatusFlags := .none
  warnings : UInt16 := 0
  /-- The text at the end, if there is one. -/
  info : Option Bytes := none
  /-- Changes of the session, behind a text. -/
  changes : Bytes := []

namespace Ok

/-- Status and warnings, for clients that know them. -/
def statusField (capabilities : Capabilities) (ok : Ok) : Bytes :=
  if capabilities.contains .protocol41 then
    Bytes.ofNat 2 ok.status.bits.toNat ++ Bytes.ofNat 2 ok.warnings.toNat
  else []

/-- The text, behind its length where something may follow it. -/
def infoField (capabilities : Capabilities) (ok : Ok) : Bytes :=
  match ok.info with
  | none => []
  | some text =>
    if capabilities.contains .sessionTrack then Wire.lenEncBytes text ++ ok.changes else text

/-- The packet, behind a header. -/
def encode (header : UInt8) (capabilities : Capabilities) (ok : Ok) : Bytes :=
  header :: (Wire.lenEncInt ok.affectedRows ++ (Wire.lenEncInt ok.lastInsertId ++
    (ok.statusField capabilities ++ ok.infoField capabilities)))

/-- What a client learns. -/
def summary (capabilities : Capabilities) (ok : Ok) : Summary where
  affectedRows := ok.affectedRows
  lastInsertId := ok.lastInsertId
  status := if capabilities.contains .protocol41 then ok.status else .none
  warnings := if capabilities.contains .protocol41 then ok.warnings else 0
  info := Utf8.decodeLossy (ok.info.getD [])

/-- The length of the text can be written. -/
def Fits (ok : Ok) : Prop :=
  ∀ text, ok.info = some text → text.length < UInt64.size

theorem reads_statusField (capabilities : Capabilities) (ok : Ok) (summary : Summary) :
    Reads (Summary.readStatus capabilities summary) (ok.statusField capabilities)
      (if capabilities.contains .protocol41 then
        { summary with status := ok.status, warnings := ok.warnings }
      else summary) := by
  unfold statusField Summary.readStatus
  split
  · have hwarnings := (reads_u16 ok.warnings).map fun warnings =>
      { summary with status := ok.status, warnings }
    exact (reads_u16 ok.status.bits).bind _ hwarnings
  · exact Reads.pure summary

theorem readInfo_infoField {ok : Ok} (h : ok.Fits) (capabilities : Capabilities)
    (summary : Summary) (hinfo : summary.info = "") :
    ∃ rest, Summary.readInfo capabilities summary (ok.infoField capabilities) =
      .ok { summary with info := Utf8.decodeLossy (ok.info.getD []) } rest := by
  unfold infoField Summary.readInfo
  cases htext : ok.info with
  | none =>
    refine ⟨[], ?_⟩
    have hsummary : { summary with info := Utf8.decodeLossy [] } = summary := by
      rw [Utf8.decodeLossy_nil, ← hinfo]
    rw [Option.getD_none, hsummary]
    split
    · rfl
    · rw [bind_of_ok (show remainder [] = .ok [] [] from rfl), hsummary]
      rfl
  | some text =>
    rw [Option.getD_some]
    split
    · refine ⟨ok.changes, ?_⟩
      obtain ⟨lead, rest, hlead, -⟩ := Wire.exists_lenEncBytes_eq_cons text
      have hpeek : (Wire.lenEncBytes text ++ ok.changes).isEmpty = false := by
        rw [hlead]
        rfl
      have hread := (reads_lenEncText (h text htext)).map
        (fun info => { summary with info }) ok.changes
      rw [peek_bind, if_neg (by rw [hpeek]; decide)]
      exact hread
    · exact ⟨[], rfl⟩

/-- **A client learns from an OK packet what the server put into it.** -/
theorem parse_encode {header : UInt8}
    (hheader : header = Packet.okHeader ∨ header = Packet.eofHeader) {ok : Ok} (h : ok.Fits)
    (capabilities : Capabilities) :
    Summary.parse capabilities (ok.encode header capabilities) =
      .ok (ok.summary capabilities) := by
  have htest : (header != Packet.okHeader && header != Packet.eofHeader) = false := by
    rcases hheader with rfl | rfl <;> decide
  let counts : Summary := { affectedRows := ok.affectedRows, lastInsertId := ok.lastInsertId }
  let status : Summary := if capabilities.contains .protocol41 then
    { counts with status := ok.status, warnings := ok.warnings } else counts
  have hinfo : status.info = "" := by
    simp only [status]
    split <;> rfl
  obtain ⟨rest, hlast⟩ := readInfo_infoField h capabilities status hinfo
  have hsummary : { status with info := Utf8.decodeLossy (ok.info.getD []) } =
      ok.summary capabilities := by
    simp only [status, summary]
    split <;> rfl
  rw [hsummary] at hlast
  have hread : Summary.reader capabilities (ok.encode header capabilities) =
      .ok (ok.summary capabilities) rest := by
    rw [Summary.reader, encode, bind_of_ok (u8_cons header _)]
    dsimp only
    rw [htest, if_neg (by decide), bind_of_ok (reads_lenEncCount ok.affectedRows _),
      bind_of_ok (reads_lenEncCount ok.lastInsertId _),
      bind_of_ok (reads_statusField capabilities ok counts _)]
    exact hlast
  rw [Summary.parse, Reader.parse, hread]

theorem head?_encode (header : UInt8) (capabilities : Capabilities) (ok : Ok) :
    (ok.encode header capabilities).head? = some header := rfl

end Ok

end Sent

/-! ## Packets without text -/

namespace EofPacket

/-- The packet, for a client that knows its fields or not. -/
def encode (capabilities : Capabilities) (eof : EofPacket) : Bytes :=
  Packet.eofHeader ::
    if capabilities.contains .protocol41 then
      Bytes.ofNat 2 eof.warnings.toNat ++ Bytes.ofNat 2 eof.status.bits.toNat
    else []

theorem length_encode_le (capabilities : Capabilities) (eof : EofPacket) :
    (eof.encode capabilities).length ≤ 5 := by
  unfold encode
  split <;> simp

theorem parse_encode (capabilities : Capabilities) (eof : EofPacket) :
    EofPacket.parse capabilities (eof.encode capabilities) =
      .ok (if capabilities.contains .protocol41 then eof else {}) := by
  have hheader := reads_header Packet.eofHeader .notEof
  unfold EofPacket.parse EofPacket.reader encode
  split
  · have hstatus := (reads_u16 eof.status.bits).map fun status =>
      ({ warnings := eof.warnings, status := ⟨status⟩ } : EofPacket)
    exact (hheader.bind _ ((reads_u16 eof.warnings).bind _ hstatus)).parse
  · rfl

/-- An EOF packet is told by its length. -/
theorem isEof_encode (capabilities : Capabilities) (eof : EofPacket) (sequence : UInt8) :
    (Packet.mk sequence (eof.encode capabilities)).isEof = true :=
  (Packet.isEof_iff _).mpr ⟨rfl, Nat.lt_of_le_of_lt (length_encode_le capabilities eof) (by decide)⟩

end EofPacket

namespace PrepareOk

/-- The answer to a preparation.  What follows the number of warnings is for clients that asked for
it. -/
def encode (answer : PrepareOk) (more : Bytes) : Bytes :=
  Packet.okHeader :: (Bytes.ofNat 4 answer.statementId.toNat ++
    (Bytes.ofNat 2 answer.columns.toNat ++ (Bytes.ofNat 2 answer.parameters.toNat ++
      ([0] ++ (Bytes.ofNat 2 answer.warnings.toNat ++ more)))))

theorem reads_warnings (n : UInt16) : Reads readWarnings (Bytes.ofNat 2 n.toNat) n := by
  intro rest
  have hlong : Bytes.hasAtLeast 2 (Bytes.ofNat 2 n.toNat ++ rest) = true := by
    simp
  rw [readWarnings, peek_bind, if_pos hlong]
  exact reads_u16 n rest

theorem parse_encode (answer : PrepareOk) (more : Bytes) :
    PrepareOk.parse (answer.encode more) = .ok answer := by
  have hheader := reads_header Packet.okHeader .notPrepareOk
  have hwarnings := (reads_warnings answer.warnings).map fun warnings =>
    ({ answer with warnings } : PrepareOk)
  have hread : Reads PrepareOk.reader _ answer :=
    hheader.bind _ <| (reads_u32 answer.statementId).bind _ <| (reads_u16 answer.columns).bind _ <|
      (reads_u16 answer.parameters).bind _ <| (reads_u8 0).bind _ hwarnings
  have hparse := hread.parse_append more
  simp only [List.append_assoc] at hparse
  exact hparse

end PrepareOk

/-! ## The end of a result set -/

namespace Sent.Ok

/-- What ends a result set: an OK packet where EOF packets are deprecated, an EOF packet
otherwise. -/
def encodeEnd (capabilities : Capabilities) (ok : Ok) : Bytes :=
  if capabilities.contains .deprecateEof then ok.encode Packet.eofHeader capabilities
  else EofPacket.encode capabilities ⟨ok.warnings, ok.status⟩

/-- What a client learns from the end of a result set. -/
def endSummary (capabilities : Capabilities) (ok : Ok) : Summary :=
  if capabilities.contains .deprecateEof then ok.summary capabilities
  else if capabilities.contains .protocol41 then { status := ok.status, warnings := ok.warnings }
  else {}

/-- The end of a result set can be told from a row, and an OK packet from an EOF packet. -/
def Ends (capabilities : Capabilities) (ok : Ok) : Prop :=
  ok.Fits ∧ (ok.encodeEnd capabilities).length < Packet.maxFramePayload ∧
    (capabilities.contains .deprecateEof = true → 6 ≤ (ok.encodeEnd capabilities).length)

theorem head?_encodeEnd (capabilities : Capabilities) (ok : Ok) :
    (ok.encodeEnd capabilities).head? = some Packet.eofHeader := by
  unfold encodeEnd
  split <;> rfl

theorem isResultSetEnd_encodeEnd {capabilities : Capabilities} {ok : Ok}
    (h : ok.Ends capabilities) (sequence : UInt8) :
    (Packet.mk sequence (ok.encodeEnd capabilities)).isResultSetEnd = true :=
  (Packet.isResultSetEnd_iff _).mpr ⟨head?_encodeEnd capabilities ok, h.2.1⟩

/-- **A client learns from the end of a result set what the server put into it.** -/
theorem parseEnd_encodeEnd {capabilities : Capabilities} {ok : Ok} (h : ok.Ends capabilities) :
    Summary.parseEnd capabilities (ok.encodeEnd capabilities) =
      .ok (ok.endSummary capabilities) := by
  obtain ⟨hfits, -, hlong⟩ := h
  unfold Summary.parseEnd encodeEnd endSummary at *
  by_cases hdeprecated : capabilities.contains .deprecateEof = true
  · simp only [hdeprecated, if_true, true_implies] at hlong ⊢
    rw [if_pos (by simpa using hlong)]
    exact parse_encode (Or.inr rfl) hfits capabilities
  · simp only [hdeprecated, if_false, Bool.false_and, Bool.false_eq_true]
    rw [EofPacket.parse_encode]
    split <;> rfl

end Sent.Ok

/-! ## Errors -/

namespace Sent

/-- An ERR packet. -/
structure Err where
  code : UInt16
  /-- The SQLSTATE, for clients that know it. -/
  state : Option Bytes := none
  message : Bytes := []

namespace Err

/-- The SQLSTATE, behind its mark. -/
def stateField (err : Err) : Bytes :=
  match err.state with
  | some state => ServerError.sqlStateMark :: state
  | none => []

/-- The packet. -/
def encode (err : Err) : Bytes :=
  Packet.errHeader :: (Bytes.ofNat 2 err.code.toNat ++ (err.stateField ++ err.message))

/-- What a client learns. -/
def report (err : Err) : ServerError where
  code := err.code
  sqlState := err.state.map Utf8.decodeLossy
  message := Utf8.decodeLossy err.message

/-- The SQLSTATE is one, and can be told from the message. -/
def Fits (capabilities : Capabilities) (err : Err) : Prop :=
  match err.state with
  | some state =>
    capabilities.contains .protocol41 = true ∧ state.length = ServerError.sqlStateLength
  | none =>
    capabilities.contains .protocol41 = true → err.message.head? ≠ some ServerError.sqlStateMark

theorem readSqlState_stateField {capabilities : Capabilities} {err : Err}
    (h : err.Fits capabilities) :
    ServerError.readSqlState capabilities (err.stateField ++ err.message) =
      .ok (err.state.map Utf8.decodeLossy) err.message := by
  unfold stateField Fits ServerError.readSqlState at *
  rw [peek_bind]
  cases hstate : err.state with
  | some state =>
    rw [hstate] at h
    have htake := (reads_take_of_length_eq h.2).map fun state => some (Utf8.decodeLossy state)
    rw [if_pos (by simp [h.1]), List.cons_append, bind_of_ok (u8_cons _ _)]
    exact htake err.message
  | none =>
    rw [hstate] at h
    rw [if_neg]
    · rfl
    · simpa using h

/-- **A client learns from an ERR packet what the server put into it.** -/
theorem parse_encode {capabilities : Capabilities} {err : Err} (h : err.Fits capabilities) :
    ServerError.parse capabilities err.encode = .ok err.report := by
  have hheader := reads_header Packet.errHeader .notErr
  have hread : ServerError.reader capabilities err.encode = .ok err.report [] := by
    rw [ServerError.reader, encode, ← List.singleton_append, bind_of_ok (hheader _),
      bind_of_ok (reads_u16 err.code _), bind_of_ok (readSqlState_stateField h)]
    rfl
  rw [ServerError.parse, Reader.parse, hread]

end Err

end Sent

/-- Only ERR packets report progress. -/
theorem isProgressReport_of_head?_ne {capabilities : Capabilities} {payload : Bytes}
    (h : payload.head? ≠ some Packet.errHeader) :
    isProgressReport capabilities payload = false := by
  unfold isProgressReport
  rw [Bool.and_eq_false_iff]
  right
  split
  · next header low high rest =>
    have hne : header ≠ Packet.errHeader := fun heq => h (by rw [heq]; rfl)
    rw [beq_eq_false_iff_ne.mpr hne, Bool.false_and]
  · rfl

/-! ## Columns -/

namespace Sent

/-- The definition of a column. -/
structure Column where
  catalog : Bytes
  schema : Bytes
  table : Bytes
  orgTable : Bytes
  name : Bytes
  orgName : Bytes
  charset : UInt16
  length : UInt32
  type : ColumnType
  flags : ColumnFlags
  decimals : UInt8
  /-- What follows for clients that asked for it. -/
  more : Bytes := []

namespace Column

/-- The texts of a definition. -/
def texts (column : Column) : List Bytes :=
  [column.catalog, column.schema, column.table, column.orgTable, column.name, column.orgName]

/-- The lengths of the texts can be written. -/
def Fits (column : Column) : Prop :=
  ∀ text ∈ column.texts, text.length < UInt64.size

/-- The packet. -/
def encode (column : Column) : Bytes :=
  Wire.lenEncBytes column.catalog ++ (Wire.lenEncBytes column.schema ++
    (Wire.lenEncBytes column.table ++ (Wire.lenEncBytes column.orgTable ++
    (Wire.lenEncBytes column.name ++ (Wire.lenEncBytes column.orgName ++
    (Wire.lenEncInt 0x0C ++ (Bytes.ofNat 2 column.charset.toNat ++
    (Bytes.ofNat 4 column.length.toNat ++ ([column.type.tag] ++
    (Bytes.ofNat 2 column.flags.bits.toNat ++ ([column.decimals] ++ column.more)))))))))))

/-- What a client learns. -/
def definition (column : Column) : MySqlClient.Column where
  schema := Utf8.decodeLossy column.schema
  table := Utf8.decodeLossy column.table
  orgTable := Utf8.decodeLossy column.orgTable
  name := Utf8.decodeLossy column.name
  orgName := Utf8.decodeLossy column.orgName
  charset := column.charset
  length := column.length
  type := column.type
  flags := column.flags
  decimals := column.decimals

theorem reads_tag (type : ColumnType) : Reads ColumnType.reader [type.tag] type := by
  intro rest
  rw [ColumnType.reader, bind_of_ok (reads_u8 type.tag rest)]
  simp only [ColumnType.ofTag?_tag]
  rfl

/-- What a definition says is read, and what follows it is left. -/
theorem read_encode {column : Column} (h : column.Fits) :
    MySqlClient.Column.reader column.encode = .ok column.definition column.more := by
  simp only [Fits, texts, List.forall_mem_cons] at h
  obtain ⟨hcatalog, hschema, htable, horgTable, hname, horgName, -⟩ := h
  have hdecimals := (reads_u8 column.decimals).map fun decimals =>
    ({ column.definition with decimals } : MySqlClient.Column)
  have hread : Reads MySqlClient.Column.reader _ column.definition :=
    (reads_lenEncText hcatalog).bind _ <| (reads_lenEncText hschema).bind _ <|
      (reads_lenEncText htable).bind _ <| (reads_lenEncText horgTable).bind _ <|
      (reads_lenEncText hname).bind _ <| (reads_lenEncText horgName).bind _ <|
      (reads_lenEncCount 0x0C).bind _ <| (reads_u16 column.charset).bind _ <|
      (reads_u32 column.length).bind _ <| (reads_tag column.type).bind _ <|
      (reads_u16 column.flags.bits).bind _ hdecimals
  have hrest := hread column.more
  simp only [List.append_assoc] at hrest
  exact hrest

/-- **A client learns from a definition what the server put into it.** -/
theorem parse_encode {column : Column} (h : column.Fits) :
    MySqlClient.Column.parse column.encode = .ok column.definition := by
  rw [MySqlClient.Column.parse, Reader.parse, read_encode h]

/-- A definition does not begin like an error packet. -/
theorem head?_encode_ne (column : Column) : column.encode.head? ≠ some Packet.errHeader := by
  obtain ⟨lead, rest, hlead, hne⟩ := Wire.exists_lenEncBytes_eq_cons column.catalog
  rw [encode, hlead, List.cons_append, List.head?_cons]
  exact fun heq => hne (Option.some.inj heq)

end Column

end Sent

end MySqlClient
