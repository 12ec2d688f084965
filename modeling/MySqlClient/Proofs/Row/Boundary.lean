import MySqlClient.Proofs.Dialogue.TextQuery
import MySqlClient.Proofs.Exchange.Feed
import MySqlClient.Proofs.Row.Forms

/-!
# Text rows and what ends them

The lead octet of a text row belongs to the length of its first field, and a length of eight octets
has the same lead octet as an EOF packet.  Such a row fills a frame; nothing that ends a result set
does.

* `EofPacket.isResultSetEnd_encode`, `Sent.Ok.isResultSetEnd_encode`: what ends a result set.
* `Row.fits_text`: the rows that can be written.
* `TextQuery.feed_rows`, `TextQuery.feed_rows_ending`: a query takes any number of rows, and then
  the end behind them.
* `Row.encodeText_told_from_ends`: **no text row is taken for anything else, no end of a result set
  for a row, and the query goes on exactly to the end.**
-/

namespace MySqlClient

/-! ## Ends -/

/-- An EOF packet ends a result set. -/
theorem EofPacket.isResultSetEnd_encode (capabilities : Capabilities) (eof : EofPacket)
    (sequence : UInt8) : (Packet.mk sequence (eof.encode capabilities)).isResultSetEnd = true := by
  have hlength := eof.length_encode_le capabilities
  refine (Packet.isResultSetEnd_iff _).mpr ⟨rfl, Nat.lt_of_le_of_lt hlength ?_⟩
  decide

/-- An OK packet with the header of an EOF packet ends one, if it is short enough. -/
theorem Sent.Ok.isResultSetEnd_encode {capabilities : Capabilities} {ok : Sent.Ok}
    (h : (ok.encode Packet.eofHeader capabilities).length < Packet.maxFramePayload)
    (sequence : UInt8) :
    (Packet.mk sequence (ok.encode Packet.eofHeader capabilities)).isResultSetEnd = true :=
  (Packet.isResultSetEnd_iff _).mpr ⟨rfl, h⟩

/-! ## Rows -/

/-- A text row can be written if it has one field for each column, and no field has more octets than
can be counted in front of it. -/
theorem Row.fits_text {columns : List Column} {fields : List (Option Bytes)}
    (hcount : fields.length = columns.length)
    (hlength : ∀ octets, some octets ∈ fields → octets.length < UInt64.size) :
    Fits .text columns fields := by
  induction columns generalizing fields with
  | nil =>
    rw [List.length_eq_zero_iff.mp hcount]
    exact .nil
  | cons column columns ih =>
    obtain ⟨field, fields, rfl⟩ := List.exists_cons_of_length_eq_add_one hcount
    refine .cons (fun octets hfield => ?_) (ih (Nat.succ.inj hcount) fun octets hmem => ?_)
    · exact hlength octets (hfield ▸ List.mem_cons_self)
    · exact hlength octets (List.mem_cons_of_mem field hmem)

/-! ## Rows and their end -/

namespace TextQuery

variable {η : Type} {capabilities : Capabilities} {columns : List Column}

/-- What is handed over of some rows. -/
def handed (columns : List Column) (records : List (List (Option Bytes))) : List Delivered :=
  records.map fun fields => .row ⟨columns, fields, .text⟩

/-- A row is handed over, and the query waits in front of the next packet. -/
theorem hears_row (query : TextQuery η) (told : List Delivered) {fields : List (Option Bytes)}
    (hcolumns : columns ≠ []) (hfields : Row.Fits .text columns fields) :
    Hears capabilities (query.reached (.rows columns) told) (Row.encodeText fields) .wait
      (query.reached (.rows columns) (told ++ [.row ⟨columns, fields, .text⟩])) := by
  refine hears_of_onPacket (Row.head?_encode_ne hfields hcolumns) fun sequence => ?_
  have hend : (Packet.mk sequence (Row.encodeText fields)).isResultSetEnd = false :=
    Row.isResultSetEnd_encode hfields sequence
  have hdecode : Row.decodeText columns (Row.encodeText fields) = .ok ⟨columns, fields, .text⟩ :=
    Row.decode_encode hfields
  show onRow _ capabilities _ columns = _
  rw [onRow, hend, if_neg Bool.false_ne_true, hdecode, reached, reached, Delivery.handAll_append]
  rfl

/-- The end of the rows is the end of the statement. -/
theorem hears_ending (query : TextQuery η) (told : List Delivered) {ok : Sent.Ok}
    (h : ok.Ends capabilities) :
    Hears capabilities (query.reached (.rows columns) told) (ok.encodeEnd capabilities)
      ((query.reached (.rows columns) told).statementDone (ok.endSummary capabilities)).1
      ((query.reached (.rows columns) told).statementDone (ok.endSummary capabilities)).2 := by
  have hhead : (ok.encodeEnd capabilities).head? ≠ some Packet.errHeader := by
    rw [Sent.Ok.head?_encodeEnd]
    decide
  refine hears_of_onPacket hhead fun sequence => ?_
  show onRow _ capabilities _ columns = _
  rw [onRow, Sent.Ok.isResultSetEnd_encodeEnd h, if_pos rfl, Sent.Ok.parseEnd_encodeEnd h]
  rfl

/-- **Any number of rows is taken**, whatever comes behind them. -/
theorem feed_rows (query : TextQuery η) (hcolumns : columns ≠ [])
    {records : List (List (Option Bytes))}
    (hrecords : ∀ fields ∈ records, Row.Fits .text columns fields) {rows : List Packet}
    (hrows : rows.map Packet.payload = records.map Row.encodeText) (told : List Delivered)
    (behind : List Packet) :
    Command.feed capabilities (rows ++ behind) (query.reached (.rows columns) told) =
      let rest := Command.feed capabilities behind
        (query.reached (.rows columns) (told ++ handed columns records))
      (List.replicate records.length (.ok .wait) ++ rest.1, rest.2) := by
  -- row by row; what has been handed over grows at its end
  induction records generalizing rows told with
  | nil =>
    rw [List.map_eq_nil_iff.mp hrows, handed, List.map_nil, List.append_nil]
    rfl
  | cons fields records ih =>
    obtain ⟨⟨sequence, payload⟩, rows, rfl, rfl, hrest⟩ := List.map_eq_cons_iff.mp hrows
    obtain ⟨hfields, hrecords⟩ := List.forall_mem_cons.mp hrecords
    have hhears : Hears capabilities _ (Row.encodeText fields) .wait _ :=
      hears_row query told hcolumns hfields
    rw [List.cons_append, Command.feed_of_ok (hhears.2 sequence), Command.since_of_wait rfl,
      ih hrecords hrest, List.append_assoc]
    rfl

/-- **Rows and what ends them.**  The query waits for a packet behind each row, and at the end it
has handed over all of the rows. -/
theorem feed_rows_ending (query : TextQuery η) (hcolumns : columns ≠ [])
    {records : List (List (Option Bytes))}
    (hrecords : ∀ fields ∈ records, Row.Fits .text columns fields) {ok : Sent.Ok}
    (hok : ok.Ends capabilities) {rows : List Packet}
    (hrows : rows.map Packet.payload = records.map Row.encodeText) (sequence : UInt8)
    (behind : List Packet) :
    Command.feed capabilities (rows ++ ⟨sequence, ok.encodeEnd capabilities⟩ :: behind)
        (query.reached (.rows columns) []) =
      let rest := Command.since capabilities behind
        ((query.reached (.rows columns) (handed columns records)).statementDone
          (ok.endSummary capabilities))
      (List.replicate records.length (.ok .wait) ++ rest.1, rest.2) := by
  rw [feed_rows query hcolumns hrecords hrows, List.nil_append,
    Command.feed_of_ok ((hears_ending query _ hok).2 sequence)]

end TextQuery

namespace Row

/-- **No text row is taken for anything else, and no end of a result set for a row.**  A row with at
least one column, whose fields have lengths that can be written, is no error and no end, and its
fields are read back; every EOF packet is an end, and every OK packet with its header that is shorter
than a full frame; and a query takes the rows up to their end, and goes on behind it. -/
theorem encodeText_told_from_ends (capabilities : Capabilities) :
    (∀ (columns : List Column) (fields : List (Option Bytes)) (sequence : UInt8), fields ≠ [] →
      fields.length = columns.length →
      (∀ octets, some octets ∈ fields → octets.length < UInt64.size) →
      (Packet.mk sequence (encodeText fields)).isErr = false ∧
      (Packet.mk sequence (encodeText fields)).isResultSetEnd = false ∧
      decodeText columns (encodeText fields) = .ok ⟨columns, fields, .text⟩) ∧
    (∀ (eof : EofPacket) (sequence : UInt8),
      (Packet.mk sequence (eof.encode capabilities)).isResultSetEnd = true) ∧
    (∀ (ok : Sent.Ok) (sequence : UInt8),
      (ok.encode Packet.eofHeader capabilities).length < Packet.maxFramePayload →
      (Packet.mk sequence (ok.encode Packet.eofHeader capabilities)).isResultSetEnd = true) ∧
    (∀ (η : Type) (query : TextQuery η) (columns : List Column)
      (records : List (List (Option Bytes))) (ok : Sent.Ok) (rows behind : List Packet)
      (sequence : UInt8), columns ≠ [] → (∀ fields ∈ records, Fits .text columns fields) →
      ok.Ends capabilities → rows.map Packet.payload = records.map encodeText →
      Command.feed capabilities (rows ++ ⟨sequence, ok.encodeEnd capabilities⟩ :: behind)
          (query.reached (.rows columns) []) =
        let rest := Command.since capabilities behind
          ((query.reached (.rows columns) (TextQuery.handed columns records)).statementDone
            (ok.endSummary capabilities))
        (List.replicate records.length (.ok .wait) ++ rest.1, rest.2)) := by
  refine ⟨fun columns fields sequence hne hcount hlength => ?_,
    fun eof sequence => eof.isResultSetEnd_encode capabilities sequence,
    fun ok sequence hlength => Sent.Ok.isResultSetEnd_encode hlength sequence,
    fun η query columns records ok rows behind sequence hcolumns hrecords hok hrows =>
      query.feed_rows_ending hcolumns hrecords hok hrows sequence behind⟩
  have hfits := fits_text hcount hlength
  have hcolumns : columns ≠ [] := by
    rintro rfl
    exact hne (List.length_eq_zero_iff.mp hcount)
  exact ⟨Packet.isErr_eq_false (head?_encode_ne hfits hcolumns) sequence,
    isResultSetEnd_encode hfits sequence, (reads_textReader hfits).parse⟩

/-- A row with a field of 2^24 octets, whose length has the lead octet of an EOF packet. -/
def longRow : List (Option Bytes) :=
  [some (List.replicate 16777216 0x61), none]

/-- The columns of the row. -/
def longColumns : List Column :=
  [columnOf "essay" .blob, columnOf "note" .blob]

/-- A query for the row goes on to the end behind it. -/
theorem encodeText_told_from_ends_longRow :
    (Packet.mk 4 (encodeText longRow)).isErr = false ∧
      (Packet.mk 4 (encodeText longRow)).isResultSetEnd = false ∧
      decodeText longColumns (encodeText longRow) = .ok ⟨longColumns, longRow, .text⟩ ∧
      (Packet.mk 6 (Sent.Ok.encode Packet.eofHeader .clientDefault {})).isResultSetEnd = true ∧
      (Command.feed .clientDefault
        [⟨4, encodeText longRow⟩, ⟨6, Sent.Ok.encodeEnd .clientDefault {}⟩]
        (TextQuery.mk "SELECT essay, note FROM essays" ⟨Collected.sink, {}, none⟩
          (.rows longColumns))).1 = [.ok .wait, .ok .finished] := by
  have hlength : ∀ octets, some octets ∈ longRow → octets.length < UInt64.size := by
    intro octets hmem
    rcases List.mem_cons.mp hmem with hfirst | hsecond
    · rw [Option.some.inj hfirst, List.length_replicate]
      decide
    · cases List.mem_singleton.mp hsecond
  have hending : Sent.Ok.Ends .clientDefault {} := by
    refine ⟨?_, by decide, by decide⟩
    rintro text ⟨⟩
  obtain ⟨hrow, -, hend, hfeed⟩ := encodeText_told_from_ends .clientDefault
  obtain ⟨herr, hnoEnd, hdecode⟩ := hrow longColumns longRow 4 (List.cons_ne_nil _ _) rfl hlength
  refine ⟨herr, hnoEnd, hdecode, hend {} 6 (by decide), ?_⟩
  -- by the lemma, since nothing may compute the row
  have hrows : [Packet.mk 4 (encodeText longRow)].map Packet.payload = [longRow].map encodeText := by
    rw [List.map_singleton, List.map_singleton]
  have hanswers := hfeed Collected
    (TextQuery.mk "SELECT essay, note FROM essays" ⟨Collected.sink, {}, none⟩ .idle) longColumns
    [longRow] {} [⟨4, encodeText longRow⟩] [] 6 (List.cons_ne_nil _ _)
    (List.forall_mem_singleton.mpr (fits_text rfl hlength)) hending hrows
  exact congrArg Prod.fst hanswers

end Row

end MySqlClient
