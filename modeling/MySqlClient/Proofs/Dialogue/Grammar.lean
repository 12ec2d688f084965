import MySqlClient.Proofs.Dialogue.Answer

/-!
# The packets that may come next

Answers as a right-linear grammar: a place in an answer, and which packets may still come there.

* `ResultPlace`, `ResultPlace.Ahead`: places in the results of a statement;
  `ResultPlace.ahead_results`: the packets of results are ahead in front of the first one.
* `PreparePlace`, `PreparePlace.Ahead`: places in the answer to a preparation;
  `PreparePlace.ahead_items`.
* `ResultPlace.Ahead.head?_ne`, `PreparePlace.Ahead.head?_ne`: none of the packets looks like an
  ERR packet.
-/

namespace MySqlClient

open Sent (Item)

/-! ## Results -/

/-- A place in the results of a statement. -/
inductive ResultPlace where
  /-- In front of a result. -/
  | first
  /-- Columns are still to come, behind the ones that are there. -/
  | columns (remaining : Nat) (seen : List Column)
  | columnsEnd (columns : List Column)
  | rows (columns : List Column)
  /-- Behind the last result. -/
  | past
  deriving DecidableEq

namespace ResultPlace

/-- The place behind the last column. -/
def behindColumns (capabilities : Capabilities) (seen : List Column) : ResultPlace :=
  if capabilities.contains .deprecateEof then .rows seen else .columnsEnd seen

theorem behindColumns_ne_past (capabilities : Capabilities) (seen : List Column) :
    behindColumns capabilities seen ≠ .past := by
  unfold behindColumns
  split <;> simp

/-- The place behind a result. -/
def behindResult (summary : Summary) : ResultPlace :=
  if summary.status.moreResults then .first else .past

/-- What may still come at a place. -/
inductive Ahead (capabilities : Capabilities) (format : Format) : ResultPlace → List Item → Prop
  | past : Ahead capabilities format .past []
  | done {ok : Sent.Ok} {items : List Item} (hok : ok.Fits)
      (h : Ahead capabilities format (behindResult (ok.summary capabilities)) items) :
      Ahead capabilities format .first
        (⟨ok.encode Packet.okHeader capabilities, some (.summary (ok.summary capabilities))⟩ ::
          items)
  | count {count : UInt64} {items : List Item} (hcount : count ≠ 0)
      (h : Ahead capabilities format (.columns count.toNat []) items) :
      Ahead capabilities format .first (⟨Wire.lenEncInt count, none⟩ :: items)
  | column {column : Sent.Column} {remaining : Nat} {seen : List Column} {items : List Item}
      (hcolumn : column.Fits)
      (h : Ahead capabilities format (.columns (remaining + 1) (seen ++ [column.definition]))
        items) :
      Ahead capabilities format (.columns (remaining + 2) seen) (column.item :: items)
  | lastColumn {column : Sent.Column} {seen : List Column} {items : List Item}
      (hcolumn : column.Fits)
      (h : Ahead capabilities format (behindColumns capabilities (seen ++ [column.definition]))
        items) :
      Ahead capabilities format (.columns 1 seen) (column.item :: items)
  | columnsEnd {eof : EofPacket} {columns : List Column} {items : List Item}
      (h : Ahead capabilities format (.rows columns) items) :
      Ahead capabilities format (.columnsEnd columns) (⟨eof.encode capabilities, none⟩ :: items)
  | row {columns : List Column} {fields : List (Option Bytes)} {items : List Item}
      (hcolumns : columns ≠ []) (hfields : Row.Fits format columns fields)
      (h : Ahead capabilities format (.rows columns) items) :
      Ahead capabilities format (.rows columns) (Sent.rowItem format columns fields :: items)
  | ending {ok : Sent.Ok} {columns : List Column} {items : List Item} (hok : ok.Ends capabilities)
      (h : Ahead capabilities format (behindResult (ok.endSummary capabilities)) items) :
      Ahead capabilities format (.rows columns)
        (⟨ok.encodeEnd capabilities, some (.summary (ok.endSummary capabilities))⟩ :: items)

variable {capabilities : Capabilities} {format : Format} {items : List Item}

/-- Something comes at every place but the last. -/
theorem Ahead.ne_nil_iff {place : ResultPlace} (h : Ahead capabilities format place items) :
    items ≠ [] ↔ place ≠ .past := by
  cases h <;> simp

/-- **None of the packets looks like an ERR packet.** -/
theorem Ahead.head?_ne {place : ResultPlace} {item : Item}
    (h : Ahead capabilities format place (item :: items)) :
    item.payload.head? ≠ some Packet.errHeader := by
  cases h with
  | done =>
    rw [Sent.Ok.head?_encode]
    decide
  | @count count _ =>
    obtain ⟨lead, rest, hlead, hne, -⟩ := Wire.exists_lenEncInt_eq_cons count
    show (Wire.lenEncInt count).head? ≠ _
    rw [hlead]
    exact fun heq => hne (Option.some.inj heq)
  | column => exact Sent.Column.head?_encode_ne _
  | lastColumn => exact Sent.Column.head?_encode_ne _
  | columnsEnd =>
    show some Packet.eofHeader ≠ _
    decide
  | row hcolumns hfields => exact Row.head?_encode_ne hfields hcolumns
  | ending =>
    rw [Sent.Ok.head?_encodeEnd]
    decide

/-! ### Structured answers -/

theorem ahead_eofItems {seen : List Column} (h : Ahead capabilities format (.rows seen) items)
    (eof : EofPacket) :
    Ahead capabilities format (behindColumns capabilities seen)
      (Sent.eofItems capabilities eof ++ items) := by
  unfold behindColumns Sent.eofItems
  split
  · exact h
  · exact .columnsEnd h

theorem ahead_columns {columns : List Sent.Column} (hne : columns ≠ [])
    (hfits : ∀ column ∈ columns, column.Fits) {seen : List Column}
    (h : Ahead capabilities format
      (behindColumns capabilities (seen ++ columns.map Sent.Column.definition)) items) :
    Ahead capabilities format (.columns columns.length seen)
      (columns.map Sent.Column.item ++ items) := by
  induction columns generalizing seen with
  | nil => exact absurd rfl hne
  | cons column columns ih =>
    rw [List.forall_mem_cons] at hfits
    rw [List.map_cons, List.append_cons] at h
    cases columns with
    | nil =>
      rw [List.map_nil, List.append_nil] at h
      exact .lastColumn hfits.1 h
    | cons next columns => exact .column hfits.1 (ih (List.cons_ne_nil _ _) hfits.2 h)

theorem ahead_rows {columns : List Column} (hne : columns ≠ [])
    {records : List (List (Option Bytes))}
    (hfits : ∀ fields ∈ records, Row.Fits format columns fields)
    (h : Ahead capabilities format (.rows columns) items) :
    Ahead capabilities format (.rows columns)
      (records.map (Sent.rowItem format columns) ++ items) := by
  induction records with
  | nil => exact h
  | cons fields records ih =>
    rw [List.forall_mem_cons] at hfits
    exact .row hne hfits.1 (ih hfits.2)

theorem ahead_result {result : Sent.Result} (hvalid : result.Valid format capabilities)
    (h : Ahead capabilities format (behindResult (result.summary capabilities)) items) :
    Ahead capabilities format .first (result.items format capabilities ++ items) := by
  cases result with
  | done ok => exact .done hvalid h
  | rows columns columnsEnd records ending =>
    obtain ⟨hne, hlength, hcolumns, hrecords, hending⟩ := hvalid
    have hcount : (UInt64.ofNat columns.length).toNat = columns.length := by
      rw [UInt64.toNat_ofNat_of_lt' hlength]
    have hdefinitions : columns.map Sent.Column.definition ≠ [] := by
      simpa using hne
    have hrows := ahead_rows hdefinitions hrecords (.ending hending h)
    have hcolumnsEnd := ahead_eofItems hrows columnsEnd
    rw [← List.nil_append (columns.map Sent.Column.definition)] at hcolumnsEnd
    have hitems := ahead_columns hne hcolumns hcolumnsEnd
    rw [← hcount] at hitems
    have hzero : UInt64.ofNat columns.length ≠ 0 := by
      intro heq
      rw [heq] at hcount
      exact hne (List.length_eq_zero_iff.mp hcount.symm)
    have hall := Ahead.count hzero hitems
    simpa [Sent.Result.items] using hall

/-- **The packets of results are ahead in front of the first one.** -/
theorem ahead_results {results : List Sent.Result}
    (hchained : Sent.Result.Chained capabilities results)
    (hvalid : ∀ result ∈ results, result.Valid format capabilities) :
    Ahead capabilities format .first
      (results.flatMap (Sent.Result.items format capabilities)) := by
  induction results with
  | nil => exact hchained.elim
  | cons result results ih =>
    rw [List.forall_mem_cons] at hvalid
    rw [List.flatMap_cons]
    apply ahead_result hvalid.1
    rw [Sent.Result.Chained] at hchained
    rw [behindResult]
    split at hchained
    · next hmore =>
      rw [if_pos hmore]
      exact ih hchained hvalid.2
    · next hlast =>
      rw [if_neg hlast, hchained, List.flatMap_nil]
      exact .past

end ResultPlace

/-! ## Preparations -/

/-- A place in the answer to a preparation. -/
inductive PreparePlace where
  | first
  | parameters (remaining : Nat)
  | parametersEnd
  | columns (remaining : Nat)
  | columnsEnd
  | past
  deriving DecidableEq

namespace PreparePlace

/-- The place behind the parameters. -/
def behindParameters (statement : PrepareOk) : PreparePlace :=
  if 0 < statement.columns.toNat then .columns statement.columns.toNat else .past

/-- The place behind the first packet. -/
def behindFirst (statement : PrepareOk) : PreparePlace :=
  if 0 < statement.parameters.toNat then .parameters statement.parameters.toNat
  else behindParameters statement

/-- The place behind the last of some definitions, in front of their EOF packet or not. -/
def behindLast (capabilities : Capabilities) (ending behind : PreparePlace) : PreparePlace :=
  if capabilities.contains .deprecateEof then behind else ending

/-- What may still come at a place, in an answer that tells about `statement`. -/
inductive Ahead (capabilities : Capabilities) (statement : PrepareOk) :
    PreparePlace → List Item → Prop
  | past : Ahead capabilities statement .past []
  | first {more : Bytes} {items : List Item}
      (h : Ahead capabilities statement (behindFirst statement) items) :
      Ahead capabilities statement .first (⟨statement.encode more, none⟩ :: items)
  | parameter {column : Sent.Column} {remaining : Nat} {items : List Item} (hcolumn : column.Fits)
      (h : Ahead capabilities statement (.parameters (remaining + 1)) items) :
      Ahead capabilities statement (.parameters (remaining + 2)) (column.item :: items)
  | lastParameter {column : Sent.Column} {items : List Item} (hcolumn : column.Fits)
      (h : Ahead capabilities statement
        (behindLast capabilities .parametersEnd (behindParameters statement)) items) :
      Ahead capabilities statement (.parameters 1) (column.item :: items)
  | parametersEnd {eof : EofPacket} {items : List Item}
      (h : Ahead capabilities statement (behindParameters statement) items) :
      Ahead capabilities statement .parametersEnd (⟨eof.encode capabilities, none⟩ :: items)
  | column {column : Sent.Column} {remaining : Nat} {items : List Item} (hcolumn : column.Fits)
      (h : Ahead capabilities statement (.columns (remaining + 1)) items) :
      Ahead capabilities statement (.columns (remaining + 2)) (column.item :: items)
  | lastColumn {column : Sent.Column} {items : List Item} (hcolumn : column.Fits)
      (h : Ahead capabilities statement (behindLast capabilities .columnsEnd .past) items) :
      Ahead capabilities statement (.columns 1) (column.item :: items)
  | columnsEnd {eof : EofPacket} {items : List Item}
      (h : Ahead capabilities statement .past items) :
      Ahead capabilities statement .columnsEnd (⟨eof.encode capabilities, none⟩ :: items)

variable {capabilities : Capabilities} {statement : PrepareOk} {items : List Item}

/-- Something comes at every place but the last. -/
theorem Ahead.ne_nil_iff {place : PreparePlace} (h : Ahead capabilities statement place items) :
    items ≠ [] ↔ place ≠ .past := by
  cases h <;> simp

/-- **None of the packets looks like an ERR packet.** -/
theorem Ahead.head?_ne {place : PreparePlace} {item : Item}
    (h : Ahead capabilities statement place (item :: items)) :
    item.payload.head? ≠ some Packet.errHeader := by
  cases h with
  | first =>
    show some Packet.okHeader ≠ _
    decide
  | parameter => exact Sent.Column.head?_encode_ne _
  | lastParameter => exact Sent.Column.head?_encode_ne _
  | column => exact Sent.Column.head?_encode_ne _
  | lastColumn => exact Sent.Column.head?_encode_ne _
  | parametersEnd =>
    show some Packet.eofHeader ≠ _
    decide
  | columnsEnd =>
    show some Packet.eofHeader ≠ _
    decide

/-! ### Structured answers -/

theorem ahead_columns {columns : List Sent.Column} (hne : columns ≠ [])
    (hfits : ∀ column ∈ columns, column.Fits)
    (h : Ahead capabilities statement (behindLast capabilities .columnsEnd .past) items) :
    Ahead capabilities statement (.columns columns.length)
      (columns.map Sent.Column.item ++ items) := by
  induction columns with
  | nil => exact absurd rfl hne
  | cons column columns ih =>
    rw [List.forall_mem_cons] at hfits
    cases columns with
    | nil => exact .lastColumn hfits.1 h
    | cons next columns => exact .column hfits.1 (ih (List.cons_ne_nil _ _) hfits.2)

theorem ahead_parameters {columns : List Sent.Column} (hne : columns ≠ [])
    (hfits : ∀ column ∈ columns, column.Fits)
    (h : Ahead capabilities statement
      (behindLast capabilities .parametersEnd (behindParameters statement)) items) :
    Ahead capabilities statement (.parameters columns.length)
      (columns.map Sent.Column.item ++ items) := by
  induction columns with
  | nil => exact absurd rfl hne
  | cons column columns ih =>
    rw [List.forall_mem_cons] at hfits
    cases columns with
    | nil => exact .lastParameter hfits.1 h
    | cons next columns => exact .parameter hfits.1 (ih (List.cons_ne_nil _ _) hfits.2)

theorem ahead_columnsGroup {columns : List Sent.Column} (hfits : ∀ column ∈ columns, column.Fits)
    (hcount : statement.columns.toNat = columns.length) (eof : EofPacket) :
    Ahead capabilities statement (behindParameters statement)
      (Sent.Prepared.groupItems capabilities columns eof) := by
  rw [Sent.Prepared.groupItems, behindParameters, hcount]
  cases columns with
  | nil => exact .past
  | cons column columns =>
    rw [if_pos (by simp), if_neg (by simp)]
    apply ahead_columns (List.cons_ne_nil _ _) hfits
    unfold behindLast Sent.eofItems
    split
    · exact .past
    · exact .columnsEnd .past

/-- **The packets of the answer to a preparation are ahead in front of the first one.** -/
theorem ahead_items {prepared : Sent.Prepared} (hvalid : prepared.Valid) :
    Ahead capabilities prepared.statement .first (prepared.items capabilities) := by
  obtain ⟨hparameters, hcolumns, hfitsParameters, hfitsColumns⟩ := hvalid
  have hcountParameters : prepared.statement.parameters.toNat = prepared.parameters.length := by
    rw [Sent.Prepared.statement, UInt16.toNat_ofNat_of_lt' hparameters]
  have hcountColumns : prepared.statement.columns.toNat = prepared.columns.length := by
    rw [Sent.Prepared.statement, UInt16.toNat_ofNat_of_lt' hcolumns]
  have hgroup : Ahead capabilities prepared.statement (behindParameters prepared.statement)
      (Sent.Prepared.groupItems capabilities prepared.columns prepared.columnsEnd) :=
    ahead_columnsGroup hfitsColumns hcountColumns prepared.columnsEnd
  unfold Sent.Prepared.items
  apply Ahead.first
  rw [behindFirst, hcountParameters, Sent.Prepared.groupItems]
  cases hlist : prepared.parameters with
  | nil => exact hgroup
  | cons column columns =>
    rw [hlist] at hfitsParameters
    rw [if_pos (by simp), if_neg (by simp), List.append_assoc]
    apply ahead_parameters (List.cons_ne_nil _ _) hfitsParameters
    unfold behindLast Sent.eofItems
    split
    · exact hgroup
    · exact .parametersEnd hgroup

end PreparePlace

end MySqlClient
