import MySqlClient.Proofs.Dialogue.Grammar
import MySqlClient.Proofs.Exchange.Received

/-!
# Places that received packets lead to

The grammar of received answers, packet by packet.  A packet leads from one place in an answer to
the next one, and an answer is a path to the place behind it.

* `ResultPlace.Step`, `ResultPlace.Path`: the places in results; `ResultPlace.path_first_iff`: **a
  path through all results is what results consist of.**
* `PreparePlace.Step`, `PreparePlace.Path`: the places in the answer to a preparation;
  `PreparePlace.path_first_iff`: the same of preparations.
* `Received.defined_iff`: counting down definitions is the same as having as many of them.
-/

namespace MySqlClient

namespace Received

/-! ## Groups of definitions, and what follows them -/

/-- Some definitions stand in front, and then something follows that depends on all columns. -/
def Defined (Behind : List Column → List Packet → Prop) (number : Nat) (seen : List Column)
    (packets : List Packet) : Prop :=
  ∃ columns definitions rest, packets = definitions ++ rest ∧ columns.length = number ∧
    List.Forall₂ Defines definitions columns ∧ Behind (seen ++ columns) rest

variable {Behind : List Column → List Packet → Prop} {capabilities : Capabilities}
  {seen : List Column} {packet : Packet} {packets : List Packet}

theorem defined_zero_iff : Defined Behind 0 seen packets ↔ Behind seen packets := by
  constructor
  · rintro ⟨columns, definitions, rest, rfl, hlength, hall, hbehind⟩
    rw [List.length_eq_zero_iff] at hlength
    subst hlength
    cases hall
    rwa [List.append_nil] at hbehind
  · intro h
    exact ⟨[], [], packets, rfl, rfl, .nil, by rwa [List.append_nil]⟩

theorem not_defined_succ_nil {number : Nat} : ¬ Defined Behind (number + 1) seen [] := by
  rintro ⟨columns, definitions, rest, hnil, hlength, hall, -⟩
  obtain ⟨rfl, rfl⟩ := List.nil_eq_append_iff.mp hnil
  cases hall
  cases hlength

theorem defined_succ_cons_iff {number : Nat} :
    Defined Behind (number + 1) seen (packet :: packets) ↔
      ∃ column, Defines packet column ∧ Defined Behind number (seen ++ [column]) packets := by
  constructor
  · rintro ⟨columns, definitions, rest, heq, hlength, hall, hbehind⟩
    cases hall with
    | nil => cases hlength
    | @cons first column definitions columns hfirst hall =>
      rw [List.cons_append, List.cons.injEq] at heq
      obtain ⟨rfl, rfl⟩ := heq
      rw [List.append_cons] at hbehind
      exact ⟨column, hfirst, columns, definitions, rest, rfl, Nat.succ.inj hlength, hall, hbehind⟩
  · rintro ⟨column, hfirst, columns, definitions, rest, rfl, hlength, hall, hbehind⟩
    refine ⟨column :: columns, packet :: definitions, rest, rfl, ?_, .cons hfirst hall, ?_⟩
    · rw [List.length_cons, hlength]
    · rwa [List.append_cons]

/-- **Counting down definitions is the same as having as many of them.** -/
theorem defined_iff {P : Nat → List Column → List Packet → Prop}
    (hnil : ∀ number seen, ¬ P (number + 1) seen [])
    (hmore : ∀ number seen packet packets, P (number + 2) seen (packet :: packets) ↔
      ∃ column, Defines packet column ∧ P (number + 1) (seen ++ [column]) packets)
    (hlast : ∀ seen packet packets, P 1 seen (packet :: packets) ↔
      ∃ column, Defines packet column ∧ Behind (seen ++ [column]) packets)
    (number : Nat) (seen : List Column) (packets : List Packet) :
    P (number + 1) seen packets ↔ Defined Behind (number + 1) seen packets := by
  induction number generalizing seen packets with
  | zero =>
    cases packets with
    | nil => exact iff_of_false (hnil 0 seen) not_defined_succ_nil
    | cons packet packets => simp only [hlast, defined_succ_cons_iff, defined_zero_iff]
  | succ number ih =>
    cases packets with
    | nil => exact iff_of_false (hnil (number + 1) seen) not_defined_succ_nil
    | cons packet packets =>
      rw [hmore, defined_succ_cons_iff]
      simp only [ih]

/-- The end of a group, and what follows it. -/
theorem exists_isGroupEnd_iff {Next : List Packet → Prop} :
    (∃ ends rest, packets = ends ++ rest ∧ IsGroupEnd capabilities ends ∧ Next rest) ↔
      if capabilities.contains .deprecateEof then Next packets
      else ∃ eof rest, packets = eof :: rest ∧ eof.isEof = true ∧ Next rest := by
  unfold IsGroupEnd
  split
  · constructor
    · rintro ⟨ends, rest, rfl, rfl, hnext⟩
      exact hnext
    · intro hnext
      exact ⟨[], packets, rfl, rfl, hnext⟩
  · constructor
    · rintro ⟨ends, rest, rfl, ⟨eof, rfl, heof⟩, hnext⟩
      exact ⟨eof, rest, rfl, heof, hnext⟩
    · rintro ⟨eof, rest, rfl, heof, hnext⟩
      exact ⟨[eof], rest, rfl, ⟨eof, rfl, heof⟩, hnext⟩

/-- A group that is not empty: its definitions and its end. -/
theorem defined_isGroup_iff {Next : List Column → List Packet → Prop} {number : Nat} :
    Defined
        (fun columns packets => ∃ ends rest, packets = ends ++ rest ∧
          IsGroupEnd capabilities ends ∧ Next columns rest)
        (number + 1) [] packets ↔
      ∃ columns group rest, packets = group ++ rest ∧ columns.length = number + 1 ∧
        IsGroup capabilities columns group ∧ Next columns rest := by
  constructor
  · rintro ⟨columns, definitions, _, rfl, hlength, hall, ends, rest, rfl, hends, hnext⟩
    have hne : columns ≠ [] := List.ne_nil_of_length_eq_add_one hlength
    refine ⟨columns, definitions ++ ends, rest, (List.append_assoc ..).symm, hlength, ?_, hnext⟩
    rw [IsGroup, if_neg hne]
    exact ⟨definitions, ends, rfl, hall, hends⟩
  · rintro ⟨columns, group, rest, rfl, hlength, hgroup, hnext⟩
    rw [IsGroup, if_neg (List.ne_nil_of_length_eq_add_one hlength)] at hgroup
    obtain ⟨definitions, ends, rfl, hall, hends⟩ := hgroup
    exact ⟨columns, definitions, ends ++ rest, List.append_assoc .., hlength, hall, ends, rest,
      rfl, hends, hnext⟩

end Received

open Received

/-! ## Results -/

namespace ResultPlace

/-- What a packet leads to, and what is handed over because of it. -/
inductive Step (capabilities : Capabilities) (format : Format) :
    ResultPlace → Packet → Option Delivered → ResultPlace → Prop
  | done {packet : Packet} {summary : Summary} (h : Confirms capabilities packet summary) :
      Step capabilities format .first packet (some (.summary summary)) (behindResult summary)
  | count {packet : Packet} {number : Nat} (h : Counts format packet (number + 1)) :
      Step capabilities format .first packet none (.columns (number + 1) [])
  | noColumns {packet : Packet} (h : Counts format packet 0) :
      Step capabilities format .first packet none (.rows [])
  | column {packet : Packet} {column : Column} {remaining : Nat} {seen : List Column}
      (h : Defines packet column) :
      Step capabilities format (.columns (remaining + 2) seen) packet none
        (.columns (remaining + 1) (seen ++ [column]))
  | lastColumn {packet : Packet} {column : Column} {seen : List Column}
      (h : Defines packet column) :
      Step capabilities format (.columns 1 seen) packet none
        (behindColumns capabilities (seen ++ [column]))
  | columnsEnd {packet : Packet} {columns : List Column} (h : packet.isEof = true) :
      Step capabilities format (.columnsEnd columns) packet none (.rows columns)
  | row {packet : Packet} {columns : List Column} {row : Row}
      (h : Holds format columns packet row) :
      Step capabilities format (.rows columns) packet (some (.row row)) (.rows columns)
  | ending {packet : Packet} {columns : List Column} {summary : Summary}
      (h : EndsResult capabilities packet summary) :
      Step capabilities format (.rows columns) packet (some (.summary summary))
        (behindResult summary)

section

variable {capabilities : Capabilities} {format : Format} {packet : Packet} {columns seen : List Column}
  {P : Option Delivered → ResultPlace → Prop}

/-- What the first packet of a result may lead to. -/
theorem exists_step_first_iff :
    (∃ given behind, Step capabilities format .first packet given behind ∧ P given behind) ↔
      (∃ summary, Confirms capabilities packet summary ∧
        P (some (.summary summary)) (behindResult summary)) ∨
      ∃ number, Counts format packet number ∧
        P none (if number = 0 then .rows [] else .columns number []) := by
  constructor
  · rintro ⟨given, behind, hstep, hp⟩
    cases hstep with
    | done h => exact Or.inl ⟨_, h, hp⟩
    | count h => exact Or.inr ⟨_, h, hp⟩
    | noColumns h => exact Or.inr ⟨_, h, hp⟩
  · rintro (⟨summary, h, hp⟩ | ⟨_ | number, h, hp⟩)
    · exact ⟨_, _, .done h, hp⟩
    · exact ⟨_, _, .noColumns h, hp⟩
    · exact ⟨_, _, .count h, hp⟩

/-- What the definition of a column may lead to. -/
theorem exists_step_columns_iff {remaining : Nat} (hremaining : 0 < remaining) :
    (∃ given behind, Step capabilities format (.columns remaining seen) packet given behind ∧
        P given behind) ↔
      ∃ column, Defines packet column ∧
        P none
          (if remaining = 1 then behindColumns capabilities (seen ++ [column])
          else .columns (remaining - 1) (seen ++ [column])) := by
  constructor
  · rintro ⟨given, behind, hstep, hp⟩
    cases hstep with
    | column h => exact ⟨_, h, by simpa using hp⟩
    | lastColumn h => exact ⟨_, h, by simpa using hp⟩
  · rintro ⟨column, h, hp⟩
    obtain _ | _ | remaining := remaining
    · exact absurd hremaining (Nat.lt_irrefl 0)
    · exact ⟨_, _, .lastColumn h, by simpa using hp⟩
    · exact ⟨_, _, .column h, by simpa using hp⟩

/-- What comes behind the columns. -/
theorem exists_step_columnsEnd_iff :
    (∃ given behind, Step capabilities format (.columnsEnd columns) packet given behind ∧
        P given behind) ↔
      packet.isEof = true ∧ P none (.rows columns) := by
  constructor
  · rintro ⟨given, behind, hstep, hp⟩
    cases hstep with
    | columnsEnd h => exact ⟨h, hp⟩
  · rintro ⟨h, hp⟩
    exact ⟨_, _, .columnsEnd h, hp⟩

/-- What a row, or the end of the rows, may lead to. -/
theorem exists_step_rows_iff :
    (∃ given behind, Step capabilities format (.rows columns) packet given behind ∧
        P given behind) ↔
      (∃ summary, EndsResult capabilities packet summary ∧
        P (some (.summary summary)) (behindResult summary)) ∨
      ∃ row, Holds format columns packet row ∧ P (some (.row row)) (.rows columns) := by
  constructor
  · rintro ⟨given, behind, hstep, hp⟩
    cases hstep with
    | row h => exact Or.inr ⟨_, h, hp⟩
    | ending h => exact Or.inl ⟨_, h, hp⟩
  · rintro (⟨summary, h, hp⟩ | ⟨row, h, hp⟩)
    · exact ⟨_, _, .ending h, hp⟩
    · exact ⟨_, _, .row h, hp⟩

end

/-- The packets lead to the place behind the last result, and the things are handed over on the
way. -/
inductive Path (capabilities : Capabilities) (format : Format) :
    ResultPlace → List Packet → List Delivered → Prop
  | past : Path capabilities format .past [] []
  | step {place next : ResultPlace} {packet : Packet} {given : Option Delivered}
      {packets : List Packet} {things : List Delivered}
      (h : Step capabilities format place packet given next)
      (rest : Path capabilities format next packets things) :
      Path capabilities format place (packet :: packets) (given.toList ++ things)

variable {capabilities : Capabilities} {format : Format} {place : ResultPlace} {packet : Packet}
  {packets : List Packet} {things : List Delivered} {columns seen : List Column}

theorem path_nil_iff : Path capabilities format place [] things ↔ place = .past ∧ things = [] := by
  constructor
  · intro h
    cases h
    exact ⟨rfl, rfl⟩
  · rintro ⟨rfl, rfl⟩
    exact .past

theorem path_cons_iff :
    Path capabilities format place (packet :: packets) things ↔
      ∃ given next rest, Step capabilities format place packet given next ∧
        things = given.toList ++ rest ∧ Path capabilities format next packets rest := by
  constructor
  · rintro (_ | ⟨h, rest⟩)
    exact ⟨_, _, _, h, rfl, rest⟩
  · rintro ⟨given, next, rest, h, rfl, hrest⟩
    exact .step h hrest

theorem path_past_iff : Path capabilities format .past packets things ↔
    packets = [] ∧ things = [] := by
  constructor
  · rintro (_ | ⟨h, -⟩)
    · exact ⟨rfl, rfl⟩
    · cases h
  · rintro ⟨rfl, rfl⟩
    exact .past

/-! ### Columns -/

theorem path_columnsEnd_iff : Path capabilities format (.columnsEnd columns) packets things ↔
    ∃ eof rest, packets = eof :: rest ∧ eof.isEof = true ∧
      Path capabilities format (.rows columns) rest things := by
  constructor
  · rintro (_ | ⟨⟨⟩, rest⟩)
    exact ⟨_, _, rfl, ‹_›, rest⟩
  · rintro ⟨eof, rest, rfl, heof, hrest⟩
    exact .step (.columnsEnd heof) hrest

theorem path_behindColumns_iff :
    Path capabilities format (behindColumns capabilities columns) packets things ↔
      ∃ ends rest, packets = ends ++ rest ∧ IsGroupEnd capabilities ends ∧
        Path capabilities format (.rows columns) rest things := by
  rw [exists_isGroupEnd_iff, behindColumns]
  split
  · rfl
  · exact path_columnsEnd_iff

/-- **A group of columns leads to the rows.** -/
theorem path_columns_iff {number : Nat} :
    Path capabilities format (.columns (number + 1) []) packets things ↔
      ∃ columns group rest, packets = group ++ rest ∧ columns.length = number + 1 ∧
        IsGroup capabilities columns group ∧
        Path capabilities format (.rows columns) rest things := by
  rw [← defined_isGroup_iff]
  refine defined_iff (P := fun number seen packets =>
    Path capabilities format (.columns number seen) packets things) ?_ ?_ ?_ number [] packets
  · intro number seen h
    cases (path_nil_iff.mp h).1
  · intro number seen packet packets
    constructor
    · rintro (_ | ⟨⟨⟩, rest⟩)
      exact ⟨_, ‹_›, rest⟩
    · rintro ⟨column, h, rest⟩
      exact .step (.column h) rest
  · intro seen packet packets
    simp only [← path_behindColumns_iff]
    constructor
    · rintro (_ | ⟨⟨⟩, rest⟩)
      exact ⟨_, ‹_›, rest⟩
    · rintro ⟨column, h, rest⟩
      exact .step (.lastColumn h) rest

/-! ### Rows -/

theorem exists_of_path_rows (h : Path capabilities format (.rows columns) packets things) :
    ∃ rowPackets records last summary rest more, packets = rowPackets ++ last :: rest ∧
      List.Forall₂ (Holds format columns) rowPackets records ∧
      EndsResult capabilities last summary ∧ things = records.map .row ++ .summary summary :: more ∧
      Path capabilities format (behindResult summary) rest more := by
  induction packets generalizing things with
  | nil => cases (path_nil_iff.mp h).1
  | cons packet packets ih =>
    obtain ⟨given, next, things, hstep, rfl, hrest⟩ := path_cons_iff.mp h
    cases hstep with
    | @row _ _ row hrow =>
      obtain ⟨rowPackets, records, last, summary, rest, more, rfl, hall, hlast, rfl, hpath⟩ :=
        ih hrest
      exact ⟨packet :: rowPackets, row :: records, last, summary, rest, more, rfl,
        .cons hrow hall, hlast, rfl, hpath⟩
    | @ending _ _ summary hlast =>
      exact ⟨[], [], packet, summary, packets, things, rfl, .nil, hlast, rfl, hrest⟩

theorem path_rows {rowPackets rest : List Packet} {records : List Row} {last : Packet}
    {summary : Summary} {more : List Delivered}
    (hall : List.Forall₂ (Holds format columns) rowPackets records)
    (hlast : EndsResult capabilities last summary)
    (hrest : Path capabilities format (behindResult summary) rest more) :
    Path capabilities format (.rows columns) (rowPackets ++ last :: rest)
      (records.map .row ++ .summary summary :: more) := by
  induction hall with
  | nil => exact .step (.ending hlast) hrest
  | cons hrow _ ih => exact .step (.row hrow) ih

/-! ### Results -/

/-- A path through results begins with a result. -/
theorem exists_of_path_first (h : Path capabilities format .first packets things) :
    ∃ result front rest more, packets = front ++ rest ∧
      IsResult format capabilities result front ∧ things = result.delivered ++ more ∧
      Path capabilities format (behindResult result.summary) rest more := by
  cases packets with
  | nil => cases (path_nil_iff.mp h).1
  | cons packet packets =>
    obtain ⟨given, next, things, hstep, rfl, hrest⟩ := path_cons_iff.mp h
    -- what stands behind the number of columns and the columns
    have hrows (columns : List Column) {group rest : List Packet}
        (hcount : Counts format packet columns.length)
        (hgroup : IsGroup capabilities columns group)
        (hpath : Path capabilities format (.rows columns) rest things) :
        ∃ result front behind more, packet :: (group ++ rest) = front ++ behind ∧
          IsResult format capabilities result front ∧ things = result.delivered ++ more ∧
          Path capabilities format (behindResult result.summary) behind more := by
      obtain ⟨rowPackets, records, last, summary, behind, more, rfl, hall, hlast, rfl, hbehind⟩ :=
        exists_of_path_rows hpath
      refine ⟨.rows columns records summary, packet :: (group ++ (rowPackets ++ [last])), behind,
        more, by simp, .rows hcount hgroup hall hlast, by simp [Result.delivered], hbehind⟩
    cases hstep with
    | @done _ summary hpacket =>
      exact ⟨.done summary, [packet], packets, things, rfl, .done hpacket, rfl, hrest⟩
    | count hcount =>
      obtain ⟨columns, group, rest, rfl, hlength, hgroup, hpath⟩ := path_columns_iff.mp hrest
      exact hrows columns (by rwa [hlength]) hgroup hpath
    | noColumns hcount =>
      exact hrows [] hcount (isGroup_nil_iff.mpr rfl) hrest

theorem path_result {result : Result} {front rest : List Packet} {more : List Delivered}
    (h : IsResult format capabilities result front)
    (hrest : Path capabilities format (behindResult result.summary) rest more) :
    Path capabilities format .first (front ++ rest) (result.delivered ++ more) := by
  cases h with
  | done hpacket => exact .step (.done hpacket) hrest
  | @rows count last columnPackets rowPackets columns records summary hcount hcolumns hrows
      hlast =>
    have hpath := path_rows hrows hlast hrest
    have hthings : (Result.rows columns records summary).delivered ++ more =
        records.map .row ++ .summary summary :: more := by
      simp [Result.delivered]
    have hpackets : count :: (columnPackets ++ (rowPackets ++ [last])) ++ rest =
        count :: (columnPackets ++ (rowPackets ++ last :: rest)) := by
      simp
    rw [hthings, hpackets]
    cases columns with
    | nil =>
      cases isGroup_nil_iff.mp hcolumns
      exact .step (.noColumns hcount) hpath
    | cons column columns =>
      refine .step (.count hcount) (path_columns_iff.mpr ?_)
      exact ⟨column :: columns, columnPackets, _, rfl, rfl, hcolumns, hpath⟩

/-- **A path through all results is what results consist of.** -/
theorem path_first_iff : Path capabilities format .first packets things ↔
    ∃ results, AreResults format capabilities results packets ∧
      things = results.flatMap Result.delivered := by
  constructor
  · -- by the number of packets, as the results are taken off one by one
    intro h
    induction hlength : packets.length using Nat.strongRecOn generalizing packets things with
    | ind number ih =>
      obtain ⟨result, front, rest, more, rfl, hresult, rfl, hrest⟩ := exists_of_path_first h
      rw [behindResult] at hrest
      split at hrest
      · next hmore =>
        have hshort : rest.length < number := by
          have hpos := List.length_pos_iff.mpr hresult.ne_nil
          rw [List.length_append] at hlength
          omega
        obtain ⟨results, hresults, rfl⟩ := ih rest.length hshort hrest rfl
        exact ⟨result :: results, .more hresult hmore hresults, rfl⟩
      · next hlast =>
        obtain ⟨rfl, rfl⟩ := path_past_iff.mp hrest
        refine ⟨[result], ?_, by simp⟩
        rw [List.append_nil]
        exact .last hresult (Bool.eq_false_iff.mpr hlast)
  · rintro ⟨results, hresults, rfl⟩
    induction hresults with
    | @last result packets hresult hlast =>
      have hpast : behindResult result.summary = .past := if_neg (ne_true_of_eq_false hlast)
      have hbehind : Path capabilities format (behindResult result.summary) [] [] :=
        hpast ▸ .past
      simpa using path_result hresult hbehind
    | @more result results packets rest hresult hmore _ ih =>
      have hfirst : behindResult result.summary = .first := if_pos hmore
      exact path_result hresult (hfirst ▸ ih)

end ResultPlace

/-! ## Preparations -/

namespace PreparePlace

/-- What a packet leads to, in an answer that tells about `statement`. -/
inductive Step (capabilities : Capabilities) (statement : PrepareOk) :
    PreparePlace → Packet → PreparePlace → Prop
  | first {packet : Packet} (h : PrepareOk.parse packet.payload = .ok statement) :
      Step capabilities statement .first packet (behindFirst statement)
  | parameter {packet : Packet} {column : Column} {remaining : Nat} (h : Defines packet column) :
      Step capabilities statement (.parameters (remaining + 2)) packet
        (.parameters (remaining + 1))
  | lastParameter {packet : Packet} {column : Column} (h : Defines packet column) :
      Step capabilities statement (.parameters 1) packet
        (behindLast capabilities .parametersEnd (behindParameters statement))
  | parametersEnd {packet : Packet} (h : packet.isEof = true) :
      Step capabilities statement .parametersEnd packet (behindParameters statement)
  | column {packet : Packet} {column : Column} {remaining : Nat} (h : Defines packet column) :
      Step capabilities statement (.columns (remaining + 2)) packet (.columns (remaining + 1))
  | lastColumn {packet : Packet} {column : Column} (h : Defines packet column) :
      Step capabilities statement (.columns 1) packet
        (behindLast capabilities .columnsEnd .past)
  | columnsEnd {packet : Packet} (h : packet.isEof = true) :
      Step capabilities statement .columnsEnd packet .past

/-- The packets lead to the place behind the answer. -/
inductive Path (capabilities : Capabilities) (statement : PrepareOk) :
    PreparePlace → List Packet → Prop
  | past : Path capabilities statement .past []
  | step {place next : PreparePlace} {packet : Packet} {packets : List Packet}
      (h : Step capabilities statement place packet next)
      (rest : Path capabilities statement next packets) :
      Path capabilities statement place (packet :: packets)

variable {capabilities : Capabilities} {statement : PrepareOk} {place : PreparePlace}
  {packet : Packet} {packets : List Packet}

theorem path_nil_iff : Path capabilities statement place [] ↔ place = .past := by
  constructor
  · intro h
    cases h
    rfl
  · rintro rfl
    exact .past

theorem path_cons_iff :
    Path capabilities statement place (packet :: packets) ↔
      ∃ next, Step capabilities statement place packet next ∧
        Path capabilities statement next packets := by
  constructor
  · rintro (_ | ⟨h, rest⟩)
    exact ⟨_, h, rest⟩
  · rintro ⟨next, h, hrest⟩
    exact .step h hrest

theorem path_past_iff : Path capabilities statement .past packets ↔ packets = [] := by
  constructor
  · rintro (_ | ⟨h, -⟩)
    · rfl
    · cases h
  · rintro rfl
    exact .past

/-- In front of a number of definitions there are the places `counted`, in front of their end there
is `ending`, and behind it `behind`. -/
structure IsGroupPlace (capabilities : Capabilities) (statement : PrepareOk)
    (counted : Nat → PreparePlace) (ending behind : PreparePlace) : Prop where
  more : ∀ number packet next, Step capabilities statement (counted (number + 2)) packet next ↔
    (∃ column, Defines packet column) ∧ next = counted (number + 1)
  last : ∀ packet next, Step capabilities statement (counted 1) packet next ↔
    (∃ column, Defines packet column) ∧ next = behindLast capabilities ending behind
  ends : ∀ packet next, Step capabilities statement ending packet next ↔
    packet.isEof = true ∧ next = behind
  counted_ne : ∀ number, counted number ≠ .past
  ending_ne : ending ≠ .past

theorem isGroupPlace_parameters (capabilities : Capabilities) (statement : PrepareOk) :
    IsGroupPlace capabilities statement .parameters .parametersEnd
      (behindParameters statement) where
  more number packet next := by
    constructor
    · rintro ⟨⟩
      exact ⟨⟨_, ‹_›⟩, rfl⟩
    · rintro ⟨⟨column, h⟩, rfl⟩
      exact .parameter h
  last packet next := by
    constructor
    · rintro ⟨⟩
      exact ⟨⟨_, ‹_›⟩, rfl⟩
    · rintro ⟨⟨column, h⟩, rfl⟩
      exact .lastParameter h
  ends packet next := by
    constructor
    · rintro ⟨⟩
      exact ⟨‹_›, rfl⟩
    · rintro ⟨h, rfl⟩
      exact .parametersEnd h
  counted_ne number := by simp
  ending_ne := by simp

theorem isGroupPlace_columns (capabilities : Capabilities) (statement : PrepareOk) :
    IsGroupPlace capabilities statement .columns .columnsEnd .past where
  more number packet next := by
    constructor
    · rintro ⟨⟩
      exact ⟨⟨_, ‹_›⟩, rfl⟩
    · rintro ⟨⟨column, h⟩, rfl⟩
      exact .column h
  last packet next := by
    constructor
    · rintro ⟨⟩
      exact ⟨⟨_, ‹_›⟩, rfl⟩
    · rintro ⟨⟨column, h⟩, rfl⟩
      exact .lastColumn h
  ends packet next := by
    constructor
    · rintro ⟨⟩
      exact ⟨‹_›, rfl⟩
    · rintro ⟨h, rfl⟩
      exact .columnsEnd h
  counted_ne number := by simp
  ending_ne := by simp

section

variable {counted : Nat → PreparePlace} {ending behind : PreparePlace}

/-- What stands behind the definitions of a group. -/
theorem IsGroupPlace.path_behindLast_iff
    (h : IsGroupPlace capabilities statement counted ending behind) :
    Path capabilities statement (behindLast capabilities ending behind) packets ↔
      ∃ ends rest, packets = ends ++ rest ∧ IsGroupEnd capabilities ends ∧
        Path capabilities statement behind rest := by
  rw [exists_isGroupEnd_iff, behindLast]
  split
  · rfl
  · cases packets with
    | nil =>
      rw [path_nil_iff]
      exact iff_of_false h.ending_ne (by rintro ⟨_, _, hnil, -⟩; cases hnil)
    | cons packet packets =>
      simp only [path_cons_iff, h.ends]
      constructor
      · rintro ⟨next, ⟨heof, rfl⟩, hrest⟩
        exact ⟨packet, packets, rfl, heof, hrest⟩
      · rintro ⟨eof, rest, heq, heof, hrest⟩
        cases heq
        exact ⟨behind, ⟨heof, rfl⟩, hrest⟩

/-- **A group of definitions leads to what stands behind it.** -/
theorem IsGroupPlace.path_iff (h : IsGroupPlace capabilities statement counted ending behind)
    (number : Nat) :
    Path capabilities statement (if 0 < number then counted number else behind) packets ↔
      ∃ columns group rest, packets = group ++ rest ∧ columns.length = number ∧
        IsGroup capabilities columns group ∧ Path capabilities statement behind rest := by
  cases number with
  | zero =>
    rw [if_neg (Nat.lt_irrefl 0)]
    constructor
    · intro hpath
      exact ⟨[], [], packets, rfl, rfl, isGroup_nil_iff.mpr rfl, hpath⟩
    · rintro ⟨columns, group, rest, rfl, hlength, hgroup, hrest⟩
      cases List.length_eq_zero_iff.mp hlength
      cases isGroup_nil_iff.mp hgroup
      exact hrest
  | succ number =>
    rw [if_pos (Nat.succ_pos number), ← defined_isGroup_iff]
    refine defined_iff (P := fun number _ packets =>
      Path capabilities statement (counted number) packets) ?_ ?_ ?_ number [] packets
    · intro number _ hpath
      exact h.counted_ne (number + 1) (path_nil_iff.mp hpath)
    · intro number _ packet packets
      simp only [path_cons_iff, h.more]
      constructor
      · rintro ⟨next, ⟨⟨column, hcolumn⟩, rfl⟩, hrest⟩
        exact ⟨column, hcolumn, hrest⟩
      · rintro ⟨column, hcolumn, hrest⟩
        exact ⟨_, ⟨⟨column, hcolumn⟩, rfl⟩, hrest⟩
    · intro _ packet packets
      simp only [path_cons_iff, h.last, ← h.path_behindLast_iff]
      constructor
      · rintro ⟨next, ⟨⟨column, hcolumn⟩, rfl⟩, hrest⟩
        exact ⟨column, hcolumn, hrest⟩
      · rintro ⟨column, hcolumn, hrest⟩
        exact ⟨_, ⟨⟨column, hcolumn⟩, rfl⟩, hrest⟩

end

theorem path_behindParameters_iff :
    Path capabilities statement (behindParameters statement) packets ↔
      ∃ columns, columns.length = statement.columns.toNat ∧
        IsGroup capabilities columns packets := by
  rw [behindParameters, (isGroupPlace_columns capabilities statement).path_iff]
  constructor
  · rintro ⟨columns, group, rest, rfl, hlength, hgroup, hrest⟩
    cases path_past_iff.mp hrest
    rw [List.append_nil]
    exact ⟨columns, hlength, hgroup⟩
  · rintro ⟨columns, hlength, hgroup⟩
    exact ⟨columns, packets, [], (List.append_nil _).symm, hlength, hgroup, .past⟩

/-- **A path through the answer to a preparation is what the answer consists of.** -/
theorem path_first_iff : Path capabilities statement .first packets ↔
    IsPreparation capabilities statement packets := by
  constructor
  · rintro (_ | ⟨⟨hfirst⟩, hrest⟩)
    rw [behindFirst, (isGroupPlace_parameters capabilities statement).path_iff] at hrest
    obtain ⟨parameters, parameterPackets, columnPackets, rfl, hparameters, hgroup, hpath⟩ := hrest
    obtain ⟨columns, hcolumns, hlast⟩ := path_behindParameters_iff.mp hpath
    exact ⟨_, parameters, parameterPackets, columns, columnPackets, rfl, hfirst, hparameters,
      hgroup, hcolumns, hlast⟩
  · rintro ⟨first, parameters, parameterPackets, columns, columnPackets, rfl, hfirst, hparameters,
      hgroup, hcolumns, hlast⟩
    refine .step (.first hfirst) ?_
    rw [behindFirst, (isGroupPlace_parameters capabilities statement).path_iff]
    exact ⟨parameters, parameterPackets, columnPackets, rfl, hparameters, hgroup,
      path_behindParameters_iff.mpr ⟨columns, hcolumns, hlast⟩⟩

end PreparePlace

end MySqlClient
