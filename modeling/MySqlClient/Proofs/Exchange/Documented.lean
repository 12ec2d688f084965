import MySqlClient.Proofs.Dialogue.TextQuery
import MySqlClient.Proofs.Exchange.Received

/-!
# Documented answers are received ones

The grammar of received answers says of each packet what its reader makes of it.  The packets of an
answer in the documented form, whatever their sequence numbers, are such an answer.

* `Sent.Result.isResult_received`: the packets of a result are a result, and say what it says.
* `Sent.areResults_received`: **the packets of documented results are results, one behind the
  other.**
* `Sent.Prepared.isPreparation`: **the packets of the documented answer to a preparation are a
  preparation.**
-/

namespace MySqlClient

open Received

namespace Sent

variable {format : Format} {capabilities : Capabilities} {packets : List Packet}

/-- The packets carry the payloads of the items. -/
def Carry (packets : List Packet) (items : List Item) : Prop :=
  packets.map Packet.payload = items.map Item.payload

theorem carry_cons_iff {item : Item} {items : List Item} :
    Carry packets (item :: items) ↔
      ∃ sequence rest, packets = ⟨sequence, item.payload⟩ :: rest ∧ Carry rest items := by
  rw [Carry, List.map_cons, List.map_eq_cons_iff]
  constructor
  · rintro ⟨⟨sequence, _⟩, rest, rfl, rfl, hrest⟩
    exact ⟨sequence, rest, rfl, hrest⟩
  · rintro ⟨sequence, rest, rfl, hrest⟩
    exact ⟨_, rest, rfl, rfl, hrest⟩

theorem carry_append_iff {items more : List Item} :
    Carry packets (items ++ more) ↔
      ∃ front back, packets = front ++ back ∧ Carry front items ∧ Carry back more := by
  rw [Carry, List.map_append, List.map_eq_append_iff]
  rfl

@[simp] theorem carry_nil_iff : Carry packets [] ↔ packets = [] := by
  rw [Carry, List.map_nil, List.map_eq_nil_iff]

/-! ## Groups of definitions -/

theorem forall₂_defines {columns : List Column} (hfits : ∀ column ∈ columns, column.Fits)
    (h : Carry packets (columns.map Column.item)) :
    List.Forall₂ Defines packets (columns.map Column.definition) := by
  induction columns generalizing packets with
  | nil =>
    rw [carry_nil_iff.mp h]
    exact .nil
  | cons column columns ih =>
    rw [List.forall_mem_cons] at hfits
    obtain ⟨sequence, rest, rfl, hrest⟩ := carry_cons_iff.mp h
    exact .cons (Column.parse_encode hfits.1) (ih hfits.2 hrest)

theorem isGroupEnd_of_carry {eof : EofPacket} (h : Carry packets (eofItems capabilities eof)) :
    IsGroupEnd capabilities packets := by
  unfold IsGroupEnd
  unfold eofItems at h
  split
  · next hdeprecated =>
    rw [if_pos hdeprecated] at h
    exact carry_nil_iff.mp h
  · next hdeprecated =>
    rw [if_neg hdeprecated] at h
    obtain ⟨sequence, rest, rfl, hrest⟩ := carry_cons_iff.mp h
    cases carry_nil_iff.mp hrest
    exact ⟨_, rfl, EofPacket.isEof_encode capabilities eof sequence⟩

/-- **Documented definitions are a group.** -/
theorem isGroup_of_carry {columns : List Column} {eof : EofPacket}
    (hfits : ∀ column ∈ columns, column.Fits)
    (h : Carry packets (Prepared.groupItems capabilities columns eof)) :
    IsGroup capabilities (columns.map Column.definition) packets := by
  unfold Prepared.groupItems at h
  cases columns with
  | nil => exact isGroup_nil_iff.mpr (carry_nil_iff.mp h)
  | cons column columns =>
    rw [if_neg (by simp)] at h
    obtain ⟨definitions, ends, rfl, hdefinitions, hends⟩ := carry_append_iff.mp h
    rw [IsGroup, if_neg (by simp)]
    exact ⟨definitions, ends, rfl, forall₂_defines hfits hdefinitions, isGroupEnd_of_carry hends⟩

/-! ## Results -/

theorem forall₂_holds {columns : List MySqlClient.Column} {records : List (List (Option Bytes))}
    (hfits : ∀ fields ∈ records, Row.Fits format columns fields)
    (h : Carry packets (records.map (rowItem format columns))) :
    List.Forall₂ (Holds format columns) packets
      (records.map fun fields => ⟨columns, fields, format⟩) := by
  induction records generalizing packets with
  | nil =>
    rw [carry_nil_iff.mp h]
    exact .nil
  | cons fields records ih =>
    rw [List.forall_mem_cons] at hfits
    obtain ⟨sequence, rest, rfl, hrest⟩ := carry_cons_iff.mp h
    exact .cons ⟨Row.decode_encode hfits.1, fun _ => Row.isResultSetEnd_encode hfits.1 sequence⟩
      (ih hfits.2 hrest)

namespace Result

/-- What a result says, as a client understands it. -/
def received (format : Format) (capabilities : Capabilities) : Result → Received.Result
  | done ok => .done (ok.summary capabilities)
  | rows columns _ records ending =>
    .rows (columns.map Column.definition)
      (records.map fun fields => ⟨columns.map Column.definition, fields, format⟩)
      (ending.endSummary capabilities)

theorem summary_received (result : Result) :
    (result.received format capabilities).summary = result.summary capabilities := by
  cases result <;> rfl

/-- **The packets of a documented result are a result, and say what it says.** -/
theorem isResult_received {result : Result} (h : result.Valid format capabilities)
    (hpackets : Carry packets (result.items format capabilities)) :
    IsResult format capabilities (result.received format capabilities) packets := by
  cases result with
  | done ok =>
    obtain ⟨sequence, rest, rfl, hrest⟩ := carry_cons_iff.mp hpackets
    cases carry_nil_iff.mp hrest
    exact .done ⟨rfl, Ok.parse_encode (Or.inl rfl) h capabilities⟩
  | rows columns columnsEnd records ending =>
    obtain ⟨hne, hsize, hcolumns, hrecords, hends⟩ := h
    obtain ⟨sequence, rest, rfl, hrest⟩ := carry_cons_iff.mp hpackets
    have hgroup : Prepared.groupItems capabilities columns columnsEnd =
        columns.map Column.item ++ eofItems capabilities columnsEnd :=
      if_neg (by simpa using hne)
    rw [← List.append_assoc, ← hgroup] at hrest
    obtain ⟨group, _, rfl, hgroup, hrecordsAndEnd⟩ := carry_append_iff.mp hrest
    obtain ⟨rowPackets, _, rfl, hrows, hend⟩ := carry_append_iff.mp hrecordsAndEnd
    obtain ⟨last, _, rfl, hnil⟩ := carry_cons_iff.mp hend
    cases carry_nil_iff.mp hnil
    have hnumber : (UInt64.ofNat columns.length).toNat = columns.length :=
      UInt64.toNat_ofNat_of_lt hsize
    refine .rows ?_ (isGroup_of_carry hcolumns hgroup) (forall₂_holds hrecords hrows)
      ⟨Ok.isResultSetEnd_encodeEnd hends last, Ok.parseEnd_encodeEnd hends⟩
    rw [List.length_map]
    have hzero : UInt64.ofNat columns.length ≠ 0 := by
      intro heq
      rw [heq] at hnumber
      exact hne (List.length_eq_zero_iff.mp hnumber.symm)
    obtain ⟨lead, hheader, hok, -⟩ := Packet.exists_header_lenEncInt hzero sequence
    refine ⟨?_, ⟨_, (Reader.reads_lenEncCount _).parse, hnumber⟩, fun _ hlength => ?_⟩
    · rw [hheader]
      exact fun heq => hok (Option.some.inj heq)
    · exact hne (List.length_eq_zero_iff.mp hlength)

end Result

/-- **The packets of documented results are results, one behind the other.** -/
theorem areResults_received {results : List Result} (hchained : Result.Chained capabilities results)
    (hvalid : ∀ result ∈ results, result.Valid format capabilities)
    (h : Carry packets (results.flatMap (Result.items format capabilities))) :
    AreResults format capabilities (results.map (Result.received format capabilities)) packets := by
  induction results generalizing packets with
  | nil => exact hchained.elim
  | cons result results ih =>
    rw [List.forall_mem_cons] at hvalid
    rw [List.flatMap_cons] at h
    obtain ⟨front, back, rfl, hfront, hback⟩ := carry_append_iff.mp h
    have hresult := Result.isResult_received hvalid.1 hfront
    have hfollowed : (result.received format capabilities).isFollowed =
        (result.summary capabilities).status.moreResults := by
      rw [Received.Result.isFollowed, Result.summary_received]
    unfold Result.Chained at hchained
    by_cases hmore : (result.summary capabilities).status.moreResults = true
    · rw [if_pos hmore] at hchained
      exact .more hresult (hfollowed.trans hmore) (ih hchained hvalid.2 hback)
    · rw [if_neg hmore] at hchained
      subst hchained
      cases carry_nil_iff.mp hback
      rw [List.append_nil]
      exact .last hresult (hfollowed.trans (Bool.not_eq_true _ ▸ hmore))

/-! ## Preparations -/

/-- **The packets of the documented answer to a preparation are a preparation.** -/
theorem Prepared.isPreparation {prepared : Prepared} (h : prepared.Valid)
    (hpackets : Carry packets (prepared.items capabilities)) :
    IsPreparation capabilities prepared.statement packets := by
  obtain ⟨hparameters, hcolumns, hparametersFit, hcolumnsFit⟩ := h
  obtain ⟨sequence, rest, rfl, hrest⟩ := carry_cons_iff.mp hpackets
  obtain ⟨parameterPackets, columnPackets, rfl, hparameterPackets, hcolumnPackets⟩ :=
    carry_append_iff.mp hrest
  refine ⟨_, _, parameterPackets, _, columnPackets, rfl, PrepareOk.parse_encode _ prepared.more, ?_,
    isGroup_of_carry hparametersFit hparameterPackets, ?_,
    isGroup_of_carry hcolumnsFit hcolumnPackets⟩
  · rw [List.length_map]
    exact (UInt16.toNat_ofNat_of_lt hparameters).symm
  · rw [List.length_map]
    exact (UInt16.toNat_ofNat_of_lt hcolumns).symm

/-! ## Samples -/

/-- A column of texts. -/
def textColumn : Column where
  catalog := []
  schema := []
  table := []
  orgTable := []
  name := [0x74]
  orgName := []
  charset := 33
  length := 1
  type := .varString
  flags := ⟨0⟩
  decimals := 0

/-- Two results, of which the second one has a row of one text. -/
def twoResults : List Result :=
  [.done { status := .moreResultsExist }, .rows [textColumn] {} [[some [0x61]]] {}]

/-- Packets that carry the payloads of some items. -/
def packetsOf (items : List Item) : List Packet :=
  items.map fun item => ⟨1, item.payload⟩

theorem carry_packetsOf (items : List Item) : Carry (packetsOf items) items := by
  rw [Carry, packetsOf, List.map_map]
  rfl

theorem fits_textColumn : textColumn.Fits := by
  unfold Column.Fits
  decide

/-- In both forms, to a client for which there are EOF packets, these are documented results. -/
theorem areResults_twoResults (format : Format) :
    AreResults format .protocol41 (twoResults.map (Result.received format .protocol41))
      (packetsOf (twoResults.flatMap (Result.items format .protocol41))) := by
  have hchained : Result.Chained .protocol41 twoResults := show ([] : List Result) = [] from rfl
  refine areResults_received hchained ?_ (carry_packetsOf _)
  have hinfo : ∀ text, (none : Option Bytes) = some text → text.length < UInt64.size := by
    intro text h
    cases h
  refine List.forall_mem_cons.mpr ⟨hinfo, List.forall_mem_singleton.mpr ?_⟩
  refine ⟨List.cons_ne_nil _ _, by decide, ?_, ?_, hinfo, ?_, ?_⟩
  · exact List.forall_mem_singleton.mpr fits_textColumn
  · refine List.forall_mem_singleton.mpr (.cons ?_ .nil)
    intro octets heq
    cases heq
    cases format <;> exact (by decide : 1 < UInt64.size)
  · decide +kernel
  · intro h
    exact absurd h (by decide +kernel)

/-- What handlers that keep everything have kept of these results. -/
theorem called_twoResults (format : Format) :
    Collected.sink.called
        ((twoResults.map (Result.received format .protocol41)).flatMap
          Received.Result.delivered) {} =
      { rows := [⟨[textColumn.definition], [some [0x61]], format⟩]
        summaries := [{ status := .moreResultsExist }, {}] } := by
  have hfirst : Ok.summary .protocol41 { status := .moreResultsExist } =
      { status := .moreResultsExist } := by
    decide +kernel
  show ({ rows := _, summaries := [Ok.summary _ _, _] } : Collected) = _
  rw [hfirst]
  rfl

end Sent

end MySqlClient
