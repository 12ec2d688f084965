import MySqlClient.Proofs.Response.Layout

/-!
# The two forms of an end

At the end of a result set the server sends its status and the number of warnings in one of two
packets, which have them in opposite order.  A client tells the packets apart by a flag and by their
lengths.

* `Sent.Ok.Says`: the packet is one for a given summary.
* `Sent.Ok.seven_le_length_encode`: no OK packet is as short as an EOF packet.
* `Sent.Ok.parseEnd_encode`, `EofPacket.parseEnd_encode`: both forms are read as what they are.
* `Sent.Ok.parse_both_forms`: **a client learns the whole summary from an OK packet, and in either
  form of an end whether another statement's answer follows.**
-/

namespace MySqlClient

open Reader

/-- There is a lead octet. -/
theorem Wire.length_lenEncInt_pos (n : UInt64) : 0 < (lenEncInt n).length := by
  obtain ⟨lead, rest, h, -⟩ := exists_lenEncInt_eq_cons n
  rw [h]
  exact Nat.succ_pos _

/-- An EOF packet is read as one, also where EOF packets are deprecated. -/
theorem EofPacket.parseEnd_encode {capabilities : Capabilities}
    (hprotocol : capabilities.contains .protocol41 = true) (eof : EofPacket) :
    Summary.parseEnd capabilities (eof.encode capabilities) =
      .ok { status := eof.status, warnings := eof.warnings } := by
  have hlength := eof.length_encode_le capabilities
  have hshort : Bytes.hasAtLeast 6 (eof.encode capabilities) = false := by
    rw [Bytes.hasAtLeast_eq, decide_eq_false_iff_not]
    omega
  rw [Summary.parseEnd, hshort, Bool.and_false, if_neg Bool.false_ne_true, EofPacket.parse_encode,
    if_pos hprotocol]
  rfl

namespace Sent.Ok

variable {capabilities : Capabilities} {ok : Ok} {summary : Summary}

/-- The packet says what is in the summary.  The text is in UTF-8, and may be missing if it is
empty. -/
structure Says (ok : Ok) (summary : Summary) : Prop where
  affectedRows : ok.affectedRows = summary.affectedRows
  lastInsertId : ok.lastInsertId = summary.lastInsertId
  status : ok.status = summary.status
  warnings : ok.warnings = summary.warnings
  info : ok.info = some (Bytes.ofString summary.info) ∨ ok.info = none ∧ summary.info = ""

/-- The length of the text can be written. -/
theorem Says.fits (h : ok.Says summary)
    (hlength : (Bytes.ofString summary.info).length < UInt64.size) : ok.Fits := by
  intro text htext
  rcases h.info with hinfo | ⟨hnone, -⟩
  · rw [hinfo] at htext
    exact Option.some.inj htext ▸ hlength
  · rw [hnone] at htext
    cases htext

/-- A client of protocol 4.1 learns the summary. -/
theorem Says.summary_eq (h : ok.Says summary)
    (hprotocol : capabilities.contains .protocol41 = true) : ok.summary capabilities = summary := by
  have hinfo : Utf8.decodeLossy (ok.info.getD []) = summary.info := by
    rcases h.info with hinfo | ⟨hnone, hempty⟩
    · rw [hinfo, Option.getD_some, Utf8.decodeLossy_ofString]
    · rw [hnone, Option.getD_none, hempty, Utf8.decodeLossy_nil]
  rw [Ok.summary, if_pos hprotocol, if_pos hprotocol, hinfo, h.affectedRows, h.lastInsertId,
    h.status, h.warnings]

/-- **No OK packet of protocol 4.1 is as short as an EOF packet**: two numbers, the status and the
warnings follow the header. -/
theorem seven_le_length_encode (hprotocol : capabilities.contains .protocol41 = true)
    (header : UInt8) (ok : Ok) : 7 ≤ (ok.encode header capabilities).length := by
  have haffected := Wire.length_lenEncInt_pos ok.affectedRows
  have hid := Wire.length_lenEncInt_pos ok.lastInsertId
  have hstatus : (ok.statusField capabilities).length = 4 := by
    rw [statusField, if_pos hprotocol, List.length_append, Bytes.length_ofNat, Bytes.length_ofNat]
  rw [encode, List.length_cons, List.length_append, List.length_append, List.length_append, hstatus]
  omega

/-- An OK packet at the end of a result set is read as one. -/
theorem parseEnd_encode (hprotocol : capabilities.contains .protocol41 = true)
    (hdeprecated : capabilities.contains .deprecateEof = true) (h : ok.Fits) :
    Summary.parseEnd capabilities (ok.encode Packet.eofHeader capabilities) =
      .ok (ok.summary capabilities) := by
  have hlength := seven_le_length_encode hprotocol Packet.eofHeader ok
  have hlong : Bytes.hasAtLeast 6 (ok.encode Packet.eofHeader capabilities) = true := by
    rw [Bytes.hasAtLeast_eq, decide_eq_true_eq]
    omega
  rw [Summary.parseEnd, hdeprecated, hlong, Bool.and_true, if_pos rfl]
  exact parse_encode (.inr rfl) h capabilities

/-- **A client learns the whole summary from an OK packet, and in either form of an end whether
another statement's answer follows.**  The old form has five octets and leaves the rest out. -/
theorem parse_both_forms (hprotocol : capabilities.contains .protocol41 = true)
    (h : ok.Says summary) (hlength : (Bytes.ofString summary.info).length < UInt64.size) :
    (∀ header, header = Packet.okHeader ∨ header = Packet.eofHeader →
      Summary.parse capabilities (ok.encode header capabilities) = .ok summary) ∧
      ∃ ended, Summary.parseEnd capabilities (ok.encodeEnd capabilities) = .ok ended ∧
        ended.status = summary.status ∧ ended.warnings = summary.warnings ∧
        ended.status.moreResults = summary.status.moreResults ∧
        (capabilities.contains .deprecateEof = true → ended = summary) ∧
        (capabilities.contains .deprecateEof = false →
          ok.encodeEnd capabilities = Packet.eofHeader ::
            (Bytes.ofNat 2 summary.warnings.toNat ++ Bytes.ofNat 2 summary.status.bits.toNat) ∧
          ended = { status := summary.status, warnings := summary.warnings }) := by
  have hfits := h.fits hlength
  have hsummary := h.summary_eq hprotocol
  refine ⟨fun header hheader => ?_, ?_⟩
  · rw [parse_encode hheader hfits, hsummary]
  unfold encodeEnd
  cases hdeprecated : capabilities.contains .deprecateEof with
  | true =>
    refine ⟨summary, ?_, rfl, rfl, rfl, fun _ => rfl, ?_⟩
    · rw [if_pos rfl, parseEnd_encode hprotocol hdeprecated hfits, hsummary]
    · rintro ⟨⟩
  | false =>
    refine ⟨{ status := summary.status, warnings := summary.warnings }, ?_, rfl, rfl, rfl, ?_,
      fun _ => ⟨?_, rfl⟩⟩
    · rw [if_neg Bool.false_ne_true, EofPacket.parseEnd_encode hprotocol, h.status, h.warnings]
    · rintro ⟨⟩
    · rw [if_neg Bool.false_ne_true, EofPacket.encode, if_pos hprotocol, h.status, h.warnings]

/-- What an update may be answered with, in front of another statement's answer. -/
def ofUpdate : Ok where
  affectedRows := 300
  lastInsertId := 70000
  status := ⟨0x000A⟩
  warnings := 2
  info := some (Bytes.ofString "Rows matched: 300")
  changes := [0x03, 0x05, 0x01, 0x31]

/-- The summary in it. -/
def updateSummary : Summary where
  affectedRows := 300
  lastInsertId := 70000
  status := ⟨0x000A⟩
  warnings := 2
  info := "Rows matched: 300"

/-- Both forms of the end tell that another statement's answer follows. -/
theorem parse_both_forms_ofUpdate :
    Summary.parse .clientDefault (ofUpdate.encode Packet.okHeader .clientDefault) =
        .ok updateSummary ∧
      Summary.parseEnd .clientDefault (ofUpdate.encodeEnd .clientDefault) = .ok updateSummary ∧
      Summary.parseEnd .required (ofUpdate.encodeEnd .required) =
        .ok { status := ⟨0x000A⟩, warnings := 2 } ∧
      updateSummary.status.moreResults = true := by
  have hsays : ofUpdate.Says updateSummary :=
    { affectedRows := rfl, lastInsertId := rfl, status := rfl, warnings := rfl, info := .inl rfl }
  have hlength : (Bytes.ofString updateSummary.info).length < UInt64.size := by decide
  have hdefault : Capabilities.clientDefault.contains .protocol41 = true := by decide
  have hrequired : Capabilities.required.contains .protocol41 = true := by decide
  obtain ⟨hparse, ended, hended, -, -, -, hwhole, -⟩ := parse_both_forms hdefault hsays hlength
  obtain ⟨-, short, hshort, -, -, -, -, hlegacy⟩ := parse_both_forms hrequired hsays hlength
  refine ⟨hparse _ (.inl rfl), ?_, ?_, by decide⟩
  · rw [hended, hwhole (by decide)]
  · rw [hshort, (hlegacy (by decide)).2]
    rfl

end Sent.Ok

end MySqlClient
