import MySqlClient.Wire.Reader
import MySqlClient.Wire.Writer

/-!
# Wire primitives read back

* `Reader.Reads`: a reader takes given octets for a value, whatever follows them; `Reads.bind` puts
  such readers one behind the other.
* `reads_number`, `reads_lenEncInt`, `reads_lenEncBytes` and so on: what the writers give is read
  back.
* `Reads.parse_append`: a whole packet that begins with such octets.
* `Wire.exists_lenEncInt_eq_cons`: the octet that a length-encoded number begins with;
  `Wire.exists_lenEncBytes_eq_cons`: no length-encoded string begins like an error packet.
-/

namespace MySqlClient

namespace Reader

variable {α β : Type}

/-- The reader takes the octets for the value, whatever follows them. -/
def Reads (reader : Reader α) (octets : Bytes) (value : α) : Prop :=
  ∀ rest, reader (octets ++ rest) = .ok value rest

theorem bind_apply (reader : Reader α) (next : α → Reader β) (octets : Bytes) :
    (reader >>= next) octets =
      match reader octets with
      | .ok value rest => next value rest
      | .error error rest => .error error rest := by
  show EStateM.bind reader next octets = _
  unfold EStateM.bind
  cases reader octets <;> rfl

theorem bind_of_ok {reader : Reader α} {octets rest : Bytes} {value : α}
    (h : reader octets = .ok value rest) (next : α → Reader β) :
    (reader >>= next) octets = next value rest := by
  rw [bind_apply, h]

/-- What is looked at is still there. -/
theorem peek_bind (next : Bytes → Reader β) (octets : Bytes) :
    (peek >>= next) octets = next octets octets :=
  bind_of_ok rfl next

/-- Both readers have succeeded. -/
theorem bind_eq_ok_iff {reader : Reader α} {next : α → Reader β} {octets rest : Bytes}
    {result : β} :
    (reader >>= next) octets = .ok result rest ↔
      ∃ value left, reader octets = .ok value left ∧ next value left = .ok result rest := by
  rw [bind_apply]
  cases reader octets <;> simp [and_assoc]

/-- **One reader behind the other.** -/
theorem Reads.bind {reader : Reader α} {octets more : Bytes} {value : α} {result : β}
    (h : Reads reader octets value) (next : α → Reader β)
    (hnext : Reads (next value) more result) : Reads (reader >>= next) (octets ++ more) result := by
  intro rest
  rw [List.append_assoc, bind_of_ok (h _)]
  exact hnext rest

/-- A reader behind it that takes nothing. -/
theorem Reads.bind_nil {reader : Reader α} {octets : Bytes} {value : α} {result : β}
    (h : Reads reader octets value) (next : α → Reader β) (hnext : Reads (next value) [] result) :
    Reads (reader >>= next) octets result := by
  have hbind := h.bind next hnext
  rwa [List.append_nil] at hbind

theorem Reads.pure (value : α) : Reads (Pure.pure value) [] value :=
  fun _ => rfl

/-- A reader whose value is changed afterwards. -/
theorem Reads.map {reader : Reader α} {octets : Bytes} {value : α} (f : α → β)
    (h : Reads reader octets value) :
    Reads (reader >>= fun a => Pure.pure (f a)) octets (f value) :=
  h.bind_nil _ (Reads.pure (f value))

theorem Reads.parse_append {reader : Reader α} {octets : Bytes} {value : α}
    (h : Reads reader octets value) (rest : Bytes) : reader.parse (octets ++ rest) = .ok value := by
  rw [parse, h rest]

theorem Reads.parse {reader : Reader α} {octets : Bytes} {value : α}
    (h : Reads reader octets value) : reader.parse octets = .ok value := by
  have happend := h.parse_append []
  rwa [List.append_nil] at happend

/-! ## Fixed widths -/

theorem reads_u8 (b : UInt8) : Reads u8 [b] b :=
  fun _ => rfl

theorem reads_take (octets : Bytes) : Reads (take octets.length) octets octets :=
  fun rest => take_append octets rest

theorem reads_take_of_length_eq {octets : Bytes} {n : Nat} (h : octets.length = n) :
    Reads (take n) octets octets :=
  h ▸ reads_take octets

theorem reads_number {width n : Nat} (h : n < Bytes.capacity width) :
    Reads (number width) (Bytes.ofNat width n) n := by
  have hmap := (reads_take_of_length_eq (Bytes.length_ofNat width n)).map Bytes.toNat
  rwa [Bytes.toNat_ofNat, Nat.mod_eq_of_lt h] at hmap

theorem reads_u16 (n : UInt16) : Reads u16 (Bytes.ofNat 2 n.toNat) n := by
  have hlt : n.toNat < Bytes.capacity 2 := n.toNat_lt
  have hmap := (reads_number hlt).map UInt16.ofNat
  rwa [UInt16.ofNat_toNat] at hmap

theorem reads_u32 (n : UInt32) : Reads u32 (Bytes.ofNat 4 n.toNat) n := by
  have hlt : n.toNat < Bytes.capacity 4 := n.toNat_lt
  have hmap := (reads_number hlt).map UInt32.ofNat
  rwa [UInt32.ofNat_toNat] at hmap

/-! ## Length-encoded numbers and strings -/

/-- A lead octet below the markers stands for itself. -/
theorem lenEncInt_of_lead {b : UInt8} (h : b.toNat < 251) :
    Reads lenEncInt [b] (some (UInt64.ofNat b.toNat)) := by
  intro rest
  have hne (c : UInt8) (hc : 251 ≤ c.toNat) : (b == c) = false := by
    rw [beq_eq_false_iff_ne]
    rintro rfl
    omega
  have hread : u8 ([b] ++ rest) = .ok b rest := rfl
  rw [lenEncInt, bind_of_ok hread, hne 0xFB (by decide), hne 0xFC (by decide),
    hne 0xFD (by decide), hne 0xFE (by decide), hne 0xFF (by decide)]
  rfl

/-- A marker is followed by a number of fixed width. -/
theorem reads_lenEncInt_marked {marker : UInt8} {width : Nat} {n : UInt64}
    (hmarker : marker = 0xFC ∧ width = 2 ∨ marker = 0xFD ∧ width = 3 ∨ marker = 0xFE ∧ width = 8)
    (h : n.toNat < Bytes.capacity width) :
    Reads lenEncInt (marker :: Bytes.ofNat width n.toNat) (some n) := by
  have hmap := (reads_number h).map fun n => some (UInt64.ofNat n)
  rw [UInt64.ofNat_toNat] at hmap
  intro rest
  rw [List.cons_append, lenEncInt, bind_of_ok (u8_cons marker _)]
  rcases hmarker with ⟨rfl, rfl⟩ | ⟨rfl, rfl⟩ | ⟨rfl, rfl⟩ <;> exact hmap rest

/-- **A length-encoded number is read back.** -/
theorem reads_lenEncInt (n : UInt64) : Reads lenEncInt (Wire.lenEncInt n) (some n) := by
  unfold Wire.lenEncInt
  split
  · next h =>
    have hn : n.toNat < 251 := by simpa [UInt64.lt_iff_toNat_lt] using h
    have hb : (UInt8.ofNat n.toNat).toNat = n.toNat := by
      rw [UInt8.toNat_ofNat', Nat.mod_eq_of_lt (by omega)]
    have hread := lenEncInt_of_lead (show (UInt8.ofNat n.toNat).toNat < 251 by omega)
    rwa [hb, UInt64.ofNat_toNat] at hread
  · split
    · next h =>
      have hn : n.toNat < Bytes.capacity 2 := UInt64.lt_iff_toNat_lt.mp h
      exact reads_lenEncInt_marked (by simp) hn
    · split
      · next h =>
        have hn : n.toNat < Bytes.capacity 3 := UInt64.lt_iff_toNat_lt.mp h
        exact reads_lenEncInt_marked (by simp) hn
      · have hn : n.toNat < Bytes.capacity 8 := n.toNat_lt
        exact reads_lenEncInt_marked (by simp) hn

theorem reads_lenEncCount (n : UInt64) : Reads lenEncCount (Wire.lenEncInt n) n :=
  (reads_lenEncInt n).bind_nil _ (Reads.pure n)

/-- **A length-encoded string is read back.** -/
theorem reads_lenEncBytes {octets : Bytes} (h : octets.length < UInt64.size) :
    Reads lenEncBytes (Wire.lenEncBytes octets) (some octets) := by
  have hlength : octets.length = (UInt64.ofNat octets.length).toNat := by
    rw [UInt64.toNat_ofNat_of_lt' h]
  have htake := (reads_take_of_length_eq hlength).map some
  exact (reads_lenEncInt (UInt64.ofNat octets.length)).bind _ htake

/-- It is read back where NULL is refused, too. -/
theorem reads_lenEncBytes_required (fault : ProtocolFault) {octets : Bytes}
    (h : octets.length < UInt64.size) :
    Reads (do
      match ← lenEncBytes with
      | some octets => return octets
      | none => fail fault) (Wire.lenEncBytes octets) octets :=
  (reads_lenEncBytes h).bind_nil _ (Reads.pure octets)

theorem reads_lenEncBytes_null : Reads lenEncBytes [0xFB] none :=
  fun _ => rfl

theorem reads_lenEncText {octets : Bytes} (h : octets.length < UInt64.size) :
    Reads lenEncText (Wire.lenEncBytes octets) (Utf8.decodeLossy octets) := by
  have hmap := (reads_lenEncBytes h).map fun found : Option Bytes =>
    Utf8.decodeLossy (found.getD [])
  exact hmap

end Reader

namespace Wire

/-- The lead octet of a length-encoded number: the number itself, or a marker. -/
theorem exists_lenEncInt_eq_cons (n : UInt64) :
    ∃ lead rest, lenEncInt n = lead :: rest ∧ lead ≠ 0xFF ∧ lead ≠ 0xFB ∧
      (lead = 0 → n = 0) ∧ (lead = 0xFE → Bytes.capacity 3 ≤ n.toNat) := by
  unfold lenEncInt
  split
  · next h =>
    have hn : n.toNat < 251 := by simpa [UInt64.lt_iff_toNat_lt] using h
    have hb : (UInt8.ofNat n.toNat).toNat = n.toNat := by
      rw [UInt8.toNat_ofNat', Nat.mod_eq_of_lt (by omega)]
    have hne (c : UInt8) (hc : 251 ≤ c.toNat) : UInt8.ofNat n.toNat ≠ c := by
      intro heq
      rw [← heq, hb] at hc
      omega
    refine ⟨UInt8.ofNat n.toNat, [], rfl, hne _ (by decide), hne _ (by decide), ?_, ?_⟩
    · intro heq
      rw [heq] at hb
      exact UInt64.toNat_inj.mp hb.symm
    · intro heq
      exact absurd heq (hne _ (by decide))
  · split
    · exact ⟨0xFC, _, rfl, by decide, by decide, fun h => absurd h (by decide),
        fun h => absurd h (by decide)⟩
    · split
      · exact ⟨0xFD, _, rfl, by decide, by decide, fun h => absurd h (by decide),
          fun h => absurd h (by decide)⟩
      · next h =>
        refine ⟨0xFE, _, rfl, by decide, by decide, fun h => absurd h (by decide), fun _ => ?_⟩
        exact UInt64.le_iff_toNat_le.mp (UInt64.not_lt.mp h)

/-- **No length-encoded string begins like an error packet.** -/
theorem exists_lenEncBytes_eq_cons (octets : Bytes) :
    ∃ lead rest, lenEncBytes octets = lead :: rest ∧ lead ≠ 0xFF := by
  obtain ⟨lead, rest, h, hlead, -⟩ := exists_lenEncInt_eq_cons (UInt64.ofNat octets.length)
  exact ⟨lead, rest ++ octets, by rw [lenEncBytes, h, List.cons_append], hlead⟩

end Wire

end MySqlClient
