import MySqlClient.Proofs.Temporal.Texts
import MySqlClient.Proofs.Wire.Terminated

/-!
# TIME columns in both protocols

A TIME is a span of up to 838 hours with a sign.  As text it has all its hours, behind the sign.  In
the binary protocol it has a sign, a number of days, and the time within the day; the sign and the
days stand in the five octets that are reserved in front of a time of day.

* `Sent.Time`: the values, with `octets` and `text`, and `fetched` in either format.
* `Sent.Time.toTemporal?_binary`: of the octets, the time within the day is read.
* `Sent.Time.toTemporal?_text`: of the text, all hours are read, or nothing; `Sent.Time.IsReadable`
  says when.
* `Sent.Time.withHour_eq_iff`: when two values are reported alike.
* `Sent.Time.readings`: **the two readings agree exactly within the first day**, and which values
  have the same reading.
-/

namespace MySqlClient

namespace Sent

/-- A TIME value of a server. -/
@[ext]
structure Time where
  negative : Bool
  hours : Fin 839
  minute : Fin 60
  second : Fin 60
  microsecond : Option (Fin 1000000)

namespace Time

/-- The binary layout: the sign, the days, and the time within the day. -/
def octets (t : Time) : Bytes :=
  (if t.negative then 1 else 0) :: Bytes.ofNat 4 (t.hours / 24) ++
    [UInt8.ofNat (t.hours % 24), UInt8.ofNat t.minute, UInt8.ofNat t.second] ++
    match t.microsecond with
    | none => []
    | some n => Bytes.ofNat 4 n

/-- The hours of the text, with their sign. -/
def hourText (t : Time) : List Char :=
  (if t.negative then ['-'] else []) ++ Decimal.padded 2 t.hours

/-- The text: `[-]HH:MM:SS[.ffffff]`, with a third digit for the hours if they need it. -/
def text (t : Time) : String :=
  String.ofList <|
    t.hourText ++ ':' :: Decimal.padded 2 t.minute ++ ':' :: Decimal.padded 2 t.second ++
      match t.microsecond with
      | none => []
      | some n => '.' :: Decimal.padded 6 n

/-- The value of a column, as it comes in a row of one of the two protocols. -/
def fetched (t : Time) (format : Format) (unsigned : Bool) : Value :=
  ⟨.time, format, unsigned, some <| match format with
    | .binary => t.octets
    | .text => Bytes.ofString t.text⟩

/-- A time of day with the minutes, seconds and microseconds of a value. -/
def withHour (t : Time) (hour : Nat) : Temporal where
  hour := some (UInt8.ofNat hour)
  minute := some (UInt8.ofNat t.minute)
  second := some (UInt8.ofNat t.second)
  microsecond := t.microsecond.map fun n => UInt32.ofNat n.val

/-- The value has no sign, and its hours fit in an octet. -/
def IsReadable (t : Time) : Prop :=
  t.negative = false ∧ t.hours.val < UInt8.size

instance (t : Time) : Decidable t.IsReadable :=
  inferInstanceAs (Decidable (_ ∧ _))

/-! ## Numbers below a bound, as words -/

theorem isLt_size (n : Fin 60) : n.val < UInt8.size :=
  Nat.lt_trans n.isLt (by decide)

theorem toNat_part (n : Fin 60) : (UInt8.ofNat n).toNat = n :=
  UInt8.toNat_ofNat_of_lt' (isLt_size n)

theorem toNat_microsecond (n : Fin 1000000) : (UInt32.ofNat n).toNat = n :=
  UInt32.toNat_ofNat_of_lt' (Nat.lt_trans n.isLt (by decide))

/-- Numbers that fit in an octet are told apart by it. -/
theorem eq_of_ofNat_uint8 {m n : Nat} (hm : m < UInt8.size) (hn : n < UInt8.size)
    (h : UInt8.ofNat m = UInt8.ofNat n) : m = n := by
  have htoNat := congrArg UInt8.toNat h
  rwa [UInt8.toNat_ofNat_of_lt' hm, UInt8.toNat_ofNat_of_lt' hn] at htoNat

theorem injective_microsecond :
    Function.Injective fun n : Fin 1000000 => UInt32.ofNat n.val := by
  intro m n h
  have htoNat := congrArg UInt32.toNat h
  simp only [toNat_microsecond] at htoNat
  exact Fin.ext htoNat

/-- Microseconds of a value are fewer than a million. -/
theorem microsecond_lt (t : Time) (hour : Nat) :
    ∀ n, (t.withHour hour).microsecond = some n → n.toNat < 1000000 := by
  intro n hn
  obtain ⟨k, -, rfl⟩ := Option.map_eq_some_iff.mp hn
  rw [toNat_microsecond]
  exact k.isLt

/-- What is reported of a value tells its parts. -/
theorem withHour_eq_iff {t t' : Time} {hour hour' : Nat} (h : hour < UInt8.size)
    (h' : hour' < UInt8.size) :
    t.withHour hour = t'.withHour hour' ↔
      hour = hour' ∧ t.minute = t'.minute ∧ t.second = t'.second ∧
        t.microsecond = t'.microsecond := by
  constructor
  · intro heq
    simp only [withHour, Temporal.mk.injEq, Option.some.injEq, true_and] at heq
    obtain ⟨hhour, hminute, hsecond, hmicrosecond⟩ := heq
    refine ⟨eq_of_ofNat_uint8 h h' hhour, Fin.ext ?_, Fin.ext ?_, ?_⟩
    · exact eq_of_ofNat_uint8 (isLt_size t.minute) (isLt_size t'.minute) hminute
    · exact eq_of_ofNat_uint8 (isLt_size t.second) (isLt_size t'.second) hsecond
    · exact Option.map_injective injective_microsecond hmicrosecond
  · rintro ⟨rfl, hminute, hsecond, hmicrosecond⟩
    rw [withHour, withHour, hminute, hsecond, hmicrosecond]

/-! ## The two readings -/

/-- The layout of a value: what it is of the time of day, behind sign and days. -/
theorem octets_eq (t : Time) :
    ∃ layout : Temporal.Layout, layout.octets = t.octets ∧
      layout.value = t.withHour (t.hours % 24) := by
  have hreserved : ((if t.negative then (1 : UInt8) else 0) ::
      Bytes.ofNat 4 (t.hours / 24)).length = 5 := by
    rw [List.length_cons, Bytes.length_ofNat]
  refine ⟨.clockOnly ⟨_, hreserved⟩ ⟨UInt8.ofNat (t.hours % 24), UInt8.ofNat t.minute,
    UInt8.ofNat t.second⟩ (t.microsecond.map fun n => UInt32.ofNat n.val), ?_, rfl⟩
  rw [Temporal.Layout.octets, octets, List.append_assoc]
  cases t.microsecond with
  | none => rfl
  | some n =>
    show _ ++ (_ ++ Bytes.ofNat 4 (UInt32.ofNat n).toNat) = _
    rw [toNat_microsecond]
    rfl

/-- **Of the octets, the time within the day is read**, whatever the sign and the days. -/
theorem toTemporal?_binary (t : Time) (unsigned : Bool) :
    (t.fetched .binary unsigned).toTemporal? = some (t.withHour (t.hours % 24)) := by
  obtain ⟨layout, hoctets, hvalue⟩ := t.octets_eq
  show (Temporal.decode t.octets).toOption = _
  rw [← hoctets, Temporal.decode_octets, hvalue]
  rfl

theorem isBare_hourText (t : Time) : Text.IsBare t.hourText := by
  refine Text.isBare_of_forall (by simp [hourText, Decimal.padded_ne_nil]) fun c hc => ?_
  rw [hourText, List.mem_append] at hc
  rcases hc with hsign | hdigit
  · cases hnegative : t.negative <;> simp [hnegative] at hsign
    exact hsign ▸ rfl
  · exact Decimal.isBlank_of_isDigit (Decimal.isDigit_of_mem_padded c hdigit)

/-- The hours are read, if they have no sign and fit in an octet. -/
theorem octet?_hourText (t : Time) :
    Temporal.octet? t.hourText =
      if t.IsReadable then some (UInt8.ofNat t.hours) else none := by
  cases hnegative : t.negative with
  | false =>
    have hreadable : t.IsReadable ↔ t.hours.val < UInt8.size := by
      simp [IsReadable, hnegative]
    simp only [hourText, hnegative, hreadable]
    exact Temporal.octet?_field 2 t.hours
  | true =>
    have hrefused : ¬ t.IsReadable := fun h => absurd (hnegative.symm.trans h.1) (by decide)
    have hminus : t.hourText = '-' :: Decimal.padded 2 t.hours := by
      simp [hourText, hnegative]
    rw [if_neg hrefused, Temporal.octet?, hminus, Decimal.unsigned?_minus]
    rfl

/-- The text is a time of day behind its hours, with the sign in front of them. -/
theorem text_eq (t : Time) :
    t.text = String.ofList (Temporal.fractionForm t.hourText (UInt8.ofNat t.minute)
      (UInt8.ofNat t.second) (t.withHour 0).microsecond) := by
  rw [text, Temporal.fractionForm, Temporal.clockForm, toNat_part, toNat_part]
  congr 1
  cases hmicrosecond : t.microsecond with
  | none => simp [withHour, hmicrosecond, Temporal.fractionText, Temporal.field]
  | some n =>
    have hn := toNat_microsecond n
    simp [withHour, hmicrosecond, Temporal.fractionText, Temporal.field, hn]

/-- **Of the text, all hours are read or nothing.** -/
theorem toTemporal?_text (t : Time) (unsigned : Bool) :
    (t.fetched .text unsigned).toTemporal? =
      if t.IsReadable then some (t.withHour t.hours) else none := by
  have hdecode : (t.fetched .text unsigned).toTemporal? = Temporal.parse? t.text := by
    simp only [fetched, Value.toTemporal?, Value.utf8?, Option.bind_some, Utf8.decode?_ofString]
  have hdigits (mark : Char) (h : mark.isDigit = false) (hsign : mark ≠ '-') :
      mark ∉ t.hourText := by
    simp [hourText, Decimal.notMem_padded h, hsign]
  rw [hdecode, text_eq, Temporal.parse?_fractionForm t.isBare_hourText (hdigits ' ' rfl (by decide))
    (hdigits ':' rfl (by decide)) (hdigits '.' rfl (by decide)) _ _ (t.microsecond_lt 0),
    octet?_hourText]
  by_cases h : t.IsReadable <;> simp [h, withHour, Temporal.setClock]

/-! ## Comparing them -/

/-- **Binary readings are the same** of values that differ in their sign or their days only. -/
theorem binary_eq_iff (t t' : Time) (unsigned : Bool) :
    (t.fetched .binary unsigned).toTemporal? = (t'.fetched .binary unsigned).toTemporal? ↔
      t.hours.val % 24 = t'.hours.val % 24 ∧ t.minute = t'.minute ∧ t.second = t'.second ∧
        t.microsecond = t'.microsecond := by
  have hday (n : Nat) : n % 24 < UInt8.size := Nat.lt_trans (Nat.mod_lt n (by decide)) (by decide)
  rw [toTemporal?_binary, toTemporal?_binary, Option.some.injEq, withHour_eq_iff (hday _) (hday _)]

/-- Values that are read are reported alike only if they are equal. -/
theorem withHour_hours_eq_iff {t t' : Time} (h : t.IsReadable) (h' : t'.IsReadable) :
    t.withHour t.hours = t'.withHour t'.hours ↔ t = t' := by
  rw [withHour_eq_iff h.2 h'.2]
  constructor
  · rintro ⟨hhours, hminute, hsecond, hmicrosecond⟩
    have hnegative : t.negative = t'.negative := h.1.trans h'.1.symm
    exact Time.ext hnegative (Fin.ext hhours) hminute hsecond hmicrosecond
  · rintro rfl
    exact ⟨rfl, rfl, rfl, rfl⟩

/-- **Readings of texts are the same** of equal values, and of values that are both not read. -/
theorem text_eq_iff (t t' : Time) (unsigned : Bool) :
    (t.fetched .text unsigned).toTemporal? = (t'.fetched .text unsigned).toTemporal? ↔
      t = t' ∨ ¬ t.IsReadable ∧ ¬ t'.IsReadable := by
  rw [toTemporal?_text, toTemporal?_text]
  by_cases h : t.IsReadable <;> by_cases h' : t'.IsReadable
  · rw [if_pos h, if_pos h', Option.some.injEq, withHour_hours_eq_iff h h']
    exact ⟨.inl, fun hor => hor.resolve_right fun hnot => hnot.1 h⟩
  · have hne : t ≠ t' := fun heq => h' (heq ▸ h)
    simp [h, h', hne]
  · have hne : t ≠ t' := fun heq => h (heq ▸ h')
    simp [h, h', hne]
  · exact iff_of_true (by rw [if_neg h, if_neg h']) (.inr ⟨h, h'⟩)

/-- **The text confirms what is read of the octets exactly within the first day**, without sign. -/
theorem text_of_binary_iff (t : Time) (unsigned : Bool) :
    (∀ r, (t.fetched .binary unsigned).toTemporal? = some r →
        (t.fetched .text unsigned).toTemporal? = some r) ↔
      t.negative = false ∧ t.hours.val < 24 := by
  rw [toTemporal?_binary, toTemporal?_text]
  constructor
  · intro hagree
    have htext := hagree _ rfl
    split at htext
    case isFalse => cases htext
    case isTrue h =>
      obtain ⟨hnegative, hhours⟩ := h
      have hday : t.hours.val % 24 < 24 := Nat.mod_lt _ (by decide)
      have hsize : t.hours.val % 24 < UInt8.size := Nat.lt_trans hday (by decide)
      obtain ⟨hsame, -⟩ := (withHour_eq_iff hhours hsize).mp (Option.some.inj htext)
      exact ⟨hnegative, hsame ▸ hday⟩
  · rintro ⟨hnegative, hday⟩ r hr
    have hreadable : t.IsReadable := ⟨hnegative, Nat.lt_trans hday (by decide)⟩
    rwa [if_pos hreadable, ← Nat.mod_eq_of_lt hday]

/-- **The two readings of a TIME column.**  The octets give the time within the day, the text gives
all hours or nothing.  The octets say nothing that the text does not say if and only if the value
has no sign and less than a day.  Octets are read alike if and only if the values are the same up to
sign and days; texts are read alike if and only if the values are equal, or neither is read. -/
theorem readings (t t' : Time) (unsigned : Bool) :
    (t.fetched .binary unsigned).toTemporal? = some (t.withHour (t.hours % 24)) ∧
    (t.fetched .text unsigned).toTemporal? =
      (if t.IsReadable then some (t.withHour t.hours) else none) ∧
    ((∀ r, (t.fetched .binary unsigned).toTemporal? = some r →
        (t.fetched .text unsigned).toTemporal? = some r) ↔
      t.negative = false ∧ t.hours.val < 24) ∧
    ((t.fetched .binary unsigned).toTemporal? = (t'.fetched .binary unsigned).toTemporal? ↔
      t.hours.val % 24 = t'.hours.val % 24 ∧ t.minute = t'.minute ∧ t.second = t'.second ∧
        t.microsecond = t'.microsecond) ∧
    ((t.fetched .text unsigned).toTemporal? = (t'.fetched .text unsigned).toTemporal? ↔
      t = t' ∨ ¬ t.IsReadable ∧ ¬ t'.IsReadable) :=
  ⟨t.toTemporal?_binary unsigned, t.toTemporal?_text unsigned, t.text_of_binary_iff unsigned,
    t.binary_eq_iff t' unsigned, t.text_eq_iff t' unsigned⟩

/-- One hour, two minutes and three seconds before midnight, and a day and as much after it: the
octets of both are read as 01:02:03, the text of one as 25:02:03, that of the other not at all. -/
theorem readings_beforeMidnight :
    let before : Time := ⟨true, 1, 2, 3, none⟩
    let after : Time := ⟨false, 25, 2, 3, none⟩
    before.octets = [1, 0, 0, 0, 0, 1, 2, 3] ∧ before.text = "-01:02:03" ∧
      after.octets = [0, 1, 0, 0, 0, 1, 2, 3] ∧ after.text = "25:02:03" ∧
      (before.fetched .binary false).toTemporal? =
        some { hour := some 1, minute := some 2, second := some 3 } ∧
      (before.fetched .text false).toTemporal? = none ∧
      (after.fetched .binary false).toTemporal? =
        (before.fetched .binary false).toTemporal? ∧
      (after.fetched .text false).toTemporal? =
        some { hour := some 25, minute := some 2, second := some 3 } := by
  intro before after
  obtain ⟨hbinary, htext, -, hsame, -⟩ := readings before after false
  obtain ⟨-, hafter, -⟩ := readings after before false
  exact ⟨by decide, by decide +kernel, by decide, by decide +kernel, hbinary, htext,
    (hsame.mpr (by decide)).symm, hafter⟩

end Time

end Sent

end MySqlClient
