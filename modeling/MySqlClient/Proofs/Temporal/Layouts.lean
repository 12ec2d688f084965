import MySqlClient.Proofs.Wire.RoundTrip
import MySqlClient.Value

/-!
# Binary layouts of dates and times

What is written of a value depends on the parts that it has, and what is read depends on how many
octets there are.  Between the two stand the layouts, as data.

* `Temporal.Layout`: the layouts with what stands in them; `Layout.octets`, `Layout.value`.
* `Temporal.decode_octets`, `Layout.exists_octets_eq`: every layout is read, and all octets of one
  of the six lengths are a layout.
* `Temporal.layout`: the layout that is chosen for a value; `encode_eq`, `layout_value`.
* `Temporal.completed`: the normal form of a value, with zeros for what is missing in a part that is
  written.
* `Temporal.layouts_exact`: **values are written in their length and read back in their normal form,
  and octets that are read are written again.**
-/

namespace MySqlClient

/-! ## Pieces of octets -/

/-- Octets can be cut anywhere. -/
theorem Bytes.exists_append_eq {octets : Bytes} {m n : Nat} (h : octets.length = m + n) :
    ∃ front back : Bytes, front.length = m ∧ back.length = n ∧ front ++ back = octets := by
  refine ⟨octets.take m, octets.drop m, ?_, ?_, List.take_append_drop m octets⟩
  · rw [List.length_take, h, Nat.min_eq_left (Nat.le_add_right m n)]
  · rw [List.length_drop, h, Nat.add_sub_cancel_left]

/-- Any two octets are a word. -/
theorem Bytes.exists_ofNat_uint16 {octets : Bytes} (h : octets.length = 2) :
    ∃ word : UInt16, ofNat 2 word.toNat = octets := by
  have hlt := octets.toNat_lt
  rw [h] at hlt
  refine ⟨UInt16.ofNat octets.toNat, ?_⟩
  rw [UInt16.toNat_ofNat_of_lt' hlt, ← h, ofNat_toNat]

/-- Any four octets are a word. -/
theorem Bytes.exists_ofNat_uint32 {octets : Bytes} (h : octets.length = 4) :
    ∃ word : UInt32, ofNat 4 word.toNat = octets := by
  have hlt := octets.toNat_lt
  rw [h] at hlt
  refine ⟨UInt32.ofNat octets.toNat, ?_⟩
  rw [UInt32.toNat_ofNat_of_lt' hlt, ← h, ofNat_toNat]

namespace Temporal

/-! ## Layouts -/

/-- A date with all its parts. -/
structure Date where
  year : UInt16
  month : UInt8
  day : UInt8

/-- A time of day down to the second, with all its parts. -/
structure Clock where
  hour : UInt8
  minute : UInt8
  second : UInt8

/-- The octets of a date. -/
def Date.octets (date : Date) : Bytes :=
  Bytes.ofNat 2 date.year.toNat ++ [date.month, date.day]

/-- The octets of a time of day. -/
def Clock.octets (clock : Clock) : Bytes :=
  [clock.hour, clock.minute, clock.second]

/-- The octets of the microseconds, if there are any. -/
def fractionOctets : Option UInt32 → Bytes
  | none => []
  | some microsecond => Bytes.ofNat 4 microsecond.toNat

/-- What may stand in front of a time of day where there is no date. -/
abbrev Reserved : Type :=
  { octets : Bytes // octets.length = 5 }

/-- The layouts, with what stands in them.  A time of day may have microseconds, with a date or
without. -/
inductive Layout where
  | nothing
  | dateOnly (date : Date)
  | dateAndClock (date : Date) (clock : Clock) (microsecond : Option UInt32)
  | clockOnly (reserved : Reserved) (clock : Clock) (microsecond : Option UInt32)

/-- How many octets a layout may have. -/
def layoutLengths : List Nat := [0, 4, 7, 8, 11, 12]

/-- The octets of a layout. -/
def Layout.octets : Layout → Bytes
  | nothing => []
  | dateOnly date => date.octets
  | dateAndClock date clock microsecond =>
    date.octets ++ (clock.octets ++ fractionOctets microsecond)
  | clockOnly reserved clock microsecond =>
    reserved.val ++ (clock.octets ++ fractionOctets microsecond)

/-- A value with another date. -/
def setDate (t : Temporal) (date : Date) : Temporal :=
  { t with year := some date.year, month := some date.month, day := some date.day }

/-- A value with another time of day. -/
def setClock (t : Temporal) (clock : Clock) : Temporal :=
  { t with hour := some clock.hour, minute := some clock.minute, second := some clock.second }

/-- The value of a layout.  What is reserved has no meaning. -/
def Layout.value : Layout → Temporal
  | nothing => {}
  | dateOnly date => setDate {} date
  | dateAndClock date clock microsecond =>
    { (setDate {} date).setClock clock with microsecond }
  | clockOnly _ clock microsecond => { setClock {} clock with microsecond }

/-! ## Reading a layout -/

theorem reads_readDate (t : Temporal) (date : Date) :
    Reader.Reads (readDate t) date.octets (t.setDate date) := by
  refine (Reader.reads_u16 date.year).bind _ ?_
  exact (Reader.reads_u8 date.month).bind _ ((Reader.reads_u8 date.day).map _)

theorem reads_readClock (t : Temporal) (clock : Clock) :
    Reader.Reads (readClock t) clock.octets (t.setClock clock) := by
  refine (Reader.reads_u8 clock.hour).bind _ ?_
  exact (Reader.reads_u8 clock.minute).bind _ ((Reader.reads_u8 clock.second).map _)

theorem reads_readFraction (t : Temporal) (n : UInt32) :
    Reader.Reads (readFraction t) (fractionOctets (some n)) { t with microsecond := some n } :=
  (Reader.reads_u32 n).map fun n => ({ t with microsecond := some n } : Temporal)

theorem reads_skipDate (reserved : Reserved) : Reader.Reads skipDate reserved.val () :=
  (Reader.reads_take_of_length_eq reserved.property).map fun _ => ()

/-- **Every layout is read**, told by its length. -/
theorem reads_reader (layout : Layout) :
    Reader.Reads (reader layout.octets.length) layout.octets layout.value := by
  cases layout with
  | nothing => exact Reader.Reads.pure _
  | dateOnly date => exact reads_readDate _ date
  | dateAndClock date clock microsecond =>
    have hdate := reads_readDate {} date
    have hclock := reads_readClock (setDate {} date) clock
    cases microsecond with
    | none =>
      have hreads := hdate.bind readClock hclock
      rwa [← List.append_nil clock.octets] at hreads
    | some n => exact hdate.bind _ (hclock.bind readFraction (reads_readFraction _ n))
  | clockOnly reserved clock microsecond =>
    have hlength : (Layout.clockOnly reserved clock microsecond).octets.length =
        5 + (clock.octets ++ fractionOctets microsecond).length := by
      rw [Layout.octets, List.length_append, reserved.property]
    have hskip := reads_skipDate reserved
    have hclock := reads_readClock {} clock
    rw [hlength]
    cases microsecond with
    | none =>
      have hreads := hskip.bind (fun _ => readClock {}) hclock
      rwa [← List.append_nil clock.octets] at hreads
    | some n =>
      exact hskip.bind (fun _ => readClock {} >>= readFraction)
        (hclock.bind readFraction (reads_readFraction _ n))

theorem decode_octets (layout : Layout) : decode layout.octets = .ok layout.value :=
  (reads_reader layout).parse

/-! ## Octets that are a layout -/

/-- Any four octets are a date. -/
theorem Date.exists_octets_eq {octets : Bytes} (h : octets.length = 4) :
    ∃ date : Date, date.octets = octets := by
  obtain ⟨front, back, hfront, hback, rfl⟩ := Bytes.exists_append_eq (m := 2) (n := 2) h
  obtain ⟨year, rfl⟩ := Bytes.exists_ofNat_uint16 hfront
  match back, hback with
  | [month, day], _ => exact ⟨⟨year, month, day⟩, rfl⟩

/-- Any three octets are a time of day, and any seven are one with microseconds. -/
theorem Clock.exists_octets_eq {octets : Bytes} (h : octets.length = 3 ∨ octets.length = 7) :
    ∃ (clock : Clock) (microsecond : Option UInt32),
      clock.octets ++ fractionOctets microsecond = octets := by
  have hclock {front : Bytes} (hfront : front.length = 3) :
      ∃ clock : Clock, clock.octets = front := by
    match front, hfront with
    | [hour, minute, second], _ => exact ⟨⟨hour, minute, second⟩, rfl⟩
  rcases h with h | h
  · obtain ⟨clock, rfl⟩ := hclock h
    exact ⟨clock, none, List.append_nil _⟩
  · obtain ⟨front, back, hfront, hback, rfl⟩ := Bytes.exists_append_eq (m := 3) (n := 4) h
    obtain ⟨clock, rfl⟩ := hclock hfront
    obtain ⟨n, rfl⟩ := Bytes.exists_ofNat_uint32 hback
    exact ⟨clock, some n, rfl⟩

/-- A layout has one of the six lengths. -/
theorem Layout.length_octets_mem (layout : Layout) : layout.octets.length ∈ layoutLengths := by
  cases layout with
  | nothing => decide
  | dateOnly date => simp [octets, Date.octets, layoutLengths]
  | dateAndClock date clock microsecond =>
    cases microsecond <;> simp [octets, Date.octets, Clock.octets, fractionOctets, layoutLengths]
  | clockOnly reserved clock microsecond =>
    have hreserved := reserved.property
    cases microsecond <;> simp [octets, Clock.octets, fractionOctets, layoutLengths, hreserved]

/-- **Octets of one of the six lengths are a layout.** -/
theorem Layout.exists_octets_eq {octets : Bytes} (h : octets.length ∈ layoutLengths) :
    ∃ layout : Layout, layout.octets = octets := by
  have hdated {n : Nat} (hn : n = 3 ∨ n = 7) (hlength : octets.length = 4 + n) :
      ∃ layout : Layout, layout.octets = octets := by
    obtain ⟨front, back, hfront, rfl, rfl⟩ := Bytes.exists_append_eq hlength
    obtain ⟨date, rfl⟩ := Date.exists_octets_eq hfront
    obtain ⟨clock, microsecond, rfl⟩ := Clock.exists_octets_eq hn
    exact ⟨.dateAndClock date clock microsecond, rfl⟩
  have hreserved {n : Nat} (hn : n = 3 ∨ n = 7) (hlength : octets.length = 5 + n) :
      ∃ layout : Layout, layout.octets = octets := by
    obtain ⟨front, back, hfront, rfl, rfl⟩ := Bytes.exists_append_eq hlength
    obtain ⟨clock, microsecond, rfl⟩ := Clock.exists_octets_eq hn
    exact ⟨.clockOnly ⟨front, hfront⟩ clock microsecond, rfl⟩
  simp only [layoutLengths, List.mem_cons, List.not_mem_nil, or_false] at h
  rcases h with h | h | h | h | h | h
  · exact ⟨.nothing, (List.eq_nil_of_length_eq_zero h).symm⟩
  · obtain ⟨date, hdate⟩ := Date.exists_octets_eq h
    exact ⟨.dateOnly date, hdate⟩
  · exact hdated (.inl rfl) h
  · exact hreserved (.inl rfl) h
  · exact hdated (.inr rfl) h
  · exact hreserved (.inr rfl) h

theorem reader_of_notMem {length : Nat} (h : length ∉ layoutLengths) :
    reader length = throw (.decode (.temporalLength length)) := by
  simp only [layoutLengths, List.mem_cons, List.not_mem_nil, or_false, not_or] at h
  obtain ⟨h₀, h₄, h₇, h₈, h₁₁, h₁₂⟩ := h
  exact reader.eq_7 length h₀ h₄ h₇ h₈ h₁₁ h₁₂

/-- Octets of any other length are refused, and the error names their length. -/
theorem decode_of_notMem {octets : Bytes} (h : octets.length ∉ layoutLengths) :
    decode octets = .error (.decode (.temporalLength octets.length)) := by
  rw [decode, reader_of_notMem h]
  rfl

/-- **What is read**: the value of a layout. -/
theorem decode_eq_ok_iff {octets : Bytes} {t : Temporal} :
    decode octets = .ok t ↔ ∃ layout : Layout, layout.octets = octets ∧ layout.value = t := by
  constructor
  · intro hdecode
    by_cases hlength : octets.length ∈ layoutLengths
    · obtain ⟨layout, rfl⟩ := Layout.exists_octets_eq hlength
      rw [decode_octets] at hdecode
      exact ⟨layout, rfl, Except.ok.inj hdecode⟩
    · rw [decode_of_notMem hlength] at hdecode
      cases hdecode
  · rintro ⟨layout, rfl, rfl⟩
    exact decode_octets layout

/-! ## Choosing a layout -/

/-- Whether a time of day is written of a value. -/
def hasClock (t : Temporal) : Bool :=
  t.hasTime || t.microsecond.isSome

/-- The date of a value, with zeros for what is missing. -/
def filledDate (t : Temporal) : Date :=
  ⟨t.year.getD 0, t.month.getD 0, t.day.getD 0⟩

/-- The time of day of a value, with zeros for what is missing. -/
def filledClock (t : Temporal) : Clock :=
  ⟨t.hour.getD 0, t.minute.getD 0, t.second.getD 0⟩

/-- The layout that is chosen for a value. -/
def layout (t : Temporal) : Layout :=
  match t.hasDate, t.hasClock with
  | false, false => .nothing
  | true, false => .dateOnly t.filledDate
  | true, true => .dateAndClock t.filledDate t.filledClock t.microsecond
  | false, true => .clockOnly ⟨noDate, rfl⟩ t.filledClock t.microsecond

/-- The normal form of a value.  Where any part of the date is present, what is missing of it is
zero; likewise the time of day, which microseconds bring with them; all else is missing. -/
def completed (t : Temporal) : Temporal where
  year := if t.hasDate then some (t.year.getD 0) else none
  month := if t.hasDate then some (t.month.getD 0) else none
  day := if t.hasDate then some (t.day.getD 0) else none
  hour := if t.hasClock then some (t.hour.getD 0) else none
  minute := if t.hasClock then some (t.minute.getD 0) else none
  second := if t.hasClock then some (t.second.getD 0) else none
  microsecond := t.microsecond

/-- **What is written is the layout of the value.** -/
theorem encode_eq (t : Temporal) : t.encode = t.layout.octets := by
  unfold encode layout hasClock
  cases t.hasDate <;> cases t.hasTime <;> cases hmicrosecond : t.microsecond <;>
    simp [Layout.octets, encodeDate, encodeClock, encodeFraction, Date.octets, Clock.octets,
      fractionOctets, filledDate, filledClock, noDate, hmicrosecond]

/-- The value of the layout is the normal form. -/
theorem value_layout (t : Temporal) : t.layout.value = t.completed := by
  unfold layout completed hasClock
  cases t.hasDate <;> cases t.hasTime <;> cases hmicrosecond : t.microsecond <;>
    simp [Layout.value, setDate, setClock, filledDate, filledClock]

/-- A value that was read is in its normal form. -/
theorem completed_value (layout : Layout) : layout.value.completed = layout.value := by
  rw [← value_layout]
  cases layout <;> rfl

/-- A value that was read is written as it was, if there were zeros in what is reserved. -/
theorem octets_layout_value (layout : Layout)
    (h : ∀ reserved clock microsecond, layout = .clockOnly reserved clock microsecond →
      reserved.val = noDate) : layout.value.layout.octets = layout.octets := by
  cases layout with
  | nothing => rfl
  | dateOnly date => rfl
  | dateAndClock date clock microsecond => rfl
  | clockOnly reserved clock microsecond =>
    show noDate ++ _ = reserved.val ++ _
    rw [h reserved clock microsecond rfl]
    rfl

/-! ## There and back -/

theorem decode_encode (t : Temporal) : decode t.encode = .ok t.completed := by
  rw [encode_eq, decode_octets, value_layout]

theorem encode_of_decode {octets : Bytes} {t : Temporal} (h : decode octets = .ok t)
    (hreserved : octets.length = 8 ∨ octets.length = 12 → octets.take 5 = List.replicate 5 0) :
    t.encode = octets := by
  obtain ⟨layout, rfl, rfl⟩ := decode_eq_ok_iff.mp h
  rw [encode_eq]
  refine octets_layout_value layout fun reserved clock microsecond hlayout => ?_
  subst hlayout
  have hlength : (Layout.clockOnly reserved clock microsecond).octets.length = 8 ∨
      (Layout.clockOnly reserved clock microsecond).octets.length = 12 := by
    rw [Layout.octets, List.length_append, reserved.property]
    cases microsecond with
    | none => exact .inl rfl
    | some n => exact .inr rfl
  have htake : (Layout.clockOnly reserved clock microsecond).octets.take 5 = reserved.val :=
    List.take_left' reserved.property
  exact htake.symm.trans (hreserved hlength)

/-- Any value has a type under which its octets are read as a date or a time. -/
theorem toTemporal?_ofTemporal (t : Temporal) :
    (Value.ofTemporal t).toTemporal? = (decode t.encode).toOption := by
  unfold Value.ofTemporal
  cases t.hasDate <;> cases t.hasTime || t.microsecond.isSome <;> rfl

/-- **The binary layouts are exact.**  A value is written in as many octets as it announces, which
is one of the six lengths, and reads back in its normal form, by itself and as a bound parameter.
Octets are read if and only if they have one of these lengths.  What is read is in its normal form,
and is written with the same octets, if there were zeros in those that are reserved. -/
theorem layouts_exact :
    (∀ t : Temporal,
      t.encode.length = t.encodedLength ∧ t.encodedLength ∈ layoutLengths ∧
        decode t.encode = .ok t.completed ∧
        (Value.ofTemporal t).toTemporal? = some t.completed) ∧
    (∀ octets : Bytes,
      ((∃ t, decode octets = .ok t) ↔ octets.length ∈ layoutLengths) ∧
        ∀ t, decode octets = .ok t → t.completed = t ∧
          ((octets.length = 8 ∨ octets.length = 12 → octets.take 5 = List.replicate 5 0) →
            t.encode = octets)) := by
  refine ⟨fun t => ⟨t.length_encode, ?_, t.decode_encode, ?_⟩, fun octets => ⟨⟨?_, ?_⟩, ?_⟩⟩
  · rw [← t.length_encode, t.encode_eq]
    exact t.layout.length_octets_mem
  · rw [t.toTemporal?_ofTemporal, t.decode_encode]
    rfl
  · rintro ⟨t, hdecode⟩
    obtain ⟨layout, rfl, -⟩ := decode_eq_ok_iff.mp hdecode
    exact layout.length_octets_mem
  · intro hlength
    obtain ⟨layout, rfl⟩ := Layout.exists_octets_eq hlength
    exact ⟨layout.value, decode_octets layout⟩
  · intro t hdecode
    refine ⟨?_, encode_of_decode hdecode⟩
    obtain ⟨layout, -, rfl⟩ := decode_eq_ok_iff.mp hdecode
    exact completed_value layout

/-- Only microseconds: a time of day of zeros comes with them, and the octets read back. -/
theorem layouts_exact_microsecond :
    (encode { microsecond := some 42 }).length = 12 ∧
      decode (encode { microsecond := some 42 }) =
        .ok { hour := some 0, minute := some 0, second := some 0, microsecond := some 42 } ∧
      decode [0, 0, 0, 0, 0, 10, 20, 30] =
        .ok { hour := some 10, minute := some 20, second := some 30 } ∧
      encode { hour := some 10, minute := some 20, second := some 30 } =
        [0, 0, 0, 0, 0, 10, 20, 30] := by
  obtain ⟨hencode, hdecode⟩ := layouts_exact
  obtain ⟨hlength, -, hback, -⟩ := hencode { microsecond := some 42 }
  have hread : decode [0, 0, 0, 0, 0, 10, 20, 30] =
      .ok { hour := some 10, minute := some 20, second := some 30 } := rfl
  exact ⟨hlength, hback, hread, ((hdecode _).2 _ hread).2 fun _ => rfl⟩

end Temporal

end MySqlClient
