import MySqlClient.Proofs.Temporal.Layouts
import MySqlClient.Proofs.Text.Numerals

/-!
# Texts of dates and times

The text of a value is the text of its layout, so that text and octets can be compared through the
layouts.  A text is cut at its marks, and between the marks are numerals.

* `Temporal.text_eq`: a value is written as the text of its layout.
* `Temporal.parseDate?_text`, `Temporal.parseClock?_fractionForm`: a date is read, and a time of day
  if its hour is.
* `Temporal.parse?_layout`: every layout but the empty one is read, with fewer than a million
  microseconds.
* `Temporal.fraction?_eq_some`, `Temporal.exists_of_parse?`: what a fraction is and where it stands.
* `Temporal.text_and_octets`: **text and octets have the same normal form.**
-/

namespace MySqlClient

namespace Temporal

/-! ## The texts of a layout -/

/-- The text of a date. -/
def Date.text (date : Date) : List Char :=
  field 4 date.year.toNat ++ '-' :: (field 2 date.month.toNat ++ '-' :: field 2 date.day.toNat)

/-- The text of the microseconds, if there are any. -/
def fractionText : Option UInt32 → List Char
  | none => []
  | some n => '.' :: field 6 n.toNat

/-- Three parts of a time of day, whatever is written for the hour. -/
def clockForm (hour : List Char) (minute second : UInt8) : List Char :=
  hour ++ ':' :: (field 2 minute.toNat ++ ':' :: field 2 second.toNat)

/-- The same, with microseconds. -/
def fractionForm (hour : List Char) (minute second : UInt8) (microsecond : Option UInt32) :
    List Char :=
  clockForm hour minute second ++ fractionText microsecond

theorem fractionForm_none (hour : List Char) (minute second : UInt8) :
    fractionForm hour minute second none = clockForm hour minute second :=
  List.append_nil _

theorem fractionForm_some (hour : List Char) (minute second : UInt8) (n : UInt32) :
    fractionForm hour minute second (some n) =
      clockForm hour minute second ++ '.' :: field 6 n.toNat :=
  rfl

/-- The text of a time of day. -/
def Clock.text (clock : Clock) (microsecond : Option UInt32) : List Char :=
  fractionForm (field 2 clock.hour.toNat) clock.minute clock.second microsecond

/-- The text of a layout. -/
def Layout.text : Layout → List Char
  | nothing => []
  | dateOnly date => date.text
  | dateAndClock date clock microsecond => date.text ++ ' ' :: clock.text microsecond
  | clockOnly _ clock microsecond => clock.text microsecond

/-- **A value is written as the text of its layout.** -/
theorem text_eq (t : Temporal) : t.text = String.ofList t.layout.text := by
  unfold text layout hasClock
  congr 1
  cases t.hasDate <;> cases t.hasTime <;> cases hmicrosecond : t.microsecond <;>
    simp [Layout.text, dateText, clockText, Date.text, Clock.text, fractionForm, clockForm,
      fractionText, filledDate, filledClock, hmicrosecond]

/-! ## Reading the parts -/

theorem notMem_field {mark : Char} (h : mark.isDigit = false) (width n : Nat) :
    mark ∉ field width n :=
  Decimal.notMem_padded h width n

/-- Numbers that fit in an octet are read back, and no others. -/
theorem octet?_field (width n : Nat) :
    octet? (field width n) = if n < UInt8.size then some (UInt8.ofNat n) else none := by
  rw [octet?, field, Decimal.unsigned?_padded]
  by_cases h : n < UInt8.size
  · rw [if_pos h, if_pos h]
    rfl
  · rw [if_neg h, if_neg h]
    rfl

theorem octet?_field_toNat (width : Nat) (b : UInt8) : octet? (field width b.toNat) = some b := by
  rw [octet?_field, if_pos b.toNat_lt, UInt8.ofNat_toNat]

/-- A text is cut at the first two marks. -/
theorem threeParts?_append {mark : Char} {first second : List Char} (hfirst : mark ∉ first)
    (hsecond : mark ∉ second) (third : List Char) :
    threeParts? mark (first ++ mark :: (second ++ mark :: third)) =
      some (first, second, third) := by
  rw [threeParts?, Text.splitOnce_append hfirst]
  show (Text.splitOnce mark (second ++ mark :: third)).bind _ = _
  rw [Text.splitOnce_append hsecond]
  rfl

/-- **The text of a date is read.** -/
theorem parseDate?_text (t : Temporal) (date : Date) :
    parseDate? t date.text = some (t.setDate date) := by
  have hparts : threeParts? '-' date.text = some (field 4 date.year.toNat,
      field 2 date.month.toNat, field 2 date.day.toNat) :=
    threeParts?_append (notMem_field rfl 4 _) (notMem_field rfl 2 _) _
  have hyear : Decimal.unsigned? UInt16.size (field 4 date.year.toNat) = some date.year.toNat := by
    rw [field, Decimal.unsigned?_padded, if_pos date.year.toNat_lt]
  simp only [parseDate?, hparts, hyear, octet?_field_toNat, Option.bind_eq_bind, Option.bind_some,
    UInt16.ofNat_toNat]
  rfl

/-- Microseconds are read if they are fewer than a million. -/
theorem fraction?_field {n : UInt32} (h : n.toNat < 1000000) :
    fraction? (field 6 n.toNat) = some n := by
  have hlength : (field 6 n.toNat).length = 6 := Decimal.length_padded (by decide) h
  rw [fraction?, if_pos (Nat.le_of_eq hlength), hlength, field, Decimal.nat?_padded]
  show some (UInt32.ofNat (n.toNat * 1)) = some n
  rw [Nat.mul_one, UInt32.ofNat_toNat]

/-- No text of a time of day has a mark that is neither in its hour nor a colon. -/
theorem notMem_clockForm {mark : Char} {hour : List Char} (hhour : mark ∉ hour)
    (hcolon : mark ≠ ':') (hdigit : mark.isDigit = false) (minute second : UInt8) :
    mark ∉ clockForm hour minute second := by
  have hminute : mark ∉ field 2 minute.toNat := notMem_field hdigit 2 _
  have hsecond : mark ∉ field 2 second.toNat := notMem_field hdigit 2 _
  simp only [clockForm, List.mem_append, List.mem_cons, not_or]
  exact ⟨hhour, hcolon, hminute, hcolon, hsecond⟩

/-- **A time of day is read, if its hour is.** -/
theorem parseClock?_fractionForm {t : Temporal} (ht : t.microsecond = none) {hour : List Char}
    (hcolon : ':' ∉ hour) (hpoint : '.' ∉ hour) (minute second : UInt8)
    {microsecond : Option UInt32} (h : ∀ n, microsecond = some n → n.toNat < 1000000) :
    parseClock? t (fractionForm hour minute second microsecond) =
      (octet? hour).map fun hour =>
        { t.setClock ⟨hour, minute, second⟩ with microsecond } := by
  have hparts : threeParts? ':' (clockForm hour minute second) =
      some (hour, field 2 minute.toNat, field 2 second.toNat) :=
    threeParts?_append hcolon (notMem_field rfl 2 _) _
  have hclock : '.' ∉ clockForm hour minute second :=
    notMem_clockForm hpoint (by decide) rfl minute second
  cases microsecond with
  | none =>
    rw [fractionForm_none]
    simp only [parseClock?, Text.splitOnce_eq_none_iff.mpr hclock, hparts, octet?_field_toNat,
      Option.bind_eq_bind, Option.bind_some]
    cases octet? hour with
    | none => rfl
    | some hour => exact congrArg some (by rw [← ht]; rfl)
  | some n =>
    simp only [fractionForm_some, parseClock?, Text.splitOnce_append hclock, hparts,
      octet?_field_toNat, fraction?_field (h n rfl), Option.bind_eq_bind, Option.bind_some]
    cases octet? hour <;> rfl

theorem parseClock?_text {t : Temporal} (ht : t.microsecond = none) (clock : Clock)
    {microsecond : Option UInt32} (h : ∀ n, microsecond = some n → n.toNat < 1000000) :
    parseClock? t (clock.text microsecond) = some { t.setClock clock with microsecond } := by
  rw [Clock.text, parseClock?_fractionForm ht (notMem_field rfl 2 _) (notMem_field rfl 2 _) _ _ h,
    octet?_field_toNat]
  rfl

/-! ## Reading a layout -/

theorem isBare_field (width n : Nat) : Text.IsBare (field width n) :=
  Decimal.isBare_padded width n

theorem isBare_dateText (date : Date) : Text.IsBare date.text := by
  have hends := (isBare_field 4 date.year.toNat).append (isBare_field 2 date.day.toNat)
    ('-' :: (field 2 date.month.toNat ++ ['-']))
  rwa [List.append_assoc, List.cons_append, List.append_assoc, List.singleton_append] at hends

theorem isBare_fractionForm {hour : List Char} (h : Text.IsBare hour) (minute second : UInt8)
    (microsecond : Option UInt32) :
    Text.IsBare (fractionForm hour minute second microsecond) := by
  have hclock := h.append (isBare_field 2 second.toNat) (':' :: (field 2 minute.toNat ++ [':']))
  rw [List.append_assoc, List.cons_append, List.append_assoc, List.singleton_append] at hclock
  cases microsecond with
  | none => exact fractionForm_none hour minute second ▸ hclock
  | some n =>
    have hends := hclock.append (isBare_field 6 n.toNat) ['.']
    rwa [List.append_assoc, List.singleton_append] at hends

/-- No text of a date has a mark that is neither a digit nor a hyphen. -/
theorem notMem_dateText {mark : Char} (hhyphen : mark ≠ '-') (hdigit : mark.isDigit = false)
    (date : Date) : mark ∉ date.text := by
  have hfield := notMem_field hdigit
  simp only [Date.text, List.mem_append, List.mem_cons, not_or]
  exact ⟨hfield _ _, hhyphen, hfield _ _, hhyphen, hfield _ _⟩

/-- No time of day has a mark that is neither in its hour nor a digit, a colon or a point. -/
theorem notMem_fractionForm {mark : Char} {hour : List Char} (hhour : mark ∉ hour)
    (hcolon : mark ≠ ':') (hpoint : mark ≠ '.') (hdigit : mark.isDigit = false)
    (minute second : UInt8) (microsecond : Option UInt32) :
    mark ∉ fractionForm hour minute second microsecond := by
  have hclock := notMem_clockForm hhour hcolon hdigit minute second
  cases microsecond with
  | none => exact fractionForm_none hour minute second ▸ hclock
  | some n =>
    rw [fractionForm_some, List.mem_append, List.mem_cons, not_or, not_or]
    exact ⟨hclock, hpoint, notMem_field hdigit 6 n.toNat⟩

/-- **A time of day without a date is read, if its hour is.** -/
theorem parse?_fractionForm {hour : List Char} (hbare : Text.IsBare hour) (hblank : ' ' ∉ hour)
    (hcolon : ':' ∉ hour) (hpoint : '.' ∉ hour) (minute second : UInt8)
    {microsecond : Option UInt32} (h : ∀ n, microsecond = some n → n.toNat < 1000000) :
    parse? (String.ofList (fractionForm hour minute second microsecond)) =
      (octet? hour).map fun hour =>
        { setClock {} ⟨hour, minute, second⟩ with microsecond } := by
  have htrim := Text.trim_of_isBare (isBare_fractionForm hbare minute second microsecond)
  have hblank : ' ' ∉ fractionForm hour minute second microsecond :=
    notMem_fractionForm hblank (by decide) (by decide) rfl minute second microsecond
  have hmem : ':' ∈ fractionForm hour minute second microsecond := by
    simp [fractionForm, clockForm]
  unfold parse?
  simp only [String.toList_ofList, htrim, Text.splitOnce_eq_none_iff.mpr hblank,
    List.contains_iff_mem, hmem, if_true]
  exact parseClock?_fractionForm rfl hcolon hpoint minute second h

/-- **The text of a layout is read**, if there is any and it has fewer than a million
microseconds. -/
theorem parse?_layout {layout : Layout} (hne : layout ≠ .nothing)
    (h : ∀ n, layout.value.microsecond = some n → n.toNat < 1000000) :
    parse? (String.ofList layout.text) = some layout.value := by
  cases layout with
  | nothing => exact absurd rfl hne
  | dateOnly date =>
    have hblank : ' ' ∉ date.text := notMem_dateText (by decide) rfl date
    have hcolon : ':' ∉ date.text := notMem_dateText (by decide) rfl date
    unfold parse?
    simp only [Layout.text, String.toList_ofList, Text.trim_of_isBare (isBare_dateText date),
      Text.splitOnce_eq_none_iff.mpr hblank, List.contains_iff_mem, hcolon, if_false]
    exact parseDate?_text {} date
  | dateAndClock date clock microsecond =>
    have hclock := isBare_fractionForm (isBare_field 2 clock.hour.toNat) clock.minute clock.second
      microsecond
    have hbare := (isBare_dateText date).append hclock [' ']
    rw [List.append_assoc, List.singleton_append] at hbare
    have hblank : ' ' ∉ date.text := notMem_dateText (by decide) rfl date
    unfold parse?
    simp only [Layout.text, Clock.text, String.toList_ofList, Text.trim_of_isBare hbare,
      Text.splitOnce_append hblank, parseDate?_text, Option.bind_eq_bind, Option.bind_some]
    exact parseClock?_text rfl clock h
  | clockOnly reserved clock microsecond =>
    have hmicrosecond : ∀ n, microsecond = some n → n.toNat < 1000000 := h
    rw [Layout.text, Clock.text, parse?_fractionForm (isBare_field 2 clock.hour.toNat)
      (notMem_field rfl 2 _) (notMem_field rfl 2 _) (notMem_field rfl 2 _) _ _ hmicrosecond,
      octet?_field_toNat]
    rfl

/-! ## Fractions that are read -/

/-- **One to six digits behind a point, filled up with zeros**, are microseconds: there are never
more than 999999, so that no product on the way is too large for a word. -/
theorem fraction?_eq_some {digits : List Char} {microsecond : UInt32}
    (h : fraction? digits = some microsecond) :
    ∃ n, Decimal.nat? digits = some n ∧ digits.length ≤ 6 ∧
      Decimal.powerOfTen (6 - digits.length) ≤ 1000000 ∧
      n * Decimal.powerOfTen (6 - digits.length) ≤ 999999 ∧
      microsecond.toNat = n * Decimal.powerOfTen (6 - digits.length) := by
  rw [fraction?] at h
  split at h
  case isFalse => cases h
  case isTrue hlength =>
    obtain ⟨n, hn, rfl⟩ := Option.map_eq_some_iff.mp h
    have hbound : n * Decimal.powerOfTen (6 - digits.length) < 1000000 := by
      have hpos := Decimal.powerOfTen_pos (6 - digits.length)
      calc n * Decimal.powerOfTen (6 - digits.length)
          < Decimal.powerOfTen digits.length * Decimal.powerOfTen (6 - digits.length) :=
            Nat.mul_lt_mul_of_pos_right (Decimal.lt_of_nat? hn) hpos
        _ = Decimal.powerOfTen (digits.length + (6 - digits.length)) :=
            (Decimal.powerOfTen_add _ _).symm
        _ = 1000000 := by
            rw [Nat.add_sub_cancel' hlength]
            rfl
    have hfactor : Decimal.powerOfTen (6 - digits.length) ≤ Decimal.powerOfTen 6 :=
      Decimal.powerOfTen_le (Nat.sub_le 6 _)
    refine ⟨n, hn, hlength, hfactor, Nat.le_of_lt_succ hbound, ?_⟩
    exact UInt32.toNat_ofNat_of_lt' (Nat.lt_trans hbound (by decide))

/-- Three parts of a text, with the marks between them. -/
theorem eq_of_threeParts? {mark : Char} {text first second third : List Char}
    (h : threeParts? mark text = some (first, second, third)) :
    text = first ++ mark :: (second ++ mark :: third) := by
  simp only [threeParts?, Option.bind_eq_bind, Option.bind_eq_some_iff, Prod.exists] at h
  obtain ⟨front, rest, hfirst, middle, back, hrest, hparts⟩ := h
  cases hparts
  obtain ⟨rfl, -⟩ := Text.splitOnce_eq_some hrest
  exact (Text.splitOnce_eq_some hfirst).1

/-- A date that is read has no point. -/
theorem notMem_of_parseDate? {t u : Temporal} {text : List Char}
    (h : parseDate? t text = some u) : '.' ∉ text := by
  simp only [parseDate?, octet?, Option.bind_eq_bind, Option.bind_eq_some_iff, Prod.exists,
    Option.map_eq_some_iff] at h
  obtain ⟨year, month, day, hparts, n, hyear, -, ⟨m, hmonth, -⟩, -, ⟨d, hday, -⟩, -⟩ := h
  rw [eq_of_threeParts? hparts, List.mem_append, List.mem_cons, List.mem_append, List.mem_cons]
  rintro (hmem | hmem | hmem | hmem | hmem)
  · exact Decimal.notMem_of_unsigned? (by decide) rfl hyear hmem
  · cases hmem
  · exact Decimal.notMem_of_unsigned? (by decide) rfl hmonth hmem
  · cases hmem
  · exact Decimal.notMem_of_unsigned? (by decide) rfl hday hmem

/-- A time of day with a point is read if what is behind the point is. -/
theorem exists_of_parseClock? {t u : Temporal} {text : List Char}
    (h : parseClock? t text = some u) (hpoint : '.' ∈ text) :
    ∃ clock digits microsecond, text = clock ++ '.' :: digits ∧
      fraction? digits = some microsecond ∧ u.microsecond = some microsecond := by
  unfold parseClock? at h
  cases hsplit : Text.splitOnce '.' text with
  | none => exact absurd hpoint (Text.splitOnce_eq_none_iff.mp hsplit)
  | some halves =>
    obtain ⟨clock, digits⟩ := halves
    simp only [hsplit, Option.bind_eq_bind, Option.bind_eq_some_iff, Prod.exists] at h
    obtain ⟨_, _, _, -, _, -, _, -, _, -, microsecond, hmicrosecond, hu⟩ := h
    refine ⟨clock, digits, microsecond, (Text.splitOnce_eq_some hsplit).1, hmicrosecond, ?_⟩
    rw [← Option.some.inj hu]

/-- **A text with a point that is read ends in a fraction.** -/
theorem exists_of_parse? {t : Temporal} {text : String} (h : parse? text = some t)
    (hpoint : '.' ∈ text.toList) :
    ∃ front digits microsecond, Text.trim text.toList = front ++ '.' :: digits ∧
      fraction? digits = some microsecond ∧ t.microsecond = some microsecond := by
  have hmem : '.' ∈ Text.trim text.toList := Text.mem_trim hpoint (by decide)
  unfold parse? at h
  generalize Text.trim text.toList = trimmed at h hmem ⊢
  dsimp only at h
  cases hsplit : Text.splitOnce ' ' trimmed with
  | some halves =>
    obtain ⟨date, clock⟩ := halves
    simp only [hsplit, Option.bind_eq_bind, Option.bind_eq_some_iff] at h
    obtain ⟨u, hdate, hclock⟩ := h
    obtain ⟨rfl, -⟩ := Text.splitOnce_eq_some hsplit
    have hpoint : '.' ∈ clock := by
      rcases List.mem_append.mp hmem with hleft | hright
      · exact absurd hleft (notMem_of_parseDate? hdate)
      · exact (List.mem_cons.mp hright).resolve_left (by decide)
    obtain ⟨front, digits, microsecond, rfl, hread⟩ := exists_of_parseClock? hclock hpoint
    refine ⟨date ++ ' ' :: front, digits, microsecond, ?_, hread⟩
    rw [List.append_assoc, List.cons_append]
  | none =>
    simp only [hsplit] at h
    split at h
    · exact exists_of_parseClock? h hmem
    · exact absurd hmem (notMem_of_parseDate? h)

/-! ## Texts and octets -/

/-- The layout of a value with any part is not empty. -/
theorem layout_ne_nothing {t : Temporal} (h : t ≠ {}) : t.layout ≠ .nothing := by
  intro hlayout
  have hdate : t.hasDate = false := by
    cases hdate : t.hasDate with
    | false => rfl
    | true => cases hclock : t.hasClock <;> simp [layout, hdate, hclock] at hlayout
  have hclock : t.hasClock = false := by
    cases hclock : t.hasClock with
    | false => rfl
    | true => simp [layout, hdate, hclock] at hlayout
  simp only [hasDate, hasClock, hasTime, Bool.or_eq_false_iff, Option.isSome_eq_false_iff,
    Option.isNone_iff_eq_none] at hdate hclock
  obtain ⟨⟨hyear, hmonth⟩, hday⟩ := hdate
  obtain ⟨⟨⟨hhour, hminute⟩, hsecond⟩, hmicrosecond⟩ := hclock
  refine h ?_
  cases t
  subst hyear hmonth hday hhour hminute hsecond hmicrosecond
  rfl

/-- **Text and octets say the same.**  A value with any part, and with fewer than a million
microseconds if there are any, has a text that is read, and octets that are read, both as its normal
form.  And wherever a text with a point is read, it ends in one to six digits behind the point;
filled up with zeros they are the microseconds, never more than 999999, and neither they nor their
factor nor the product is too large for a word of 32 bits. -/
theorem text_and_octets :
    (∀ t : Temporal, t ≠ {} → (∀ n, t.microsecond = some n → n.toNat ≤ 999999) →
      parse? t.text = some t.completed ∧ decode t.encode = .ok t.completed) ∧
    (∀ (text : String) (t : Temporal), parse? text = some t → '.' ∈ text.toList →
      ∃ front digits n microsecond, Text.trim text.toList = front ++ '.' :: digits ∧
        Decimal.nat? digits = some n ∧ digits.length ≤ 6 ∧ n < UInt32.size ∧
        Decimal.powerOfTen (6 - digits.length) < UInt32.size ∧
        n * Decimal.powerOfTen (6 - digits.length) ≤ 999999 ∧
        t.microsecond = some microsecond ∧
        microsecond.toNat = n * Decimal.powerOfTen (6 - digits.length)) := by
  refine ⟨fun t hne hmicrosecond => ⟨?_, t.decode_encode⟩, fun text t h hpoint => ?_⟩
  · rw [t.text_eq, ← t.value_layout]
    refine parse?_layout (layout_ne_nothing hne) fun n hn => Nat.lt_succ_of_le ?_
    rw [t.value_layout] at hn
    exact hmicrosecond n hn
  · obtain ⟨front, digits, microsecond, htrim, hfraction, ht⟩ := exists_of_parse? h hpoint
    obtain ⟨n, hn, hlength, hfactor, hbound, hvalue⟩ := fraction?_eq_some hfraction
    have hle : n ≤ n * Decimal.powerOfTen (6 - digits.length) :=
      Nat.le_mul_of_pos_right n (Decimal.powerOfTen_pos _)
    have hsmall : n < UInt32.size := Nat.lt_of_le_of_lt (Nat.le_trans hle hbound) (by decide)
    exact ⟨front, digits, n, microsecond, htrim, hn, hlength, hsmall,
      Nat.lt_of_le_of_lt hfactor (by decide), hbound, ht, hvalue⟩

/-- A year of five digits and an hour of three, with parts that are missing; and half a second. -/
theorem text_and_octets_farYear :
    parse? (text { year := some 12345, hour := some 255, microsecond := some 7 }) =
        some ⟨some 12345, some 0, some 0, some 255, some 0, some 0, some 7⟩ ∧
      decode (encode { year := some 12345, hour := some 255, microsecond := some 7 }) =
        .ok ⟨some 12345, some 0, some 0, some 255, some 0, some 0, some 7⟩ ∧
      parse? " 08:00:01.5 " =
        some { hour := some 8, minute := some 0, second := some 1, microsecond := some 500000 } ∧
      ∃ front digits n, Text.trim " 08:00:01.5 ".toList = front ++ '.' :: digits ∧
        Decimal.nat? digits = some n ∧
        n * Decimal.powerOfTen (6 - digits.length) = 500000 := by
  obtain ⟨hagree, hfraction⟩ := text_and_octets
  have hread : parse? " 08:00:01.5 " =
      some { hour := some 8, minute := some 0, second := some 1, microsecond := some 500000 } := by
    decide +kernel
  obtain ⟨htext, hoctets⟩ := hagree { year := some 12345, hour := some 255, microsecond := some 7 }
    (by decide) (by rintro n ⟨⟩; decide)
  obtain ⟨front, digits, n, microsecond, htrim, hn, -, -, -, -, hmicrosecond, hvalue⟩ :=
    hfraction " 08:00:01.5 " _ hread (by decide +kernel)
  cases hmicrosecond
  exact ⟨htext, hoctets, hread, front, digits, n, htrim, hn, hvalue.symm⟩

end Temporal

end MySqlClient
