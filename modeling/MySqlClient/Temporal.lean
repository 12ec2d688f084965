import MySqlClient.Text.Blank
import MySqlClient.Text.Decimal
import MySqlClient.Text.Parts
import MySqlClient.Wire.Reader

/-!
# Dates and times

A temporal value has up to seven parts.  In the binary protocol its layout is told by its length:

| octets | contents                                     |
|--------|----------------------------------------------|
| 0      | nothing                                      |
| 4      | year, month, day                             |
| 7      | date, then hour, minute, second              |
| 8      | five reserved octets, hour, minute, second   |
| 11     | date, time of day, microsecond               |
| 12     | five reserved octets, time of day, microsecond |

* `Temporal.encode`, `Temporal.decode`: the binary layouts.
* `Temporal.text`, `Temporal.parse?`: `YYYY-MM-DD`, `HH:MM:SS[.ffffff]`, or both.

Where a layout has a part that is missing, `encode` and `text` write zero for it.
-/

namespace MySqlClient

/-- A date, a time of day or both; parts may be missing. -/
structure Temporal where
  year : Option UInt16 := none
  month : Option UInt8 := none
  day : Option UInt8 := none
  hour : Option UInt8 := none
  minute : Option UInt8 := none
  second : Option UInt8 := none
  microsecond : Option UInt32 := none
  deriving DecidableEq

namespace Temporal

/-- Whether any part of a date is present. -/
def hasDate (t : Temporal) : Bool :=
  t.year.isSome || t.month.isSome || t.day.isSome

/-- Whether any part of a time of day down to the second is present. -/
def hasTime (t : Temporal) : Bool :=
  t.hour.isSome || t.minute.isSome || t.second.isSome

/-! ## Binary layouts -/

/-- The length of the binary layout. -/
def encodedLength (t : Temporal) : Nat :=
  match t.hasDate, t.hasTime, t.microsecond.isSome with
  | false, false, false => 0
  | true, false, false => 4
  | true, true, false => 7
  | true, _, true => 11
  | false, true, false => 8
  | false, _, true => 12

/-- The octets of the date. -/
def encodeDate (t : Temporal) : Bytes :=
  Bytes.ofNat 2 (t.year.getD 0).toNat ++ [t.month.getD 0, t.day.getD 0]

/-- The octets of the time of day down to the second. -/
def encodeClock (t : Temporal) : Bytes :=
  [t.hour.getD 0, t.minute.getD 0, t.second.getD 0]

/-- The octets of the fraction of a second. -/
def encodeFraction (t : Temporal) : Bytes :=
  Bytes.ofNat 4 (t.microsecond.getD 0).toNat

/-- What stands for the date where there is none. -/
def noDate : Bytes :=
  List.replicate 5 0

/-- The binary layout, without its length. -/
def encode (t : Temporal) : Bytes :=
  match t.hasDate, t.hasTime, t.microsecond.isSome with
  | false, false, false => []
  | true, false, false => t.encodeDate
  | true, true, false => t.encodeDate ++ t.encodeClock
  | true, _, true => t.encodeDate ++ t.encodeClock ++ t.encodeFraction
  | false, true, false => noDate ++ t.encodeClock
  | false, _, true => noDate ++ t.encodeClock ++ t.encodeFraction

/-- Read the parts of a date into a value. -/
def readDate (t : Temporal) : Reader Temporal := do
  let year ← Reader.u16
  let month ← Reader.u8
  let day ← Reader.u8
  return { t with year, month, day }

/-- Read the parts of a time of day into a value. -/
def readClock (t : Temporal) : Reader Temporal := do
  let hour ← Reader.u8
  let minute ← Reader.u8
  let second ← Reader.u8
  return { t with hour, minute, second }

/-- Read a fraction of a second into a value. -/
def readFraction (t : Temporal) : Reader Temporal := do
  return { t with microsecond := ← Reader.u32 }

/-- Pass over the reserved octets. -/
def skipDate : Reader Unit := do
  let _reserved ← Reader.take noDate.length

/-- Read a value whose layout has the given length. -/
def reader : Nat → Reader Temporal
  | 0 => return {}
  | 4 => readDate {}
  | 7 => do readClock (← readDate {})
  | 8 => do
    skipDate
    readClock {}
  | 11 => do readFraction (← readClock (← readDate {}))
  | 12 => do
    skipDate
    readFraction (← readClock {})
  | length => throw (.decode (.temporalLength length))

/-- The value of a binary layout. -/
def decode (octets : Bytes) : Outcome Temporal :=
  (reader octets.length).parse octets

/-! ## Text -/

/-- The parts of a number, as a text of at least `width` digits. -/
def field (width n : Nat) : List Char :=
  Decimal.padded width n

/-- The date as `YYYY-MM-DD`. -/
def dateText (t : Temporal) : List Char :=
  field 4 (t.year.getD 0).toNat ++ '-' :: field 2 (t.month.getD 0).toNat ++
    '-' :: field 2 (t.day.getD 0).toNat

/-- The time of day as `HH:MM:SS[.ffffff]`. -/
def clockText (t : Temporal) : List Char :=
  field 2 (t.hour.getD 0).toNat ++ ':' :: field 2 (t.minute.getD 0).toNat ++
    ':' :: field 2 (t.second.getD 0).toNat ++
    match t.microsecond with
    | some n => '.' :: field 6 n.toNat
    | none => []

/-- The value in words: the date, the time of day, or both with a blank between them. -/
def text (t : Temporal) : String :=
  String.ofList <|
    match t.hasDate, t.hasTime || t.microsecond.isSome with
    | false, false => []
    | true, false => t.dateText
    | false, true => t.clockText
    | true, true => t.dateText ++ ' ' :: t.clockText

/-- Three parts with a mark between them; the last one may hold the mark too. -/
def threeParts? (mark : Char) (text : List Char) : Option (List Char × List Char × List Char) := do
  let (first, rest) ← Text.splitOnce mark text
  let (second, third) ← Text.splitOnce mark rest
  return (first, second, third)

/-- A part that fits in an octet. -/
def octet? (text : List Char) : Option UInt8 :=
  (Decimal.unsigned? UInt8.size text).map UInt8.ofNat

/-- Read the text of a date into a value. -/
def parseDate? (t : Temporal) (text : List Char) : Option Temporal := do
  let (year, month, day) ← threeParts? '-' text
  return { t with
    year := UInt16.ofNat (← Decimal.unsigned? UInt16.size year)
    month := ← octet? month
    day := ← octet? day }

/-- The microseconds of one to six digits after the point. -/
def fraction? (digits : List Char) : Option UInt32 :=
  if digits.length ≤ 6 then
    (Decimal.nat? digits).map fun n => UInt32.ofNat (n * Decimal.powerOfTen (6 - digits.length))
  else none

/-- Read the text of a time of day into a value. -/
def parseClock? (t : Temporal) (text : List Char) : Option Temporal := do
  let (clock, fraction) := match Text.splitOnce '.' text with
    | some (clock, fraction) => (clock, some fraction)
    | none => (text, none)
  let (hour, minute, second) ← threeParts? ':' clock
  let t := { t with
    hour := ← octet? hour
    minute := ← octet? minute
    second := ← octet? second }
  match fraction with
  | some digits => return { t with microsecond := ← fraction? digits }
  | none => return t

/-- The value of a text, white space around it aside.  A blank separates the date from the time of
day; without one, a colon tells that there is no date. -/
def parse? (text : String) : Option Temporal :=
  let text := Text.trim text.toList
  match Text.splitOnce ' ' text with
  | some (date, clock) => do parseClock? (← parseDate? {} date) clock
  | none => if text.contains ':' then parseClock? {} text else parseDate? {} text

/-! ## Laws -/

theorem length_encode (t : Temporal) : t.encode.length = t.encodedLength := by
  unfold encode encodedLength
  split <;> simp [encodeDate, encodeClock, encodeFraction, noDate]

end Temporal

end MySqlClient
