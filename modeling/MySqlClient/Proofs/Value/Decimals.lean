import Mathlib.Algebra.Group.Int.Defs
import Mathlib.Algebra.Group.Nat.Defs
import MySqlClient.Proofs.Text.Numerals
import MySqlClient.Proofs.Wire.Terminated
import MySqlClient.Value

/-!
# Decimals in both protocols

A decimal is text in both protocols.  The text of a plain query is read as the integer that is asked
for.  The same text behind a prepared statement is read as an integer with sign first, whichever is
asked for, and is not read at all where the column has no sign.

* `Decimal.unsigned?_of_le`, `Decimal.signed?_bounds`: the same text read with two bounds.
* `Sent.DecimalText`: what a decimal column sends, with `fetched` in either format.
* `Sent.DecimalText.toInt?_binary`, `toNat?_binary`: what is read of it behind a prepared statement,
  said by what is read of it behind a plain query.
* `Sent.DecimalText.formats_agree_iff`: **which decimals are read alike in both formats.**
-/

namespace MySqlClient

/-! ## The same numeral under two bounds -/

namespace Decimal

/-- What is read below a bound is what is read below a larger one, if it is below the first. -/
theorem unsigned?_of_le {bound bound' : Nat} (h : bound ≤ bound') (text : List Char) :
    unsigned? bound text = (unsigned? bound' text).filter (· < bound) := by
  have hfilter (digits : List Char) :
      natBelow? bound digits = (natBelow? bound' digits).filter (· < bound) := by
    rw [natBelow?_eq, natBelow?_eq]
    cases nat? digits with
    | none => rfl
    | some n =>
      by_cases hn : n < bound
      · have hn' : n < bound' := Nat.lt_of_lt_of_le hn h
        simp [Option.filter, hn, hn']
      · by_cases hn' : n < bound' <;> simp [Option.filter, hn, hn']
  unfold unsigned?
  exact hfilter _

/-- What is read below a bound is below it. -/
theorem unsigned?_lt {bound n : Nat} {text : List Char} (h : unsigned? bound text = some n) :
    n < bound := by
  rw [unsigned?_of_le (Nat.le_refl bound), Option.filter_eq_some_iff] at h
  exact of_decide_eq_true h.2

/-- What is read as a number with sign is in its range. -/
theorem signed?_bounds {bound : Nat} {text : List Char} {n : Int} (hbound : 0 < bound)
    (h : signed? bound text = some n) : -(bound : Int) ≤ n ∧ n < bound := by
  by_cases hminus : text.head? = some '-'
  · obtain ⟨rest, rfl⟩ := List.head?_eq_some_iff.mp hminus
    rw [signed?_minus] at h
    obtain ⟨k, hk, rfl⟩ := Option.map_eq_some_iff.mp h
    have hlt : k < bound + 1 := of_decide_eq_true (Option.filter_eq_some_iff.mp hk).2
    omega
  · rw [signed?_of_head?_ne hminus] at h
    obtain ⟨k, hk, rfl⟩ := Option.map_eq_some_iff.mp h
    have hlt := unsigned?_lt hk
    omega

/-- **A number that is read with its sign first is the number that is read without one**, unless it
is too large for the first reading, or is a zero behind a minus sign. -/
theorem signed?_bind_eq_iff {bound bound' : Nat} (h : bound ≤ bound') (text : List Char) :
    ((signed? bound text).bind fun n => if 0 ≤ n then some n.toNat else none) =
        unsigned? bound' text ↔
      (∀ n, unsigned? bound' text = some n → n < bound) ∧
        (signed? bound text = some 0 → unsigned? bound' text = some 0) := by
  by_cases hminus : text.head? = some '-'
  · obtain ⟨rest, rfl⟩ := List.head?_eq_some_iff.mp hminus
    rw [unsigned?_minus, signed?_minus]
    cases (nat? rest).filter (· < bound + 1) with
    | none => simp
    | some n =>
      by_cases hn : n = 0
      · simp [hn]
      · simp [hn]
  · rw [signed?_of_head?_ne hminus, unsigned?_of_le h]
    rcases unsigned? bound' text with _ | n
    · simp
    · by_cases hn : n < bound
      · simp [Option.filter, hn]
      · simp [Option.filter, hn]

end Decimal

/-! ## Decimal columns -/

namespace Sent

/-- What a decimal column sends: a text, which is one in both protocols. -/
structure DecimalText where
  type : ColumnType
  /-- Whether the column has no sign. -/
  unsigned : Bool
  octets : Bytes
  isDecimal : type.isDecimal = true

namespace DecimalText

/-- The value of the column, as it comes in a row of one of the two protocols. -/
def fetched (d : DecimalText) (format : Format) : Value :=
  ⟨d.type, format, d.unsigned, some d.octets⟩

/-- What is read of a decimal behind a prepared statement, before it is fitted. -/
theorem binaryInteger?_fetched (d : DecimalText) :
    (d.fetched .binary).binaryInteger? =
      if d.unsigned then none else (d.fetched .text).toInt? := by
  have hdecimal : (d.fetched .binary).type.isDecimal = true := d.isDecimal
  rw [Value.binaryInteger?, if_pos hdecimal]
  rfl

/-- What is read behind a plain query as an integer with sign is in its range. -/
theorem toInt?_text_bounds (d : DecimalText) {n : Int} (h : (d.fetched .text).toInt? = some n) :
    -0x8000000000000000 ≤ n ∧ n < 0x8000000000000000 := by
  obtain ⟨text, -, htext⟩ := Option.bind_eq_some_iff.mp h
  exact Decimal.signed?_bounds (by decide) htext

/-- **As an integer with sign**: as behind a plain query, or not at all. -/
theorem toInt?_binary (d : DecimalText) :
    (d.fetched .binary).toInt? = if d.unsigned then none else (d.fetched .text).toInt? := by
  have hfit {n : Int} (h : (d.fetched .text).toInt? = some n) : Value.fitSigned n = some n :=
    if_pos (d.toInt?_text_bounds h)
  show (d.fetched .binary).binaryInteger?.bind Value.fitSigned = _
  rw [binaryInteger?_fetched]
  cases d.unsigned with
  | true => rfl
  | false =>
    show (d.fetched .text).toInt?.bind Value.fitSigned = (d.fetched .text).toInt?
    cases htext : (d.fetched .text).toInt? with
    | none => rfl
    | some n => exact hfit htext

/-- **As an integer without sign**: what is read with a sign behind a plain query, if it is not
negative, or nothing. -/
theorem toNat?_binary (d : DecimalText) :
    (d.fetched .binary).toNat? =
      if d.unsigned then none
      else (d.fetched .text).toInt?.bind fun n => if 0 ≤ n then some n.toNat else none := by
  have hfit {n : Int} (h : (d.fetched .text).toInt? = some n) :
      Value.fitUnsigned n = if 0 ≤ n then some n.toNat else none := by
    have hbounds := d.toInt?_text_bounds h
    have hiff : 0 ≤ n ∧ n < (UInt64.size : Int) ↔ 0 ≤ n := by
      rw [UInt64.size]
      omega
    simp only [Value.fitUnsigned, hiff]
  show (d.fetched .binary).binaryInteger?.bind Value.fitUnsigned = _
  rw [binaryInteger?_fetched]
  cases d.unsigned with
  | true => rfl
  | false =>
    show (d.fetched .text).toInt?.bind Value.fitUnsigned = (d.fetched .text).toInt?.bind _
    cases htext : (d.fetched .text).toInt? with
    | none => rfl
    | some n => exact hfit htext

/-- As an integer with sign, a decimal is read alike in both formats exactly if it is not read, or
has a sign. -/
theorem toInt?_eq_iff (d : DecimalText) :
    (d.fetched .binary).toInt? = (d.fetched .text).toInt? ↔
      (d.unsigned = true → (d.fetched .text).toInt? = none) := by
  rw [toInt?_binary]
  cases d.unsigned with
  | true => exact ⟨fun h _ => h.symm, fun h => (h rfl).symm⟩
  | false => exact iff_of_true rfl fun h => nomatch h

/-- As an integer without sign, a decimal without sign is read alike exactly if it is not read; one
with a sign is read differently exactly if it is too large for an integer with sign, or a zero
behind a minus sign. -/
theorem toNat?_eq_iff (d : DecimalText) :
    (d.fetched .binary).toNat? = (d.fetched .text).toNat? ↔
      if d.unsigned then (d.fetched .text).toNat? = none
      else (∀ n, (d.fetched .text).toNat? = some n → n < 2 ^ 63) ∧
        ((d.fetched .text).toInt? = some 0 → (d.fetched .text).toNat? = some 0) := by
  rw [toNat?_binary]
  cases d.unsigned with
  | true => exact eq_comm
  | false =>
    show (d.fetched .text).toInt?.bind _ = _ ↔ _
    have hsigned : (d.fetched .text).toInt? = (Utf8.decode? d.octets).bind fun text =>
        Decimal.signed? (2 ^ 63) text.toList := rfl
    have hunsigned : (d.fetched .text).toNat? = (Utf8.decode? d.octets).bind fun text =>
        Decimal.unsigned? (2 ^ 64) text.toList := rfl
    rw [hsigned, hunsigned]
    cases Utf8.decode? d.octets with
    | none => simp
    | some text => exact Decimal.signed?_bind_eq_iff (by decide) text.toList

/-- **Which decimals are read alike in both formats.**  Behind a prepared statement a decimal
without sign is never read as an integer, and one with a sign is read as an integer with sign
first.  So the formats agree on an integer with sign unless a decimal without sign is one; and on an
integer without sign unless a decimal without sign is one, or one with a sign is too large to be
read with its sign, or is a zero behind a minus sign. -/
theorem formats_agree_iff (d : DecimalText) :
    (d.fetched .binary).toInt? = (if d.unsigned then none else (d.fetched .text).toInt?) ∧
    (d.fetched .binary).toNat? = (if d.unsigned then none
      else (d.fetched .text).toInt?.bind fun n => if 0 ≤ n then some n.toNat else none) ∧
    ((d.fetched .binary).toInt? = (d.fetched .text).toInt? ↔
      (d.unsigned = true → (d.fetched .text).toInt? = none)) ∧
    ((d.fetched .binary).toNat? = (d.fetched .text).toNat? ↔
      if d.unsigned then (d.fetched .text).toNat? = none
      else (∀ n, (d.fetched .text).toNat? = some n → n < 2 ^ 63) ∧
        ((d.fetched .text).toInt? = some 0 → (d.fetched .text).toNat? = some 0)) :=
  ⟨d.toInt?_binary, d.toNat?_binary, d.toInt?_eq_iff, d.toNat?_eq_iff⟩

/-- The decimal 42 of a column without sign is read behind a plain query only; the largest integer
of 64 bits, and a zero behind a minus sign, of a column with sign in one of the formats only. -/
theorem formats_agree_iff_fortyTwo :
    let natural : DecimalText := ⟨.newDecimal, true, Bytes.ofString "42", rfl⟩
    let large : DecimalText := ⟨.newDecimal, false, Bytes.ofString "18446744073709551615", rfl⟩
    let zero : DecimalText := ⟨.newDecimal, false, Bytes.ofString "-0", rfl⟩
    (natural.fetched .text).toInt? = some 42 ∧ (natural.fetched .binary).toInt? = none ∧
      (natural.fetched .text).toNat? = some 42 ∧ (natural.fetched .binary).toNat? = none ∧
      (large.fetched .text).toNat? = some 18446744073709551615 ∧
      (large.fetched .binary).toNat? ≠ (large.fetched .text).toNat? ∧
      (zero.fetched .text).toNat? = none ∧ (zero.fetched .binary).toNat? = some 0 := by
  intro natural large zero
  obtain ⟨hinteger, hnatural, -, -⟩ := formats_agree_iff natural
  obtain ⟨-, -, -, hlarge⟩ := formats_agree_iff large
  obtain ⟨-, hzero, -, -⟩ := formats_agree_iff zero
  have htext : (large.fetched .text).toNat? = some 18446744073709551615 := by decide +kernel
  have hminus : (zero.fetched .text).toInt? = some 0 := by decide +kernel
  refine ⟨by decide +kernel, hinteger, by decide +kernel, hnatural, htext, ?_, by decide +kernel, ?_⟩
  · intro hagree
    exact absurd ((hlarge.mp hagree).1 _ htext) (by decide)
  · rw [hzero, hminus]
    rfl

end DecimalText

end Sent

end MySqlClient
