/-!
# Decimal and hexadecimal numerals

Numerals are read and written over characters.

* `Decimal.digits`: the numeral of a number without leading zeros; `Decimal.padded` fills it up
  with zeros on the left.
* `Decimal.powerOfTen`: a one with zeros behind it.
* `Decimal.nat?`: the number of a non-empty string of ASCII digits, with leading zeros allowed.
* `Decimal.natBelow?`: the same for numbers below a bound (`natBelow?_eq`), without computing any
  number that is much larger.
* `Decimal.unsigned?`, `Decimal.signed?`: a numeral with an optional sign whose value has to lie
  in a range.  A minus sign is refused by `unsigned?`, even before a zero.
* `Hex.digits`, `Hex.padded`: the same in lower-case hexadecimal.

Reading a written numeral gives the number back (`nat?_padded`).
-/

namespace MySqlClient

/-- The numeral of `n` in a base of at most sixteen. -/
def numeral (base : Nat) (n : Nat) : List Char :=
  if _ : base < 2 ∨ n < base then [Nat.digitChar n]
  else numeral base (n / base) ++ [Nat.digitChar (n % base)]
termination_by n
decreasing_by
  have h₁ : 2 ≤ base := by omega
  have h₂ : 0 < n := by omega
  exact Nat.div_lt_self h₂ h₁

/-- Fill up on the left with zeros to `width` characters. -/
def zeroFilled (width : Nat) (text : List Char) : List Char :=
  List.replicate (width - text.length) '0' ++ text

namespace Hex

/-- The lower-case hexadecimal numeral of a number. -/
def digits (n : Nat) : List Char :=
  numeral 16 n

/-- The hexadecimal numeral with at least `width` digits. -/
def padded (width n : Nat) : String :=
  String.ofList (zeroFilled width (digits n))

end Hex

namespace Decimal

/-- The decimal numeral of a number, without leading zeros. -/
def digits (n : Nat) : List Char :=
  numeral 10 n

/-- The decimal numeral with at least `width` digits. -/
def padded (width n : Nat) : List Char :=
  zeroFilled width (digits n)

/-- A one with `count` zeros behind it. -/
def powerOfTen (count : Nat) : Nat :=
  Nat.pow 10 count

/-- Continue reading digits after ones that denote `value`. -/
def natFrom (value : Nat) : List Char → Option Nat
  | [] => some value
  | c :: rest => if c.isDigit then natFrom (10 * value + (c.toNat - '0'.toNat)) rest else none

/-- The number of a non-empty string of ASCII digits. -/
def nat? : List Char → Option Nat
  | [] => none
  | c :: rest => natFrom 0 (c :: rest)

/-- Continue reading digits after ones that denote `value`, as long as the number is below
`bound`. -/
def natBelowFrom (bound value : Nat) : List Char → Option Nat
  | [] => if value < bound then some value else none
  | c :: rest =>
    if value < bound ∧ c.isDigit then natBelowFrom bound (10 * value + (c.toNat - '0'.toNat)) rest
    else none

/-- The number of a non-empty string of ASCII digits, if it lies below `bound`. -/
def natBelow? (bound : Nat) : List Char → Option Nat
  | [] => none
  | c :: rest => natBelowFrom bound 0 (c :: rest)

/-- The value of a numeral with an optional plus sign, if it lies below `bound`. -/
def unsigned? (bound : Nat) (text : List Char) : Option Nat :=
  let digits := match text with
    | '+' :: rest => rest
    | _ => text
  natBelow? bound digits

/-- The value of a numeral with an optional sign, if it lies in `-bound ≤ n < bound`. -/
def signed? (bound : Nat) (text : List Char) : Option Int :=
  match text with
  | '-' :: rest => (natBelow? (bound + 1) rest).map fun n => -(n : Int)
  | _ => (unsigned? bound text).map fun n => (n : Int)

/-! ## Numbers below a bound -/

/-- Further digits do not make a number smaller. -/
theorem le_of_natFrom {value n : Nat} {text : List Char} (h : natFrom value text = some n) :
    value ≤ n := by
  induction text generalizing value with
  | nil => exact Nat.le_of_eq (Option.some.inj h)
  | cons c rest ih =>
    rw [natFrom] at h
    split at h
    · have := ih h
      omega
    · cases h

theorem natBelowFrom_eq (bound value : Nat) (text : List Char) :
    natBelowFrom bound value text = (natFrom value text).filter (· < bound) := by
  induction text generalizing value with
  | nil => simp [natBelowFrom, natFrom, Option.filter]
  | cons c rest ih =>
    rw [natBelowFrom, natFrom]
    by_cases hdigit : c.isDigit
    · rw [if_pos hdigit]
      by_cases hvalue : value < bound
      · rw [if_pos ⟨hvalue, hdigit⟩, ih]
      · rw [if_neg fun h => hvalue h.1]
        cases hnext : natFrom (10 * value + (c.toNat - '0'.toNat)) rest with
        | none => rfl
        | some n =>
          have := le_of_natFrom hnext
          have hn : ¬n < bound := by omega
          simp [Option.filter, hn]
    · rw [if_neg fun h => hdigit h.2, if_neg hdigit]
      rfl

/-- Reading below a bound is reading, for the numbers below it. -/
theorem natBelow?_eq (bound : Nat) (text : List Char) :
    natBelow? bound text = (nat? text).filter (· < bound) := by
  cases text with
  | nil => rfl
  | cons c rest => exact natBelowFrom_eq bound 0 (c :: rest)

/-! ## Reading written numerals -/

theorem natFrom_append (value : Nat) (front back : List Char) :
    natFrom value (front ++ back) = (natFrom value front).bind fun v => natFrom v back := by
  induction front generalizing value with
  | nil => rfl
  | cons c front ih =>
    rw [List.cons_append, natFrom, natFrom]
    split
    · rw [ih]
    · rfl

theorem digitChar_isDigit {d : Nat} (h : d < 10) : (Nat.digitChar d).isDigit = true := by
  revert d; decide

theorem digitChar_value {d : Nat} (h : d < 10) : (Nat.digitChar d).toNat - '0'.toNat = d := by
  revert d; decide

theorem digits_of_lt {n : Nat} (h : n < 10) : digits n = [Nat.digitChar n] := by
  rw [digits, numeral, dif_pos (Or.inr h)]

theorem digits_of_le {n : Nat} (h : 10 ≤ n) :
    digits n = digits (n / 10) ++ [Nat.digitChar (n % 10)] := by
  rw [digits, numeral, dif_neg (by omega)]
  rfl

theorem digits_ne_nil (n : Nat) : digits n ≠ [] := by
  rcases Nat.lt_or_ge n 10 with h | h
  · simp [digits_of_lt h]
  · simp [digits_of_le h]

theorem natFrom_digits (n : Nat) : natFrom 0 (digits n) = some n := by
  induction n using Nat.strongRecOn with
  | ind n ih =>
    rcases Nat.lt_or_ge n 10 with h | h
    · rw [digits_of_lt h, natFrom, digitChar_isDigit h, digitChar_value h]
      simp [natFrom]
    · have hmod : n % 10 < 10 := Nat.mod_lt _ (by omega)
      rw [digits_of_le h, natFrom_append, ih (n / 10) (by omega), Option.bind_some, natFrom,
        digitChar_isDigit hmod, digitChar_value hmod]
      simp only [if_true, natFrom, Option.some.injEq]
      omega

theorem natFrom_zeros (count : Nat) (text : List Char) :
    natFrom 0 (List.replicate count '0' ++ text) = natFrom 0 text := by
  induction count with
  | zero => rfl
  | succ count ih =>
    rw [List.replicate_succ, List.cons_append, natFrom]
    exact ih

/-- The value of a non-empty numeral is what reading its digits from zero gives. -/
theorem nat?_of_ne_nil {text : List Char} (h : text ≠ []) : nat? text = natFrom 0 text := by
  cases text with
  | nil => exact absurd rfl h
  | cons c rest => rfl

/-- Leading zeros do not change what a written numeral denotes. -/
theorem nat?_padded (width n : Nat) : nat? (padded width n) = some n := by
  rw [padded, zeroFilled, nat?_of_ne_nil (by simp [digits_ne_nil]), natFrom_zeros, natFrom_digits]

end Decimal

end MySqlClient
