import MySqlClient.Text.Decimal

/-!
# IEEE 754 double precision

A double is its bit pattern, so that equality is decidable and nothing depends on the rounding of
the machine.

* `Binary64.nearest`: the double nearest to a fraction of natural numbers, ties to even.
* `Binary64.ofInt`, `Binary64.ofBinary32`: integers, rounded, and single precision, exactly.
* `Binary64.parse?`: the double nearest to a decimal numeral.

The numerals are: an optional sign; then `inf`, `infinity` or `nan` in any case, or digits with an
optional point (at least one digit) and an optional exponent.  An exponent takes up digits until it
has reached `2 ^ 16`, and passes over those behind.
-/

namespace MySqlClient

/-- A double, as its bit pattern. -/
structure Binary64 where
  bits : UInt64
  deriving DecidableEq

namespace Binary64

/-- The bit pattern of positive infinity. -/
def infinityBits : Nat := 0x7FF0000000000000

/-- Whether the pattern stands for no number. -/
def isNaN (x : Binary64) : Bool :=
  infinityBits < x.bits.toNat % (1 <<< 63)

/-- Some pattern that stands for no number. -/
def nan : Binary64 := ⟨0x7FF8000000000000⟩

/-- Positive infinity. -/
def infinity : Binary64 := ⟨UInt64.ofNat infinityBits⟩

/-- The number with the other sign. -/
def negate (x : Binary64) : Binary64 :=
  ⟨x.bits ^^^ 0x8000000000000000⟩

/-- The number with a sign in front. -/
def withSign (negative : Bool) (x : Binary64) : Binary64 :=
  if negative then x.negate else x

/-- Division with the quotient rounded to nearest, a half going to the even neighbour. -/
def roundDiv (num den : Nat) : Nat :=
  let quotient := num / den
  let double := 2 * (num % den)
  if den < double || (double == den && quotient % 2 == 1) then quotient + 1 else quotient

/-- `num / den / 2 ^ e`, as numerator and denominator. -/
def scaled (num den : Nat) (e : Int) : Nat × Nat :=
  if 0 ≤ e then (num, den <<< e.toNat) else (num <<< (-e).toNat, den)

/-- The least exponent at which the fraction has at most 53 binary places before the point, but
not below the one of the subnormal numbers. -/
def exponentOf (num den : Nat) : Int :=
  let guess : Int := max ((num.log2 : Int) - den.log2 - 53) (-1074)
  let (n, d) := scaled num den guess
  if n / d < 1 <<< 53 then guess else guess + 1

/-- The double nearest to `num / den`.  Beyond the largest double it is infinity. -/
def nearest (num den : Nat) : Binary64 :=
  if num == 0 then ⟨0⟩
  else
    let e := exponentOf num den
    let (n, d) := scaled num den e
    let significand := roundDiv n d
    let magnitude :=
      if significand < 1 <<< 52 then significand
      else ((e + 1075).toNat <<< 52) + (significand - (1 <<< 52))
    ⟨UInt64.ofNat (min magnitude infinityBits)⟩

/-- The double nearest to an integer. -/
def ofInt (n : Int) : Binary64 :=
  (nearest n.natAbs 1).withSign (n < 0)

/-- The double equal to a single-precision number given by its bit pattern. -/
def ofBinary32 (bits : UInt32) : Binary64 :=
  let n := bits.toNat
  let fraction := n % (1 <<< 23)
  let exponent := (n >>> 23) % 256
  let magnitude : Binary64 :=
    if exponent == 255 then if fraction == 0 then infinity else nan
    else if exponent == 0 then nearest fraction (1 <<< 149)
    else nearest (((1 <<< 23) + fraction) <<< exponent) (1 <<< 150)
  magnitude.withSign (n >>> 31 == 1)

/-! ## Decimal numerals -/

/-- More digits than it takes to write any double, or the midpoint of any two neighbours. -/
def enoughDigits : Nat := 800

/-- The double nearest to a numeral of digits, of which the first is not zero, times
`10 ^ exponent`.  Of the digits behind the first `enoughDigits` it only matters whether one of them
is not zero: a one in their place leaves the numeral between the same doubles and on the same side
of their midpoint. -/
def ofSignificant (digits : List Char) (exponent : Int) : Binary64 :=
  let front := digits.take enoughDigits
  let back := digits.drop enoughDigits
  let kept := if back.all (· == '0') then front else front ++ ['1']
  let shift := exponent + digits.length - kept.length
  let n := (Decimal.nat? kept).getD 0
  if 0 ≤ shift then nearest (n * Decimal.powerOfTen shift.toNat) 1
  else nearest n (Decimal.powerOfTen (-shift).toNat)

/-- The double nearest to a string of digits times `10 ^ exponent`.  What is far outside the range
is answered without computing the power: a numeral of `k` digits, of which the first is not zero,
lies between `10 ^ (k - 1)` and `10 ^ k`. -/
def ofDigits (numeral : List Char) (exponent : Int) : Binary64 :=
  let digits := numeral.dropWhile (· == '0')
  let magnitude : Int := exponent + digits.length
  if digits.isEmpty || magnitude < -330 then ⟨0⟩
  else if 310 < magnitude then infinity
  else ofSignificant digits exponent

/-- Split off the digits at the front. -/
def spanDigits (text : List Char) : List Char × List Char :=
  (text.takeWhile Char.isDigit, text.dropWhile Char.isDigit)

/-- An exponent that has reached this takes up no more digits. -/
def exponentLimit : Nat := 1 <<< 16

/-- Continue reading the digits of an exponent after ones that denote `value`. -/
def exponentFrom (value : Nat) : List Char → Option Nat
  | [] => some value
  | c :: rest =>
    if c.isDigit then
      exponentFrom (if value < exponentLimit then 10 * value + (c.toNat - '0'.toNat) else value)
        rest
    else none

/-- The value of an exponent without its sign. -/
def exponentDigits? : List Char → Option Nat
  | [] => none
  | c :: rest => exponentFrom 0 (c :: rest)

/-- The value of an exponent part: nothing, or an `e` with an optional sign and digits. -/
def exponent? : List Char → Option Int
  | [] => some 0
  | c :: rest =>
    if c == 'e' || c == 'E' then
      match rest with
      | '-' :: digits => (exponentDigits? digits).map fun n => -(n : Int)
      | '+' :: digits => (exponentDigits? digits).map fun n => (n : Int)
      | digits => (exponentDigits? digits).map fun n => (n : Int)
    else none

/-- An unsigned numeral of digits. -/
def parseDigits? (text : List Char) : Option Binary64 := do
  let (whole, rest) := spanDigits text
  let (fraction, rest) := match rest with
    | '.' :: rest => spanDigits rest
    | _ => ([], rest)
  let exponent ← exponent? rest
  if whole.isEmpty && fraction.isEmpty then none
  else some (ofDigits (whole ++ fraction) (exponent - fraction.length))

/-- The names of what is not a finite number, in any case. -/
def parseName? (text : List Char) : Option Binary64 :=
  let name := String.ofList (text.map Char.toLower)
  if name == "inf" || name == "infinity" then some infinity
  else if name == "nan" then some nan
  else none

/-- The double nearest to a numeral. -/
def parse? (text : List Char) : Option Binary64 :=
  let (negative, magnitude) := match text with
    | '-' :: rest => (true, rest)
    | '+' :: rest => (false, rest)
    | _ => (false, text)
  ((parseDigits? magnitude).or (parseName? magnitude)).map (withSign negative)

end Binary64

end MySqlClient
