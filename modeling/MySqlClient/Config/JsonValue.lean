import MySqlClient.Text.Decimal

/-!
# JSON

A reader for JSON texts that keeps what a configuration needs: of numbers, the ones that are written
as digits alone and fit in 64 bits; of strings, the ones that are texts, that is without unpaired
surrogates.

* `JsonValue.parse?`: the value of a text, if it is nothing but one value between white space.
-/

namespace MySqlClient

/-- A JSON value. -/
inductive JsonValue where
  | null
  | bool (b : Bool)
  /-- A number, with its value if it is written as digits alone and fits in 64 bits. -/
  | number (natural : Option Nat)
  /-- A string, with its text if it is one. -/
  | string (text : Option String)
  | array (items : List JsonValue)
  | object (members : List (Option String × JsonValue))

namespace JsonValue

/-- Drop white space at the front. -/
def skipBlank (text : List Char) : List Char :=
  text.dropWhile fun c => c == ' ' || c == '\t' || c == '\n' || c == '\r'

/-! ## Strings -/

/-- The value of a hexadecimal digit. -/
def hexDigit? (c : Char) : Option Nat :=
  if '0' ≤ c ∧ c ≤ '9' then some (c.toNat - '0'.toNat)
  else if 'a' ≤ c ∧ c ≤ 'f' then some (c.toNat - 'a'.toNat + 10)
  else if 'A' ≤ c ∧ c ≤ 'F' then some (c.toNat - 'A'.toNat + 10)
  else none

/-- The character behind a backslash that is not the start of a number. -/
def simpleEscape? (c : Char) : Option Nat :=
  match c with
  | '"' => some 0x22
  | '\\' => some 0x5C
  | '/' => some 0x2F
  | 'b' => some 0x08
  | 'f' => some 0x0C
  | 'n' => some 0x0A
  | 'r' => some 0x0D
  | 't' => some 0x09
  | _ => none

/-- The code points of a string up to its closing quote, surrogates included, and what follows. -/
def codePoints? : List Char → Option (List Nat × List Char)
  | [] => none
  | '"' :: rest => some ([], rest)
  | '\\' :: 'u' :: a :: b :: c :: d :: rest => do
    let high := 16 * (← hexDigit? a) + (← hexDigit? b)
    let low := 16 * (← hexDigit? c) + (← hexDigit? d)
    let (points, rest) ← codePoints? rest
    return ((256 * high + low) :: points, rest)
  | '\\' :: c :: rest => do
    let point ← simpleEscape? c
    let (points, rest) ← codePoints? rest
    return (point :: points, rest)
  | c :: rest => do
    if c.toNat < 0x20 || c == '\\' then none
    let (points, rest) ← codePoints? rest
    return (c.toNat :: points, rest)

def isHighSurrogate (point : Nat) : Bool :=
  0xD800 ≤ point && point < 0xDC00

def isLowSurrogate (point : Nat) : Bool :=
  0xDC00 ≤ point && point < 0xE000

/-- The characters of some code points, if all surrogates are paired. -/
def characters? : List Nat → Option (List Char)
  | [] => some []
  | high :: low :: rest =>
    if isHighSurrogate high then
      if isLowSurrogate low then do
        let c := Char.ofNat (0x10000 + (high - 0xD800) * 0x400 + (low - 0xDC00))
        return c :: (← characters? rest)
      else none
    else if isLowSurrogate high then none
    else do return Char.ofNat high :: (← characters? (low :: rest))
  | [point] =>
    if isHighSurrogate point || isLowSurrogate point then none else some [Char.ofNat point]

/-- A string behind its opening quote: its text, if it is one, and what follows. -/
def string? (text : List Char) : Option (Option String × List Char) := do
  let (points, rest) ← codePoints? text
  return ((characters? points).map String.ofList, rest)

/-! ## Numbers -/

/-- Digits at the front, at least one. -/
def digits? (text : List Char) : Option (List Char × List Char) :=
  let digits := text.takeWhile Char.isDigit
  if digits.isEmpty then none else some (digits, text.dropWhile Char.isDigit)

/-- The digits before the point: a zero, or digits that do not start with one. -/
def whole? (text : List Char) : Option (List Char × List Char) := do
  let (digits, rest) ← digits? text
  if digits.head? = some '0' ∧ digits.length ≠ 1 then none else some (digits, rest)

/-- What follows a point and digits, or the text itself. -/
def dropFraction? (text : List Char) : Option (List Char) :=
  match text with
  | '.' :: rest => (digits? rest).map Prod.snd
  | _ => some text

/-- What follows an exponent, or the text itself. -/
def dropExponent? (text : List Char) : Option (List Char) :=
  match text with
  | c :: rest =>
    if c == 'e' || c == 'E' then
      match rest with
      | '+' :: rest => (digits? rest).map Prod.snd
      | '-' :: rest => (digits? rest).map Prod.snd
      | _ => (digits? rest).map Prod.snd
    else some text
  | [] => some text

/-- A number. -/
def number? (text : List Char) : Option (JsonValue × List Char) := do
  let (negative, magnitude) := match text with
    | '-' :: rest => (true, rest)
    | _ => (false, text)
  let (digits, rest) ← whole? magnitude
  let behind ← dropExponent? (← dropFraction? rest)
  let isPlain := !negative && rest.head?.all fun c => c != '.' && c != 'e' && c != 'E'
  return (number (if isPlain then Decimal.natBelow? UInt64.size digits else none), behind)

/-! ## Values -/

/-- What follows a word, if the text starts with it. -/
def dropWord? (word : String) (text : List Char) : Option (List Char) :=
  let letters := word.toList
  if letters.isPrefixOf text then some (text.drop letters.length) else none

mutual

/-- The value at the front of a text, and what follows it.  The fuel bounds the steps. -/
def value? : Nat → List Char → Option (JsonValue × List Char)
  | 0, _ => none
  | fuel + 1, text =>
    match skipBlank text with
    | [] => none
    | '"' :: rest => do
      let (text, rest) ← string? rest
      return (string text, rest)
    | '[' :: rest =>
      match skipBlank rest with
      | ']' :: rest => some (array [], rest)
      | rest => do
        let (items, rest) ← items? fuel rest
        return (array items, rest)
    | '\x7b' :: rest =>
      match skipBlank rest with
      | '\x7d' :: rest => some (object [], rest)
      | rest => do
        let (members, rest) ← members? fuel rest
        return (object members, rest)
    | 'n' :: rest => do return (null, ← dropWord? "ull" rest)
    | 't' :: rest => do return (bool true, ← dropWord? "rue" rest)
    | 'f' :: rest => do return (bool false, ← dropWord? "alse" rest)
    | rest => number? rest

/-- The items of an array, at least one, up to the closing bracket. -/
def items? : Nat → List Char → Option (List JsonValue × List Char)
  | 0, _ => none
  | fuel + 1, text => do
    let (item, rest) ← value? fuel text
    match skipBlank rest with
    | ']' :: rest => return ([item], rest)
    | ',' :: rest =>
      let (items, rest) ← items? fuel rest
      return (item :: items, rest)
    | _ => none

/-- The members of an object, at least one, up to the closing brace. -/
def members? : Nat → List Char → Option (List (Option String × JsonValue) × List Char)
  | 0, _ => none
  | fuel + 1, text => do
    match skipBlank text with
    | '"' :: rest =>
      let (key, rest) ← string? rest
      match skipBlank rest with
      | ':' :: rest =>
        let (item, rest) ← value? fuel rest
        match skipBlank rest with
        | '\x7d' :: rest => return ([(key, item)], rest)
        | ',' :: rest =>
          let (members, rest) ← members? fuel rest
          return ((key, item) :: members, rest)
        | _ => none
      | _ => none
    | _ => none

end

/-- The value of a text that is nothing else.  No step leaves the text as it is twice in a row, so
the fuel suffices. -/
def parse? (text : String) : Option JsonValue := do
  let chars := text.toList
  let (value, rest) ← value? (2 * chars.length + 2) chars
  if (skipBlank rest).isEmpty then some value else none

end JsonValue

end MySqlClient
