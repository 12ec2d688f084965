import MySqlClient.Bytes
import MySqlClient.Text.Blank

/-!
# PEM

Binary data as text: lines of base64 between two labelled boundaries.

* `Base64.decode?`: groups of four characters, the last one filled up with `=`; unused bits have to
  be zero.
* `Pem.lines?`: all lines but the last have 64 characters; the last may have a line end too, and
  may be nothing but that.
* `Pem.data?`: the data of the lines.  Nothing may follow a group that is filled up with `=`, not
  even an empty line.
* `Pem.decode?`: the label and the data between the boundaries.  Text may come before the first
  boundary, in lines of its own; after the second one only a line end may follow.
-/

namespace MySqlClient

namespace Base64

/-- The six bits a character stands for. -/
def value? (c : Char) : Option Nat :=
  if 'A' ≤ c ∧ c ≤ 'Z' then some (c.toNat - 'A'.toNat)
  else if 'a' ≤ c ∧ c ≤ 'z' then some (c.toNat - 'a'.toNat + 26)
  else if '0' ≤ c ∧ c ≤ '9' then some (c.toNat - '0'.toNat + 52)
  else if c = '+' then some 62
  else if c = '/' then some 63
  else none

/-- The octets of the last group. -/
def lastGroup? (a b c d : Char) : Option Bytes := do
  let bits := 64 * (← value? a) + (← value? b)
  if c = '=' ∧ d = '=' then
    if bits % 16 = 0 then some (Bytes.ofNatBig 1 (bits / 16)) else none
  else
    let bits := 64 * bits + (← value? c)
    if d = '=' then
      if bits % 4 = 0 then some (Bytes.ofNatBig 2 (bits / 4)) else none
    else some (Bytes.ofNatBig 3 (64 * bits + (← value? d)))

/-- The octets of a text. -/
def decode? : List Char → Option Bytes
  | [] => some []
  | [a, b, c, d] => lastGroup? a b c d
  | a :: b :: c :: d :: rest => do
    let bits := 64 * (64 * (64 * (← value? a) + (← value? b)) + (← value? c)) + (← value? d)
    return Bytes.ofNatBig 3 bits ++ (← decode? rest)
  | _ => none

end Base64

namespace Pem

/-- The number of characters in a line. -/
def lineWidth : Nat := 64

/-- What follows a line end, if the text starts with one. -/
def dropLineEnd? : List Char → Option (List Char)
  | '\r' :: '\n' :: rest => some rest
  | '\r' :: rest => some rest
  | '\n' :: rest => some rest
  | _ => none

/-- A line end is not empty. -/
theorem length_lt_of_dropLineEnd? {text rest : List Char} (h : dropLineEnd? text = some rest) :
    rest.length < text.length := by
  unfold dropLineEnd? at h
  split at h
  all_goals cases h
  all_goals
    simp only [List.length_cons]
    omega

/-- What comes before a line end, if the text ends with one. -/
def dropFinalLineEnd? (text : List Char) : Option (List Char) :=
  match text.reverse with
  | '\n' :: '\r' :: rest => some rest.reverse
  | '\n' :: rest => some rest.reverse
  | '\r' :: rest => some rest.reverse
  | _ => none

/-- What comes before a given ending, if the text has it. -/
def dropEnding? (ending text : List Char) : Option (List Char) :=
  if ending.isSuffixOf text then some (text.take (text.length - ending.length)) else none

/-- The lines, without their line ends. -/
def lines? (text : List Char) : Option (List (List Char)) :=
  if _ : lineWidth < text.length then
    match _h : dropLineEnd? (text.drop lineWidth) with
    | some rest => (lines? rest).map (text.take lineWidth :: ·)
    | none => none
  else if text.isEmpty then some []
  else some [(dropFinalLineEnd? text).getD text]
termination_by text.length
decreasing_by
  have hlt := length_lt_of_dropLineEnd? _h
  rw [List.length_drop] at hlt
  omega

/-- The data of some lines. -/
def data? (lines : List (List Char)) : Option Bytes :=
  let characters := lines.flatten
  if lines.getLast? = some [] ∧ characters.getLast? = some '=' then none
  else Base64.decode? characters

/-- What opens the first boundary. -/
def opening : List Char := "-----BEGIN ".toList

/-- What opens the second boundary. -/
def closing : List Char := "-----END ".toList

/-- What ends a boundary. -/
def dashes : List Char := "-----".toList

/-- The text from the first boundary on.  Text before it consists of lines without a NUL. -/
def skipPreamble? (text : List Char) : Option (List Char) :=
  if opening.isPrefixOf text then some text else go text
where
  go : List Char → Option (List Char)
    | [] => none
    | '\x00' :: _ => none
    | '\n' :: rest => if opening.isPrefixOf rest then some rest else go rest
    | _ :: rest => go rest

/-- The data of a text with a given label. -/
def decode? (label : String) (text : List Char) : Option Bytes := do
  let text ← skipPreamble? text
  let front := opening ++ label.toList ++ dashes
  if front.isPrefixOf text then
    let body ← dropLineEnd? (text.drop front.length)
    let body := (dropFinalLineEnd? body).getD body
    let body ← dropEnding? (closing ++ label.toList ++ dashes) body
    data? (← lines? (← dropFinalLineEnd? body))
  else none

end Pem

end MySqlClient
