import MySqlClient.Text.Parts

/-!
# Names of servers

The name that a certificate has to bear is a domain name or a literal address.

* `ServerName.isDomain`: labels of letters, digits, underscores and inner hyphens, at most 63
  characters each and 253 in all.  The last label is not a number, so that no domain name can be
  taken for an address; a dot may end the name.
* `ServerName.isAddress`: four decimal octets, or eight hexadecimal groups, of which `::` stands
  for one or more and the last two may be written as four decimal octets.
-/

namespace MySqlClient.ServerName

/-! ## Domain names -/

/-- The longest label. -/
def maxLabel : Nat := 63

/-- The longest name. -/
def maxName : Nat := 253

def isLabelChar (c : Char) : Bool :=
  c.isAlphanum || c == '_' || c == '-'

def isLabel (label : List Char) : Bool :=
  !label.isEmpty && label.length ≤ maxLabel && label.all isLabelChar &&
    label.head? != some '-' && label.getLast? != some '-'

def isNumber (label : List Char) : Bool :=
  label.all Char.isDigit

/-- The labels of a name; a dot at the end separates nothing. -/
def labels (name : List Char) : List (List Char) :=
  Text.parts '.' (if name.getLast? = some '.' then name.dropLast else name)

def isDomain (name : List Char) : Bool :=
  name.length ≤ maxName && (labels name).all isLabel &&
    !((labels name).getLast?.any isNumber)

/-! ## Addresses -/

/-- A decimal octet, without zeros in front. -/
def isOctet (digits : List Char) : Bool :=
  !digits.isEmpty && digits.length ≤ 3 && digits.all Char.isDigit &&
    (digits.length = 1 || digits.head? != some '0') &&
    digits.foldl (fun n c => 10 * n + (c.toNat - '0'.toNat)) 0 < 256

def isDotted (name : List Char) : Bool :=
  (Text.parts '.' name).length = 4 && (Text.parts '.' name).all isOctet

def isHexDigit (c : Char) : Bool :=
  c.isDigit || ('a' ≤ c && c ≤ 'f') || ('A' ≤ c && c ≤ 'F')

def isGroup (digits : List Char) : Bool :=
  !digits.isEmpty && digits.length ≤ 4 && digits.all isHexDigit

/-- How many groups some parts stand for, if each is a group and the last may be dotted. -/
def groups? : List (List Char) → Option Nat
  | [] => some 0
  | [part] => if isGroup part then some 1 else if isDotted part then some 2 else none
  | part :: rest => if isGroup part then (groups? rest).map (· + 1) else none

/-- How many groups are written on one side of `::`. -/
def side? (text : List Char) : Option Nat :=
  if text.isEmpty then some 0 else groups? (Text.parts ':' text)

/-- What stands before and behind the first `::`. -/
def splitGap : List Char → Option (List Char × List Char)
  | ':' :: ':' :: rest => some ([], rest)
  | c :: rest => (splitGap rest).map fun (before, behind) => (c :: before, behind)
  | [] => none

def isGrouped (name : List Char) : Bool :=
  match splitGap name with
  | none => groups? (Text.parts ':' name) == some 8
  | some (before, behind) =>
    !before.contains '.' &&
      match side? before, side? behind with
      | some n, some m => n + m ≤ 7
      | _, _ => false

def isAddress (name : List Char) : Bool :=
  isDotted name || isGrouped name

/-- Whether a certificate can bear the name. -/
def isValid (name : String) : Bool :=
  isDomain name.toList || isAddress name.toList

end MySqlClient.ServerName
