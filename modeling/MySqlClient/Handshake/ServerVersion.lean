import MySqlClient.Text.Decimal
import MySqlClient.Text.Parts

/-!
# Server versions

A version such as `8.0.36` or `5.5.5-10.6.12-MariaDB`.  MariaDB puts a false `5.5.5-` in front for
old replicas.  Of a part that is missing or too large, other than the first, zero is assumed.
-/

namespace MySqlClient

/-- The products that speak the protocol. -/
inductive ServerFlavor where
  | mySql
  | mariaDb
  deriving DecidableEq

/-- A parsed server version. -/
structure ServerVersion where
  flavor : ServerFlavor
  major : UInt16
  minor : UInt16
  patch : UInt16
  deriving DecidableEq

namespace ServerVersion

/-- Whether some characters occur in a text in one piece. -/
def occursIn (needle : List Char) : List Char → Bool
  | [] => needle.isEmpty
  | c :: rest => needle.isPrefixOf (c :: rest) || occursIn needle rest

/-- The product that a version names. -/
def flavorOf (text : List Char) : ServerFlavor :=
  if occursIn "MariaDB".toList text then .mariaDb else .mySql

/-- The version behind the false one that MariaDB may put in front. -/
def dropReplicaVersion (text : List Char) : List Char :=
  let mark := "5.5.5-".toList
  if mark.isPrefixOf text then text.drop mark.length else text

/-- A part that fits in sixteen bits. -/
def part? (text : List Char) : Option UInt16 :=
  (Decimal.unsigned? UInt16.size text).map UInt16.ofNat

/-- Parse the digits and points at the front of a version. -/
def parse? (text : String) : Option ServerVersion := do
  let chars := text.toList
  let numeric := (dropReplicaVersion chars).takeWhile fun c => c.isDigit || c == '.'
  let parts := Text.parts '.' numeric
  let part (i : Nat) := parts[i]?.bind part?
  let major ← part 0
  return ⟨flavorOf chars, major, (part 1).getD 0, (part 2).getD 0⟩

/-- MySQL 5.7 and 8, and MariaDB from 10.3 on. -/
def isSupported (version : ServerVersion) : Bool :=
  match version.flavor with
  | .mySql => version.major == 5 && version.minor == 7 || version.major == 8
  | .mariaDb => version.major == 10 && 3 ≤ version.minor || 11 ≤ version.major

end ServerVersion

end MySqlClient
