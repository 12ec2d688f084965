import MySqlClient.Text.Decimal

/-!
# Capability and status flags

* `Capabilities`: what client and server agree on.  The low word holds the standard flags and the
  high word the extensions of MariaDB, which travel separately.
* `Capabilities.required`, `Capabilities.clientDefault`, `Capabilities.unsupported`: what a server
  must offer, what a client asks for, and what it never asks for.
* `StatusFlags`: the state of the session after a statement.
-/

namespace MySqlClient

/-- A set of capability flags. -/
structure Capabilities where
  bits : UInt64
  deriving DecidableEq

namespace Capabilities

/-- The flag with the given number. -/
def flag (number : Nat) : Capabilities := ⟨UInt64.ofNat (1 <<< number)⟩

def longPassword : Capabilities := flag 0
def foundRows : Capabilities := flag 1
def connectWithDb : Capabilities := flag 3
def compress : Capabilities := flag 5
def localFiles : Capabilities := flag 7
def protocol41 : Capabilities := flag 9
def ssl : Capabilities := flag 11
def ignoreSigpipe : Capabilities := flag 12
def transactions : Capabilities := flag 13
def secureConnection : Capabilities := flag 15
def multiStatements : Capabilities := flag 16
def multiResults : Capabilities := flag 17
def psMultiResults : Capabilities := flag 18
def pluginAuth : Capabilities := flag 19
def connectAttrs : Capabilities := flag 20
def pluginAuthLenEncData : Capabilities := flag 21
def expiredPasswords : Capabilities := flag 22
def sessionTrack : Capabilities := flag 23
def deprecateEof : Capabilities := flag 24
def optionalMetadata : Capabilities := flag 25
def zstdCompression : Capabilities := flag 26
def queryAttributes : Capabilities := flag 27
def multiFactorAuth : Capabilities := flag 28
def mariaDbProgress : Capabilities := flag 32
def mariaDbComMulti : Capabilities := flag 33
def mariaDbBulkOperations : Capabilities := flag 34
def mariaDbExtendedMetadata : Capabilities := flag 35
def mariaDbCacheMetadata : Capabilities := flag 36

/-- No flag. -/
def none : Capabilities := ⟨0⟩

/-- Whether all flags of another set are present. -/
def contains (flags other : Capabilities) : Bool :=
  flags.bits &&& other.bits == other.bits

/-- The flags in both sets. -/
def intersection (flags other : Capabilities) : Capabilities :=
  ⟨flags.bits &&& other.bits⟩

/-- The flags in either set. -/
def union (flags other : Capabilities) : Capabilities :=
  ⟨flags.bits ||| other.bits⟩

/-- The flags of the first set that are not in the second. -/
def difference (flags other : Capabilities) : Capabilities :=
  ⟨flags.bits &&& ~~~other.bits⟩

/-- Put flags in or take them out. -/
def set (flags other : Capabilities) (present : Bool) : Capabilities :=
  if present then flags.union other else flags.difference other

/-- The union of some sets. -/
def unionAll (sets : List Capabilities) : Capabilities :=
  sets.foldl union none

/-- The set with the given standard and extension words. -/
def ofWords (standard extended : UInt32) : Capabilities :=
  ⟨standard.toUInt64 ||| (extended.toUInt64 <<< 32)⟩

/-- The standard word. -/
def standardWord (flags : Capabilities) : UInt32 :=
  flags.bits.toUInt32

/-- The word of MariaDB's extensions. -/
def extendedWord (flags : Capabilities) : UInt32 :=
  (flags.bits >>> 32).toUInt32

/-- What a server must offer. -/
def required : Capabilities :=
  unionAll [protocol41, secureConnection]

/-- What a client asks for unless it is told otherwise. -/
def clientDefault : Capabilities :=
  unionAll [longPassword, protocol41, transactions, secureConnection, multiStatements,
    multiResults, psMultiResults, pluginAuth, connectAttrs, pluginAuthLenEncData, sessionTrack,
    deprecateEof]

/-- What a client never asks for, because it could not keep its side. -/
def unsupported : Capabilities :=
  unionAll [foundRows, compress, ignoreSigpipe, expiredPasswords, zstdCompression, localFiles,
    optionalMetadata, queryAttributes, multiFactorAuth, mariaDbComMulti, mariaDbBulkOperations,
    mariaDbExtendedMetadata, mariaDbCacheMetadata]

/-- The set in words. -/
def text (flags : Capabilities) : String :=
  s!"CapabilityFlags(0x{Hex.padded 1 flags.bits.toNat})"

end Capabilities

/-- The state of the session after a statement. -/
structure StatusFlags where
  bits : UInt16
  deriving DecidableEq

namespace StatusFlags

/-- No flag. -/
def none : StatusFlags := ⟨0⟩

/-- Another result follows in the same reply. -/
def moreResultsExist : StatusFlags := ⟨0x0008⟩

/-- Whether all flags of another set are present. -/
def contains (flags other : StatusFlags) : Bool :=
  flags.bits &&& other.bits == other.bits

/-- Whether another result follows in the same reply. -/
def moreResults (flags : StatusFlags) : Bool :=
  flags.contains moreResultsExist

/-- The set in words. -/
def text (flags : StatusFlags) : String :=
  s!"StatusFlags(0x{Hex.padded 4 flags.bits.toNat})"

end StatusFlags

end MySqlClient
