import MySqlClient.Capabilities
import MySqlClient.Wire.Writer

/-!
# The client's answer to the greeting

* `ClientHeader`: the 32 octets that the request for TLS and the response to the greeting begin
  with.  The request for TLS is nothing else.
* `HandshakeResponse`: who the client is, and the proof that it knows the password.  Capability
  flags decide which fields are present, and how the proof is delimited.
-/

namespace MySqlClient

/-- What the client says first, in plain text if need be. -/
structure ClientHeader where
  capabilities : Capabilities
  maxPacketSize : UInt32
  charset : UInt8
  deriving DecidableEq

namespace ClientHeader

/-- The number of octets that are reserved on every server. -/
def reservedLength : Nat := 19

/-- The octets of the header, which also are the request for TLS. -/
def encode (header : ClientHeader) : Bytes :=
  Bytes.ofNat 4 header.capabilities.standardWord.toNat ++
    Bytes.ofNat 4 header.maxPacketSize.toNat ++ header.charset ::
      List.replicate reservedLength 0 ++
        Bytes.ofNat 4 header.capabilities.extendedWord.toNat

/-- A request for TLS has 32 octets. -/
theorem length_encode (header : ClientHeader) : header.encode.length = 32 := by
  simp [encode, reservedLength]

end ClientHeader

/-- The client's response to the greeting. -/
structure HandshakeResponse where
  header : ClientHeader
  username : String
  /-- The proof that the client knows the password. -/
  proof : Bytes
  database : Option String
  plugin : String
  /-- What the client tells about itself. -/
  attributes : List (String × String)
  deriving DecidableEq

namespace HandshakeResponse

/-- A text with a NUL behind it. -/
def textField (text : String) : Bytes :=
  Wire.nulTerminated (Bytes.ofString text)

/-- The proof, behind its length or before a NUL.  The length in one octet is cut to it. -/
def proofField (capabilities : Capabilities) (proof : Bytes) : Bytes :=
  if capabilities.contains .pluginAuthLenEncData then Wire.lenEncBytes proof
  else if capabilities.contains .secureConnection then UInt8.ofNat proof.length :: proof
  else Wire.nulTerminated proof

/-- A field that is present under a flag. -/
def optionalField (capabilities flag : Capabilities) (field : Bytes) : Bytes :=
  if capabilities.contains flag then field else []

/-- An attribute: key and value. -/
def attributeField : String × String → Bytes
  | (key, value) =>
    Wire.lenEncBytes (Bytes.ofString key) ++ Wire.lenEncBytes (Bytes.ofString value)

/-- The attributes behind the length of them all. -/
def attributesField (attributes : List (String × String)) : Bytes :=
  Wire.lenEncBytes (attributes.flatMap attributeField)

/-- The packet of the response. -/
def encode (response : HandshakeResponse) : Bytes :=
  let capabilities := response.header.capabilities
  response.header.encode ++
    textField response.username ++
    proofField capabilities response.proof ++
    optionalField capabilities .connectWithDb (textField (response.database.getD "")) ++
    optionalField capabilities .pluginAuth (textField response.plugin) ++
    optionalField capabilities .connectAttrs (attributesField response.attributes)

end HandshakeResponse

end MySqlClient
