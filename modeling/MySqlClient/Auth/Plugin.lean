import MySqlClient.Crypto.Rsa
import MySqlClient.Crypto.Sha256
import MySqlClient.Error

/-!
# Authentication plugins

How a client proves that it knows the password, without sending it.

* `AuthPlugin.native`: the server stores `SHA1 (SHA1 password)`.
* `AuthPlugin.cachingSha2`: the server may hold `SHA256 (SHA256 password)`; if it does not, it asks
  for the password, which is sent over a private transport or encrypted with the server's key.

In both the proof is the hash of the password, hidden by a hash of the seed and the stored value.
-/

namespace MySqlClient

/-- The supported plugins. -/
inductive AuthPlugin where
  | native
  | cachingSha2
  deriving DecidableEq

namespace AuthPlugin

/-- The name of a plugin. -/
def name : AuthPlugin → String
  | native => "mysql_native_password"
  | cachingSha2 => "caching_sha2_password"

/-- The plugin with a name. -/
def ofName (name : String) : Outcome AuthPlugin :=
  if name = native.name then .ok native
  else if name = cachingSha2.name then .ok cachingSha2
  else .error (.unsupportedAuthPlugin name)

/-- The proof for the older plugin:
`SHA1 password xor SHA1 (seed ++ SHA1 (SHA1 password))`. -/
def nativeProof (password seed : Bytes) : Bytes :=
  let once := Sha1.digest password
  let stored := Sha1.digest once
  Bytes.xor once (Sha1.digest (seed ++ stored))

/-- The proof for the newer plugin:
`SHA256 password xor SHA256 (SHA256 (SHA256 password) ++ seed)`. -/
def cachingSha2Proof (password seed : Bytes) : Bytes :=
  let once := Sha256.digest password
  let stored := Sha256.digest once
  Bytes.xor once (Sha256.digest (stored ++ seed))

/-- The first answer to a seed.  An empty password is proved by an empty answer. -/
def scramble (plugin : AuthPlugin) (password seed : Bytes) : Outcome Bytes :=
  if password.isEmpty then .ok []
  else if seed.length ≠ seedLength then
    .error (.auth (.seedLength plugin.name seed.length))
  else match plugin with
    | native => .ok (nativeProof password seed)
    | cachingSha2 => .ok (cachingSha2Proof password seed)

end AuthPlugin

/-- The first `length` octets of a string repeated without end; zeros if it is empty. -/
def Bytes.cycle (octets : Bytes) (length : Nat) : Bytes :=
  let store := octets.toArray
  (List.range length).map fun i => store.getD (i % store.size) 0

/-- The password with a NUL behind it, hidden by the repeated seed. -/
def hiddenPassword (password seed : Bytes) : Bytes :=
  let plain := password ++ [0]
  Bytes.xor plain (Bytes.cycle seed plain.length)

/-- The hidden password, encrypted with the server's key.  The key is text; NULs may follow it. -/
def encryptedPassword (entropy password seed key : Bytes) : Outcome Bytes :=
  if seed.isEmpty then .error (.auth .emptySeed)
  else match Utf8.fault? key with
    | some fault => .error (.auth (.keyNotText fault))
    | none =>
      let text := Text.dropTrailing (· = '\x00') (Utf8.lossyChars key)
      match Rsa.PublicKey.ofPem? text with
      | none => .error (.auth .keyUnreadable)
      | some publicKey =>
        match publicKey.encrypt? entropy (hiddenPassword password seed) with
        | some cipher => .ok cipher
        | none => .error (.auth .encryption)

end MySqlClient
