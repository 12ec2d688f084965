import MySqlClient.Handshake.Greeting
import MySqlClient.Proofs.Capabilities.Flags
import MySqlClient.Proofs.Wire.Terminated

/-!
# Greetings as a server sends them

The first packet of a session as data, with its layout, and what a client reads in it.  Three flags
decide on the layout, and two of them stand in halves of the word that are far apart in the packet.

* `Sent.Greeting`, `Sent.Greeting.encode`: the greeting and its packet.
* `Sent.Greeting.learned`: what a client is to learn from it.
* `Sent.Greeting.reads_extensionField`, `Sent.Greeting.reads_secondPiece`,
  `Sent.Greeting.readPlugin_pluginField`: the three fields that depend on flags.
* `Greeting.trimSeed_append_zero`: the NUL behind a seed is dropped, and no zero of the seed's own.
* `Sent.Greeting.parse_encode_greeting`: **a client learns what the server put into its greeting.**
-/

namespace MySqlClient

open Reader

/-! ## The seed -/

namespace Greeting

/-- The NUL behind a seed is dropped, whatever the seed ends in. -/
theorem trimSeed_append_zero {seed : Bytes} (h : seed.length = seedLength) :
    trimSeed (seed ++ [0]) = seed := by
  have hlong : seedLength < (seed ++ [0]).length := by
    rw [List.length_append, h]
    exact Nat.lt_succ_self seedLength
  rw [trimSeed, if_pos ⟨hlong, List.getLast?_concat⟩, List.dropLast_concat]

/-- A seed of the usual length keeps its last octet. -/
theorem trimSeed_of_length_eq {seed : Bytes} (h : seed.length = seedLength) :
    trimSeed seed = seed := by
  rw [trimSeed, if_neg]
  rw [h]
  exact fun hlong => Nat.lt_irrefl seedLength hlong.1

end Greeting

namespace Sent

/-- A greeting. -/
structure Greeting where
  serverVersion : String
  connectionId : UInt32
  seed : Bytes
  /-- The standard capability word. -/
  standard : UInt32
  /-- MariaDB's extension word. -/
  extension : UInt32
  charset : UInt8
  status : StatusFlags
  /-- The first authentication plugin. -/
  plugin : String
  /-- Whether a NUL stands behind the name of the plugin. -/
  terminated : Bool
  deriving DecidableEq

namespace Greeting

/-! ## Layout -/

/-- The flags are in the standard word. -/
def offers (greeting : Greeting) (flags : Capabilities) : Bool :=
  (Capabilities.ofWords greeting.standard 0).contains flags

/-- The length of the seed and its NUL, where it is told. -/
def announced (greeting : Greeting) : UInt8 :=
  if greeting.offers .pluginAuth then 21 else 0

/-- The last four reserved octets.  MariaDB does not offer `longPassword`, and has its extension word
there. -/
def extensionField (greeting : Greeting) : Bytes :=
  if greeting.offers .longPassword then List.replicate 4 0
  else Bytes.ofNat 4 greeting.extension.toNat

/-- The name of the first plugin, for clients that choose one.  Some servers leave out the NUL. -/
def pluginField (greeting : Greeting) : Bytes :=
  if greeting.offers .pluginAuth then
    if greeting.terminated then Wire.nulTerminated (Bytes.ofString greeting.plugin)
    else Bytes.ofString greeting.plugin
  else []

/-- What follows the lower half of the standard word. -/
def encodeExtended (greeting : Greeting) : Bytes :=
  [greeting.charset] ++ (Bytes.ofNat 2 greeting.status.bits.toNat ++
    (Bytes.ofNat 2 (greeting.standard >>> 16).toUInt16.toNat ++ ([greeting.announced] ++
    (List.replicate 6 0 ++ (greeting.extensionField ++
    ((greeting.seed.drop MySqlClient.Greeting.firstPieceLength ++ [0]) ++
      greeting.pluginField))))))

/-- The packet. -/
def encode (greeting : Greeting) : Bytes :=
  [MySqlClient.Greeting.knownVersion] ++
    (Wire.nulTerminated (Bytes.ofString greeting.serverVersion) ++
    (Bytes.ofNat 4 greeting.connectionId.toNat ++
    (greeting.seed.take MySqlClient.Greeting.firstPieceLength ++ ([0] ++
    (Bytes.ofNat 2 greeting.standard.toUInt16.toNat ++ greeting.encodeExtended)))))

/-- The extension word that a client sees. -/
def seenExtension (greeting : Greeting) : UInt32 :=
  if greeting.offers .longPassword then 0 else greeting.extension

/-- What a client is to learn. -/
def learned (greeting : Greeting) : MySqlClient.Greeting where
  protocolVersion := 10
  serverVersion := greeting.serverVersion
  connectionId := greeting.connectionId
  seed := greeting.seed
  capabilities := .ofWords greeting.standard greeting.seenExtension
  charset := greeting.charset
  status := greeting.status
  plugin := if greeting.offers .pluginAuth then greeting.plugin else ""

/-- The seed has its length, the server takes hidden passwords, and the texts have no NUL. -/
structure Fits (greeting : Greeting) : Prop where
  seed : greeting.seed.length = seedLength
  secure : greeting.offers .secureConnection = true
  serverVersion : '\x00' ∉ greeting.serverVersion.toList
  plugin : '\x00' ∉ greeting.plugin.toList

/-! ## Fields that depend on flags -/

variable {greeting : Greeting}

/-- The extension word has no part in what is offered. -/
theorem contains_ofWords_eq_offers {number : Nat} (h : number < 32) (extended : UInt32) :
    (Capabilities.ofWords greeting.standard extended).contains (.flag number) =
      greeting.offers (.flag number) := by
  rw [offers, Capabilities.contains_ofWords h, Capabilities.contains_ofWords h]

theorem reads_extensionField (greeting : Greeting) :
    Reads (MySqlClient.Greeting.readExtension greeting.standard) greeting.extensionField
      greeting.seenExtension := by
  have htest : (greeting.standard &&& Capabilities.longPassword.standardWord == 0) =
      !greeting.offers .longPassword :=
    Capabilities.and_standardWord_eq_zero (by decide) (by decide) greeting.standard 0
  unfold MySqlClient.Greeting.readExtension extensionField seenExtension
  rw [htest]
  cases greeting.offers .longPassword with
  | true => exact (reads_take (List.replicate 4 0)).map fun _ => 0
  | false => exact reads_u32 greeting.extension

/-- **The second piece of the seed**, with its NUL where the length of both is told. -/
theorem reads_secondPiece (h : greeting.Fits) (extended : UInt32) :
    ∃ piece, Reads (MySqlClient.Greeting.readSecondPiece
        (.ofWords greeting.standard extended) greeting.announced)
      (greeting.seed.drop MySqlClient.Greeting.firstPieceLength ++ [0]) piece ∧
      MySqlClient.Greeting.trimSeed
        (greeting.seed.take MySqlClient.Greeting.firstPieceLength ++ piece) = greeting.seed := by
  have hsecure : (Capabilities.ofWords greeting.standard extended).contains .secureConnection =
      true :=
    (contains_ofWords_eq_offers (by decide) extended).trans h.secure
  have hplugin : (Capabilities.ofWords greeting.standard extended).contains .pluginAuth =
      greeting.offers .pluginAuth :=
    contains_ofWords_eq_offers (by decide) extended
  have hlength : (greeting.seed.drop MySqlClient.Greeting.firstPieceLength).length = 12 := by
    rw [List.length_drop, h.seed]
    rfl
  unfold MySqlClient.Greeting.readSecondPiece announced
  rw [if_pos hsecure, hplugin]
  cases greeting.offers .pluginAuth with
  | true =>
    -- the NUL is read as part of the piece, and dropped with the seed complete
    refine ⟨greeting.seed.drop MySqlClient.Greeting.firstPieceLength ++ [0], ?_, ?_⟩
    · refine reads_take_of_length_eq ?_
      rw [List.length_append, hlength]
      rfl
    · rw [← List.append_assoc, List.take_append_drop,
        MySqlClient.Greeting.trimSeed_append_zero h.seed]
  | false =>
    -- the NUL is read on its own, so that a zero at the end is the seed's
    refine ⟨greeting.seed.drop MySqlClient.Greeting.firstPieceLength, ?_, ?_⟩
    · exact (reads_take_of_length_eq hlength).bind _ ((reads_u8 0).map fun _ =>
        greeting.seed.drop MySqlClient.Greeting.firstPieceLength)
    · rw [List.take_append_drop, MySqlClient.Greeting.trimSeed_of_length_eq h.seed]

/-- **The name of the plugin** is the last field, so that nothing need tell where it ends. -/
theorem readPlugin_pluginField (h : greeting.Fits) (extended : UInt32) :
    MySqlClient.Greeting.readPlugin (.ofWords greeting.standard extended) greeting.pluginField =
      .ok greeting.learned.plugin [] := by
  have hplugin : (Capabilities.ofWords greeting.standard extended).contains .pluginAuth =
      greeting.offers .pluginAuth :=
    contains_ofWords_eq_offers (by decide) extended
  have hzero := Utf8.zero_notMem_ofString h.plugin
  have hname : Reader.nulTerminated (if greeting.terminated then
      Wire.nulTerminated (Bytes.ofString greeting.plugin) else Bytes.ofString greeting.plugin) =
      .ok (Bytes.ofString greeting.plugin) [] := by
    split
    · rw [← List.append_nil (Wire.nulTerminated _)]
      exact reads_nulTerminated hzero []
    · exact nulTerminated_of_notMem hzero
  unfold MySqlClient.Greeting.readPlugin pluginField learned
  rw [hplugin]
  cases greeting.offers .pluginAuth with
  | true =>
    simp only [if_true]
    rw [bind_of_ok hname, Utf8.decodeLossy_ofString]
    rfl
  | false => rfl

/-! ## The packet -/

/-- What follows the lower half of the standard word is used up and read back. -/
theorem readExtended_encodeExtended (h : greeting.Fits) (begun : MySqlClient.Greeting)
    (hseed : begun.seed = greeting.seed.take MySqlClient.Greeting.firstPieceLength) :
    MySqlClient.Greeting.readExtended begun greeting.standard.toUInt16 greeting.encodeExtended =
      .ok { greeting.learned with
        protocolVersion := begun.protocolVersion
        serverVersion := begun.serverVersion
        connectionId := begun.connectionId } [] := by
  obtain ⟨piece, hpiece, htrim⟩ := reads_secondPiece h greeting.seenExtension
  unfold MySqlClient.Greeting.readExtended encodeExtended
  rw [bind_of_ok (reads_u8 greeting.charset _), bind_of_ok (reads_u16 greeting.status.bits _),
    bind_of_ok (reads_u16 (greeting.standard >>> 16).toUInt16 _),
    bind_of_ok (reads_u8 greeting.announced _),
    bind_of_ok (reads_take_of_length_eq List.length_replicate _)]
  dsimp only
  rw [Capabilities.word_of_halves, bind_of_ok (reads_extensionField greeting _),
    bind_of_ok (hpiece _), bind_of_ok (readPlugin_pluginField h greeting.seenExtension), hseed,
    htrim]
  rfl

/-- A greeting is used up and read back. -/
theorem reader_of_encode (h : greeting.Fits) :
    MySqlClient.Greeting.reader greeting.encode = .ok greeting.learned [] := by
  have hlength : (greeting.seed.take MySqlClient.Greeting.firstPieceLength).length =
      MySqlClient.Greeting.firstPieceLength := by
    rw [List.length_take, h.seed]
    rfl
  have hmore : greeting.encodeExtended.isEmpty = false := rfl
  unfold MySqlClient.Greeting.reader encode
  rw [bind_of_ok (reads_u8 _ _)]
  dsimp only
  rw [if_neg (by decide),
    bind_of_ok (reads_nulTerminated (Utf8.zero_notMem_ofString h.serverVersion) _),
    bind_of_ok (reads_u32 greeting.connectionId _), bind_of_ok (reads_take_of_length_eq hlength _),
    bind_of_ok (reads_u8 0 _), bind_of_ok (reads_u16 greeting.standard.toUInt16 _),
    peek_bind, if_neg (by rw [hmore]; decide),
    Utf8.decodeLossy_ofString]
  exact readExtended_encodeExtended h _ rfl

/-- **A client learns what the server put into its greeting.** -/
theorem parse_encode_greeting (h : greeting.Fits) :
    MySqlClient.Greeting.parse greeting.encode = .ok greeting.learned := by
  rw [MySqlClient.Greeting.parse, Reader.parse, reader_of_encode h]

/-- A greeting of MariaDB: flags in the extension word, a seed that ends in zero, and no NUL behind
the name of the plugin. -/
def ofMariaDb : Greeting where
  serverVersion := "5.5.5-10.6.12-MariaDB"
  connectionId := 42
  seed := List.replicate 19 0x37 ++ [0]
  standard := 0x00088200
  extension := 0x1D
  charset := 45
  status := ⟨2⟩
  plugin := "mysql_native_password"
  terminated := false

/-- The client has all twenty octets of the seed and both words. -/
theorem parse_encode_greeting_ofMariaDb :
    ofMariaDb.Fits ∧ MySqlClient.Greeting.parse ofMariaDb.encode = .ok
      { protocolVersion := 10
        serverVersion := "5.5.5-10.6.12-MariaDB"
        connectionId := 42
        seed := List.replicate 19 0x37 ++ [0]
        capabilities := ⟨0x1D00088200⟩
        charset := 45
        status := ⟨2⟩
        plugin := "mysql_native_password" } := by
  have hfits : ofMariaDb.Fits :=
    { seed := rfl, secure := by decide, serverVersion := by decide, plugin := by decide }
  refine ⟨hfits, (parse_encode_greeting hfits).trans (congrArg Except.ok ?_)⟩
  decide

end Greeting

end Sent

end MySqlClient
