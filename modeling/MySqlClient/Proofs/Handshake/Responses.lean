import MySqlClient.Handshake.Response
import MySqlClient.Proofs.Capabilities.Flags
import MySqlClient.Proofs.Wire.Terminated

/-!
# The client's response as a server reads it

A server finds the capability words of a response in its header, and reads everything behind them by
these words alone.  They decide which of three forms the proof has and which fields follow it; a
field under the wrong flag would shift all that is behind it.  The server is a strict one: it refuses
malformed text, a missing NUL, and a NULL for a length.

* `Received.exhaust`: one item after the other, until nothing is left; `Received.exhaust_flatMap`.
* `Received.Response`, `Received.Response.reader`: what a server finds, and how.
* `HandshakeResponse.Fits`: the responses that can be written so that they can be read.
* `HandshakeResponse.reads_header`, `reads_proof`, `reads_optional`, `reads_attributes`: the parts.
* `HandshakeResponse.received_of_encode`: **a server finds in the packet what the client put into it
  and nothing else, and its first octets are the request for TLS.**
-/

namespace MySqlClient

open Reader

namespace Received

variable {α : Type}

/-! ## The server's reader -/

/-- A text has to be well-formed. -/
def text (octets : Bytes) : Reader String :=
  match Utf8.decode? octets with
  | some text => return text
  | none => Reader.fail (.other "malformed text")

/-- The octets before a NUL, which has to be there. -/
def beforeNul : Reader Bytes := do
  if (← Reader.peek).contains 0 then Reader.nulTerminated
  else Reader.fail (.other "missing NUL")

/-- A text before a NUL. -/
def nulText : Reader String := do
  text (← beforeNul)

/-- A string behind its length, which cannot be NULL. -/
def sized : Reader Bytes := do
  match ← Reader.lenEncBytes with
  | some octets => return octets
  | none => Reader.fail .nullLength

/-- One item after the other, until nothing is left.  An item takes at least one octet. -/
def exhaust (item : Reader α) (octets : Bytes) : Outcome (List α) :=
  if octets.isEmpty then .ok []
  else
    match item octets with
    | .ok value rest =>
      if rest.length < octets.length then do return value :: (← exhaust item rest)
      else .error (.protocol (.other "empty item"))
    | .error error _ => .error error
termination_by octets.length

/-- Items in a string behind its length. -/
def block (item : Reader α) : Reader (List α) := do
  match exhaust item (← sized) with
  | .ok items => return items
  | .error error => throw error

/-- An attribute: key and value. -/
def pair : Reader (String × String) := do
  let key ← text (← sized)
  let value ← text (← sized)
  return (key, value)

/-- The proof, behind its length or before a NUL. -/
def proof (capabilities : Capabilities) : Reader Bytes := do
  if capabilities.contains .pluginAuthLenEncData then sized
  else if capabilities.contains .secureConnection then
    let length ← Reader.u8
    Reader.take length.toNat
  else beforeNul

/-- A field that is present under a flag. -/
def optional (capabilities flag : Capabilities) (field : Reader α) : Reader (Option α) := do
  if capabilities.contains flag then
    let value ← field
    return some value
  else return none

/-- The header, which is also all of a request for TLS. -/
def header : Reader ClientHeader := do
  let standard ← Reader.u32
  let maxPacketSize ← Reader.u32
  let charset ← Reader.u8
  let _reserved ← Reader.take ClientHeader.reservedLength
  let extended ← Reader.u32
  return ⟨.ofWords standard extended, maxPacketSize, charset⟩

/-- What a server finds in a response. -/
structure Response where
  header : ClientHeader
  username : String
  proof : Bytes
  database : Option String
  plugin : Option String
  attributes : Option (List (String × String))
  deriving DecidableEq

/-- Read a response. -/
def Response.reader : Reader Response := do
  let header ← Received.header
  let capabilities := header.capabilities
  let username ← nulText
  let proof ← Received.proof capabilities
  let database ← optional capabilities .connectWithDb nulText
  let plugin ← optional capabilities .pluginAuth nulText
  let attributes ← optional capabilities .connectAttrs (block pair)
  return { header, username, proof, database, plugin, attributes }

/-! ## Primitives read back -/

theorem reads_text (text : String) : Reads (Received.text (Bytes.ofString text)) [] text := by
  intro rest
  rw [Received.text, Utf8.decode?_ofString]
  rfl

theorem reads_beforeNul {octets : Bytes} (h : 0 ∉ octets) :
    Reads beforeNul (Wire.nulTerminated octets) octets := by
  intro rest
  have hnul : (Wire.nulTerminated octets ++ rest).contains 0 = true := by
    simp [Wire.nulTerminated]
  rw [beforeNul, peek_bind, if_pos hnul]
  exact reads_nulTerminated h rest

theorem reads_nulText {text : String} (h : '\x00' ∉ text.toList) :
    Reads nulText (HandshakeResponse.textField text) text :=
  (reads_beforeNul (Utf8.zero_notMem_ofString h)).bind_nil _ (reads_text text)

theorem reads_sized {octets : Bytes} (h : octets.length < UInt64.size) :
    Reads sized (Wire.lenEncBytes octets) octets :=
  reads_lenEncBytes_required _ h

/-- **Items are read back one after the other**, if each of them is, and has an octet. -/
theorem exhaust_flatMap {item : Reader α} {form : α → Bytes} {items : List α}
    (hform : ∀ value ∈ items, form value ≠ [])
    (hreads : ∀ value ∈ items, Reads item (form value) value) :
    exhaust item (items.flatMap form) = .ok items := by
  -- the first item is taken, and leaves the others
  induction items with
  | nil =>
    rw [List.flatMap_nil, exhaust]
    rfl
  | cons value items ih =>
    obtain ⟨hvalue, hform⟩ := List.forall_mem_cons.mp hform
    obtain ⟨hread, hreads⟩ := List.forall_mem_cons.mp hreads
    have hlength := List.length_pos_iff.mpr hvalue
    have hmore : (form value ++ items.flatMap form).isEmpty = false := by
      rw [List.isEmpty_eq_false_iff]
      exact List.append_ne_nil_of_left_ne_nil hvalue _
    have hless : (items.flatMap form).length < (form value ++ items.flatMap form).length := by
      rw [List.length_append]
      omega
    rw [List.flatMap_cons, exhaust, hmore, if_neg Bool.false_ne_true, hread]
    dsimp only
    rw [if_pos hless, ih hform hreads]
    rfl

theorem reads_block {item : Reader α} {form : α → Bytes} {items : List α}
    (hlength : (items.flatMap form).length < UInt64.size)
    (hform : ∀ value ∈ items, form value ≠ [])
    (hreads : ∀ value ∈ items, Reads item (form value) value) :
    Reads (block item) (Wire.lenEncBytes (items.flatMap form)) items := by
  intro rest
  rw [block, bind_of_ok (reads_sized hlength rest), exhaust_flatMap hform hreads]
  rfl

end Received

namespace HandshakeResponse

/-! ## What can be written -/

/-- The proof can be told from what follows it. -/
def ProofFits (capabilities : Capabilities) (proof : Bytes) : Prop :=
  if capabilities.contains .pluginAuthLenEncData then proof.length < UInt64.size
  else if capabilities.contains .secureConnection then proof.length < 256
  else 0 ∉ proof

/-- Texts before a NUL have none, and the lengths can be written. -/
structure Fits (response : HandshakeResponse) : Prop where
  username : '\x00' ∉ response.username.toList
  proof : ProofFits response.header.capabilities response.proof
  database : ∀ name, response.database = some name → '\x00' ∉ name.toList
  plugin : '\x00' ∉ response.plugin.toList
  attributes : response.header.capabilities.contains .connectAttrs = true →
    (response.attributes.flatMap attributeField).length < UInt64.size

/-- What a server is to find. -/
def received (response : HandshakeResponse) : Received.Response where
  header := response.header
  username := response.username
  proof := response.proof
  database := if response.header.capabilities.contains .connectWithDb then
    some (response.database.getD "") else none
  plugin := if response.header.capabilities.contains .pluginAuth then some response.plugin else none
  attributes := if response.header.capabilities.contains .connectAttrs then
    some response.attributes else none

/-! ## The parts -/

/-- **The header is read back**, with both words of the capabilities. -/
theorem reads_header (header : ClientHeader) : Reads Received.header header.encode header := by
  have hwords : ClientHeader.mk
      (.ofWords header.capabilities.standardWord header.capabilities.extendedWord)
      header.maxPacketSize header.charset = header := by
    rw [Capabilities.ofWords_words]
  have hreserved : (List.replicate ClientHeader.reservedLength (0 : UInt8)).length =
      ClientHeader.reservedLength := List.length_replicate
  have hextended := (reads_u32 header.capabilities.extendedWord).map fun extended =>
    ClientHeader.mk (.ofWords header.capabilities.standardWord extended) header.maxPacketSize
      header.charset
  rw [hwords] at hextended
  have hread : Reads Received.header _ header :=
    (reads_u32 header.capabilities.standardWord).bind _ <|
      (reads_u32 header.maxPacketSize).bind _ <| (reads_u8 header.charset).bind _ <|
      (reads_take_of_length_eq hreserved).bind _ hextended
  simpa only [ClientHeader.encode, List.append_assoc, List.cons_append, List.nil_append] using hread

/-- **The proof is read back** in each of its three forms. -/
theorem reads_proof {capabilities : Capabilities} {proof : Bytes}
    (h : ProofFits capabilities proof) :
    Reads (Received.proof capabilities) (proofField capabilities proof) proof := by
  unfold ProofFits Received.proof proofField at *
  split
  · next hlenEnc =>
    rw [if_pos hlenEnc] at h
    exact Received.reads_sized h
  next hlenEnc =>
  rw [if_neg hlenEnc] at h
  split
  · next hsecure =>
    rw [if_pos hsecure] at h
    have hlength : proof.length = (UInt8.ofNat proof.length).toNat := by
      rw [UInt8.toNat_ofNat_of_lt' h]
    exact (reads_u8 (UInt8.ofNat proof.length)).bind _ (reads_take_of_length_eq hlength)
  · next hsecure =>
    rw [if_neg hsecure] at h
    exact Received.reads_beforeNul h

theorem reads_optional {α : Type} {capabilities flag : Capabilities} {field : Reader α}
    {octets : Bytes} {value : α}
    (h : capabilities.contains flag = true → Reads field octets value) :
    Reads (Received.optional capabilities flag field) (optionalField capabilities flag octets)
      (if capabilities.contains flag then some value else none) := by
  unfold Received.optional optionalField
  split
  · next hflag => exact (h hflag).map some
  · exact Reads.pure none

/-- A part of the block has a length that can be written if the block has. -/
theorem length_le_of_mem_attributes {attributes : List (String × String)}
    {entry : String × String} (h : entry ∈ attributes) :
    (attributeField entry).length ≤ (attributes.flatMap attributeField).length := by
  obtain ⟨front, back, rfl⟩ := List.append_of_mem h
  rw [List.flatMap_append, List.flatMap_cons, List.length_append, List.length_append]
  omega

/-- **An attribute is read back.** -/
theorem reads_attribute {entry : String × String}
    (h : (attributeField entry).length < UInt64.size) :
    Reads Received.pair (attributeField entry) entry := by
  obtain ⟨key, value⟩ := entry
  rw [attributeField, List.length_append, Wire.lenEncBytes, Wire.lenEncBytes, List.length_append,
    List.length_append] at h
  have hkey : (Bytes.ofString key).length < UInt64.size := by omega
  have hvalue : (Bytes.ofString value).length < UInt64.size := by omega
  have hlast := (Received.reads_text value).map fun value => (key, value)
  exact (Received.reads_sized hkey).bind _ <| (Received.reads_text key).bind _ <|
    (Received.reads_sized hvalue).bind_nil _ hlast

/-- **The attributes are read back in order.** -/
theorem reads_attributes {attributes : List (String × String)}
    (h : (attributes.flatMap attributeField).length < UInt64.size) :
    Reads (Received.block Received.pair) (attributesField attributes) attributes := by
  refine Received.reads_block h (fun entry _ => ?_) fun entry hentry => ?_
  · obtain ⟨lead, rest, hlead, -⟩ := Wire.exists_lenEncBytes_eq_cons (Bytes.ofString entry.1)
    rw [attributeField, hlead]
    exact List.cons_ne_nil _ _
  · exact reads_attribute (Nat.lt_of_le_of_lt (length_le_of_mem_attributes hentry) h)

/-! ## The packet -/

/-- A response is used up and read back. -/
theorem reads_encode {response : HandshakeResponse} (h : response.Fits) :
    Reads Received.Response.reader response.encode response.received := by
  have hdatabase : '\x00' ∉ (response.database.getD "").toList := by
    cases hname : response.database with
    | none => exact List.not_mem_nil
    | some name => exact h.database name hname
  have hlast := (reads_optional fun hflag => reads_attributes (h.attributes hflag)).map
    fun attributes => { response.received with attributes }
  have hread : Reads Received.Response.reader _ response.received :=
    (reads_header response.header).bind _ <| (Received.reads_nulText h.username).bind _ <|
      (reads_proof h.proof).bind _ <|
      (reads_optional fun _ => Received.reads_nulText hdatabase).bind _ <|
      (reads_optional fun _ => Received.reads_nulText h.plugin).bind _ hlast
  simpa only [encode, List.append_assoc] using hread

/-- **A server finds in the packet what the client put into it and nothing else, and its first
octets are the request for TLS.** -/
theorem received_of_encode {response : HandshakeResponse} (h : response.Fits) :
    Received.Response.reader response.encode = .ok response.received [] ∧
      response.encode.take 32 = response.header.encode := by
  constructor
  · have hread := reads_encode h []
    rwa [List.append_nil] at hread
  · simp only [encode, List.append_assoc]
    exact List.take_left' response.header.length_encode

/-- A response without a database under the flag for one, with a proof that has a zero octet and is
as long as one octet can tell. -/
def withoutDatabase : HandshakeResponse where
  header := ⟨⟨0x1D00188208⟩, 0x1000000, 45⟩
  username := "ada"
  proof := List.replicate 254 0x5A ++ [0]
  database := none
  plugin := "mysql_native_password"
  attributes := [("_os", "linux"), ("note", ""), ("_os", "again")]

/-- The server finds an empty database, and the attributes in order. -/
theorem received_of_encode_withoutDatabase :
    withoutDatabase.Fits ∧
      Received.Response.reader withoutDatabase.encode = .ok
        { header := ⟨⟨0x1D00188208⟩, 0x1000000, 45⟩
          username := "ada"
          proof := List.replicate 254 0x5A ++ [0]
          database := some ""
          plugin := some "mysql_native_password"
          attributes := some [("_os", "linux"), ("note", ""), ("_os", "again")] } [] ∧
      withoutDatabase.encode.take 32 = ClientHeader.encode ⟨⟨0x1D00188208⟩, 0x1000000, 45⟩ := by
  have hproof : ProofFits withoutDatabase.header.capabilities withoutDatabase.proof := by
    rw [ProofFits, if_neg (by decide), if_pos (by decide), withoutDatabase, List.length_append,
      List.length_replicate]
    decide
  have hfits : withoutDatabase.Fits := by
    refine ⟨by decide, hproof, ?_, by decide, by decide⟩
    rintro name ⟨⟩
  exact ⟨hfits, received_of_encode hfits⟩

end HandshakeResponse

end MySqlClient
