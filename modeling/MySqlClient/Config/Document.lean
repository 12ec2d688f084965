import MySqlClient.Config
import MySqlClient.Config.JsonValue

/-!
# Configurations as documents

A configuration may be given as a JSON text: an object with fields by name, or an array with fields
in their order.  Fields that are missing keep their defaults; names that are not fields are passed
over; a field that comes twice is an error.

* `Config.ofJson?`: the configuration of a text.
-/

namespace MySqlClient

namespace JsonValue

/-- A text. -/
def text? : JsonValue → Option String
  | string text => text
  | _ => none

/-- A text, or null for none. -/
def optionalText? : JsonValue → Option (Option String)
  | null => some none
  | value => value.text?.map some

def bool? : JsonValue → Option Bool
  | bool b => some b
  | _ => none

/-- A natural number below a bound. -/
def natural? (bound : Nat) : JsonValue → Option Nat
  | number n => n.filter (· < bound)
  | _ => none

/-- One of some names: as a text, or as the only key of an object with a null under it. -/
def choice? : JsonValue → Option String
  | object [(key, null)] => key
  | value => value.text?

/-- Texts by key; of several under one key the last counts. -/
def texts? : JsonValue → Option (List (String × String))
  | object members =>
    members.foldlM (fun texts (key, value) => do
      return insertSorted (← key) (← value.text?) texts) []
  | _ => none

end JsonValue

namespace Config

/-- The fields of a document, in their order, with what each does to a configuration. -/
def fields : List (String × (Config → JsonValue → Option Config)) :=
  [("host", fun config v => do return { config with host := ← v.text? }),
    ("port", fun config v => do
      return { config with port := UInt16.ofNat (← v.natural? UInt16.size) }),
    ("socket", fun config v => do return { config with socket := ← v.optionalText? }),
    ("user", fun config v => do return { config with user := ← v.text? }),
    ("password", fun config v => do return { config with password := ← v.optionalText? }),
    ("database", fun config v => do return { config with database := ← v.optionalText? }),
    ("tls_mode", fun config v => do
      return { config with tlsMode := ← TlsMode.ofName? (← v.choice?) }),
    ("tls_server_name", fun config v => do
      return { config with tlsServerName := ← v.optionalText? }),
    ("accept_invalid_certs", fun config v => do
      return { config with acceptInvalidCerts := ← v.bool? }),
    ("root_cert_path", fun config v => do
      return { config with rootCertPath := ← v.optionalText? }),
    ("charset", fun config v => do
      return { config with charset := UInt8.ofNat (← v.natural? UInt8.size) }),
    ("max_packet_size", fun config v => do
      return { config with maxPacketSize := UInt32.ofNat (← v.natural? UInt32.size) }),
    ("connect_timeout", fun config v => do
      return { config with connectTimeout := UInt64.ofNat (← v.natural? UInt64.size) }),
    ("attributes", fun config v => do return { config with attributes := ← v.texts? })]

/-- Set a field by its name. -/
def setField (config : Config) (name : String) (value : JsonValue) : Option Config :=
  match fields.lookup name with
  | some set => set config value
  | none => some config

/-- Whether a name is the name of a field. -/
def isField (name : String) : Bool :=
  (fields.lookup name).isSome

/-- A configuration from named fields. -/
def ofMembers? (members : List (Option String × JsonValue)) : Option Config := do
  let members ← members.mapM fun (key, value) => do return (← key, value)
  if ((members.map Prod.fst).filter isField).Nodup then
    members.foldlM (fun config (name, value) => config.setField name value) {}
  else none

/-- A configuration from fields in their order. -/
def ofItems? (items : List JsonValue) : Option Config :=
  if items.length ≤ fields.length then
    (items.zip fields).foldlM (fun config (value, field) => field.2 config value) {}
  else none

/-- The configuration that a JSON text describes. -/
def ofJson? (text : String) : Option Config := do
  match ← JsonValue.parse? text with
  | .object members => ofMembers? members
  | .array items => ofItems? items
  | _ => none

end Config

end MySqlClient
