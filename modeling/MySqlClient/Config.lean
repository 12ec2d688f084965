import MySqlClient.Capabilities

/-!
# Configuration

How to reach a server, who to be there, and how private the connection has to be.

* `Config.desiredCapabilities`: what to ask the server for.
* `Config.serverName`: the name that the server's certificate has to bear.
* `Config.withAttribute`: tell the server one more thing about the client.  Attributes are kept in
  the order of their keys, one for each key.
-/

namespace MySqlClient

/-- Whether to make the transport private. -/
inductive TlsMode where
  /-- Never ask for TLS. -/
  | disable
  /-- Use TLS if the server offers it. -/
  | prefer
  /-- Give up if the server does not offer TLS. -/
  | require
  deriving DecidableEq

namespace TlsMode

def name : TlsMode → String
  | disable => "disable"
  | prefer => "prefer"
  | require => "require"

def ofName? (name : String) : Option TlsMode :=
  [disable, prefer, require].find? fun mode => mode.name == name

end TlsMode

/-- The collation `utf8mb4_general_ci`. -/
def utf8mb4GeneralCi : UInt8 := 45

/-- How to connect. -/
structure Config where
  host : String := "localhost"
  port : UInt16 := 3306
  /-- The path of a local socket to use in place of host and port. -/
  socket : Option String := none
  user : String := "root"
  password : Option String := none
  database : Option String := none
  tlsMode : TlsMode := .prefer
  /-- The name the certificate has to bear, where it is not the host. -/
  tlsServerName : Option String := none
  /-- Do without checking the certificate. -/
  acceptInvalidCerts : Bool := false
  /-- A file of further certificates to trust. -/
  rootCertPath : Option String := none
  charset : UInt8 := utf8mb4GeneralCi
  /-- The largest packet that the client says it takes. -/
  maxPacketSize : UInt32 := 0xFFFFFF
  /-- How long connecting may take, in seconds. -/
  connectTimeout : UInt64 := 10
  /-- What to tell the server about the client, by key. -/
  attributes : List (String × String) := []
  /-- What to ask for in place of the usual capabilities. -/
  capabilities : Option Capabilities := none
  deriving DecidableEq

/-- Put a value under a key into a list that is sorted by key; a value that is there is replaced. -/
def insertSorted (key value : String) : List (String × String) → List (String × String)
  | [] => [(key, value)]
  | (k, v) :: rest =>
    if key < k then (key, value) :: (k, v) :: rest
    else if key = k then (key, value) :: rest
    else (k, v) :: insertSorted key value rest

namespace Config

/-- Add an attribute, or replace it. -/
def withAttribute (config : Config) (key value : String) : Config :=
  { config with attributes := insertSorted key value config.attributes }

/-- What to ask the server for.  Whatever is asked for, it is nothing that the client could not
keep; a database and TLS are asked for exactly if they are configured. -/
def desiredCapabilities (config : Config) : Capabilities :=
  (((config.capabilities.getD .clientDefault).difference .unsupported).set .connectWithDb
    config.database.isSome).set .ssl (config.tlsMode ≠ .disable)

/-- The name that the server's certificate has to bear. -/
def serverName (config : Config) : String :=
  config.tlsServerName.getD config.host

end Config

end MySqlClient
