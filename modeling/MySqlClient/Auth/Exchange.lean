import MySqlClient.Auth.Plugin

/-!
# The authentication exchange

The client's side of an authentication, from its first answer on.  The server may switch the plugin,
which starts over, or send further data to the newer plugin, which is answered once or twice:

* the server holds the stored hash: nothing is left to do;
* it wants the password, and the transport is private: the password, before a NUL;
* it wants the password otherwise: first a request for its key, then the encrypted password.

A call that fails leaves the exchange as it was.
-/

namespace MySqlClient

/-- How far the exchange with the newer plugin has come. -/
inductive AuthStage where
  | sentProof
  | requestedKey
  | sentFinal
  deriving DecidableEq

/-- The client's side of an authentication. -/
structure AuthExchange where
  plugin : AuthPlugin
  password : Bytes
  /-- Whether the transport is private. -/
  secure : Bool
  /-- The random octets for an encryption. -/
  entropy : Bytes
  seed : Bytes
  stage : AuthStage
  deriving DecidableEq

namespace AuthExchange

/-- The server holds the stored hash, and has accepted the proof. -/
def fastSuccess : UInt8 := 0x03

/-- The server wants the password. -/
def fullAuthentication : UInt8 := 0x04

/-- The request for the server's key. -/
def keyRequest : Bytes := [0x02]

/-- Start with the plugin and the seed of the greeting: the exchange and its first answer. -/
def start (plugin : String) (password seed : Bytes) (secure : Bool) (entropy : Bytes) :
    Outcome (AuthExchange × Bytes) := do
  let plugin ← AuthPlugin.ofName plugin
  let proof ← plugin.scramble password seed
  return (⟨plugin, password, secure, entropy, seed, .sentProof⟩, proof)

/-- Start over with another plugin and seed. -/
def switch (exchange : AuthExchange) (plugin : String) (seed : Bytes) :
    Outcome (AuthExchange × Bytes) := do
  let plugin ← AuthPlugin.ofName plugin
  let proof ← plugin.scramble exchange.password seed
  return ({ exchange with plugin, seed, stage := .sentProof }, proof)

/-- Answer the status that follows a proof. -/
def answerStatus (exchange : AuthExchange) (status : Option UInt8) :
    Outcome (AuthExchange × Option Bytes) :=
  if status = some fastSuccess then .ok ({ exchange with stage := .sentFinal }, none)
  else if status = some fullAuthentication then
    if exchange.secure then
      .ok ({ exchange with stage := .sentFinal }, some (exchange.password ++ [0]))
    else .ok ({ exchange with stage := .requestedKey }, some keyRequest)
  else .error (.auth (.moreDataStatus status))

/-- Answer further data from the server.  No answer means that the server's OK is next. -/
def moreData (exchange : AuthExchange) (octets : Bytes) :
    Outcome (AuthExchange × Option Bytes) :=
  match exchange.plugin, exchange.stage with
  | .native, _ => .error (.protocol .nativeMoreData)
  | .cachingSha2, .sentProof => exchange.answerStatus octets.head?
  | .cachingSha2, .requestedKey => do
    let cipher ← encryptedPassword exchange.entropy exchange.password exchange.seed octets
    return ({ exchange with stage := .sentFinal }, some cipher)
  | .cachingSha2, .sentFinal => .error (.protocol .moreDataAfterFinal)

end AuthExchange

end MySqlClient
