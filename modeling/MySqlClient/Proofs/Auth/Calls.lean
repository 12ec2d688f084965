import MySqlClient.Auth.Exchange

/-!
# Calls on an authentication exchange

The functions of `AuthExchange` give a new exchange, or none if they fail.  A connection keeps its
exchange in a variable: a call assigns the fields of the variable one after the other, and a call
that fails on the way leaves behind what it has assigned by then.

* `AuthExchange.switchInPlace`, `AuthExchange.moreDataInPlace`: such calls.
* `AuthExchange.switchInPlace_apply`, `AuthExchange.moreDataInPlace_apply`: **they do what the
  functions say**, and assign nothing if they fail.
* `AuthExchange.Call`: a call of either kind, `AuthExchange.Call.perform`;
  `AuthExchange.Call.eq_of_error`: **a call that fails leaves the exchange as it was.**
* `AuthExchange.Answers`: how a call with further data succeeds.
-/

namespace MySqlClient

/-- The plugin that is chosen by a name has that name. -/
theorem AuthPlugin.name_of_ofName {name : String} {plugin : AuthPlugin}
    (h : ofName name = .ok plugin) : plugin.name = name := by
  unfold ofName at h
  split at h
  · next hname => cases h; exact hname.symm
  split at h
  · next hname => cases h; exact hname.symm
  · cases h

namespace AuthExchange

variable {α : Type}

/-- A computation on the exchange in a variable, which may fail on the way. -/
abbrev InPlace (α : Type) : Type := EStateM Error AuthExchange α

namespace InPlace

/-- What may fail without assigning anything. -/
def attempt (outcome : Outcome α) : InPlace α :=
  match outcome with
  | .ok value => pure value
  | .error error => throw error

/-- Assign the stage. -/
def enter (stage : AuthStage) : InPlace Unit :=
  modify fun exchange => { exchange with stage }

/-- What a function on exchanges says about the variable. -/
def settled (exchange : AuthExchange) (outcome : Outcome (AuthExchange × α)) :
    EStateM.Result Error AuthExchange α :=
  match outcome with
  | .ok (next, value) => .ok value next
  | .error error => .error error exchange

end InPlace

open InPlace

/-! ## Assignments -/

/-- Start over with another plugin and seed. -/
def switchInPlace (plugin : String) (seed : Bytes) : InPlace Bytes := do
  let plugin ← attempt (AuthPlugin.ofName plugin)
  let proof ← attempt (plugin.scramble (← get).password seed)
  modify fun exchange => { exchange with plugin }
  modify fun exchange => { exchange with seed }
  enter .sentProof
  return proof

/-- Answer the status that follows a proof. -/
def answerStatusInPlace (status : Option UInt8) : InPlace (Option Bytes) := do
  if status = some fastSuccess then
    enter .sentFinal
    return none
  else if status = some fullAuthentication then
    if (← get).secure then
      enter .sentFinal
      return some ((← get).password ++ [0])
    else
      enter .requestedKey
      return some keyRequest
  else
    throw (.auth (.moreDataStatus status))

/-- Answer further data from the server.  The random octets are those of this call. -/
def moreDataInPlace (octets entropy : Bytes) : InPlace (Option Bytes) := do
  if (← get).plugin = .native then
    throw (.protocol .nativeMoreData)
  match (← get).stage with
  | .sentProof => answerStatusInPlace octets.head?
  | .requestedKey =>
    let cipher ← attempt (encryptedPassword entropy (← get).password (← get).seed octets)
    enter .sentFinal
    return some cipher
  | .sentFinal => throw (.protocol .moreDataAfterFinal)

/-! ## Assignments and functions -/

/-- What may fail is settled before anything is assigned. -/
theorem attempt_bind_apply {β : Type} (outcome : Outcome α) (next : α → InPlace β)
    (exchange : AuthExchange) :
    (attempt outcome >>= next) exchange =
      match outcome with
      | .ok value => next value exchange
      | .error error => .error error exchange := by
  cases outcome <;> rfl

/-- **Starting over in place.** -/
theorem switchInPlace_apply (plugin : String) (seed : Bytes) (exchange : AuthExchange) :
    switchInPlace plugin seed exchange = settled exchange (exchange.switch plugin seed) := by
  rw [switchInPlace, attempt_bind_apply, switch]
  cases AuthPlugin.ofName plugin with
  | error error => rfl
  | ok chosen =>
    show (attempt (chosen.scramble exchange.password seed) >>= _) exchange = _
    rw [attempt_bind_apply, Outcome.ok_bind]
    cases chosen.scramble exchange.password seed <;> rfl

/-- What a function on exchanges says if it is given random octets for this call only. -/
def drawing (exchange : AuthExchange) (entropy : Bytes)
    (call : AuthExchange → Outcome (AuthExchange × α)) : Outcome (AuthExchange × α) := do
  let (next, value) ← call { exchange with entropy }
  return ({ next with entropy := exchange.entropy }, value)

theorem answerStatusInPlace_apply (status : Option UInt8) (entropy : Bytes)
    (exchange : AuthExchange) :
    answerStatusInPlace status exchange =
      settled exchange (exchange.drawing entropy (·.answerStatus status)) := by
  unfold answerStatusInPlace drawing answerStatus
  split
  · rfl
  split
  · rcases exchange with ⟨plugin, password, _ | _, old, seed, stage⟩ <;> rfl
  · rfl

/-- **Answering further data in place.** -/
theorem moreDataInPlace_apply (octets entropy : Bytes) (exchange : AuthExchange) :
    moreDataInPlace octets entropy exchange =
      settled exchange (exchange.drawing entropy (·.moreData octets)) := by
  rcases exchange with ⟨_ | _, password, secure, old, seed, _ | _ | _⟩
  · rfl
  · rfl
  · rfl
  · exact answerStatusInPlace_apply octets.head? entropy _
  · show (attempt (encryptedPassword entropy password seed octets) >>= _) _ = _
    rw [attempt_bind_apply]
    dsimp only [drawing, moreData]
    cases encryptedPassword entropy password seed octets <;> rfl
  · rfl

/-! ## Calls -/

/-- A call on an exchange.  Random octets are drawn for each call anew. -/
inductive Call where
  | switch (plugin : String) (seed : Bytes)
  | moreData (octets entropy : Bytes)

namespace Call

/-- Call, and give what is to be sent. -/
def perform : Call → InPlace (Option Bytes)
  | switch plugin seed => some <$> switchInPlace plugin seed
  | moreData octets entropy => moreDataInPlace octets entropy

/-- What the functions say about a call. -/
def outcome (exchange : AuthExchange) : Call → Outcome (AuthExchange × Option Bytes)
  | switch plugin seed => do
    let (next, proof) ← exchange.switch plugin seed
    return (next, some proof)
  | moreData octets entropy => exchange.drawing entropy (·.moreData octets)

/-- **Calls do what the functions say.** -/
theorem perform_apply (call : Call) (exchange : AuthExchange) :
    call.perform exchange = settled exchange (call.outcome exchange) := by
  cases call with
  | switch plugin seed =>
    show EStateM.map some (switchInPlace plugin seed) exchange = _
    rw [EStateM.map, switchInPlace_apply]
    dsimp only [outcome]
    cases exchange.switch plugin seed <;> rfl
  | moreData octets entropy => exact moreDataInPlace_apply octets entropy exchange

/-- **A call that fails leaves the exchange as it was.** -/
theorem eq_of_error {call : Call} {exchange left : AuthExchange} {error : Error}
    (h : call.perform exchange = .error error left) : left = exchange := by
  rw [perform_apply] at h
  cases houtcome : call.outcome exchange with
  | ok result =>
    rw [houtcome] at h
    cases h
  | error error =>
    rw [houtcome] at h
    cases h
    rfl

theorem outcome_eq_ok {call : Call} {exchange next : AuthExchange} {reply : Option Bytes}
    (h : call.perform exchange = .ok reply next) : call.outcome exchange = .ok (next, reply) := by
  rw [perform_apply] at h
  cases houtcome : call.outcome exchange with
  | ok result =>
    rw [houtcome] at h
    cases h
    rfl
  | error error =>
    rw [houtcome] at h
    cases h

end Call

/-! ## Calls that succeed -/

variable {exchange next : AuthExchange} {reply : Option Bytes}

/-- Starting over keeps the password, and whether the transport is private. -/
theorem of_perform_switch {plugin : String} {seed : Bytes}
    (h : (Call.switch plugin seed).perform exchange = .ok reply next) :
    ∃ chosen : AuthPlugin, chosen.name = plugin ∧
      next = { exchange with plugin := chosen, seed, stage := .sentProof } := by
  have houtcome := Call.outcome_eq_ok h
  obtain ⟨⟨_, proof⟩, hswitch, hresult⟩ := Outcome.bind_eq_ok houtcome
  cases hresult
  obtain ⟨chosen, hchosen, hswitch⟩ := Outcome.bind_eq_ok hswitch
  obtain ⟨proof, -, hswitch⟩ := Outcome.bind_eq_ok hswitch
  cases hswitch
  exact ⟨chosen, AuthPlugin.name_of_ofName hchosen, rfl⟩

/-- How further data is answered: the reply, and the stage that comes next. -/
inductive Answers (exchange : AuthExchange) (octets entropy : Bytes) :
    Option Bytes → AuthStage → Prop
  | accepted (hstage : exchange.stage = .sentProof)
      (hstatus : octets.head? = some fastSuccess) : Answers exchange octets entropy none .sentFinal
  | sent (hstage : exchange.stage = .sentProof)
      (hstatus : octets.head? = some fullAuthentication) (hsecure : exchange.secure = true) :
      Answers exchange octets entropy (some (exchange.password ++ [0])) .sentFinal
  | requested (hstage : exchange.stage = .sentProof)
      (hstatus : octets.head? = some fullAuthentication) (hsecure : exchange.secure = false) :
      Answers exchange octets entropy (some keyRequest) .requestedKey
  | encrypted {cipher : Bytes} (hstage : exchange.stage = .requestedKey)
      (hcipher : encryptedPassword entropy exchange.password exchange.seed octets = .ok cipher) :
      Answers exchange octets entropy (some cipher) .sentFinal

theorem answers_of_answerStatus (exchange : AuthExchange) {octets entropy : Bytes}
    (hstage : exchange.stage = .sentProof)
    (h : answerStatus { exchange with entropy } octets.head? = .ok (next, reply)) :
    ∃ stage, next = { exchange with entropy, stage } ∧
      Answers exchange octets entropy reply stage := by
  unfold answerStatus at h
  split at h
  · next hstatus =>
    cases h
    exact ⟨_, rfl, .accepted hstage hstatus⟩
  split at h
  · next hstatus =>
    split at h
    · next hsecure =>
      cases h
      exact ⟨_, rfl, .sent hstage hstatus hsecure⟩
    · next hsecure =>
      cases h
      exact ⟨_, rfl, .requested hstage hstatus (Bool.eq_false_iff.mpr hsecure)⟩
  · cases h

/-- Only the newer plugin answers further data, and nothing but the stage changes. -/
theorem of_perform_moreData {octets entropy : Bytes}
    (h : (Call.moreData octets entropy).perform exchange = .ok reply next) :
    exchange.plugin = .cachingSha2 ∧ ∃ stage, next = { exchange with stage } ∧
      Answers exchange octets entropy reply stage := by
  obtain ⟨⟨answered, _⟩, hmore, hresult⟩ := Outcome.bind_eq_ok (Call.outcome_eq_ok h)
  cases hresult
  dsimp only at hmore
  unfold moreData at hmore
  split at hmore
  · cases hmore
  · next hplugin hstage =>
    obtain ⟨stage, rfl, hanswers⟩ := answers_of_answerStatus exchange hstage hmore
    exact ⟨hplugin, stage, rfl, hanswers⟩
  · next hplugin hstage =>
    obtain ⟨cipher, hcipher, hmore⟩ := Outcome.bind_eq_ok hmore
    cases hmore
    exact ⟨hplugin, _, rfl, .encrypted hstage hcipher⟩
  · cases hmore

end AuthExchange

end MySqlClient
