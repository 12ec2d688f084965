import MySqlClient.Proofs.Auth.Calls
import MySqlClient.Proofs.Auth.Encryption

/-!
# The course of an authentication

The server decides when the exchange starts over and what further data there is; the client makes
one call after the other, and some of them fail.  A stretch of this course begins when the exchange
is started, or starts over, and consists of the answers since then.

* `AuthExchange.Course`, `AuthExchange.Stretch`: an exchange with what has happened to it.
* `AuthExchange.Course.after`: the course after one more call.
* `AuthExchange.Proceeds`: the answers that a stretch can consist of, and the stages they lead to;
  `Proceeds.append` is the step.
* `AuthExchange.Course.Stands`: the exchange is where its last stretch has led it, and no earlier
  stretch was different; `Stands.foldl`: **this holds of every course.**
* `AuthExchange.Stretch.IsGuarded`: what is said in a stretch;
  `AuthExchange.Course.replies_guarded`: **a password is sent at most once in a stretch, and hidden
  unless the transport is private.**
-/

namespace MySqlClient.AuthExchange

/-! ## Records -/

/-- A call with further data that has succeeded. -/
structure Answer where
  octets : Bytes
  entropy : Bytes
  reply : Option Bytes
  deriving DecidableEq

/-- What has happened since the exchange was started, or started over. -/
structure Stretch where
  plugin : String
  seed : Bytes
  answers : List Answer
  deriving DecidableEq

/-- What has been sent in a stretch, apart from the proof. -/
def Stretch.replies (stretch : Stretch) : List Bytes :=
  stretch.answers.filterMap Answer.reply

/-- An exchange with the stretch that it is in and the earlier ones, the latest first. -/
structure Course where
  exchange : AuthExchange
  current : Stretch
  past : List Stretch
  deriving DecidableEq

namespace Course

/-- The course of an exchange that has just been started. -/
def started (exchange : AuthExchange) (plugin : String) (seed : Bytes) : Course :=
  ⟨exchange, ⟨plugin, seed, []⟩, []⟩

/-- The course after one more call.  A call that fails is not recorded. -/
def after (course : Course) (call : Call) : Course :=
  match call.perform course.exchange with
  | .error _ exchange => { course with exchange }
  | .ok reply exchange =>
    match call with
    | .switch plugin seed => ⟨exchange, ⟨plugin, seed, []⟩, course.current :: course.past⟩
    | .moreData octets entropy =>
      let answers := course.current.answers ++ [⟨octets, entropy, reply⟩]
      { course with exchange, current := { course.current with answers } }

end Course

/-! ## One stretch -/

/-- The answers that a stretch can consist of, and the stage they lead to. -/
inductive Proceeds (password seed : Bytes) (secure : Bool) : List Answer → AuthStage → Prop
  | opened : Proceeds password seed secure [] .sentProof
  | accepted {octets entropy : Bytes} (hstatus : octets.head? = some fastSuccess) :
      Proceeds password seed secure [⟨octets, entropy, none⟩] .sentFinal
  | sent {octets entropy : Bytes} (hstatus : octets.head? = some fullAuthentication)
      (hsecure : secure = true) :
      Proceeds password seed secure [⟨octets, entropy, some (password ++ [0])⟩] .sentFinal
  | requested {octets entropy : Bytes} (hstatus : octets.head? = some fullAuthentication)
      (hsecure : secure = false) :
      Proceeds password seed secure [⟨octets, entropy, some keyRequest⟩] .requestedKey
  | encrypted {octets entropy key padding cipher : Bytes}
      (hstatus : octets.head? = some fullAuthentication) (hsecure : secure = false)
      (hcipher : encryptedPassword padding password seed key = .ok cipher) :
      Proceeds password seed secure
        [⟨octets, entropy, some keyRequest⟩, ⟨key, padding, some cipher⟩] .sentFinal

namespace Proceeds

variable {password seed : Bytes} {secure : Bool} {answers : List Answer} {stage : AuthStage}

theorem eq_nil (h : Proceeds password seed secure answers .sentProof) : answers = [] := by
  cases h
  rfl

theorem exists_requested (h : Proceeds password seed secure answers .requestedKey) :
    secure = false ∧ ∃ octets entropy, octets.head? = some fullAuthentication ∧
      answers = [⟨octets, entropy, some keyRequest⟩] := by
  cases h with
  | requested hstatus hsecure => exact ⟨hsecure, _, _, hstatus, rfl⟩

/-- **One more answer**: the stretch proceeds to the stage that the answer leads to. -/
theorem append {exchange : AuthExchange} {octets entropy : Bytes} {reply : Option Bytes}
    (h : Proceeds exchange.password exchange.seed exchange.secure answers exchange.stage)
    (hanswers : Answers exchange octets entropy reply stage) :
    Proceeds exchange.password exchange.seed exchange.secure
      (answers ++ [⟨octets, entropy, reply⟩]) stage := by
  cases hanswers with
  | accepted hstage hstatus =>
    rw [hstage] at h
    rw [h.eq_nil]
    exact .accepted hstatus
  | sent hstage hstatus hsecure =>
    rw [hstage] at h
    rw [h.eq_nil]
    exact .sent hstatus hsecure
  | requested hstage hstatus hsecure =>
    rw [hstage] at h
    rw [h.eq_nil]
    exact .requested hstatus hsecure
  | encrypted hstage hcipher =>
    rw [hstage] at h
    obtain ⟨hsecure, _, _, hstatus, rfl⟩ := h.exists_requested
    exact .encrypted hstatus hsecure hcipher

end Proceeds

/-- The stage to which the data of a stretch leads. -/
def stageAfter (secure : Bool) : List Bytes → AuthStage
  | [] => .sentProof
  | [octets] =>
    if octets.head? = some fullAuthentication ∧ secure = false then .requestedKey else .sentFinal
  | _ => .sentFinal

/-- A reply that bears the password: as it is over a private transport, and otherwise encrypted with
the key that is answered. -/
def Answer.Bears (password seed : Bytes) (secure : Bool) (answer : Answer) (reply : Bytes) : Prop :=
  if secure then reply = password ++ [0]
  else ∃ publicKey plain, receivedKey? answer.octets = some publicKey ∧
    IsHidden password seed plain ∧ publicKey.encrypt? answer.entropy plain = some reply

/-- What is said in a stretch: the key is asked for at most once, and anything else is said at most
once and bears the password.  The older plugin answers nothing. -/
structure Stretch.IsGuarded (password : Bytes) (secure : Bool) (stretch : Stretch) : Prop where
  requests : stretch.replies.count keyRequest ≤ 1
  passwords : (stretch.replies.filter (· ≠ keyRequest)).length ≤ 1
  carried : ∀ answer ∈ stretch.answers, ∀ reply, answer.reply = some reply → reply ≠ keyRequest →
    answer.Bears password stretch.seed secure reply
  native : stretch.plugin = AuthPlugin.native.name → stretch.answers = []

namespace Proceeds

variable {password seed : Bytes} {secure : Bool} {answers : List Answer} {stage : AuthStage}

theorem stage_eq (h : Proceeds password seed secure answers stage) :
    stage = stageAfter secure (answers.map Answer.octets) := by
  cases h with
  | opened => rfl
  | accepted hstatus =>
    have hne : fastSuccess ≠ fullAuthentication := by decide
    simp [stageAfter, hstatus, hne]
  | sent _ hsecure => simp [stageAfter, hsecure]
  | requested hstatus hsecure => simp [stageAfter, hstatus, hsecure]
  | encrypted => rfl

/-- The key is asked for at most once. -/
theorem count_keyRequest_le (h : Proceeds password seed secure answers stage) :
    (answers.filterMap Answer.reply).count keyRequest ≤ 1 := by
  cases h with
  | opened | accepted | requested => simp
  | sent => simp [append_zero_ne_keyRequest]
  | encrypted _ _ hcipher => simp [ne_keyRequest_of_encryptedPassword hcipher]

/-- The password is sent at most once. -/
theorem length_filter_le (h : Proceeds password seed secure answers stage) :
    ((answers.filterMap Answer.reply).filter (· ≠ keyRequest)).length ≤ 1 := by
  cases h with
  | opened | accepted | requested => simp
  | sent => simp [append_zero_ne_keyRequest]
  | encrypted _ _ hcipher => simp [ne_keyRequest_of_encryptedPassword hcipher]

/-- **The password is hidden**, unless the transport is private. -/
theorem carried (h : Proceeds password seed secure answers stage) {answer : Answer} {reply : Bytes}
    (hanswer : answer ∈ answers) (hreply : answer.reply = some reply) (hne : reply ≠ keyRequest) :
    answer.Bears password seed secure reply := by
  unfold Answer.Bears
  cases h with
  | opened => cases hanswer
  | accepted =>
    obtain rfl := List.mem_singleton.mp hanswer
    cases hreply
  | sent _ hsecure =>
    obtain rfl := List.mem_singleton.mp hanswer
    cases hreply
    rw [if_pos hsecure]
  | requested =>
    obtain rfl := List.mem_singleton.mp hanswer
    cases hreply
    exact absurd rfl hne
  | encrypted _ hsecure hcipher =>
    rw [List.mem_cons, List.mem_singleton] at hanswer
    rcases hanswer with rfl | rfl
    · cases hreply
      exact absurd rfl hne
    · cases hreply
      obtain ⟨hseed, publicKey, hkey, hcipher⟩ := encryptedPassword_eq_ok_iff.mp hcipher
      rw [if_neg (by rw [hsecure]; decide)]
      exact ⟨publicKey, _, hkey, isHidden_hiddenPassword password hseed, hcipher⟩

end Proceeds

/-- A stretch has led to a stage, and the older plugin has answered nothing in it. -/
structure Stretch.LeadsTo (password : Bytes) (secure : Bool) (stretch : Stretch)
    (stage : AuthStage) : Prop where
  proceeds : Proceeds password stretch.seed secure stretch.answers stage
  native : stretch.plugin = AuthPlugin.native.name → stretch.answers = []

theorem Stretch.LeadsTo.isGuarded {password : Bytes} {secure : Bool} {stretch : Stretch}
    {stage : AuthStage} (h : stretch.LeadsTo password secure stage) :
    stretch.IsGuarded password secure where
  requests := h.proceeds.count_keyRequest_le
  passwords := h.proceeds.length_filter_le
  carried _ hanswer _ hreply hne := h.proceeds.carried hanswer hreply hne
  native := h.native

/-! ## All stretches -/

namespace Course

variable {password : Bytes} {secure : Bool} {course : Course}

/-- The exchange is where its last stretch has led it, and the earlier stretches have led
somewhere. -/
structure Stands (password : Bytes) (secure : Bool) (course : Course) : Prop where
  plugin : course.exchange.plugin.name = course.current.plugin
  seed : course.exchange.seed = course.current.seed
  current : course.current.LeadsTo password secure course.exchange.stage
  past : ∀ stretch ∈ course.past, ∃ stage, stretch.LeadsTo password secure stage
  password : course.exchange.password = password
  secure : course.exchange.secure = secure

theorem stands_started {plugin : String} {seed entropy proof : Bytes} {exchange : AuthExchange}
    (h : start plugin password seed secure entropy = .ok (exchange, proof)) :
    (started exchange plugin seed).Stands password secure := by
  obtain ⟨chosen, hchosen, h⟩ := Outcome.bind_eq_ok h
  obtain ⟨proof, -, h⟩ := Outcome.bind_eq_ok h
  cases h
  exact ⟨AuthPlugin.name_of_ofName hchosen, rfl, ⟨.opened, fun _ => rfl⟩, List.forall_mem_nil _,
    rfl, rfl⟩

/-- **One more call** keeps the exchange where its last stretch has led it. -/
theorem Stands.after (h : course.Stands password secure) (call : Call) :
    (course.after call).Stands password secure := by
  obtain ⟨hplugin, hseed, hcurrent, hpast, rfl, rfl⟩ := h
  unfold Course.after
  cases hperform : call.perform course.exchange with
  | error error left =>
    obtain rfl := Call.eq_of_error hperform
    exact ⟨hplugin, hseed, hcurrent, hpast, rfl, rfl⟩
  | ok reply next =>
    cases call with
    | switch plugin seed =>
      obtain ⟨chosen, hchosen, rfl⟩ := of_perform_switch hperform
      exact ⟨hchosen, rfl, ⟨.opened, fun _ => rfl⟩,
        List.forall_mem_cons.mpr ⟨⟨_, hcurrent⟩, hpast⟩, rfl, rfl⟩
    | moreData octets entropy =>
      obtain ⟨hnewer, stage, rfl, hanswers⟩ := of_perform_moreData hperform
      refine ⟨hplugin, hseed, ⟨?_, ?_⟩, hpast, rfl, rfl⟩
      · have hproceeds := hcurrent.proceeds
        rw [← hseed] at hproceeds ⊢
        exact hproceeds.append hanswers
      · -- the plugin that answers is not the older one
        intro hnative
        rw [← hplugin, hnewer] at hnative
        exact absurd hnative (by decide)

/-- **Any number of calls** keeps the exchange where its last stretch has led it. -/
theorem Stands.foldl (h : course.Stands password secure) (calls : List Call) :
    (calls.foldl Course.after course).Stands password secure := by
  induction calls generalizing course with
  | nil => exact h
  | cons call calls ih => exact ih (h.after call)

/-- **The course of an authentication**, whatever the server sends and whichever calls fail.  A call
that fails leaves the exchange as it was.  Plugin, seed and stage follow from the last stretch.  In
each stretch the key is asked for at most once, and the password is sent at most once. -/
theorem replies_guarded {plugin : String} {password seed entropy proof : Bytes} {secure : Bool}
    {exchange : AuthExchange}
    (h : start plugin password seed secure entropy = .ok (exchange, proof)) (calls : List Call) :
    let course := calls.foldl after (started exchange plugin seed)
    (∀ (call : Call) (error : Error) (left : AuthExchange),
      call.perform course.exchange = .error error left → left = course.exchange) ∧
    (course.exchange.plugin.name = course.current.plugin ∧
      course.exchange.seed = course.current.seed ∧
      course.exchange.stage = stageAfter secure (course.current.answers.map Answer.octets) ∧
      course.exchange.password = password ∧ course.exchange.secure = secure) ∧
    ∀ stretch ∈ course.current :: course.past, stretch.IsGuarded password secure := by
  intro course
  have hstands : course.Stands password secure := (stands_started h).foldl calls
  refine ⟨fun call error left hperform => Call.eq_of_error hperform, ?_, ?_⟩
  · exact ⟨hstands.plugin, hstands.seed, hstands.current.proceeds.stage_eq, hstands.password,
      hstands.secure⟩
  · rw [List.forall_mem_cons]
    refine ⟨hstands.current.isGuarded, fun stretch hstretch => ?_⟩
    obtain ⟨stage, hleads⟩ := hstands.past stretch hstretch
    exact hleads.isGuarded

/-- A seed as it is in a greeting. -/
def sampleSeed : Bytes :=
  [1, 2, 3, 4, 5, 6, 7, 8, 9, 10, 11, 12, 13, 14, 15, 16, 17, 18, 19, 20]

/-- A key of 44 octets. -/
def sampleKey : Bytes :=
  Bytes.ofString <| "-----BEGIN RSA PUBLIC KEY-----\n" ++
    "MDICLQD/////////////////////////////////////////////////////////\n/wIBAw==\n" ++
    "-----END RSA PUBLIC KEY-----\n"

/-- The server wants the password, and sends something that is no key, and a key.  Then it sends
more, names a plugin that is not supported, and one that is, and sends further data to that. -/
def sevenCalls : List Call :=
  [.moreData [0x04] [], .moreData [0xFF] [], .moreData sampleKey [], .moreData [0x03] [],
    .switch "dialog" sampleSeed, .switch "mysql_native_password" sampleSeed, .moreData [0x03] []]

/-- The password under this key, padded with zeros. -/
def sampleCipher : Bytes :=
  [172, 119, 207, 38, 163, 217, 47, 104, 7, 172, 163, 229, 81, 185, 65, 217, 54, 61, 79, 24, 10,
    77, 38, 144, 131, 176, 148, 66, 131, 76, 101, 225, 80, 228, 29, 213, 146, 64, 202, 195, 154,
    244, 254, 179]

/-- The key has been asked for, and the password has been sent. -/
def sampleStretch : Stretch where
  plugin := "caching_sha2_password"
  seed := sampleSeed
  answers := [⟨[0x04], [], some keyRequest⟩, ⟨sampleKey, [], some sampleCipher⟩]

/-- Three of the calls succeed: one asks for the key, one sends the password, and one starts
over. -/
theorem replies_guarded_sevenCalls :
    ∃ exchange proof,
      start "caching_sha2_password" [0x70] sampleSeed false [] = .ok (exchange, proof) ∧
      sevenCalls.foldl after (started exchange "caching_sha2_password" sampleSeed) =
        ⟨⟨.native, [0x70], false, [], sampleSeed, .sentProof⟩,
          ⟨"mysql_native_password", sampleSeed, []⟩, [sampleStretch]⟩ ∧
      sampleStretch.IsGuarded [0x70] false := by
  have hstart : start "caching_sha2_password" [0x70] sampleSeed false [] =
      .ok (⟨.cachingSha2, [0x70], false, [], sampleSeed, .sentProof⟩,
        AuthPlugin.cachingSha2Proof [0x70] sampleSeed) := by
    rfl
  have hcourse : sevenCalls.foldl after
      (started ⟨.cachingSha2, [0x70], false, [], sampleSeed, .sentProof⟩ "caching_sha2_password"
        sampleSeed) =
        ⟨⟨.native, [0x70], false, [], sampleSeed, .sentProof⟩,
          ⟨"mysql_native_password", sampleSeed, []⟩, [sampleStretch]⟩ := by
    decide +kernel
  obtain ⟨-, -, hguarded⟩ := replies_guarded hstart sevenCalls
  rw [hcourse] at hguarded
  exact ⟨_, _, hstart, hcourse, hguarded sampleStretch (by simp)⟩

end Course

end MySqlClient.AuthExchange
