import MySqlClient.Proofs.Dialogue.PreparedQuery

/-!
# Built-in commands and their requests

* `Builtin.Asked`: a command that has been activated, has had some of its requests answered, and
  has written the next one.
* `Builtin.exists_activate`: a command that has its turn asks.
* `Builtin.Asked.exists_takes`: **a command that has asked takes any answer that suits the
  request**, and then either asks again or is over, and comes to what `Builtin.conclude` says.
-/

namespace MySqlClient

/-! ## Failures of one command -/

theorem Error.isConnectionFatal_toError (report : ServerError) :
    report.toError.isConnectionFatal =
      ServerError.connectionFatalCodes.contains report.code := by
  unfold ServerError.toError
  split
  · rfl
  · split <;> rfl

/-! ## Bodies by their requests -/

namespace Sent.Body

variable {body : Body}

theorem exists_pong (h : body.requestCode = 0x0E) : ∃ ok, body = .pong ok := by
  rcases body with ok | _ | ⟨_ | _, _⟩
  · exact ⟨ok, rfl⟩
  all_goals simp [requestCode] at h

theorem exists_prepared (h : body.requestCode = 0x16) :
    ∃ statement, body = .prepared statement := by
  rcases body with _ | statement | ⟨_ | _, _⟩
  · simp [requestCode] at h
  · exact ⟨statement, rfl⟩
  all_goals simp [requestCode] at h

theorem exists_text (h : body.requestCode = 0x03) : ∃ results, body = .results .text results := by
  rcases body with _ | _ | ⟨_ | _, results⟩
  · simp [requestCode] at h
  · simp [requestCode] at h
  · simp [requestCode] at h
  · exact ⟨results, rfl⟩

theorem exists_binary (h : body.requestCode = 0x17) :
    ∃ results, body = .results .binary results := by
  rcases body with _ | _ | ⟨_ | _, results⟩
  · simp [requestCode] at h
  · simp [requestCode] at h
  · exact ⟨results, rfl⟩
  · simp [requestCode] at h

end Sent.Body

/-! ## Harmless failures -/

theorem Sent.Answer.isConnectionFatal_of_failure {capabilities : Capabilities}
    {answer : Sent.Answer} (hcut : answer.CutFits capabilities) {error : Error}
    (h : answer.failure = some error) : error.isConnectionFatal = false := by
  unfold failure at h
  cases hanswer : answer.cut with
  | none =>
    rw [hanswer] at h
    cases h
  | some cut =>
    obtain ⟨index, err⟩ := cut
    rw [hanswer] at h
    cases h
    have hcode := (hcut index err hanswer).2.2.1
    rw [Error.isConnectionFatal_toError]
    simpa [Sent.Err.report] using hcode

/-- Neither the server's reports nor handlers of rows end the session. -/
theorem Sent.Answer.isConnectionFatal_of_conclude {η : Type} {capabilities : Capabilities}
    {answer : Sent.Answer} (hcut : answer.CutFits capabilities) (delivery : Delivery η)
    {error : Error} (h : answer.failure.or delivery.failure = some error) :
    error.isConnectionFatal = false := by
  rcases Option.or_eq_some_iff.mp h with hanswer | ⟨-, hdelivery⟩
  · exact isConnectionFatal_of_failure hcut hanswer
  · unfold Delivery.failure at hdelivery
    cases hrefusal : delivery.refusal with
    | none =>
      rw [hrefusal] at hdelivery
      cases hdelivery
    | some text =>
      rw [hrefusal] at hdelivery
      cases hdelivery
      rfl

/-! ## Parts of a sum -/

/-- A command inside another one takes what it takes alone. -/
theorem Takes.map {σ τ : Type} [Command σ] [Command τ] {capabilities : Capabilities}
    (inject : σ → τ)
    (hinject : ∀ packet command, Command.handle capabilities packet (inject command) =
      (Command.handle capabilities packet command).map id inject)
    {command final : σ} {payloads : List Bytes} {turn : Turn}
    (h : Takes capabilities command payloads turn final) :
    Takes capabilities (inject command) payloads turn (inject final) := by
  have hhears {command next : σ} {payload : Bytes} {turn : Turn}
      (h : Hears capabilities command payload turn next) :
      Hears capabilities (inject command) payload turn (inject next) :=
    ⟨h.1, fun sequence => by rw [hinject, h.2 sequence]; rfl⟩
  induction h with
  | last h => exact .last (hhears h)
  | more h _ ih => exact .more (hhears h) ih

namespace Builtin

variable {η : Type} {capabilities : Capabilities}

/-- The command `original`, some of whose requests have been answered, is now `now` and waits for
the answer to `request`. -/
inductive Asked : (original : Builtin η) → (answered : List Sent.Exchange) → (now : Builtin η) →
    (request : Bytes) → Prop
  | ping (p : Ping) : Asked (.ping p) [] (.ping p) Request.ping.encode
  | query (q : TextQuery η) :
      Asked (.query q) [] (.query { q with stage := .columnCount }) (Request.query q.sql).encode
  | prepare (q : PreparedQuery η) (hmismatch : q.mismatch = none) :
      Asked (.prepared q) [] (.prepared { q with stage := .prepareOk })
        (Request.prepare q.sql).encode
  | execute (q : PreparedQuery η) {answer : Sent.Answer} {statement : Sent.Prepared}
      (hstatement : answer.prepared? = some statement)
      (hfit : statement.parameters.length = q.parameters.length) :
      Asked (.prepared q) [⟨(Request.prepare q.sql).encode, answer⟩]
        (.prepared { q with statement := some statement.statement, stage := .columnCount })
        (Request.execute statement.statementId q.parameters).encode

/-- What commands wait for is answered. -/
theorem Asked.not_isUnanswered {original now : Builtin η} {answered : List Sent.Exchange}
    {request : Bytes} (h : Asked original answered now request) :
    ¬ Request.isUnanswered request := by
  cases h <;> simp [Request.isUnanswered, Request.encode, Request.code]

/-- **A command that has its turn asks.** -/
theorem exists_activate {command : Builtin η} (h : command.Fresh) (capabilities : Capabilities) :
    ∃ request now, Command.activate capabilities command = (.ok (.request request), now) ∧
      Asked command [] now request.encode := by
  cases command with
  | ping p => exact ⟨_, _, rfl, .ping p⟩
  | query q => exact ⟨_, _, rfl, .query q⟩
  | prepared q => exact ⟨_, _, rfl, .prepare q h.2.2.2⟩

/-- What comes of an answer: the command asks again, or is over. -/
def Progress (capabilities : Capabilities) (original : Builtin η)
    (answered : List Sent.Exchange) (turn : Turn) (final : Builtin η) : Prop :=
  (∃ request, turn = .request request ∧ Asked original answered final request.encode) ∨
    ∃ failure, turn.Closes failure ∧ (∀ error, failure = some error →
        error.isConnectionFatal = false) ∧
      ∀ rest, original.conclude capabilities (answered ++ rest) =
        some ((final.collected?, .ofFailure failure), rest)

/-- The answer to a preparation, in a command that is being prepared. -/
theorem exists_takes_preparation {q : PreparedQuery η} (hmismatch : q.mismatch = none)
    {answer : Sent.Answer} {prepared : Sent.Prepared} (hbody : answer.body = .prepared prepared)
    (hvalid : answer.body.Valid capabilities) (hcut : answer.CutFits capabilities) :
    ∃ turn final,
      Takes capabilities (.prepared { q with stage := .prepareOk }) (answer.packets capabilities)
        turn final ∧
      Progress capabilities (.prepared q) [⟨(Request.prepare q.sql).encode, answer⟩] turn
        final := by
  obtain ⟨turn, final, ⟨hdelivery, hends⟩, htakes⟩ :=
    PreparedQuery.exists_takes_preparation hbody hvalid hcut hmismatch
  refine ⟨turn, .prepared final, htakes.map Builtin.prepared fun _ _ => rfl, ?_⟩
  have hcollected : (Builtin.prepared final).collected? = some q.delivery.state := by
    rw [collected?, hdelivery]
  have hcount : prepared.statement.parameters.toNat = prepared.parameters.length := by
    rw [hbody] at hvalid
    rw [Sent.Prepared.statement, UInt16.toNat_ofNat_of_lt' hvalid.1]
  rw [hcount] at hends
  cases hfailure : answer.failure with
  | some error =>
    rw [hfailure] at hends
    have hprepared : answer.prepared? = none := by
      unfold Sent.Answer.failure at hfailure
      unfold Sent.Answer.prepared?
      cases hanswer : answer.cut with
      | none =>
        rw [hanswer] at hfailure
        cases hfailure
      | some cut =>
        rw [hbody]
    refine Or.inr ⟨some error, hends, ?_, fun rest => ?_⟩
    · intro error' herror
      rw [← hfailure] at herror
      exact Sent.Answer.isConnectionFatal_of_failure hcut herror
    · simp [conclude, hprepared, hfailure, hcollected]
  | none =>
    rw [hfailure] at hends
    have hprepared : answer.prepared? = some prepared := by
      unfold Sent.Answer.failure at hfailure
      unfold Sent.Answer.prepared?
      rw [Option.map_eq_none_iff.mp hfailure, hbody]
    dsimp only at hends
    split at hends
    · next hfit =>
      obtain ⟨rfl, rfl⟩ := hends
      exact Or.inl ⟨_, rfl, .execute q hprepared hfit⟩
    · next hfit =>
      refine Or.inr ⟨_, hends, ?_, fun rest => ?_⟩
      · intro error herror
        cases herror
        rfl
      · simp [conclude, hprepared, hfit, hcollected, Outcome.ofFailure]

/-- **A command that has asked takes any answer that suits the request**, and goes on as the answer
says. -/
theorem Asked.exists_takes {original now : Builtin η} {answered : List Sent.Exchange}
    {request : Bytes} (h : Asked original answered now request) {answer : Sent.Answer}
    (hsuits : answer.Suits capabilities request) :
    ∃ turn final, Takes capabilities now (answer.packets capabilities) turn final ∧
      Progress capabilities original (answered ++ [⟨request, answer⟩]) turn final := by
  obtain ⟨hcode, hvalid, hcut⟩ := hsuits
  cases h with
  | ping p =>
    obtain ⟨ok, hbody⟩ := Sent.Body.exists_pong (Option.some.inj hcode).symm
    obtain ⟨final, htakes⟩ := Ping.exists_takes hbody hcut p
    refine ⟨_, .ping final, htakes.map Builtin.ping fun _ _ => rfl, Or.inr ⟨answer.failure,
      Turn.closes_finished _, ?_, fun rest => ?_⟩⟩
    · intro error herror
      exact Sent.Answer.isConnectionFatal_of_failure hcut herror
    · simp [conclude, collected?]
  | query q =>
    obtain ⟨results, hbody⟩ := Sent.Body.exists_text (Option.some.inj hcode).symm
    obtain ⟨turn, final, ⟨rfl, hstate⟩, htakes⟩ := TextQuery.exists_takes hbody hvalid hcut q
    refine ⟨_, .query final, htakes.map Builtin.query fun _ _ => rfl, Or.inr ⟨_,
      Turn.closes_finished _, ?_, fun rest => ?_⟩⟩
    · intro error herror
      exact Sent.Answer.isConnectionFatal_of_conclude hcut _ herror
    · simp [conclude, collected?, Delivery.conclude, hstate]
  | prepare q hmismatch =>
    obtain ⟨statement, hbody⟩ := Sent.Body.exists_prepared (Option.some.inj hcode).symm
    exact exists_takes_preparation hmismatch hbody hvalid hcut
  | @execute q _ statement hstatement hfit =>
    obtain ⟨results, hbody⟩ := Sent.Body.exists_binary (Option.some.inj hcode).symm
    obtain ⟨turn, final, ⟨hcloses, hstate⟩, htakes⟩ :=
      PreparedQuery.exists_takes_execution hbody hvalid hcut
        { q with statement := some statement.statement }
    refine ⟨_, .prepared final, htakes.map Builtin.prepared fun _ _ => rfl, Or.inr ⟨_, hcloses, ?_,
      fun rest => ?_⟩⟩
    · intro error herror
      exact Sent.Answer.isConnectionFatal_of_conclude hcut _ herror
    · simp [conclude, collected?, Delivery.conclude, hstate, hstatement, hfit]

end Builtin

end MySqlClient
