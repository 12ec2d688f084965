import MySqlClient.Proofs.Exchange.Documented
import MySqlClient.Proofs.Exchange.Walk

/-!
# Plain queries accept their grammar

* `TextQuery.onPacket_iff`: what a plain query does at every place of its answer, and with which
  packets.
* `TextQuery.walks`: it walks along the results.
* `TextQuery.completes_iff_areResults`: **a plain query completes with exactly the packets of one or
  more results, of which the last one and no other one tells that nothing follows**, and its
  handlers have been given the rows and summaries of these results, in order.
-/

namespace MySqlClient

open Received

/-- A number of columns does not look like SQL NULL. -/
theorem Reader.head?_ne_of_lenEncCount {octets : Bytes} {count : UInt64}
    (h : Reader.lenEncCount.parse octets = .ok count) :
    octets ≠ [] ∧ octets.head? ≠ some Packet.localInfileHeader := by
  cases octets with
  | nil => cases h
  | cons lead rest =>
    refine ⟨List.cons_ne_nil _ _, ?_⟩
    rintro heq
    cases Option.some.inj heq
    cases h

namespace TextQuery

variable {η : Type} {capabilities : Capabilities} {query : TextQuery η} {packet : Packet}
  {answer : Turn × TextQuery η}

/-! ## One packet -/

theorem onColumnCount_iff : query.onColumnCount capabilities packet = .ok answer ↔
    (∃ summary, Confirms capabilities packet summary ∧ answer = query.statementDone summary) ∨
      ∃ number, Counts .text packet number ∧ answer = query.inStage (.columns number []) := by
  unfold onColumnCount Confirms Counts
  cases hheader : packet.header with
  | none =>
    have hnil : packet.payload = [] := List.head?_eq_none_iff.mp hheader
    simp only [hnil, reduceCtorEq, false_and, exists_false, false_or, false_iff]
    rintro ⟨number, ⟨-, ⟨count, hcount, -⟩, -⟩, -⟩
    exact (Reader.head?_ne_of_lenEncCount hcount).1 rfl
  | some header =>
    by_cases hok : header = Packet.okHeader
    · subst hok
      simp only [if_true, Outcome.bind_eq_ok_iff, Outcome.pure_eq, Except.ok.injEq, true_and,
        ne_eq, not_true, false_and, exists_false, or_false]
      exact exists_congr fun _ => and_congr_right fun _ => eq_comm
    · have hne : some header ≠ some Packet.okHeader := fun heq => hok (Option.some.inj heq)
      simp only [if_neg hok, hne, false_and, exists_false, false_or, ne_eq, not_false_iff, true_and]
      by_cases hinfile : header = Packet.localInfileHeader
      · subst hinfile
        rw [if_pos rfl]
        refine iff_of_false (by simp) ?_
        rintro ⟨number, ⟨⟨count, hcount, -⟩, -⟩, -⟩
        exact (Reader.head?_ne_of_lenEncCount hcount).2 hheader
      · rw [if_neg hinfile, Outcome.bind_eq_ok_iff]
        have hzero (count : UInt64) : count = 0 ↔ count.toNat = 0 := UInt64.toNat_inj.symm
        constructor
        · rintro ⟨count, hcount, h⟩
          simp only [hzero] at h
          split at h
          · cases h
          · next hne => exact ⟨_, ⟨⟨count, hcount, rfl⟩, fun _ => hne⟩, (Except.ok.inj h).symm⟩
        · rintro ⟨number, ⟨⟨count, hcount, rfl⟩, hne⟩, rfl⟩
          refine ⟨count, hcount, ?_⟩
          simp only [hzero, if_neg (hne trivial)]
          rfl

theorem onColumn_iff {remaining : Nat} {seen : List Column} :
    query.onColumn capabilities packet remaining seen = .ok answer ↔
      ∃ column, Defines packet column ∧
        answer =
          if remaining = 1 then query.inStage (afterColumns capabilities (seen ++ [column]))
          else query.inStage (.columns (remaining - 1) (seen ++ [column])) := by
  unfold onColumn Defines
  rw [Outcome.bind_eq_ok_iff]
  refine exists_congr fun column => and_congr_right fun _ => ?_
  split <;> rw [Outcome.pure_eq, Except.ok.injEq] <;> exact eq_comm

theorem onRow_iff {columns : List Column} :
    query.onRow capabilities packet columns = .ok answer ↔
      (∃ summary, EndsResult capabilities packet summary ∧ answer = query.statementDone summary) ∨
        ∃ row, Holds .text columns packet row ∧
          answer = (.wait, { query with delivery := query.delivery.row row }) := by
  unfold onRow EndsResult Holds
  cases hend : packet.isResultSetEnd with
  | true =>
    simp only [if_true, Outcome.bind_eq_ok_iff, Outcome.pure_eq, Except.ok.injEq, true_and,
      forall_const, reduceCtorEq, and_false, false_and, exists_false, or_false]
    exact exists_congr fun _ => and_congr_right fun _ => eq_comm
  | false =>
    simp only [Bool.false_eq_true, if_false, Outcome.bind_eq_ok_iff, Outcome.pure_eq,
      Except.ok.injEq, false_and, exists_false, false_or, implies_true, and_true]
    exact exists_congr fun _ => and_congr_right fun _ => eq_comm

/-! ## Places -/

/-- What a plain query comes to behind its results. -/
def close (query : TextQuery η) (told : List Delivered) : Turn × TextQuery η :=
  let delivery := query.delivery.handAll told
  (.finished delivery.failure, { query with delivery := delivery.reported, stage := .done })

/-- What a plain query comes to at a place that a packet leads to. -/
def arrive (query : TextQuery η) (behind : ResultPlace) (told : List Delivered) :
    Turn × TextQuery η :=
  if behind = .past then query.close told else (.wait, query.reached behind told)

variable {place : ResultPlace} {told : List Delivered}

theorem statementDone_reached (summary : Summary) :
    (query.reached place told).statementDone summary =
      query.arrive (.behindResult summary) (told ++ [.summary summary]) := by
  unfold statementDone arrive close ResultPlace.behindResult reached
  simp only [Delivery.summary_handAll]
  split
  · rfl
  · rfl

theorem afterColumns_eq (columns : List Column) :
    afterColumns capabilities columns = (ResultPlace.behindColumns capabilities columns).text := by
  unfold afterColumns ResultPlace.behindColumns
  split <;> rfl

theorem inStage_reached {behind : ResultPlace} (h : behind ≠ .past) :
    (query.reached place told).inStage behind.text =
      query.arrive behind (told ++ (none : Option Delivered).toList) := by
  rw [arrive, if_neg h, Option.toList_none, List.append_nil]
  rfl

/-- **A plain query takes a packet at a place exactly if the packet leads on from there.** -/
theorem onPacket_iff (hplace : place.IsOpen) :
    (query.reached place told).onPacket capabilities packet = .ok answer ↔
      ∃ given behind, ResultPlace.Step capabilities .text place packet given behind ∧
        answer = query.arrive behind (told ++ given.toList) := by
  cases place with
  | first =>
    rw [ResultPlace.exists_step_first_iff]
    refine onColumnCount_iff.trans (or_congr ?_ (exists_congr fun number =>
      and_congr_right fun hcounts => ?_))
    · simp only [statementDone_reached, Option.toList_some]
    · rw [if_neg (hcounts.2.2 rfl), ← inStage_reached (by simp)]
      rfl
  | columns remaining seen =>
    rw [ResultPlace.exists_step_columns_iff hplace]
    refine onColumn_iff.trans (exists_congr fun column => and_congr_right fun _ => ?_)
    by_cases hlast : remaining = 1
    · rw [if_pos hlast, if_pos hlast, afterColumns_eq,
        inStage_reached (ResultPlace.behindColumns_ne_past _ _)]
    · rw [if_neg hlast, if_neg hlast, ← inStage_reached (by simp)]
      rfl
  | columnsEnd columns =>
    rw [ResultPlace.exists_step_columnsEnd_iff, ← inStage_reached (by simp)]
    exact Outcome.ite_eq_ok_iff
  | rows columns =>
    rw [ResultPlace.exists_step_rows_iff]
    refine onRow_iff.trans (or_congr ?_ (exists_congr fun row => and_congr_right fun _ => ?_))
    · simp only [statementDone_reached, Option.toList_some]
    · rw [arrive, if_neg (by simp)]
      simp [reached, ResultPlace.text, Delivery.hand]
  | past => exact hplace.elim

/-- **A plain query walks along its results.** -/
theorem walks (capabilities : Capabilities) (query : TextQuery η) :
    ResultPlace.Walks capabilities .text query.reached query.close where
  handle_iff := by
    intro place packet told answer hplace hpacket
    have hhandle : Command.handle capabilities packet (query.reached place told) =
        Turn.keepOnError (query.reached place told)
          ((query.reached place told).onPacket capabilities packet) := by
      show handle capabilities packet _ = _
      rw [handle, hpacket, if_neg (by simp)]
    have hkeep : Turn.keepOnError (query.reached place told)
          ((query.reached place told).onPacket capabilities packet) = (.ok answer.1, answer.2) ↔
        (query.reached place told).onPacket capabilities packet = .ok answer := by
      cases (query.reached place told).onPacket capabilities packet with
      | error error => simp [Turn.keepOnError]
      | ok answer => simp [Turn.keepOnError, Prod.ext_iff]
    rw [hhandle, hkeep, onPacket_iff hplace]
    rfl
  close_done told := rfl

/-! ## The grammar -/

/-- **A plain query completes with exactly the packets of its grammar**: one or more results, of
which the last one and no other one tells that nothing follows.  Its handlers have then been given
the rows and the summaries, in order. -/
theorem completes_iff_areResults (capabilities : Capabilities) (sql : String) {sink : Sink η}
    (hsink : sink.Succeeds) (state : η) {packets : List Packet}
    (hpackets : ∀ packet ∈ packets, packet.isErr = false) (final : TextQuery η) :
    Command.Completes capabilities
        (Command.activate capabilities { sql, delivery := { sink, state } : TextQuery η }).2
        packets final ↔
      ∃ results, AreResults .text capabilities results packets ∧
        final =
          { sql
            delivery := { sink, state := sink.called (results.flatMap Result.delivered) state }
            stage := .done } := by
  let query : TextQuery η := { sql, delivery := { sink, state } }
  have hclose (told : List Delivered) : query.close told =
      (.finished none,
        { sql, delivery := { sink, state := sink.called told state }, stage := .done }) := by
    rw [close, hsink.handAll]
    rfl
  have hbegin : (Command.activate capabilities query).2 = query.reached .first [] := rfl
  rw [hbegin,
    (walks capabilities query).completes_first_iff (fun told => by rw [hclose]; rfl) hpackets final]
  simp only [hclose]

/-- Two statements of which the second one has a row, with EOF packets. -/
theorem completes_twoResults :
    Collected.sink.Succeeds ∧
      (∀ packet ∈ Sent.packetsOf (Sent.twoResults.flatMap (Sent.Result.items .text .protocol41)),
        packet.isErr = false) ∧
      Command.Completes .protocol41
        (Command.activate .protocol41
          { sql := "DO 0; SELECT 'a' AS t",
            delivery := { sink := Collected.sink, state := {} } : TextQuery Collected }).2
        (Sent.packetsOf (Sent.twoResults.flatMap (Sent.Result.items .text .protocol41)))
        { sql := "DO 0; SELECT 'a' AS t"
          delivery :=
            { sink := Collected.sink
              state :=
                { rows := [⟨[Sent.textColumn.definition], [some [0x61]], .text⟩]
                  summaries := [{ status := .moreResultsExist }, {}] } }
          stage := .done } := by
  have hpackets : ∀ packet ∈ Sent.packetsOf (Sent.twoResults.flatMap
      (Sent.Result.items .text .protocol41)), packet.isErr = false := by
    decide +kernel
  exact ⟨Collected.succeeds_sink, hpackets,
    (completes_iff_areResults .protocol41 _ Collected.succeeds_sink {} hpackets _).mpr
      ⟨_, Sent.areResults_twoResults .text, by rw [Sent.called_twoResults]⟩⟩

end TextQuery

end MySqlClient
