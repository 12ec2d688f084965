import MySqlClient.Proofs.Dialogue.Answer

/-!
# Calls of handlers

How the handlers of a caller are called when one thing after the other is handed over.

* `Handing`: a call of a handler, with what came of it.
* `Sink.noting`: handlers that note down their calls, and are otherwise the given ones.
* `Delivery.calls`: the calls that a delivery makes; `Delivery.noting_handAll`: they are what the
  handlers note down.
* `UntilRefusal`: a handler is called for one row after the other, up to the first one with which it
  fails.
* `Delivery.untilRefusal_calls`: **so the handler of rows is called**, and a delivery remembers the
  failure; `Delivery.summaries_calls`: the handler of summaries is called for every summary.
-/

namespace MySqlClient

/-! ## Things that are handed over -/

namespace Delivered

/-- The row, if it is one. -/
def row? : Delivered → Option Row
  | .row record => some record
  | .summary _ => none

/-- The summary, if it is one. -/
def summary? : Delivered → Option Summary
  | .row _ => none
  | .summary ending => some ending

end Delivered

/-- A call of a handler.  The handler of rows may fail with a text. -/
inductive Handing where
  | row (row : Row) (refusal : Option String)
  | summary (summary : Summary)

namespace Handing

/-- A call of the handler of rows. -/
def rowCall? : Handing → Option (Row × Option String)
  | .row record refusal => some (record, refusal)
  | .summary _ => none

/-- A call of the handler of summaries. -/
def summary? : Handing → Option Summary
  | .row _ _ => none
  | .summary ending => some ending

/-- The calls of the handler of rows. -/
def rowCalls (handings : List Handing) : List (Row × Option String) :=
  handings.filterMap rowCall?

/-- The calls of the handler of summaries. -/
def summaries (handings : List Handing) : List Summary :=
  handings.filterMap summary?

/-- The first failure of the handler of rows. -/
def refusal? (handings : List Handing) : Option String :=
  (rowCalls handings).findSome? Prod.snd

end Handing

/-- The handler of rows is called for one row after the other, up to and including the first one
with which it fails, and not again. -/
inductive UntilRefusal : List Row → List (Row × Option String) → Prop
  | nil : UntilRefusal [] []
  | taken {row : Row} {rows : List Row} {calls : List (Row × Option String)}
      (h : UntilRefusal rows calls) : UntilRefusal (row :: rows) ((row, none) :: calls)
  | refused {row : Row} {rows : List Row} {text : String} :
      UntilRefusal (row :: rows) [(row, some text)]

/-- The handlers, which note down how they are called. -/
def Sink.noting {η : Type} (sink : Sink η) : Sink (η × List Handing) where
  onRow row state :=
    let (next, refusal) := sink.onRow row state.1
    ((next, state.2 ++ [.row row refusal]), refusal)
  onSummary summary state := (sink.onSummary summary state.1, state.2 ++ [.summary summary])

namespace Delivery

variable {η : Type}

/-- The calls because of one thing. -/
def call (delivery : Delivery η) : Delivered → List Handing
  | .row row =>
    match delivery.refusal with
    | some _ => []
    | none => [.row row (delivery.sink.onRow row delivery.state).2]
  | .summary summary => [.summary summary]

/-- The calls because of one thing after the other. -/
def calls (delivery : Delivery η) : List Delivered → List Handing
  | [] => []
  | thing :: things => delivery.call thing ++ (delivery.hand thing).calls things

/-- The delivery with handlers that note down their calls, behind the calls so far. -/
def noting (delivery : Delivery η) (handings : List Handing) : Delivery (η × List Handing) where
  sink := delivery.sink.noting
  state := (delivery.state, handings)
  refusal := delivery.refusal

theorem handAll_cons (delivery : Delivery η) (thing : Delivered) (things : List Delivered) :
    delivery.handAll (thing :: things) = (delivery.hand thing).handAll things := rfl

theorem noting_hand (delivery : Delivery η) (handings : List Handing) (thing : Delivered) :
    (delivery.noting handings).hand thing =
      (delivery.hand thing).noting (handings ++ delivery.call thing) := by
  cases thing with
  | summary summary => rfl
  | row row =>
    obtain ⟨sink, state, _ | text⟩ := delivery
    · rfl
    · simp [noting, hand, Delivery.row, call]

/-- **What the handlers note down are the calls.** -/
theorem noting_handAll (delivery : Delivery η) (handings : List Handing)
    (things : List Delivered) :
    (delivery.noting handings).handAll things =
      (delivery.handAll things).noting (handings ++ delivery.calls things) := by
  induction things generalizing delivery handings with
  | nil => rw [calls, List.append_nil, handAll_nil, handAll_nil]
  | cons thing things ih =>
    rw [handAll_cons, noting_hand, ih, List.append_assoc]
    rfl

theorem noting_handAll_nil (sink : Sink η) (state : η) (things : List Delivered) :
    (⟨sink.noting, (state, []), none⟩ : Delivery (η × List Handing)).handAll things =
      ((⟨sink, state, none⟩ : Delivery η).handAll things).noting
        ((⟨sink, state, none⟩ : Delivery η).calls things) :=
  noting_handAll ⟨sink, state, none⟩ [] things

/-- **The handler of summaries is called for every summary.** -/
theorem summaries_calls (delivery : Delivery η) (things : List Delivered) :
    Handing.summaries (delivery.calls things) = things.filterMap Delivered.summary? := by
  induction things generalizing delivery with
  | nil => rfl
  | cons thing things ih =>
    have hcall : (delivery.call thing).filterMap Handing.summary? = thing.summary?.toList := by
      cases thing with
      | summary summary => rfl
      | row row =>
        rw [call]
        split <;> rfl
    have hcons : (thing :: things).filterMap Delivered.summary? =
        thing.summary?.toList ++ things.filterMap Delivered.summary? := by
      rw [List.filterMap_cons]
      cases thing.summary? <;> rfl
    rw [hcons, ← ih (delivery.hand thing), ← hcall, calls, Handing.summaries,
      List.filterMap_append]
    rfl

/-- A handler of rows that has failed is not called again. -/
theorem rowCalls_of_refused {delivery : Delivery η} {text : String}
    (h : delivery.refusal = some text) (things : List Delivered) :
    Handing.rowCalls (delivery.calls things) = [] ∧
      (delivery.handAll things).refusal = some text := by
  induction things generalizing delivery with
  | nil => exact ⟨rfl, h⟩
  | cons thing things ih =>
    have hcall : (delivery.call thing).filterMap Handing.rowCall? = [] := by
      cases thing with
      | summary summary => rfl
      | row row => simp [call, h]
    have hhand : (delivery.hand thing).refusal = some text := by
      cases thing with
      | summary summary => exact h
      | row row => simp [hand, Delivery.row, h]
    obtain ⟨hcalls, hrefusal⟩ := ih hhand
    refine ⟨?_, hrefusal⟩
    rw [calls, Handing.rowCalls, List.filterMap_append, hcall]
    exact hcalls

/-- **The handler of rows is called up to its first failure**, and the failure is remembered. -/
theorem untilRefusal_calls {delivery : Delivery η} (h : delivery.refusal = none)
    (things : List Delivered) :
    UntilRefusal (things.filterMap Delivered.row?) (Handing.rowCalls (delivery.calls things)) ∧
      (delivery.handAll things).refusal = Handing.refusal? (delivery.calls things) := by
  induction things generalizing delivery with
  | nil => exact ⟨.nil, h⟩
  | cons thing things ih =>
    cases thing with
    | summary summary =>
      have hkept : (delivery.summary summary).refusal = none := h
      exact ih hkept
    | row row =>
      have hcalls : Handing.rowCalls (delivery.calls (.row row :: things)) =
          (row, (delivery.sink.onRow row delivery.state).2) ::
            Handing.rowCalls ((delivery.row row).calls things) := by
        rw [calls, call, h]
        rfl
      have hrefusal : (delivery.row row).refusal =
          (delivery.sink.onRow row delivery.state).2 := by
        rw [Delivery.row, h]
      rw [Handing.refusal?, hcalls]
      -- the handler takes this row, or fails with it
      cases hcall : (delivery.sink.onRow row delivery.state).2 with
      | none =>
        rw [hcall] at hrefusal
        obtain ⟨huntil, hlast⟩ := ih hrefusal
        exact ⟨.taken huntil, hlast⟩
      | some text =>
        rw [hcall] at hrefusal
        obtain ⟨hnone, hlast⟩ := rowCalls_of_refused hrefusal things
        rw [hnone]
        exact ⟨.refused, hlast⟩

end Delivery

end MySqlClient
