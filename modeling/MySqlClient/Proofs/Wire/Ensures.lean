import MySqlClient.Proofs.Wire.RoundTrip
import MySqlClient.Response

/-!
# What a reader ensures

Whatever octets a reader is given, its value has some property, or the error with which it fails has
another one.

* `Reader.Ensures`: the two properties; `Ensures.bind` puts readers one behind the other.
* `ensures_u8`, `ensures_take` and so on: with which errors the primitives fail.
* `ServerError.ensures_reader`: an ERR packet that cannot be read is malformed, or is none.
-/

namespace MySqlClient

namespace Reader

variable {α β : Type}

/-- Whatever the reader is run on, its value is good, or it fails with an error that is admitted. -/
def Ensures (reader : Reader α) (good : α → Prop) (admitted : Error → Prop) : Prop :=
  ∀ octets, match reader octets with
    | .ok value _ => good value
    | .error error _ => admitted error

section

variable {reader : Reader α} {next : α → Reader β} {middle : α → Prop} {good : β → Prop}
  {admitted : Error → Prop}

/-- **One reader behind the other.** -/
theorem Ensures.bind (h : Ensures reader middle admitted)
    (hnext : ∀ value, middle value → Ensures (next value) good admitted) :
    Ensures (reader >>= next) good admitted := by
  intro octets
  have hfirst := h octets
  rw [bind_apply]
  cases hreader : reader octets with
  | ok value rest =>
    rw [hreader] at hfirst
    exact hnext value hfirst rest
  | error error rest =>
    rw [hreader] at hfirst
    exact hfirst

theorem Ensures.pure {value : β} (h : good value) :
    Ensures (Pure.pure value : Reader β) good admitted :=
  fun _ => h

theorem Ensures.fail {fault : ProtocolFault} (h : admitted (.protocol fault)) :
    Ensures (Reader.fail fault : Reader β) good admitted :=
  fun _ => h

/-- Every reader ensures what always holds. -/
theorem ensures_true (reader : Reader α) : Ensures reader (fun _ => True) fun _ => True := by
  intro octets
  cases reader octets <;> trivial

theorem Ensures.of_parse_ok {reader : Reader β} {payload : Bytes} {value : β}
    (h : Ensures reader good admitted) (hparse : reader.parse payload = .ok value) :
    good value := by
  have hpayload := h payload
  unfold parse at hparse
  split at hparse
  · next heq =>
    rw [heq] at hpayload
    cases hparse
    exact hpayload
  · cases hparse

theorem Ensures.of_parse_error {reader : Reader β} {payload : Bytes} {error : Error}
    (h : Ensures reader good admitted) (hparse : reader.parse payload = .error error) :
    admitted error := by
  have hpayload := h payload
  unfold parse at hparse
  split at hparse
  · cases hparse
  · next heq =>
    rw [heq] at hpayload
    cases hparse
    exact hpayload

end

/-! ## Primitives -/

variable {admitted : Error → Prop}

theorem ensures_u8 (h : admitted (.protocol .missingByte)) :
    Ensures u8 (fun _ => True) admitted := by
  intro octets
  cases octets with
  | nil => exact h
  | cons octet rest => trivial

theorem ensures_take {n : Nat} (h : admitted (.protocol (.missingBytes n))) :
    Ensures (take n) (fun _ => True) admitted := by
  intro octets
  rcases Nat.lt_or_ge octets.length n with hshort | hlong
  · rw [take_of_lt hshort]
    exact h
  · rw [take_of_le hlong]
    trivial

theorem ensures_number {width : Nat} (h : admitted (.protocol (.missingBytes width))) :
    Ensures (number width) (fun _ => True) admitted :=
  (ensures_take h).bind fun _ _ => .pure trivial

theorem ensures_u16 (h : admitted (.protocol (.missingBytes 2))) :
    Ensures u16 (fun _ => True) admitted :=
  (ensures_number h).bind fun _ _ => .pure trivial

theorem ensures_peek : Ensures peek (fun _ => True) admitted :=
  fun _ => trivial

theorem ensures_remainder : Ensures remainder (fun _ => True) admitted :=
  fun _ => trivial

theorem ensures_header {expected : UInt8} {fault : ProtocolFault}
    (hmissing : admitted (.protocol .missingByte)) (hother : admitted (.protocol fault)) :
    Ensures (header expected fault) (fun _ => True) admitted := by
  refine (ensures_u8 hmissing).bind fun octet _ => ?_
  split
  · exact .fail hother
  · exact .pure trivial

end Reader

/-- An ERR packet that cannot be read has another header, or ends too early. -/
theorem ServerError.ensures_reader {admitted : Error → Prop} (capabilities : Capabilities)
    (hbyte : admitted (.protocol .missingByte))
    (hbytes : ∀ wanted, admitted (.protocol (.missingBytes wanted)))
    (hheader : admitted (.protocol .notErr)) :
    Reader.Ensures (reader capabilities) (fun _ => True) admitted := by
  have hstate : Reader.Ensures (readSqlState capabilities) (fun _ => True) admitted := by
    unfold readSqlState
    refine Reader.ensures_peek.bind fun octets _ => ?_
    split
    · refine (Reader.ensures_u8 hbyte).bind fun _ _ => ?_
      exact (Reader.ensures_take (hbytes _)).bind fun _ _ => .pure trivial
    · exact .pure trivial
  refine (Reader.ensures_header hbyte hheader).bind fun _ _ => ?_
  refine (Reader.ensures_u16 (hbytes 2)).bind fun code _ => ?_
  refine hstate.bind fun sqlState _ => ?_
  exact Reader.ensures_remainder.bind fun octets _ => .pure trivial

end MySqlClient
