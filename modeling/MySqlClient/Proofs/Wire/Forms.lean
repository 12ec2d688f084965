import MySqlClient.Proofs.Wire.RoundTrip

/-!
# The octets that a reader takes

A round trip says that what a writer gives is read back.  Here is the other half too: what a reader
takes are the forms of its value, and nothing else.

* `Wire.IsLenEncInt`, `Wire.IsLenEncBytes`: the forms of a length-encoded number and of a
  length-encoded string.  A number may be written longer than it has to be.
* `Reader.Recognizes`: a reader takes exactly the forms of its value from the front of what it is
  given; `Recognizes.bind` puts readers one behind the other.
* `recognizes_lenEncInt`, `recognizes_lenEncBytes` and so on: the primitives.
* `Recognizes.parse_eq_ok_iff`: what a whole packet has to be; `Recognizes.exists_parse_eq_error`:
  **a packet that ends too early is refused.**
-/

namespace MySqlClient

namespace Wire

/-- The octet that announces a number of some width. -/
def IsMarker (marker : UInt8) (width : Nat) : Prop :=
  marker = 0xFC ∧ width = 2 ∨ marker = 0xFD ∧ width = 3 ∨ marker = 0xFE ∧ width = 8

/-- The forms of a length-encoded number. -/
inductive IsLenEncInt : Nat → Bytes → Prop
  | single {lead : UInt8} (h : lead.toNat < 251) : IsLenEncInt lead.toNat [lead]
  | marked {marker : UInt8} {digits : Bytes} (h : IsMarker marker digits.length) :
      IsLenEncInt digits.toNat (marker :: digits)

/-- The forms of a length-encoded string: its length, and its octets. -/
def IsLenEncBytes (content octets : Bytes) : Prop :=
  ∃ length, IsLenEncInt content.length length ∧ octets = length ++ content

/-- The forms of a length-encoded string that may be NULL. -/
def IsLenEncField : Option Bytes → Bytes → Prop
  | none, octets => octets = [0xFB]
  | some content, octets => IsLenEncBytes content octets

theorem IsLenEncInt.ne_nil {n : Nat} {octets : Bytes} (h : IsLenEncInt n octets) : octets ≠ [] := by
  cases h <;> exact List.cons_ne_nil _ _

/-- A length-encoded number fits in 64 bits. -/
theorem IsLenEncInt.lt_size {n : Nat} {octets : Bytes} (h : IsLenEncInt n octets) :
    n < UInt64.size := by
  cases h with
  | single hlead => exact Nat.lt_trans hlead (by decide)
  | @marked marker digits hmarker =>
    have hdigits := digits.toNat_lt
    rcases hmarker with ⟨-, hwidth⟩ | ⟨-, hwidth⟩ | ⟨-, hwidth⟩ <;>
      · rw [hwidth] at hdigits
        exact Nat.lt_of_lt_of_le hdigits (by decide)

/-- The length of a length-encoded string fits in 64 bits. -/
theorem IsLenEncBytes.length_lt {content octets : Bytes} (h : IsLenEncBytes content octets) :
    content.length < UInt64.size := by
  obtain ⟨length, hlength, -⟩ := h
  exact hlength.lt_size

end Wire

namespace Reader

variable {α β : Type}

/-- The reader takes exactly the forms of its value, and leaves what is behind them. -/
def Recognizes (reader : Reader α) (form : α → Bytes → Prop) : Prop :=
  ∀ octets value rest,
    reader octets = .ok value rest ↔ ∃ front, form value front ∧ octets = front ++ rest

section

variable {reader : Reader α} {next : α → Reader β} {form form' : α → Bytes → Prop}
  {forms : α → β → Bytes → Prop}

theorem Recognizes.congr (h : Recognizes reader form)
    (hforms : ∀ value octets, form value octets ↔ form' value octets) :
    Recognizes reader form' := by
  intro octets value rest
  rw [h]
  exact exists_congr fun front => and_congr_left fun _ => hforms value front

theorem Recognizes.reads (h : Recognizes reader form) {value : α} {octets : Bytes}
    (hform : form value octets) : Reads reader octets value :=
  fun _ => (h _ _ _).mpr ⟨octets, hform, rfl⟩

/-- What is read back is a form. -/
theorem Recognizes.form_of_reads (h : Recognizes reader form) {value : α} {octets : Bytes}
    (hreads : Reads reader octets value) : form value octets := by
  obtain ⟨front, hform, hfront⟩ := (h _ _ _).mp (hreads [])
  rwa [List.append_cancel_right hfront]

/-- **One reader behind the other**: one form behind the other. -/
theorem Recognizes.bind (h : Recognizes reader form)
    (hnext : ∀ value, Recognizes (next value) (forms value)) :
    Recognizes (reader >>= next) fun result octets => ∃ value front back,
      form value front ∧ forms value result back ∧ octets = front ++ back := by
  intro octets result rest
  constructor
  · intro hread
    obtain ⟨value, between, hfirst, hsecond⟩ := bind_eq_ok_iff.mp hread
    obtain ⟨front, hform, rfl⟩ := (h _ _ _).mp hfirst
    obtain ⟨back, hback, rfl⟩ := (hnext value _ _ _).mp hsecond
    exact ⟨front ++ back, ⟨value, front, back, hform, hback, rfl⟩,
      (List.append_assoc front back rest).symm⟩
  · rintro ⟨-, ⟨value, front, back, hform, hback, rfl⟩, rfl⟩
    exact (h.reads hform).bind next ((hnext value).reads hback) rest

theorem recognizes_pure (value : β) :
    Recognizes (Pure.pure value) fun result octets => result = value ∧ octets = [] := by
  intro octets result rest
  show EStateM.Result.ok value octets = .ok result rest ↔ _
  constructor
  · rintro ⟨⟩
    exact ⟨[], ⟨rfl, rfl⟩, rfl⟩
  · rintro ⟨-, ⟨rfl, rfl⟩, rfl⟩
    rfl

/-- A reader whose value is changed afterwards. -/
theorem Recognizes.map (f : α → β) (h : Recognizes reader form) :
    Recognizes (reader >>= fun value => Pure.pure (f value)) fun result octets =>
      ∃ value, form value octets ∧ result = f value := by
  refine (h.bind fun value => recognizes_pure (f value)).congr fun result octets => ?_
  constructor
  · rintro ⟨value, front, -, hform, ⟨rfl, rfl⟩, rfl⟩
    exact ⟨value, (List.append_nil front).symm ▸ hform, rfl⟩
  · rintro ⟨value, hform, rfl⟩
    exact ⟨value, octets, [], hform, ⟨rfl, rfl⟩, (List.append_nil octets).symm⟩

/-- A value that is changed before it is passed on. -/
theorem bind_pure_bind {γ : Type} (reader : Reader α) (f : α → β) (next : β → Reader γ) :
    (reader >>= fun value => Pure.pure (f value)) >>= next =
      reader >>= fun value => next (f value) := by
  funext octets
  simp only [bind_apply]
  cases reader octets <;> rfl

/-- Whoever fails takes nothing. -/
theorem recognizes_fail (fault : ProtocolFault) :
    Recognizes (Reader.fail fault : Reader α) fun _ _ => False := by
  intro octets value rest
  constructor
  · intro h
    cases h
  · rintro ⟨-, hfalse, -⟩
    exact hfalse.elim

/-- What a whole packet has to be: a form, with anything behind it. -/
theorem Recognizes.parse_eq_ok_iff (h : Recognizes reader form) {payload : Bytes} {value : α} :
    reader.parse payload = .ok value ↔
      ∃ front rest, form value front ∧ payload = front ++ rest := by
  have hparse : reader.parse payload = .ok value ↔ ∃ rest, reader payload = .ok value rest := by
    unfold parse
    cases reader payload <;> simp
  rw [hparse]
  constructor
  · rintro ⟨rest, hread⟩
    obtain ⟨front, hfront⟩ := (h _ _ _).mp hread
    exact ⟨front, rest, hfront⟩
  · rintro ⟨front, rest, hfront⟩
    exact ⟨rest, (h _ _ _).mpr ⟨front, hfront⟩⟩

/-- **A packet that ends before its value does is refused.** -/
theorem Recognizes.exists_parse_eq_error (h : Recognizes reader form) {value : α}
    {front more : Bytes} (hreads : Reads reader (front ++ more) value) (hmore : more ≠ []) :
    ∃ error, reader.parse front = .error error := by
  cases hparse : reader.parse front with
  | error error => exact ⟨error, rfl⟩
  | ok other =>
    -- the reader would stop earlier in the whole as well
    obtain ⟨taken, rest, htaken, rfl⟩ := h.parse_eq_ok_iff.mp hparse
    have hshort := h.reads htaken (rest ++ more)
    have hlong := hreads []
    rw [List.append_nil, List.append_assoc, hshort] at hlong
    injection hlong with _ hrest
    exact absurd (List.append_eq_nil_iff.mp hrest).2 hmore

end

/-! ## Primitives -/

theorem recognizes_u8 : Recognizes u8 fun octet octets => octets = [octet] := by
  intro octets value rest
  cases octets with
  | nil => simp
  | cons octet octets => simp

theorem recognizes_take (n : Nat) :
    Recognizes (take n) fun value octets => octets = value ∧ value.length = n := by
  intro octets value rest
  constructor
  · intro hread
    rcases Nat.lt_or_ge octets.length n with hshort | hlong
    · rw [take_of_lt hshort] at hread
      cases hread
    · rw [take_of_le hlong] at hread
      cases hread
      exact ⟨_, ⟨rfl, List.length_take_of_le hlong⟩, (List.take_append_drop n octets).symm⟩
  · rintro ⟨-, ⟨rfl, rfl⟩, rfl⟩
    exact take_append _ rest

theorem recognizes_number (width : Nat) :
    Recognizes (number width) fun n octets => octets.length = width ∧ n = octets.toNat := by
  refine ((recognizes_take width).map Bytes.toNat).congr fun n octets => ?_
  constructor
  · rintro ⟨value, ⟨rfl, hlength⟩, rfl⟩
    exact ⟨hlength, rfl⟩
  · rintro ⟨hlength, rfl⟩
    exact ⟨octets, ⟨rfl, hlength⟩, rfl⟩

/-- A number behind a marker. -/
theorem recognizes_marked (width : Nat) :
    Recognizes (number width >>= fun n => Pure.pure (some (UInt64.ofNat n)))
      fun found digits => digits.length = width ∧ found = some (UInt64.ofNat digits.toNat) := by
  refine ((recognizes_number width).map fun n => some (UInt64.ofNat n)).congr fun found digits => ?_
  constructor
  · rintro ⟨n, ⟨hlength, rfl⟩, hfound⟩
    exact ⟨hlength, hfound⟩
  · rintro ⟨hlength, hfound⟩
    exact ⟨_, ⟨hlength, rfl⟩, hfound⟩

/-- The forms of a length-encoded number that may be NULL. -/
def LenEncIntForm : Option UInt64 → Bytes → Prop
  | none, octets => octets = [0xFB]
  | some n, octets => Wire.IsLenEncInt n.toNat octets

/-- What may follow the lead octet of a length-encoded number. -/
def LenEncIntTail (lead : UInt8) (found : Option UInt64) (digits : Bytes) : Prop :=
  if lead = 0xFB then found = none ∧ digits = []
  else if lead = 0xFC then digits.length = 2 ∧ found = some (UInt64.ofNat digits.toNat)
  else if lead = 0xFD then digits.length = 3 ∧ found = some (UInt64.ofNat digits.toNat)
  else if lead = 0xFE then digits.length = 8 ∧ found = some (UInt64.ofNat digits.toNat)
  else if lead = 0xFF then False
  else found = some (UInt64.ofNat lead.toNat) ∧ digits = []

/-- An octet that is no marker, no NULL and no error stands for itself. -/
theorem lead_lt_of_ne {lead : UInt8} (hnull : lead ≠ 0xFB) (htwo : lead ≠ 0xFC)
    (hthree : lead ≠ 0xFD) (height : lead ≠ 0xFE) (herr : lead ≠ 0xFF) : lead.toNat < 251 := by
  have hlt := lead.toNat_lt
  simp only [ne_eq, ← UInt8.toNat_inj, UInt8.reduceToNat] at hnull htwo hthree height herr
  omega

/-- Lead octet and tail together are a form. -/
theorem lenEncIntTail_iff {lead : UInt8} {found : Option UInt64} {digits : Bytes} :
    LenEncIntTail lead found digits ↔ LenEncIntForm found (lead :: digits) := by
  have hmarked {width : Nat} (h : Wire.IsMarker lead width) (hlength : digits.length = width)
      (hfound : found = some (UInt64.ofNat digits.toNat)) :
      LenEncIntForm found (lead :: digits) := by
    have hform : Wire.IsLenEncInt digits.toNat (lead :: digits) := .marked (hlength ▸ h)
    rw [hfound]
    show Wire.IsLenEncInt (UInt64.ofNat digits.toNat).toNat _
    rwa [UInt64.toNat_ofNat_of_lt' hform.lt_size]
  unfold LenEncIntTail
  constructor
  · split
    · rintro ⟨rfl, rfl⟩
      next hlead => exact hlead ▸ rfl
    split
    · next hlead => exact fun h => hmarked (.inl ⟨hlead, rfl⟩) h.1 h.2
    split
    · next hlead => exact fun h => hmarked (.inr (.inl ⟨hlead, rfl⟩)) h.1 h.2
    split
    · next hlead => exact fun h => hmarked (.inr (.inr ⟨hlead, rfl⟩)) h.1 h.2
    split
    · exact False.elim
    · next hnull htwo hthree height herr =>
      rintro ⟨rfl, rfl⟩
      have hlt := lead_lt_of_ne hnull htwo hthree height herr
      show Wire.IsLenEncInt (UInt64.ofNat lead.toNat).toNat [lead]
      rw [UInt64.toNat_ofNat_of_lt' (Nat.lt_trans hlt (by decide))]
      exact .single hlt
  · intro hform
    cases found with
    | none =>
      obtain ⟨rfl, rfl⟩ := List.cons_eq_cons.mp hform
      exact ⟨rfl, rfl⟩
    | some n =>
      have hn : some n = some (UInt64.ofNat n.toNat) := by rw [UInt64.ofNat_toNat]
      have hint : Wire.IsLenEncInt n.toNat (lead :: digits) := hform
      rw [hn]
      generalize n.toNat = value at hint
      cases hint with
      | single hlead =>
        have hne (marker : UInt8) (h : 251 ≤ marker.toNat) : lead ≠ marker := by
          rintro rfl
          omega
        rw [if_neg (hne _ (by decide)), if_neg (hne _ (by decide)), if_neg (hne _ (by decide)),
          if_neg (hne _ (by decide)), if_neg (hne _ (by decide))]
        exact ⟨rfl, rfl⟩
      | marked hmarker =>
        rcases hmarker with ⟨rfl, hwidth⟩ | ⟨rfl, hwidth⟩ | ⟨rfl, hwidth⟩ <;>
          exact ⟨hwidth, rfl⟩

theorem recognizes_lenEncInt : Recognizes lenEncInt LenEncIntForm := by
  have htail (lead : UInt8) : Recognizes (do
      if lead == 0xFB then return none
      else if lead == 0xFC then return some (UInt64.ofNat (← number 2))
      else if lead == 0xFD then return some (UInt64.ofNat (← number 3))
      else if lead == 0xFE then return some (UInt64.ofNat (← number 8))
      else if lead == 0xFF then fail .lengthLead
      else return some (UInt64.ofNat lead.toNat)) (LenEncIntTail lead) := by
    unfold LenEncIntTail
    simp only [beq_iff_eq]
    split
    · exact recognizes_pure none
    split
    · exact recognizes_marked 2
    split
    · exact recognizes_marked 3
    split
    · exact recognizes_marked 8
    split
    · exact recognizes_fail _
    · exact recognizes_pure _
  refine (recognizes_u8.bind htail).congr fun found octets => ?_
  constructor
  · rintro ⟨lead, -, digits, rfl, hdigits, rfl⟩
    exact lenEncIntTail_iff.mp hdigits
  · intro hform
    cases octets with
    | nil =>
      cases found with
      | none => cases hform
      | some n => exact absurd rfl (Wire.IsLenEncInt.ne_nil hform)
    | cons lead digits =>
      exact ⟨lead, [lead], digits, rfl, lenEncIntTail_iff.mpr hform, rfl⟩

/-- What may follow the length of a length-encoded string. -/
inductive LenEncBytesTail : Option UInt64 → Option Bytes → Bytes → Prop
  | null : LenEncBytesTail none none []
  | octets {n : UInt64} {octets : Bytes} (h : octets.length = n.toNat) :
      LenEncBytesTail (some n) (some octets) octets

/-- **What a reader takes for a length-encoded string, or for NULL.** -/
theorem recognizes_lenEncBytes : Recognizes lenEncBytes Wire.IsLenEncField := by
  refine (recognizes_lenEncInt.bind (?tail : ∀ found, Recognizes _ (LenEncBytesTail found))).congr
    fun field octets => ?_
  case tail =>
    intro found
    cases found with
    | none =>
      refine (recognizes_pure none).congr fun field octets => ⟨?_, ?_⟩
      · rintro ⟨rfl, rfl⟩
        exact .null
      · rintro ⟨⟩
        exact ⟨rfl, rfl⟩
    | some n =>
      refine ((recognizes_take n.toNat).map some).congr fun field octets => ⟨?_, ?_⟩
      · rintro ⟨content, ⟨rfl, hlength⟩, rfl⟩
        exact .octets hlength
      · rintro (_ | hlength)
        exact ⟨octets, ⟨rfl, hlength⟩, rfl⟩
  constructor
  · rintro ⟨found, front, back, hform, hback, rfl⟩
    cases hback with
    | null => exact (List.append_nil front).trans hform
    | octets hlength => exact ⟨front, hlength ▸ hform, rfl⟩
  · intro hform
    cases field with
    | none => exact ⟨none, [0xFB], [], rfl, .null, hform⟩
    | some content =>
      obtain ⟨length, hlength, rfl⟩ := hform
      have hn := UInt64.toNat_ofNat_of_lt' hlength.lt_size
      refine ⟨some (UInt64.ofNat content.length), length, content, ?_, .octets hn.symm, rfl⟩
      show Wire.IsLenEncInt (UInt64.ofNat content.length).toNat length
      rwa [hn]

/-- A length-encoded string where NULL is refused. -/
theorem recognizes_lenEncBytes_required (fault : ProtocolFault) :
    Recognizes (do
      match ← lenEncBytes with
      | some octets => return octets
      | none => fail fault) Wire.IsLenEncBytes := by
  have hnext (field : Option Bytes) : Recognizes (match field with
      | some octets => Pure.pure octets
      | none => fail fault) (fun content octets => field = some content ∧ octets = []) := by
    cases field with
    | some found =>
      refine (recognizes_pure found).congr fun content octets => ?_
      rw [Option.some.injEq, eq_comm]
    | none => exact (recognizes_fail fault).congr fun content octets => by simp
  refine (recognizes_lenEncBytes.bind hnext).congr fun content octets => ?_
  constructor
  · rintro ⟨field, front, back, hform, ⟨rfl, rfl⟩, rfl⟩
    exact (List.append_nil front).symm ▸ hform
  · intro hform
    exact ⟨some content, octets, [], hform, ⟨rfl, rfl⟩, (List.append_nil octets).symm⟩

end Reader

end MySqlClient
