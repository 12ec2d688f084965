import MySqlClient.Proofs.Request.Execution
import MySqlClient.Proofs.Wire.Forms

/-!
# Execute requests that a server misreads

If a value has more octets than its type makes the server take, the rest of them stands in front of
the next value, and is taken for a part of it.  It may happen that the server gets the values as
they were meant nevertheless: a string of eight octets 8 looks the same with its length in front and
its last octet cut off.  Then the server is behind, and what it is behind by does not get less.

* `Execution.recognizes_content`: what a server takes for the octets of an argument.
* `Execution.IsBehind`: a server has octets in front of it that it should have read.
* `Execution.isBehind_of_argument`, `Execution.exists_isBehind_of_arguments`: one argument and all
  of them, read by such a server.
* `Execution.reader_encode_eq_ok_iff`: **a request is used up and read back exactly if the octets of
  its values are what their types make the server expect.**
-/

namespace MySqlClient

open Reader

namespace Wire

/-- A short string stands behind one octet. -/
theorem lenEncBytes_of_lt {content : Bytes} (h : content.length < 251) :
    lenEncBytes content = UInt8.ofNat content.length :: content := by
  have hsize : content.length < UInt64.size := Nat.lt_trans h (by decide)
  have hlt : UInt64.ofNat content.length < 251 := by
    rw [UInt64.lt_iff_toNat_lt, UInt64.toNat_ofNat_of_lt' hsize]
    exact h
  rw [lenEncBytes, lenEncInt, if_pos hlt, UInt64.toNat_ofNat_of_lt' hsize]
  rfl

/-- The form of a string whose first octet is no marker: that octet is the length. -/
theorem IsLenEncBytes.eq_cons {content octets tail rest : Bytes} {lead : UInt8}
    (h : IsLenEncBytes content octets) (hlead : lead.toNat < 251)
    (hcons : octets ++ rest = lead :: tail) :
    content.length = lead.toNat ∧ tail = content ++ rest := by
  obtain ⟨length, hlength, rfl⟩ := h
  generalize hn : content.length = n at hlength
  cases hlength with
  | single =>
    rw [List.singleton_append, List.cons_append, List.cons.injEq] at hcons
    obtain ⟨rfl, rfl⟩ := hcons
    exact ⟨rfl, rfl⟩
  | marked hmarker =>
    rw [List.cons_append, List.cons_append, List.cons.injEq] at hcons
    obtain ⟨rfl, -⟩ := hcons
    rcases hmarker with ⟨rfl, -⟩ | ⟨rfl, -⟩ | ⟨rfl, -⟩ <;>
      exact absurd hlead (by decide)

end Wire

theorem ColumnType.fixedLength_le {type : ColumnType} {width : Nat}
    (h : type.fixedLength = some width) : width ≤ 8 := by
  cases type <;> cases h <;> decide

namespace Execution

/-! ## One argument -/

/-- The octets of an argument as its type asks for them. -/
def IsContent (type : ColumnType) (content octets : Bytes) : Prop :=
  match type.fixedLength with
  | some width => octets = content ∧ content.length = width
  | none => Wire.IsLenEncBytes content octets

/-- **What a server takes for the octets of an argument.** -/
theorem recognizes_content (type : ColumnType) :
    Recognizes (contentReader type) (IsContent type) := by
  unfold contentReader IsContent
  cases type.fixedLength with
  | some width => exact recognizes_take width
  | none => exact recognizes_lenEncBytes_required _

/-- A server is behind by `lag` octets: they stand in front of those that it should read next.  Each
of them could be the length of a short string. -/
def IsBehind (lag : Nat) (next stream : Bytes) : Prop :=
  ∃ leftover, stream = leftover ++ next ∧ leftover.length = lag ∧
    ∀ octet ∈ leftover, octet.toNat < 251

variable {next rest stream : Bytes} {lag : Nat}

/-- If a string can be read too early, what stands in front of it moves behind it. -/
theorem exists_perm_of_append_eq {period content : Bytes}
    (h : period ++ (content ++ next) = content ++ rest) :
    ∃ leftover, rest = leftover ++ next ∧ leftover.Perm period := by
  have hearly : content <+: period ++ (content ++ next) := h ▸ List.prefix_append content rest
  have hlate : period ++ content <+: period ++ (content ++ next) :=
    List.append_assoc period content next ▸ List.prefix_append (period ++ content) next
  obtain ⟨leftover, hleftover⟩ := List.prefix_of_prefix_length_le hearly hlate (by simp)
  refine ⟨leftover, ?_, ?_⟩
  · rw [← List.append_assoc, ← hleftover, List.append_assoc] at h
    exact (List.append_cancel_left h).symm
  · have hperm : (content ++ leftover).Perm (content ++ period) :=
      hleftover ▸ List.perm_append_comm
    exact (List.perm_append_left_iff content).mp hperm

theorem isBehind_of_append_eq {period content : Bytes}
    (h : period ++ (content ++ next) = content ++ rest)
    (hperiod : ∀ octet ∈ period, octet.toNat < 251) : IsBehind period.length next rest := by
  obtain ⟨leftover, rfl, hperm⟩ := exists_perm_of_append_eq h
  exact ⟨leftover, rfl, hperm.length_eq, fun octet hoctet =>
    hperiod octet (hperm.mem_iff.mp hoctet)⟩

section

variable {leftover content front : Bytes} (hsmall : ∀ octet ∈ leftover, octet.toNat < 251)

include hsmall

/-- If a string is read without the length in front of it, that length is left as well. -/
theorem isBehind_of_take (h : leftover ++ (Wire.lenEncBytes content ++ next) = content ++ rest)
    (hshort : content.length < 251) : IsBehind (leftover.length + 1) next rest := by
  have hlength : (UInt8.ofNat content.length).toNat < 251 := by
    rwa [UInt8.toNat_ofNat_of_lt' (Nat.lt_trans hshort (by decide))]
  rw [Wire.lenEncBytes_of_lt hshort, List.cons_append, List.append_cons leftover] at h
  have hbehind := isBehind_of_append_eq h (List.forall_mem_append.mpr
    ⟨hsmall, List.forall_mem_singleton.mpr hlength⟩)
  rwa [List.length_append] at hbehind

/-- If a string is read behind its length, what stands in front of it begins with that length. -/
theorem isBehind_of_lenEncBytes
    (h : leftover ++ (Wire.lenEncBytes content ++ next) = front ++ rest)
    (hform : Wire.IsLenEncBytes content front) : IsBehind leftover.length next rest := by
  cases leftover with
  | nil =>
    -- it is read at its own place
    have hlate := reads_lenEncBytes hform.length_lt next
    have hearly : Reads lenEncBytes front (some content) := recognizes_lenEncBytes.reads hform
    rw [← List.nil_append (Wire.lenEncBytes content ++ next), h, hearly rest] at hlate
    injection hlate with _ hrest
    exact ⟨[], hrest, rfl, hsmall⟩
  | cons lead more =>
    rw [List.forall_mem_cons] at hsmall
    rw [List.cons_append] at h
    obtain ⟨hlength, hmore⟩ := hform.eq_cons hsmall.1 h.symm
    rw [Wire.lenEncBytes_of_lt (hlength ▸ hsmall.1), hlength, UInt8.ofNat_toNat,
      List.cons_append, List.append_cons more] at hmore
    have hbehind := isBehind_of_append_eq hmore (List.forall_mem_append.mpr
      ⟨hsmall.2, List.forall_mem_singleton.mpr hsmall.1⟩)
    rwa [List.length_append] at hbehind

/-- The octets of a value, read as its type asks for them. -/
theorem isBehind_of_content {v : Value} (hdata : v.data = some content)
    (h : leftover ++ (v.encodeParameter ++ next) = front ++ rest)
    (hform : IsContent v.type content front) :
    v.IsDelimited ∧ IsBehind leftover.length next rest ∨
      ¬ v.IsDelimited ∧ IsBehind (leftover.length + 1) next rest := by
  unfold Value.encodeParameter at h
  unfold IsContent at hform
  unfold Value.IsDelimited
  simp only [hdata] at h
  simp only [hdata, Option.some.injEq, forall_eq']
  cases hwidth : v.type.fixedLength with
  | some width =>
    simp only [hwidth] at hform
    obtain ⟨rfl, rfl⟩ := hform
    by_cases hformat : v.format = .binary
    · simp only [hwidth, hformat, Option.isSome_some, and_self, if_true] at h
      exact .inl ⟨⟨hformat, rfl⟩, isBehind_of_append_eq h hsmall⟩
    · have hwide := ColumnType.fixedLength_le hwidth
      simp only [hformat, false_and, if_false] at h
      exact .inr ⟨fun hfixed => hformat hfixed.1,
        isBehind_of_take hsmall h (Nat.lt_of_le_of_lt hwide (by decide))⟩
  | none =>
    simp only [hwidth] at hform
    simp only [hwidth, Option.isSome_none, Bool.false_eq_true, and_false, if_false] at h
    exact .inl ⟨hform.length_lt, isBehind_of_lenEncBytes hsmall h hform⟩

end

/-- **Whoever is behind stays behind.**  If a server that is behind gets an argument as it was
meant, it is as far behind afterwards, and one octet further if the octets of the value are not
what its type makes the server expect. -/
theorem isBehind_of_argument (v : Value) (hbehind : IsBehind lag (v.encodeParameter ++ next) stream)
    (hread : argumentReader v.isNull v.parameterType v.unsigned stream =
      .ok (Argument.ofValue v) rest) :
    v.IsDelimited ∧ IsBehind lag next rest ∨ ¬ v.IsDelimited ∧ IsBehind (lag + 1) next rest := by
  obtain ⟨leftover, rfl, rfl, hsmall⟩ := hbehind
  unfold argumentReader Argument.ofValue Value.parameterType Value.isNull at hread
  cases hdata : v.data with
  | none =>
    simp only [hdata, Option.isNone_none, if_true, Value.encodeParameter_of_none hdata,
      List.nil_append] at hread
    cases hread
    exact .inl ⟨fun content hcontent => (nomatch hdata.symm.trans hcontent),
      leftover, rfl, rfl, hsmall⟩
  | some content =>
    simp only [hdata, Option.isNone_some, Bool.false_eq_true, if_false] at hread
    have hargument := (recognizes_content v.type).map fun content =>
      (⟨v.type, v.unsigned, some content⟩ : Argument)
    obtain ⟨front, ⟨found, hform, hfound⟩, hfront⟩ := (hargument _ _ _).mp hread
    obtain rfl : content = found := by simpa using hfound
    exact isBehind_of_content hsmall hdata hfront hform

/-! ## All arguments -/

/-- **Whoever is behind never catches up**: if a server gets all arguments as they were meant, it is
behind by at least as many octets as before, and by more unless all values are what it expects. -/
theorem exists_isBehind_of_arguments {nulls position : Nat} {parameters : List Value}
    (hnulls : MarksNulls nulls position parameters)
    (hbehind : IsBehind lag (parameters.flatMap Value.encodeParameter ++ next) stream)
    (hread : argumentsFrom nulls position (parameters.map fun v => (v.parameterType, v.unsigned))
      stream = .ok (parameters.map Argument.ofValue) rest) :
    ∃ lag', lag ≤ lag' ∧ IsBehind lag' next rest ∧
      (lag' = lag → ∀ v ∈ parameters, v.IsDelimited) := by
  induction parameters generalizing position lag stream with
  | nil =>
    cases hread
    exact ⟨lag, Nat.le_refl lag, hbehind, fun _ => List.forall_mem_nil _⟩
  | cons v parameters ih =>
    rw [List.flatMap_cons, List.append_assoc] at hbehind
    rw [List.map_cons, argumentsFrom, hnulls.head] at hread
    obtain ⟨argument, between, hargument, hread⟩ := bind_eq_ok_iff.mp hread
    obtain ⟨arguments, rest', hothers, hresult⟩ := bind_eq_ok_iff.mp hread
    cases hresult
    rcases isBehind_of_argument v hbehind hargument with ⟨hv, hbehind⟩ | ⟨-, hbehind⟩
    · obtain ⟨lag', hle, hbehind, hall⟩ := ih hnulls.tail hbehind hothers
      exact ⟨lag', hle, hbehind, fun heq => List.forall_mem_cons.mpr ⟨hv, hall heq⟩⟩
    · obtain ⟨lag', hle, hbehind, -⟩ := ih hnulls.tail hbehind hothers
      exact ⟨lag', Nat.le_of_succ_le hle, hbehind, fun heq => absurd heq (by omega)⟩

/-- A server that gets all arguments as they were meant and has used up their octets got values that
are what it expects. -/
theorem isDelimited_of_arguments {parameters : List Value}
    (hread : argumentsReader parameters.length (Request.parameterBlock parameters) =
      .ok (parameters.map Argument.ofValue) []) : ∀ v ∈ parameters, v.IsDelimited := by
  cases parameters with
  | nil => exact List.forall_mem_nil _
  | cons v others =>
    rw [← List.append_nil (Request.parameterBlock _), List.length_cons,
      argumentsReader_append] at hread
    have hbehind : IsBehind 0 ((v :: others).flatMap Value.encodeParameter ++ [])
        ((v :: others).flatMap Value.encodeParameter ++ []) :=
      ⟨[], rfl, rfl, List.forall_mem_nil _⟩
    obtain ⟨lag, -, ⟨leftover, hnothing, rfl, -⟩, hall⟩ :=
      exists_isBehind_of_arguments (marksNulls_nullOctets _) hbehind hread
    rw [List.append_nil] at hnothing
    exact hall (by rw [← hnothing]; rfl)

/-- **A request is used up and read back exactly if the octets of its values are what their types
make the server expect.** -/
theorem reader_encode_eq_ok_iff (statementId : UInt32) {parameters : List Value} :
    reader parameters.length (Request.encode (.execute statementId parameters)) =
        .ok ⟨statementId, 0, 1, parameters.map Argument.ofValue⟩ [] ↔
      ∀ v ∈ parameters, v.IsDelimited := by
  rw [← List.append_nil (Request.encode _)]
  constructor
  · intro hread
    rw [reader_encode_append] at hread
    obtain ⟨arguments, rest, harguments, hresult⟩ := bind_eq_ok_iff.mp hread
    cases hresult
    rw [List.append_nil] at harguments
    exact isDelimited_of_arguments harguments
  · intro h
    exact reads_encode statementId h []

end Execution

end MySqlClient
