import MySqlClient.Proofs.Wire.RoundTrip

/-!
# Strings before a NUL

A string with a NUL behind it can be read back if it has no zero octet of its own.  The UTF-8 form of
a text has one exactly where the text has a NUL.

* `Utf8.zero_notMem_ofString`: the octets of a text without NUL.
* `Utf8.decode?_ofString`: the octets of a text are well-formed, and are the text.
* `Reader.reads_nulTerminated`: **what stands before a NUL is read back**;
  `Reader.nulTerminated_of_notMem`: at the end of a packet the NUL may be missing.
-/

namespace MySqlClient

namespace Utf8

/-- The UTF-8 form of a character other than NUL has no zero octet. -/
theorem ne_zero_of_mem_encodeChar {c : Char} (h : c ≠ '\x00') :
    ∀ octet ∈ String.utf8EncodeChar c, octet ≠ 0 := by
  have hval : c.val.toNat ≠ 0 := by
    intro hzero
    exact h (Char.ext (UInt32.toNat_inj.mp hzero))
  have hne (n : Nat) (hn : n % 256 ≠ 0) : UInt8.ofNat n ≠ 0 := by
    intro heq
    have htoNat := congrArg UInt8.toNat heq
    rw [UInt8.toNat_ofNat'] at htoNat
    exact hn htoNat
  -- one case for each length of the form
  rw [String.utf8EncodeChar.eq_def]
  dsimp only
  split
  · exact List.forall_mem_singleton.mpr (hne _ (by omega))
  split
  · refine List.forall_mem_cons.mpr ⟨hne _ (by omega), ?_⟩
    exact List.forall_mem_singleton.mpr (hne _ (by omega))
  split
  · refine List.forall_mem_cons.mpr ⟨hne _ (by omega), ?_⟩
    refine List.forall_mem_cons.mpr ⟨hne _ (by omega), ?_⟩
    exact List.forall_mem_singleton.mpr (hne _ (by omega))
  · refine List.forall_mem_cons.mpr ⟨hne _ (by omega), ?_⟩
    refine List.forall_mem_cons.mpr ⟨hne _ (by omega), ?_⟩
    refine List.forall_mem_cons.mpr ⟨hne _ (by omega), ?_⟩
    exact List.forall_mem_singleton.mpr (hne _ (by omega))

/-- A text without NUL has no zero octet. -/
theorem zero_notMem_ofString {text : String} (h : '\x00' ∉ text.toList) :
    0 ∉ Bytes.ofString text := by
  intro hmem
  obtain ⟨c, hc, hzero⟩ := List.mem_flatMap.mp hmem
  refine ne_zero_of_mem_encodeChar (fun hnul => ?_) 0 hzero rfl
  exact h (hnul ▸ hc)

/-- The UTF-8 form of a text is well-formed, and is the text. -/
theorem decode?_ofString (text : String) : decode? (Bytes.ofString text) = some text := by
  have hencode : (Bytes.ofString text).toByteArray = text.toByteArray := String.utf8Encode_toList
  rw [decode?, hencode, String.fromUTF8?, dif_pos text.isValidUTF8]
  rfl

end Utf8

namespace Reader

variable {octets : Bytes}

/-- None of the octets is the NUL that a reader looks for. -/
theorem forall_ne_zero (h : 0 ∉ octets) : ∀ octet ∈ octets, (octet != 0) = true := by
  intro octet hoctet
  rw [bne_iff_ne]
  rintro rfl
  exact h hoctet

/-- **What stands before a NUL is read back.** -/
theorem reads_nulTerminated (h : 0 ∉ octets) :
    Reads nulTerminated (Wire.nulTerminated octets) octets := by
  intro rest
  have hall := forall_ne_zero h
  rw [nulTerminated, Wire.nulTerminated, List.append_assoc, List.takeWhile_append_of_pos hall,
    List.dropWhile_append_of_pos hall]
  simp

/-- Without a NUL everything is taken. -/
theorem nulTerminated_of_notMem (h : 0 ∉ octets) : nulTerminated octets = .ok octets [] := by
  have hall := forall_ne_zero h
  have htake : (octets ++ []).takeWhile (· != 0) = octets ++ [].takeWhile (· != 0) :=
    List.takeWhile_append_of_pos hall
  have hdrop : (octets ++ []).dropWhile (· != 0) = [].dropWhile (· != 0) :=
    List.dropWhile_append_of_pos hall
  rw [List.append_nil] at htake hdrop
  rw [nulTerminated, htake, hdrop, List.takeWhile_nil, List.append_nil, List.dropWhile_nil,
    List.drop_nil]

end Reader

end MySqlClient
