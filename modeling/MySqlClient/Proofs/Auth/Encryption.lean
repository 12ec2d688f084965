import MySqlClient.Auth.Exchange

/-!
# What an encrypted password holds

* `AuthExchange.receivedKey?`: the key that a server sends.
* `AuthExchange.IsHidden`: a password with a NUL behind it, hidden by a seed, octet by octet.
* `AuthExchange.encryptedPassword_eq_ok_iff`: **a password is encrypted with the key just received,
  or not at all.**
-/

namespace MySqlClient

/-- The octets of a repeated string. -/
theorem Bytes.getElem?_cycle (octets : Bytes) {length i : Nat} (h : i < length) :
    (octets.cycle length)[i]? = some (octets.getD (i % octets.length) 0) := by
  simp [cycle, h]

namespace Rsa

/-- What is padded leaves room for two hashes. -/
theorem le_of_pad? {entropy message block : Bytes} {size : Nat}
    (h : pad? entropy message size = some block) : message.length + 42 ≤ size := by
  unfold pad? at h
  split at h
  · next hroom => exact hroom
  · cases h

/-- What a key encrypts is longer than the message. -/
theorem PublicKey.le_length_encrypt? {entropy message cipher : Bytes} {key : PublicKey}
    (h : key.encrypt? entropy message = some cipher) : message.length + 42 ≤ cipher.length := by
  rw [length_encrypt? h]
  obtain ⟨block, hblock, -⟩ := Option.bind_eq_some_iff.mp h
  exact le_of_pad? hblock

end Rsa

namespace AuthExchange

/-- The key that a server sends: text, which NULs may follow. -/
def receivedKey? (octets : Bytes) : Option Rsa.PublicKey :=
  if (Utf8.fault? octets).isSome then none
  else Rsa.PublicKey.ofPem? (Text.dropTrailing (· = '\x00') (Utf8.lossyChars octets))

/-- A password with a NUL behind it, where each octet is changed by an octet of the seed, and the
seed begins again when it is used up. -/
def IsHidden (password seed plain : Bytes) : Prop :=
  seed ≠ [] ∧ plain.length = password.length + 1 ∧ ∀ i, i < plain.length →
    plain[i]? = some ((password ++ [0]).getD i 0 ^^^ seed.getD (i % seed.length) 0)

theorem isHidden_hiddenPassword (password : Bytes) {seed : Bytes} (h : seed ≠ []) :
    IsHidden password seed (hiddenPassword password seed) := by
  have hlength : (hiddenPassword password seed).length = password.length + 1 := by
    simp [hiddenPassword, Bytes.xor, Bytes.cycle]
  refine ⟨h, hlength, fun i hi => ?_⟩
  have hplain : i < (password ++ [(0 : UInt8)]).length := by
    rwa [List.length_append, List.length_singleton, ← hlength]
  have hoctet : (password ++ [0]).getD i 0 = (password ++ [(0 : UInt8)])[i] := by
    rw [List.getD_eq_getElem?_getD, List.getElem?_eq_getElem hplain, Option.getD_some]
  rw [hiddenPassword, Bytes.xor, List.getElem?_zipWith, Bytes.getElem?_cycle seed hplain,
    List.getElem?_eq_getElem hplain, hoctet]

variable {entropy password seed key cipher : Bytes}

/-- **A password is encrypted with the key just received**, and not without a seed. -/
theorem encryptedPassword_eq_ok_iff :
    encryptedPassword entropy password seed key = .ok cipher ↔
      seed ≠ [] ∧ ∃ publicKey, receivedKey? key = some publicKey ∧
        publicKey.encrypt? entropy (hiddenPassword password seed) = some cipher := by
  unfold encryptedPassword receivedKey?
  by_cases hseed : seed = []
  · simp [hseed]
  cases hfault : Utf8.fault? key with
  | some fault => simp [hseed]
  | none =>
    simp only [List.isEmpty_iff, hseed, if_false, Option.isSome_none, Bool.false_eq_true,
      ne_eq, not_false_eq_true, true_and]
    cases Rsa.PublicKey.ofPem? (Text.dropTrailing (· = '\x00') (Utf8.lossyChars key)) with
    | none => simp
    | some publicKey =>
      simp only [Option.some.injEq, exists_eq_left']
      cases publicKey.encrypt? entropy (hiddenPassword password seed) <;> simp

/-- An encrypted password is not the request for a key. -/
theorem ne_keyRequest_of_encryptedPassword
    (h : encryptedPassword entropy password seed key = .ok cipher) : cipher ≠ keyRequest := by
  obtain ⟨-, publicKey, -, hcipher⟩ := encryptedPassword_eq_ok_iff.mp h
  have hlong := Rsa.PublicKey.le_length_encrypt? hcipher
  rintro rfl
  simp [keyRequest] at hlong

/-- A password that is followed by a NUL is not the request for a key. -/
theorem append_zero_ne_keyRequest (password : Bytes) : password ++ [0] ≠ keyRequest := by
  intro h
  have hlast := congrArg List.getLast? h
  simp [keyRequest] at hlast

end AuthExchange

end MySqlClient
