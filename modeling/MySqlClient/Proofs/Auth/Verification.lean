import MySqlClient.Proofs.Auth.Encryption

/-!
# How a server checks a proof

A server does not know the password.  It holds the hash of the password's hash, so that it can take
the mask off a proof and hash what is under it: this must give what it holds.

* `Bytes.xor_xor_cancel`, `Bytes.xorCyclic_xorCyclic`: what is put on twice is off again, for a mask
  that is long enough and for one that is repeated.
* `AuthPlugin.accepts_iff`: **a server accepts a proof from whoever knows something with the hash
  that it holds**, and from nobody else.
* `AuthPlugin.scramble_eq_ok`: when there is a proof at all, and which one.
* `AuthPlugin.scramble_accepted`: **the proof of the password is accepted**, and an encrypted
  password can be read again by whoever knows the seed.
-/

namespace MySqlClient

/-! ## Masks -/

namespace Bytes

/-- **A mask that is put on twice is off again**, if it covers everything. -/
theorem xor_xor_cancel {octets mask : Bytes} (h : octets.length ≤ mask.length) :
    xor (xor octets mask) mask = octets := by
  induction octets generalizing mask with
  | nil => rfl
  | cons octet octets ih =>
    cases mask with
    | nil => exact absurd h (Nat.not_succ_le_zero _)
    | cons cover mask =>
      have hrest := ih (Nat.le_of_succ_le_succ h)
      have hoctet : octet ^^^ cover ^^^ cover = octet := by
        rw [UInt8.xor_assoc, UInt8.xor_self, UInt8.xor_zero]
      show (octet ^^^ cover ^^^ cover) :: xor (xor octets mask) mask = octet :: octets
      rw [hoctet, hrest]

theorem length_xor {octets mask : Bytes} (h : octets.length = mask.length) :
    (xor octets mask).length = octets.length := by
  rw [xor, List.length_zipWith, h, Nat.min_self]

/-- Octet by octet, the bits that differ from a mask that begins again when it is used up. -/
def xorCyclic (octets mask : Bytes) : Bytes :=
  octets.mapIdx fun i octet => octet ^^^ mask.getD (i % mask.length) 0

/-- **A repeated mask that is put on twice is off again.** -/
theorem xorCyclic_xorCyclic (octets mask : Bytes) :
    xorCyclic (xorCyclic octets mask) mask = octets := by
  refine List.ext_getElem (by simp [xorCyclic]) fun i hi _ => ?_
  simp only [xorCyclic, List.getElem_mapIdx]
  rw [UInt8.xor_assoc, UInt8.xor_self, UInt8.xor_zero]

end Bytes

/-- A hidden password is the password before a NUL, under the repeated seed. -/
theorem hiddenPassword_eq (password seed : Bytes) :
    hiddenPassword password seed = (password ++ [0]).xorCyclic seed := by
  refine List.ext_getElem? fun i => ?_
  rw [hiddenPassword, Bytes.xor, List.getElem?_zipWith, Bytes.xorCyclic, List.getElem?_mapIdx]
  rcases Nat.lt_or_ge i (password ++ [(0 : UInt8)]).length with hi | hi
  · rw [Bytes.getElem?_cycle seed hi, List.getElem?_eq_getElem hi]
    rfl
  · rw [List.getElem?_eq_none hi]
    rfl

namespace AuthPlugin

/-! ## The server's side -/

/-- The hash function of a plugin. -/
def digest : AuthPlugin → Bytes → Bytes
  | native => Sha1.digest
  | cachingSha2 => Sha256.digest

/-- The length of its hashes. -/
def digestLength : AuthPlugin → Nat
  | native => 20
  | cachingSha2 => 32

/-- What a server holds for a password: the hash of its hash. -/
def stored (plugin : AuthPlugin) (password : Bytes) : Bytes :=
  plugin.digest (plugin.digest password)

/-- The mask of a proof.  The older plugin has the seed before what is stored, the newer one has it
behind. -/
def mask : AuthPlugin → (seed stored : Bytes) → Bytes
  | native, seed, stored => Sha1.digest (seed ++ stored)
  | cachingSha2, seed, stored => Sha256.digest (stored ++ seed)

/-- The check of a server: what is under the mask has the hash that is stored. -/
def Accepts (plugin : AuthPlugin) (seed stored proof : Bytes) : Prop :=
  proof.length = plugin.digestLength ∧
    plugin.digest (Bytes.xor proof (plugin.mask seed stored)) = stored

theorem length_digest (plugin : AuthPlugin) (message : Bytes) :
    (plugin.digest message).length = plugin.digestLength := by
  cases plugin with
  | native => exact Sha1.length_digest message
  | cachingSha2 => exact Sha256.length_digest message

theorem length_mask (plugin : AuthPlugin) (seed stored : Bytes) :
    (plugin.mask seed stored).length = plugin.digestLength := by
  cases plugin with
  | native => exact Sha1.length_digest (seed ++ stored)
  | cachingSha2 => exact Sha256.length_digest (stored ++ seed)

/-- **Who is accepted**: whoever puts the mask on something that has the stored hash.  For the hash
of a password, this is the password's hash. -/
theorem accepts_iff (plugin : AuthPlugin) {seed stored proof : Bytes} :
    plugin.Accepts seed stored proof ↔
      ∃ once, once.length = plugin.digestLength ∧ plugin.digest once = stored ∧
        proof = Bytes.xor once (plugin.mask seed stored) := by
  have hmask := plugin.length_mask seed stored
  constructor
  · rintro ⟨hlength, hdigest⟩
    have hcover : proof.length = (plugin.mask seed stored).length := hlength.trans hmask.symm
    refine ⟨_, ?_, hdigest, (Bytes.xor_xor_cancel (Nat.le_of_eq hcover)).symm⟩
    rw [Bytes.length_xor hcover, hlength]
  · rintro ⟨once, hlength, hdigest, rfl⟩
    have hcover : once.length = (plugin.mask seed stored).length := hlength.trans hmask.symm
    refine ⟨?_, ?_⟩
    · rw [Bytes.length_xor hcover, hlength]
    · rw [Bytes.xor_xor_cancel (Nat.le_of_eq hcover), hdigest]

/-! ## The client's proof -/

/-- The proof of a password is its hash under the mask. -/
theorem scramble_eq_ok (plugin : AuthPlugin) {password seed : Bytes} (hpassword : password ≠ [])
    (hseed : seed.length = seedLength) :
    plugin.scramble password seed =
      .ok (Bytes.xor (plugin.digest password) (plugin.mask seed (plugin.stored password))) := by
  have hempty : ¬password.isEmpty = true := fun h => hpassword (List.isEmpty_iff.mp h)
  rw [scramble.eq_def, if_neg hempty, if_neg (not_not_intro hseed)]
  cases plugin <;> rfl

/-- **A server accepts the proof of the password that it holds the hash of.**  For either plugin,
every password that is not empty and every seed of twenty octets there is a proof, and the server's
check finds what is stored; and for every password and seed, who puts the repeated seed on a hidden
password once more has the password before a NUL. -/
theorem scramble_accepted :
    (∀ (plugin : AuthPlugin) (password seed : Bytes), password ≠ [] → seed.length = 20 →
      ∃ proof, plugin.scramble password seed = .ok proof ∧
        plugin.Accepts seed (plugin.stored password) proof) ∧
    (∀ password seed : Bytes, seed ≠ [] →
      (hiddenPassword password seed).xorCyclic seed = password ++ [0]) := by
  refine ⟨fun plugin password seed hpassword hseed => ?_, fun password seed _ => ?_⟩
  · refine ⟨_, plugin.scramble_eq_ok hpassword hseed, plugin.accepts_iff.mpr ?_⟩
    exact ⟨plugin.digest password, plugin.length_digest password, rfl, rfl⟩
  · rw [hiddenPassword_eq, Bytes.xorCyclic_xorCyclic]

/-- The password `secret` and a seed for it. -/
theorem scramble_accepted_secret :
    (∃ proof, native.scramble (Bytes.ofString "secret") (List.replicate 20 7) = .ok proof ∧
        native.Accepts (List.replicate 20 7) (native.stored (Bytes.ofString "secret")) proof) ∧
      (∃ proof, cachingSha2.scramble (Bytes.ofString "secret") (List.replicate 20 7) = .ok proof ∧
        cachingSha2.Accepts (List.replicate 20 7) (cachingSha2.stored (Bytes.ofString "secret"))
          proof) ∧
      (hiddenPassword (Bytes.ofString "secret") [1, 2]).xorCyclic [1, 2] =
        Bytes.ofString "secret" ++ [0] := by
  obtain ⟨hproof, hhidden⟩ := scramble_accepted
  have hpassword : Bytes.ofString "secret" ≠ [] := by decide
  exact ⟨hproof native _ _ hpassword rfl, hproof cachingSha2 _ _ hpassword rfl,
    hhidden _ _ (List.cons_ne_nil _ _)⟩

end AuthPlugin

end MySqlClient
