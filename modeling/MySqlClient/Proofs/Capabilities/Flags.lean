import MySqlClient.Capabilities

/-!
# Capability flags as sets of numbers

A word of flags is a set of numbers below 64.

* `Capabilities.Has`: the flag with a number is present; two words that have the same flags are
  equal (`Capabilities.ext_has`).
* `has_intersection`, `has_difference`, `has_set` and so on: what the operations on words are as
  operations on sets.
* `contains_iff`, `contains_flag_iff`: a word is contained in another one exactly if its flags are.
* `standardWord_ofWords`, `extendedWord_ofWords`: the two words that a set travels as;
  `ofWords_words` puts them together again, and `word_of_halves` the halves of one.
* `contains_ofWords`: the standard flags are in the standard word.
-/

namespace MySqlClient

namespace Capabilities

/-- The flag with the given number is present. -/
def Has (flags : Capabilities) (number : Nat) : Prop :=
  flags.bits.toBitVec.getLsbD number = true

variable {flags other : Capabilities} {number : Nat}

instance (flags : Capabilities) (number : Nat) : Decidable (flags.Has number) :=
  inferInstanceAs (Decidable (_ = true))

theorem Has.lt (h : flags.Has number) : number < 64 :=
  BitVec.lt_of_getLsbD h

/-- Words with the same flags are equal. -/
theorem ext_has (h : ∀ number, flags.Has number ↔ other.Has number) : flags = other := by
  have hbits : flags.bits.toBitVec = other.bits.toBitVec :=
    BitVec.eq_of_getLsbD_eq fun i _ => Bool.eq_iff_iff.mpr (h i)
  exact congrArg mk (UInt64.eq_of_toBitVec_eq hbits)

@[simp] theorem not_has_none : ¬ none.Has number := by
  simp [Has, none]

@[simp] theorem has_intersection :
    (flags.intersection other).Has number ↔ flags.Has number ∧ other.Has number := by
  simp [Has, intersection]

@[simp] theorem has_union :
    (flags.union other).Has number ↔ flags.Has number ∨ other.Has number := by
  simp [Has, union]

@[simp] theorem has_difference :
    (flags.difference other).Has number ↔ flags.Has number ∧ ¬ other.Has number := by
  have hlt : flags.Has number → number < 64 := Has.lt
  simp only [Has, difference, UInt64.toBitVec_and, UInt64.toBitVec_not, BitVec.getLsbD_and,
    BitVec.getLsbD_not, Bool.and_eq_true, decide_eq_true_eq, Bool.not_eq_true',
    Bool.not_eq_true] at hlt ⊢
  exact ⟨fun ⟨hflags, _, hother⟩ => ⟨hflags, hother⟩,
    fun ⟨hflags, hother⟩ => ⟨hflags, hlt hflags, hother⟩⟩

@[simp] theorem has_set {present : Bool} :
    (flags.set other present).Has number ↔
      flags.Has number ∧ ¬ other.Has number ∨ present = true ∧ other.Has number := by
  cases present with
  | true =>
    by_cases h : other.Has number <;> simp [set, h]
  | false => simp [set]

theorem has_flag (h : number < 64) {index : Nat} : (flag number).Has index ↔ index = number := by
  simp only [Has, flag, UInt64.toBitVec_ofNat', BitVec.getLsbD_ofNat, Nat.one_shiftLeft,
    Nat.testBit_two_pow, Bool.and_eq_true, decide_eq_true_eq]
  omega

theorem has_unionAll {sets : List Capabilities} :
    (unionAll sets).Has number ↔ ∃ flags ∈ sets, flags.Has number := by
  have hfold (start : Capabilities) :
      (sets.foldl union start).Has number ↔
        start.Has number ∨ ∃ flags ∈ sets, flags.Has number := by
    induction sets generalizing start with
    | nil => simp
    | cons first rest ih => simp [ih, or_assoc]
  simp [unionAll, hfold]

theorem contains_iff_intersection :
    flags.contains other = true ↔ flags.intersection other = other := by
  cases other
  simp [contains, intersection]

/-- **A word is contained in another one exactly if its flags are.** -/
theorem contains_iff :
    flags.contains other = true ↔ ∀ number, other.Has number → flags.Has number := by
  rw [contains_iff_intersection]
  constructor
  · intro h number hnumber
    rw [← h] at hnumber
    exact (has_intersection.mp hnumber).1
  · intro h
    refine ext_has fun number => ?_
    rw [has_intersection]
    exact and_iff_right_of_imp (h number)

/-- What both sets contain. -/
@[simp] theorem contains_intersection (flags other wanted : Capabilities) :
    (flags.intersection other).contains wanted =
      (flags.contains wanted && other.contains wanted) := by
  rw [Bool.eq_iff_iff, Bool.and_eq_true, contains_iff, contains_iff, contains_iff]
  simp only [has_intersection]
  exact ⟨fun h => ⟨fun number hwanted => (h number hwanted).1,
    fun number hwanted => (h number hwanted).2⟩,
    fun h number hwanted => ⟨h.1 number hwanted, h.2 number hwanted⟩⟩

theorem contains_flag_iff (h : number < 64) :
    flags.contains (flag number) = true ↔ flags.Has number := by
  simp [contains_iff, has_flag h]

/-- A set without a flag has nothing in common with it. -/
theorem intersection_flag (h : number < 64) (hflags : ¬ flags.Has number) :
    flags.intersection (flag number) = none := by
  refine ext_has fun index => ?_
  simp only [has_intersection, has_flag h, not_has_none, iff_false, not_and]
  rintro hindex rfl
  exact hflags hindex

theorem intersection_right_comm (first second third : Capabilities) :
    (first.intersection second).intersection third =
      (first.intersection third).intersection second :=
  ext_has fun number => by simp [and_right_comm]

@[simp] theorem none_intersection (flags : Capabilities) : none.intersection flags = none :=
  ext_has fun number => by simp

/-! ## Words -/

/-- The standard words have in common what the sets have. -/
theorem standardWord_intersection (flags other : Capabilities) :
    (flags.intersection other).standardWord = flags.standardWord &&& other.standardWord := by
  simp [intersection, standardWord]

/-- The extension words have in common what the sets have. -/
theorem extendedWord_intersection (flags other : Capabilities) :
    (flags.intersection other).extendedWord = flags.extendedWord &&& other.extendedWord := by
  apply UInt32.eq_of_toBitVec_eq
  ext i hi
  simp [intersection, extendedWord]

@[simp] theorem standardWord_ofWords (standard extended : UInt32) :
    (ofWords standard extended).standardWord = standard := by
  apply UInt32.eq_of_toBitVec_eq
  ext i hi
  simp [ofWords, standardWord]

@[simp] theorem extendedWord_ofWords (standard extended : UInt32) :
    (ofWords standard extended).extendedWord = extended := by
  have hhigh {i : Nat} (hi : i < 32) : 32 + i < 64 ∧ ¬ 32 + i < 32 ∧ i < 64 := by
    omega
  apply UInt32.eq_of_toBitVec_eq
  ext i hi
  simp [ofWords, extendedWord, hhigh hi, BitVec.getLsbD_eq_getElem hi]

/-- The two words are all of a set. -/
theorem ofWords_words (flags : Capabilities) :
    ofWords flags.standardWord flags.extendedWord = flags := by
  have hshift : (UInt64.toBitVec 32 % 64).toNat = 32 := by
    decide
  refine ext_has fun number => ?_
  by_cases hlt : number < 64
  · simp only [Has, ofWords, standardWord, extendedWord, UInt64.toBitVec_or,
      UInt32.toBitVec_toUInt64, UInt64.toBitVec_toUInt32, UInt64.toBitVec_shiftLeft,
      UInt64.toBitVec_shiftRight, BitVec.getLsbD_or, BitVec.getLsbD_setWidth,
      BitVec.shiftLeft_eq', BitVec.ushiftRight_eq', BitVec.getLsbD_shiftLeft,
      BitVec.getLsbD_ushiftRight, hshift, hlt, decide_true, Bool.true_and]
    rcases Nat.lt_or_ge number 32 with hlow | hhigh
    · simp [hlow]
    · have hback : 32 + (number - 32) = number := by
        omega
      have hsub : number - 32 < 32 := by
        omega
      simp [Nat.not_lt.mpr hhigh, hback, hsub, Nat.lt_trans hsub (by decide : 32 < 64)]
  · exact iff_of_false (fun h => hlt h.lt) fun h => hlt h.lt

/-- The two halves are all of a word. -/
theorem word_of_halves (word : UInt32) :
    word.toUInt16.toUInt32 ||| (word >>> 16).toUInt16.toUInt32 <<< 16 = word := by
  have hshift : (UInt32.toBitVec 16 % 32).toNat = 16 := by
    decide
  apply UInt32.eq_of_toBitVec_eq
  ext i hi
  simp only [UInt32.toBitVec_or, UInt16.toBitVec_toUInt32, UInt32.toBitVec_toUInt16,
    UInt32.toBitVec_shiftLeft, UInt32.toBitVec_shiftRight, BitVec.getElem_or,
    BitVec.getElem_setWidth, BitVec.getLsbD_setWidth, BitVec.shiftLeft_eq',
    BitVec.ushiftRight_eq', BitVec.getElem_shiftLeft, BitVec.getLsbD_ushiftRight, hshift]
  rcases Nat.lt_or_ge i 16 with hlow | hhigh
  · simp [hlow, BitVec.getLsbD_eq_getElem hi]
  · have hback : 16 + (i - 16) = i := by
      omega
    have hsub : i - 16 < 16 := by
      omega
    simp [Nat.not_lt.mpr hhigh, hback, hsub, BitVec.getLsbD_eq_getElem hi]

/-- The extension word has nothing to do with the standard flags. -/
theorem contains_ofWords (h : number < 32) (standard extended : UInt32) :
    (ofWords standard extended).contains (flag number) =
      standard.toBitVec.getLsbD number := by
  have hlow : number < 64 ∧ ¬ 32 ≤ number := by
    omega
  rw [Bool.eq_iff_iff, contains_flag_iff hlow.1]
  simp [Has, ofWords, h, hlow]

/-- A flag is missing if the word has nothing in common with it. -/
theorem and_standardWord_eq_zero (h : number < 64) (hword : (flag number).standardWord ≠ 0)
    (standard extended : UInt32) :
    (standard &&& (flag number).standardWord == 0) =
      !(ofWords standard extended).contains (flag number) := by
  have hcommon := standardWord_intersection (ofWords standard extended) (flag number)
  rw [standardWord_ofWords] at hcommon
  rw [← hcommon]
  by_cases hflag : (ofWords standard extended).contains (flag number) = true
  · rw [contains_iff_intersection.mp hflag, hflag, beq_eq_false_iff_ne.mpr hword]
    rfl
  · rw [intersection_flag h (mt (contains_flag_iff h).mpr hflag), Bool.eq_false_iff.mpr hflag]
    rfl

end Capabilities

end MySqlClient
