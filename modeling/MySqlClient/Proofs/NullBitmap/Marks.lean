import MySqlClient.NullBitmap
import MySqlClient.Proofs.Wire.RoundTrip

/-!
# The marks of a NULL bitmap

Marking a position changes no other: a bitmap made of marks has exactly these.

* `NullBitmap.isNull_setNull`: what marking one position does to all of them.
* `NullBitmap.isNull_ofMarks`: **the positions of a bitmap are NULL where the marks say so.**
* `NullBitmap.reads_reader`: a bitmap is read back from its octets, if there are as many as its
  count asks for.
-/

namespace MySqlClient.NullBitmap

/-- Two bits of an octet are the same or have nothing in common. -/
theorem mask_and_mask (p q : Nat) :
    mask p &&& mask q = if p % 8 = q % 8 then mask p else 0 := by
  have h : ∀ a b : Fin 8, UInt8.ofNat (1 <<< a.val) &&& UInt8.ofNat (1 <<< b.val) =
      if a.val = b.val then UInt8.ofNat (1 <<< a.val) else 0 := by
    decide
  exact h ⟨p % 8, Nat.mod_lt _ (by decide)⟩ ⟨q % 8, Nat.mod_lt _ (by decide)⟩

theorem mask_ne_zero (p : Nat) : mask p ≠ 0 := by
  have h : ∀ a : Fin 8, UInt8.ofNat (1 <<< a.val) ≠ 0 := by
    decide
  exact h ⟨p % 8, Nat.mod_lt _ (by decide)⟩

theorem or_and_right (a b c : UInt8) : (a ||| b) &&& c = (a &&& c) ||| (b &&& c) := by
  apply UInt8.eq_of_toBitVec_eq
  ext i hi
  simp [Bool.and_or_distrib_right]

theorem or_ne_zero (a b : UInt8) : (a ||| b != 0) = (a != 0 || b != 0) := by
  rw [Bool.eq_iff_iff]
  simp only [bne_iff_ne, ne_eq, Bool.or_eq_true, UInt8.or_eq_zero_iff]
  exact Decidable.not_and_iff_not_or_not

/-- **Marking a position makes it NULL, and changes no other.** -/
theorem isNull_setNull {bitmap : NullBitmap} {position : Nat}
    (h : (position + bitmap.offset) / 8 < bitmap.bytes.length) (other : Nat) :
    (bitmap.setNull position).isNull other = (bitmap.isNull other || position == other) := by
  simp only [isNull, setNull, List.getElem?_modify]
  by_cases hoctet : (position + bitmap.offset) / 8 = (other + bitmap.offset) / 8
  · obtain ⟨octet, hget⟩ : ∃ octet, bitmap.bytes[(other + bitmap.offset) / 8]? = some octet :=
      ⟨_, List.getElem?_eq_getElem (hoctet ▸ h)⟩
    simp only [hoctet, hget, if_true, Option.map_eq_map, Option.map_some, or_and_right,
      mask_and_mask, or_ne_zero]
    congr 1
    by_cases hbit : (position + bitmap.offset) % 8 = (other + bitmap.offset) % 8
    · have heq : position = other := by omega
      simpa [heq] using mask_ne_zero _
    · have hne : position ≠ other := by
        rintro rfl
        exact hbit rfl
      simp [hbit, hne]
  · have hne : position ≠ other := by
      rintro rfl
      exact hoctet rfl
    simp [hoctet, hne]

@[simp] theorem isNull_clear (count offset position : Nat) :
    (clear count offset).isNull position = false := by
  simp only [isNull, clear]
  split
  · next octet hget =>
    rw [List.getElem?_replicate] at hget
    split at hget
    · cases hget
      simp
    · cases hget
  · rfl

/-! ## Several marks -/

/-- Mark a position, or leave it. -/
def mark (bitmap : NullBitmap) (pair : Bool × Nat) : NullBitmap :=
  if pair.1 then bitmap.setNull pair.2 else bitmap

theorem ofMarks_eq (offset : Nat) (marks : List Bool) :
    ofMarks offset marks = marks.zipIdx.foldl mark (clear marks.length offset) := rfl

@[simp] theorem offset_mark (bitmap : NullBitmap) (pair : Bool × Nat) :
    (bitmap.mark pair).offset = bitmap.offset := by
  unfold mark
  split <;> rfl

@[simp] theorem length_mark (bitmap : NullBitmap) (pair : Bool × Nat) :
    (bitmap.mark pair).bytes.length = bitmap.bytes.length := by
  unfold mark
  split
  · exact length_setNull _ _
  · rfl

theorem isNull_mark {bitmap : NullBitmap} {position : Nat}
    (h : (position + bitmap.offset) / 8 < bitmap.bytes.length) (marked : Bool) (other : Nat) :
    (bitmap.mark (marked, position)).isNull other =
      (bitmap.isNull other || (marked && position == other)) := by
  cases marked
  · simp [mark]
  · simp [mark, isNull_setNull h]

@[simp] theorem offset_foldl_mark (pairs : List (Bool × Nat)) (bitmap : NullBitmap) :
    (pairs.foldl mark bitmap).offset = bitmap.offset := by
  induction pairs generalizing bitmap with
  | nil => rfl
  | cons pair pairs ih => rw [List.foldl_cons, ih, offset_mark]

@[simp] theorem length_foldl_mark (pairs : List (Bool × Nat)) (bitmap : NullBitmap) :
    (pairs.foldl mark bitmap).bytes.length = bitmap.bytes.length := by
  induction pairs generalizing bitmap with
  | nil => rfl
  | cons pair pairs ih => rw [List.foldl_cons, ih, length_mark]

/-- Marking positions one after the other, from `start` on. -/
theorem isNull_foldl_mark (marks : List Bool) (start : Nat) (bitmap : NullBitmap)
    (h : ∀ i < marks.length, (start + i + bitmap.offset) / 8 < bitmap.bytes.length) (other : Nat) :
    ((marks.zipIdx start).foldl mark bitmap).isNull other =
      (bitmap.isNull other || (decide (start ≤ other) && marks.getD (other - start) false)) := by
  induction marks generalizing start bitmap with
  | nil => simp
  | cons marked marks ih =>
    have hfirst := h 0 (Nat.succ_pos _)
    rw [Nat.add_zero] at hfirst
    have hrest : ∀ i < marks.length, (start + 1 + i + (bitmap.mark (marked, start)).offset) / 8 <
        (bitmap.mark (marked, start)).bytes.length := by
      intro i hi
      rw [offset_mark, length_mark, Nat.add_assoc start, Nat.add_comm 1]
      exact h (i + 1) (Nat.succ_lt_succ hi)
    rw [List.zipIdx_cons, List.foldl_cons, ih _ _ hrest, isNull_mark hfirst, Bool.or_assoc]
    congr 1
    rcases Nat.lt_trichotomy other start with hlt | rfl | hgt
    · have hle : ¬ start ≤ other := by omega
      have hle' : ¬ start + 1 ≤ other := by omega
      have hne : start ≠ other := by omega
      simp [hle, hle', hne]
    · have hle' : ¬ other + 1 ≤ other := by omega
      simp [hle']
    · have hle : start ≤ other := by omega
      have hle' : start + 1 ≤ other := by omega
      have hne : start ≠ other := by omega
      have hindex : other - start = other - (start + 1) + 1 := by omega
      simp [hle, hle', hne, hindex]

/-- **The positions of a bitmap are NULL where the marks say so.** -/
theorem isNull_ofMarks (offset : Nat) (marks : List Bool) (position : Nat) :
    (ofMarks offset marks).isNull position = marks.getD position false := by
  have h : ∀ i < marks.length,
      (0 + i + (clear marks.length offset).offset) / 8 <
        (clear marks.length offset).bytes.length := by
    intro i hi
    rw [length_clear, byteLength]
    show (0 + i + offset) / 8 < _
    omega
  rw [ofMarks_eq, isNull_foldl_mark marks 0 _ h]
  simp

@[simp] theorem offset_ofMarks (offset : Nat) (marks : List Bool) :
    (ofMarks offset marks).offset = offset := by
  rw [ofMarks_eq, offset_foldl_mark]
  rfl

/-- A bitmap is what its octets say. -/
theorem mk_bytes_ofMarks (offset : Nat) (marks : List Bool) :
    NullBitmap.mk offset (ofMarks offset marks).bytes = ofMarks offset marks := by
  have hoffset := offset_ofMarks offset marks
  generalize ofMarks offset marks = bitmap at hoffset ⊢
  rw [← hoffset]

@[simp] theorem length_ofMarks (offset : Nat) (marks : List Bool) :
    (ofMarks offset marks).bytes.length = byteLength marks.length offset := by
  rw [ofMarks_eq, length_foldl_mark, length_clear]

/-! ## Octets -/

/-- A bitmap is read back from its octets. -/
theorem reads_reader {bitmap : NullBitmap} {count offset : Nat} (hoffset : bitmap.offset = offset)
    (hlength : bitmap.bytes.length = byteLength count offset) :
    Reader.Reads (reader count offset) bitmap.bytes bitmap := by
  subst hoffset
  exact (Reader.reads_take_of_length_eq hlength).map (NullBitmap.mk bitmap.offset)

end MySqlClient.NullBitmap
