import MySqlClient.Text.Blank
import MySqlClient.Text.Decimal
import MySqlClient.Text.Parts

/-!
# Numerals between marks

Dates and times are written as numerals with a character between them, that is no digit.  They are
cut at these characters, and each piece is read as a number.

* `Text.splitOnce_append`, `Text.splitOnce_eq_none_iff`: where a text is cut, and when it is not.
* `Text.IsBare`: texts without white space at their ends; `Text.trim_of_isBare`, `Text.mem_trim`:
  trimming keeps them, and loses nothing but white space of others.
* `Decimal.isDigit_of_mem_padded`, `Decimal.length_padded`: what a numeral consists of, and how long
  it is.
* `Decimal.lt_of_nat?`: digits denote a number below the power of ten of their length.
* `Decimal.unsigned?_padded`: **a written numeral is read back exactly if its number is below the
  bound.**
* `Decimal.notMem_of_unsigned?`, `Decimal.unsigned?_minus`: what is not read.
* `Decimal.integer`: numerals with a sign; `Decimal.signed?_integer`, `Decimal.unsigned?_integer`:
  they are read back exactly within the range that is asked for.
-/

namespace MySqlClient

namespace Text

/-! ## Cutting at a mark -/

/-- A text is cut at the first mark. -/
theorem splitOnce_append {mark : Char} {front : List Char} (h : mark ∉ front) (back : List Char) :
    splitOnce mark (front ++ mark :: back) = some (front, back) := by
  induction front with
  | nil => exact if_pos rfl
  | cons c front ih =>
    rw [List.mem_cons, not_or] at h
    obtain ⟨hc, hfront⟩ := h
    rw [List.cons_append, splitOnce, if_neg (Ne.symm hc), ih hfront]
    rfl

/-- A text without the mark is not cut, and no other. -/
theorem splitOnce_eq_none_iff {mark : Char} {text : List Char} :
    splitOnce mark text = none ↔ mark ∉ text := by
  induction text with
  | nil => exact ⟨fun _ => List.not_mem_nil, fun _ => rfl⟩
  | cons c text ih =>
    rw [splitOnce, List.mem_cons, not_or]
    by_cases hc : c = mark
    · simp [hc]
    · rw [if_neg hc, Option.map_eq_none_iff, ih]
      exact ⟨fun htext => ⟨Ne.symm hc, htext⟩, And.right⟩

/-! ## White space at the ends -/

/-- The text begins and ends with something else than white space. -/
def IsBare (text : List Char) : Prop :=
  (∃ c rest, text = c :: rest ∧ isBlank c = false) ∧
    ∃ rest c, text = rest ++ [c] ∧ isBlank c = false

/-- What stands between bare texts does not matter. -/
theorem IsBare.append {front back : List Char} (hfront : IsBare front) (hback : IsBare back)
    (middle : List Char) : IsBare (front ++ middle ++ back) := by
  obtain ⟨⟨c, rest, rfl, hc⟩, -⟩ := hfront
  obtain ⟨-, ⟨front, c', rfl, hc'⟩⟩ := hback
  refine ⟨⟨c, rest ++ middle ++ (front ++ [c']), rfl, hc⟩, ?_⟩
  exact ⟨c :: rest ++ middle ++ front, c', (List.append_assoc _ _ _).symm, hc'⟩

/-- Text without any white space is bare. -/
theorem isBare_of_forall {text : List Char} (hne : text ≠ [])
    (h : ∀ c ∈ text, isBlank c = false) : IsBare text := by
  constructor
  · obtain ⟨c, rest, rfl⟩ := List.exists_cons_of_ne_nil hne
    exact ⟨c, rest, rfl, h c List.mem_cons_self⟩
  · have hlast := List.dropLast_concat_getLast hne
    exact ⟨text.dropLast, text.getLast hne, hlast.symm, h _ (List.getLast_mem hne)⟩

/-- **Trimming keeps bare texts.** -/
theorem trim_of_isBare {text : List Char} (h : IsBare text) : trim text = text := by
  obtain ⟨⟨c, rest, hfirst, hc⟩, rest', c', hlast, hc'⟩ := h
  have hfront : text.dropWhile isBlank = text := by
    rw [hfirst, List.dropWhile_cons_of_neg (by simp [hc])]
  have hback : text.reverse.dropWhile isBlank = text.reverse := by
    rw [hlast, List.reverse_append, List.reverse_singleton, List.singleton_append,
      List.dropWhile_cons_of_neg (by simp [hc'])]
  rw [trim, hfront, dropTrailing, hback, List.reverse_reverse]

/-- Trimming loses white space only. -/
theorem mem_trim {c : Char} {text : List Char} (h : c ∈ text) (hc : isBlank c = false) :
    c ∈ trim text := by
  have hdrop {text : List Char} (h : c ∈ text) : c ∈ text.dropWhile isBlank := by
    rw [← List.takeWhile_append_dropWhile (p := isBlank) (l := text), List.mem_append] at h
    refine h.resolve_left fun hmem => ?_
    rw [List.all_eq_true.mp List.all_takeWhile c hmem] at hc
    cases hc
  have hback := hdrop (List.mem_reverse.mpr (hdrop h))
  exact List.mem_reverse.mpr hback

end Text

namespace Decimal

/-! ## Digits -/

/-- The code points of the digits. -/
theorem toNat_of_isDigit {c : Char} (h : c.isDigit = true) : 48 ≤ c.toNat ∧ c.toNat ≤ 57 := by
  simp only [Char.isDigit, Bool.and_eq_true, decide_eq_true_eq, ge_iff_le,
    UInt32.le_iff_toNat_le] at h
  exact h

/-- No digit is white space. -/
theorem isBlank_of_isDigit {c : Char} (h : c.isDigit = true) : Text.isBlank c = false := by
  obtain ⟨hlow, hhigh⟩ := toNat_of_isDigit h
  simp only [Text.isBlank, Text.blankRanges, List.any_cons, List.any_nil, Bool.or_false,
    Bool.or_eq_false_iff, Bool.and_eq_false_iff, decide_eq_false_iff_not]
  omega

theorem isDigit_of_mem_digits {n : Nat} : ∀ c ∈ digits n, c.isDigit = true := by
  induction n using Nat.strongRecOn with
  | ind n ih =>
    intro c hc
    rcases Nat.lt_or_ge n 10 with h | h
    · rw [digits_of_lt h, List.mem_singleton] at hc
      exact hc ▸ digitChar_isDigit h
    · rw [digits_of_le h, List.mem_append, List.mem_singleton] at hc
      rcases hc with hc | rfl
      · exact ih (n / 10) (by omega) c hc
      · exact digitChar_isDigit (Nat.mod_lt n (by decide))

/-- A numeral consists of digits. -/
theorem isDigit_of_mem_padded {width n : Nat} : ∀ c ∈ padded width n, c.isDigit = true := by
  intro c hc
  rw [padded, zeroFilled, List.mem_append] at hc
  rcases hc with hzero | hdigit
  · rw [List.eq_of_mem_replicate hzero]
    rfl
  · exact isDigit_of_mem_digits c hdigit

/-- What is no digit is in no numeral. -/
theorem notMem_padded {mark : Char} (h : mark.isDigit = false) (width n : Nat) :
    mark ∉ padded width n := by
  intro hmem
  rw [isDigit_of_mem_padded mark hmem] at h
  cases h

theorem padded_ne_nil (width n : Nat) : padded width n ≠ [] := by
  simp [padded, zeroFilled, digits_ne_nil]

theorem isBare_padded (width n : Nat) : Text.IsBare (padded width n) :=
  Text.isBare_of_forall (padded_ne_nil width n) fun c hc =>
    isBlank_of_isDigit (isDigit_of_mem_padded c hc)

/-! ## Lengths -/

theorem powerOfTen_succ (count : Nat) : powerOfTen (count + 1) = powerOfTen count * 10 := rfl

theorem powerOfTen_add (m n : Nat) : powerOfTen (m + n) = powerOfTen m * powerOfTen n :=
  Nat.pow_add 10 m n

theorem powerOfTen_le {m n : Nat} (h : m ≤ n) : powerOfTen m ≤ powerOfTen n :=
  Nat.pow_le_pow_right (by decide) h

theorem powerOfTen_pos (count : Nat) : 0 < powerOfTen count :=
  Nat.pow_pos (by decide)

/-- A number below a power of ten has no more digits than the power has zeros. -/
theorem length_digits_le {count n : Nat} (hcount : 0 < count) (h : n < powerOfTen count) :
    (digits n).length ≤ count := by
  induction count generalizing n with
  | zero => exact absurd hcount (Nat.lt_irrefl 0)
  | succ count ih =>
    rw [powerOfTen_succ] at h
    rcases Nat.lt_or_ge n 10 with hn | hn
    · rw [digits_of_lt hn]
      exact Nat.le_add_left 1 count
    · have hpositive : 0 < count := by
        rcases Nat.eq_zero_or_pos count with rfl | hpos
        · exact absurd h (Nat.not_lt.mpr hn)
        · exact hpos
      have hlength := ih hpositive (n := n / 10) (by omega)
      rw [digits_of_le hn, List.length_append, List.length_singleton]
      omega

/-- A numeral has its width, if its number has no more digits. -/
theorem length_padded {width n : Nat} (hwidth : 0 < width) (h : n < powerOfTen width) :
    (padded width n).length = width := by
  have hlength := length_digits_le hwidth h
  rw [padded, zeroFilled, List.length_append, List.length_replicate]
  omega

/-- Further digits multiply what is there by ten each. -/
theorem lt_of_natFrom {value n : Nat} {text : List Char} (h : natFrom value text = some n) :
    n < (value + 1) * powerOfTen text.length := by
  induction text generalizing value with
  | nil =>
    rw [← Option.some.inj h]
    show value < (value + 1) * 1
    omega
  | cons c rest ih =>
    rw [natFrom] at h
    split at h
    · next hdigit =>
      have hdigits := toNat_of_isDigit hdigit
      have hbound : c.toNat - '0'.toNat ≤ 9 := Nat.sub_le_of_le_add hdigits.2
      have hn := ih h
      rw [List.length_cons, powerOfTen_succ]
      have hpos := powerOfTen_pos rest.length
      calc n < (10 * value + (c.toNat - '0'.toNat) + 1) * powerOfTen rest.length := hn
        _ ≤ ((value + 1) * 10) * powerOfTen rest.length := Nat.mul_le_mul_right _ (by omega)
        _ = (value + 1) * (powerOfTen rest.length * 10) := by
          rw [Nat.mul_assoc, Nat.mul_comm 10]
    · cases h

/-- **Digits denote a number below the power of ten of their length.** -/
theorem lt_of_nat? {n : Nat} {text : List Char} (h : nat? text = some n) :
    n < powerOfTen text.length := by
  cases text with
  | nil => cases h
  | cons c rest =>
    have hn : n < (0 + 1) * powerOfTen (c :: rest).length := lt_of_natFrom h
    rwa [Nat.zero_add, Nat.one_mul] at hn

/-! ## Reading back -/

/-- Whatever is read as a number consists of digits. -/
theorem isDigit_of_natFrom {value n : Nat} {text : List Char} (h : natFrom value text = some n) :
    ∀ c ∈ text, c.isDigit = true := by
  induction text generalizing value with
  | nil => exact fun c hc => absurd hc List.not_mem_nil
  | cons c rest ih =>
    rw [natFrom] at h
    split at h
    · next hdigit => exact List.forall_mem_cons.mpr ⟨hdigit, ih h⟩
    · cases h

theorem isDigit_of_nat? {n : Nat} {text : List Char} (h : nat? text = some n) :
    ∀ c ∈ text, c.isDigit = true := by
  cases text with
  | nil => cases h
  | cons c rest => exact isDigit_of_natFrom h

/-- Whatever is read as a number without sign has digits only, behind a plus sign perhaps. -/
theorem notMem_of_unsigned? {bound n : Nat} {text : List Char} {mark : Char}
    (hplus : mark ≠ '+') (hdigit : mark.isDigit = false) (h : unsigned? bound text = some n) :
    mark ∉ text := by
  have hnat {digits : List Char} (hdigits : natBelow? bound digits = some n) : mark ∉ digits := by
    rw [natBelow?_eq, Option.filter_eq_some_iff] at hdigits
    intro hmem
    rw [isDigit_of_nat? hdigits.1 mark hmem] at hdigit
    cases hdigit
  unfold unsigned? at h
  dsimp only at h
  split at h
  · exact List.not_mem_cons_of_ne_of_not_mem hplus (hnat h)
  · exact hnat h

/-- A text of digits has no sign. -/
theorem unsigned?_of_ne {bound : Nat} {text : List Char} (h : '+' ∉ text) :
    unsigned? bound text = (nat? text).filter (· < bound) := by
  unfold unsigned?
  dsimp only
  split
  · next rest => exact absurd List.mem_cons_self h
  · exact natBelow?_eq bound text

/-- A minus sign is refused. -/
theorem unsigned?_minus (bound : Nat) (text : List Char) :
    unsigned? bound ('-' :: text) = none := by
  show natBelowFrom bound 0 ('-' :: text) = none
  rw [natBelowFrom, if_neg fun h => absurd h.2 (by decide)]

/-- **A written numeral is read back exactly if its number is below the bound.** -/
theorem unsigned?_padded (bound width n : Nat) :
    unsigned? bound (padded width n) = if n < bound then some n else none := by
  rw [unsigned?_of_ne (notMem_padded rfl width n), nat?_padded]
  by_cases h : n < bound <;> simp [Option.filter, h]

/-! ## Signs -/

/-- The numeral of an integer: that of a negative one stands behind a minus sign, any other has zeros
in front up to a width. -/
def integer (width : Nat) : Int → List Char
  | .ofNat n => padded width n
  | .negSucc n => '-' :: digits (n + 1)

/-- Without a minus sign in front, a numeral is read as one that has none. -/
theorem signed?_of_head?_ne {bound : Nat} {text : List Char} (h : text.head? ≠ some '-') :
    signed? bound text = (unsigned? bound text).map fun n : Nat => (n : Int) := by
  unfold signed?
  split
  · exact absurd rfl h
  · cases unsigned? bound text <;> rfl

/-- Behind a minus sign, digits are read up to one more than the bound. -/
theorem signed?_minus (bound : Nat) (text : List Char) :
    signed? bound ('-' :: text) =
      ((nat? text).filter (· < bound + 1)).map fun n : Nat => -(n : Int) := by
  rw [signed?, natBelow?_eq]
  cases (nat? text).filter (· < bound + 1) <;> rfl

theorem nat?_digits (n : Nat) : nat? (digits n) = some n := by
  rw [nat?_of_ne_nil (digits_ne_nil n), natFrom_digits]

/-- **A numeral with a sign is read back exactly if its number is in the range.** -/
theorem signed?_integer (bound width : Nat) (n : Int) :
    signed? bound (integer width n) =
      if -(bound : Int) ≤ n ∧ n < bound then some n else none := by
  cases n with
  | ofNat n =>
    have hrange : -(bound : Int) ≤ Int.ofNat n ∧ Int.ofNat n < bound ↔ n < bound := by
      simp only [Int.ofNat_eq_natCast]
      omega
    have hsign : (padded width n).head? ≠ some '-' := fun hhead =>
      notMem_padded rfl width n (List.mem_of_mem_head? hhead)
    rw [integer, signed?_of_head?_ne hsign, unsigned?_padded]
    by_cases h : n < bound <;> simp only [hrange, h, if_true, if_false] <;> rfl
  | negSucc n =>
    have hrange : -(bound : Int) ≤ Int.negSucc n ∧ Int.negSucc n < bound ↔ n + 1 < bound + 1 := by
      omega
    rw [integer, signed?_minus, nat?_digits]
    by_cases h : n + 1 < bound + 1 <;>
      simp only [hrange, Option.filter, h, decide_true, decide_false, if_true, if_false] <;> rfl

/-- It is read as a number without sign exactly if it is one, and below the bound. -/
theorem unsigned?_integer (bound width : Nat) (n : Int) :
    unsigned? bound (integer width n) =
      if 0 ≤ n ∧ n < bound then some n.toNat else none := by
  cases n with
  | ofNat n =>
    have hrange : 0 ≤ Int.ofNat n ∧ Int.ofNat n < bound ↔ n < bound := by
      simp only [Int.ofNat_eq_natCast]
      omega
    rw [integer, unsigned?_padded]
    simp only [hrange]
    rfl
  | negSucc n =>
    have hnegative : ¬ (0 ≤ Int.negSucc n ∧ Int.negSucc n < bound) := by omega
    rw [integer, unsigned?_minus, if_neg hnegative]

end Decimal

end MySqlClient
