/-!
# Parts of a text

* `Text.splitOnce`: what comes before and behind the first occurrence of a character.
* `Text.parts`: what comes between all its occurrences.
-/

namespace MySqlClient.Text

/-- What comes before and behind the first occurrence of a character. -/
def splitOnce (mark : Char) : List Char → Option (List Char × List Char)
  | [] => none
  | c :: rest =>
    if c = mark then some ([], rest)
    else (splitOnce mark rest).map fun (before, behind) => (c :: before, behind)

theorem splitOnce_eq_some {mark : Char} {text before behind : List Char}
    (h : splitOnce mark text = some (before, behind)) :
    text = before ++ mark :: behind ∧ mark ∉ before := by
  induction text generalizing before with
  | nil => simp [splitOnce] at h
  | cons c rest ih =>
    rw [splitOnce] at h
    split at h
    · next hc =>
      simp only [Option.some.injEq, Prod.mk.injEq] at h
      obtain ⟨rfl, rfl⟩ := h
      simp [hc]
    · next hc =>
      simp only [Option.map_eq_some_iff, Prod.mk.injEq] at h
      obtain ⟨⟨front, back⟩, hsplit, rfl, rfl⟩ := h
      obtain ⟨rfl, hmem⟩ := ih hsplit
      simp [hmem, Ne.symm hc]

/-- What comes between the occurrences of a character. -/
def parts (mark : Char) : List Char → List (List Char)
  | [] => [[]]
  | c :: rest =>
    if c = mark then [] :: parts mark rest
    else match parts mark rest with
      | [] => [[c]]
      | part :: more => (c :: part) :: more

end MySqlClient.Text
