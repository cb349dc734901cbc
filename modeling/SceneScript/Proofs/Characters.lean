import SceneScript.Cursor

set_option autoImplicit false

namespace SceneScript

namespace Text

def apartFromDigits (ranges : List (Nat × Nat)) : Bool :=
  digitZeros.all fun first =>
    !ranges.any fun range => Nat.ble range.1 (first + 9) && Nat.ble first range.2

theorem not_inRanges_of_isDigit {ranges : List (Nat × Nat)}
    (separate : apartFromDigits ranges = true) {c : Char} (digit : isDigit c = true) :
    inRanges ranges c = false := by
  simp only [isDigit, digitZero?, List.find?_isSome, Bool.and_eq_true, decide_eq_true_eq] at digit
  obtain ⟨first, listed, low, high⟩ := digit
  rw [← Bool.not_eq_true, inRanges_eq_true_iff]
  intro given
  obtain ⟨range, inTable, low', high'⟩ := given
  simp only [apartFromDigits, List.all_eq_true, Bool.not_eq_true', List.any_eq_false,
    Bool.and_eq_true, Nat.ble_eq, not_and] at separate
  have := separate first listed range inTable
  omega

theorem isBlank_of_isLetter {c : Char} (letter : isLetter c = true) : isBlank c = false :=
  not_inRanges_of_apart (by decide +kernel : apart letterRanges blankRanges = true) letter

theorem isBlank_of_isDigit {c : Char} (digit : isDigit c = true) : isBlank c = false :=
  not_inRanges_of_isDigit (by decide +kernel) digit

theorem isLetter_of_isDigit {c : Char} (digit : isDigit c = true) : isLetter c = false :=
  not_inRanges_of_isDigit (by decide +kernel) digit

end Text

namespace Cursor

theorem startsWord_of_isDigit {c : Char} (digit : Text.isDigit c = true) :
    startsWord c = false := by
  have other : c ≠ '_' := by
    intro same
    subst same
    exact absurd digit (by decide)
  simp [startsWord, Text.isLetter_of_isDigit digit, other]

theorem isBlank_of_startsWord {c : Char} (starts : startsWord c = true) :
    Text.isBlank c = false := by
  simp only [startsWord, Bool.or_eq_true, decide_eq_true_eq] at starts
  rcases starts with letter | rfl
  · exact Text.isBlank_of_isLetter letter
  · decide

theorem continuesWord_of_startsWord {c : Char} (starts : startsWord c = true) :
    continuesWord c = true := by
  simp only [startsWord, continuesWord, Bool.or_eq_true] at starts ⊢
  exact starts.elim (fun letter => .inl (.inl letter)) .inr

end Cursor

end SceneScript
