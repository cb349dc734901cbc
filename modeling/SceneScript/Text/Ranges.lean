import SceneScript.Text.Basic

set_option autoImplicit false

namespace SceneScript.Text

def inRanges (ranges : List (Nat × Nat)) (c : Char) : Bool :=
  ranges.any fun range => range.1 ≤ c.toNat && c.toNat ≤ range.2

theorem inRanges_eq_true_iff (ranges : List (Nat × Nat)) (c : Char) :
    inRanges ranges c = true ↔ ∃ range ∈ ranges, range.1 ≤ c.toNat ∧ c.toNat ≤ range.2 := by
  simp [inRanges]

def apart (left right : List (Nat × Nat)) : Bool :=
  left.all fun a => right.all fun b => a.2 < b.1 || b.2 < a.1

theorem not_inRanges_of_apart {left right : List (Nat × Nat)} (separate : apart left right = true)
    {c : Char} (member : inRanges left c = true) : inRanges right c = false := by
  obtain ⟨a, inLeft, low, high⟩ := (inRanges_eq_true_iff left c).mp member
  rw [← Bool.not_eq_true, inRanges_eq_true_iff]
  rintro ⟨b, inRight, low', high'⟩
  simp only [apart, List.all_eq_true, Bool.or_eq_true, decide_eq_true_eq] at separate
  have := separate a inLeft b inRight
  omega

end SceneScript.Text
