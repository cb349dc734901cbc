import Mathlib.Data.List.Sort
import SceneScript.Ascending

set_option autoImplicit false

namespace SceneScript

variable {α : Type} [LT α] [DecidableLT α]

section Members

variable [Std.Trichotomous (α := α) (· < ·)]

theorem mem_insertDistinct {item other : α} {items : List α} :
    other ∈ insertDistinct item items ↔ other = item ∨ other ∈ items := by
  induction items with
  | nil => simp [insertDistinct]
  | cons first rest ih =>
      rw [insertDistinct]
      split
      next => simp
      next unsorted =>
        split
        next => simp [ih, or_left_comm]
        next unordered =>
          obtain rfl : item = first := Std.Trichotomous.trichotomous item first unsorted unordered
          simp

theorem mem_ascending {item : α} {items : List α} : item ∈ ascending items ↔ item ∈ items := by
  induction items with
  | nil => simp [ascending]
  | cons first rest ih =>
      have step : ascending (first :: rest) = insertDistinct first (ascending rest) := rfl
      rw [step, mem_insertDistinct, ih, List.mem_cons]

end Members

section Order

variable [Std.Trichotomous (α := α) (· < ·)] [IsTrans α (· < ·)]

theorem pairwise_insertDistinct {item : α} {items : List α} (sorted : items.Pairwise (· < ·)) :
    (insertDistinct item items).Pairwise (· < ·) := by
  induction items with
  | nil => simp [insertDistinct]
  | cons first rest ih =>
      obtain ⟨least, ordered⟩ := List.pairwise_cons.mp sorted
      rw [insertDistinct]
      split
      next smaller =>
        refine List.pairwise_cons.mpr ⟨fun other held => ?_, sorted⟩
        rcases List.mem_cons.mp held with rfl | held
        · exact smaller
        · exact IsTrans.trans _ _ _ smaller (least other held)
      next =>
        split
        next greater =>
          refine List.pairwise_cons.mpr ⟨fun other held => ?_, ih ordered⟩
          rcases mem_insertDistinct.mp held with rfl | held
          · exact greater
          · exact least other held
        next => exact sorted

theorem pairwise_ascending (items : List α) : (ascending items).Pairwise (· < ·) := by
  induction items with
  | nil => exact .nil
  | cons first rest ih => exact pairwise_insertDistinct ih

theorem ascending_congr [Std.Asymm (α := α) (· < ·)] {items others : List α}
    (same : ∀ item, item ∈ items ↔ item ∈ others) : ascending items = ascending others := by
  refine (pairwise_ascending items).eq_of_mem_iff (pairwise_ascending others) fun item => ?_
  rw [mem_ascending, mem_ascending, same]

end Order

end SceneScript
