import Mathlib.Data.List.TakeWhile

set_option autoImplicit false

namespace SceneScript

variable {α : Type} {member : α → Bool} {items run rest : List α}

structure MaximalRun (member : α → Bool) (items run rest : List α) : Prop where
  split : items = run ++ rest
  inside : ∀ item ∈ run, member item = true
  outside : ∀ item ∈ rest.head?, member item = false

namespace MaximalRun

theorem ofList (member : α → Bool) (items : List α) :
    MaximalRun member items (items.takeWhile member) (items.dropWhile member) where
  split := List.takeWhile_append_dropWhile.symm
  inside := fun _ => List.mem_takeWhile_imp
  outside := by
    intro item first
    have stopped := List.head?_dropWhile_not member items
    rw [Option.mem_def.mp first] at stopped
    exact stopped

theorem takeWhile_rest (maximal : MaximalRun member items run rest) :
    rest.takeWhile member = [] := by
  cases rest with
  | nil => rfl
  | cons item more => simp [maximal.outside item rfl]

theorem takeWhile_eq (maximal : MaximalRun member items run rest) :
    items.takeWhile member = run := by
  rw [maximal.split, List.takeWhile_append_of_pos maximal.inside, maximal.takeWhile_rest,
    List.append_nil]

theorem dropWhile_eq (maximal : MaximalRun member items run rest) :
    items.dropWhile member = rest := by
  have whole : items.takeWhile member ++ items.dropWhile member = run ++ rest := by
    rw [List.takeWhile_append_dropWhile, maximal.split]
  rw [maximal.takeWhile_eq] at whole
  exact List.append_cancel_left whole

end MaximalRun

end SceneScript
