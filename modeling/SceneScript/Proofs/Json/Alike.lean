import Mathlib.Data.List.Forall2
import SceneScript.Json.Basic

set_option autoImplicit false

namespace SceneScript.Json

inductive IsNumber : Json → Prop where
  | integer (value : Int) : IsNumber (.integer value)
  | decimal (value : Decimal) : IsNumber (.decimal value)
  | nonFinite (value : NonFinite) : IsNumber (.nonFinite value)

/-- The same value but for numbers and for the order of keys. -/
inductive Alike : Json → Json → Prop where
  | null : Alike .null .null
  | boolean (value : Bool) : Alike (.boolean value) (.boolean value)
  | number {value other : Json} (one : IsNumber value) (two : IsNumber other) : Alike value other
  | string (text : Text) : Alike (.string text) (.string text)
  | array {items others : List Json} (inside : List.Forall₂ Alike items others) :
      Alike (.array items) (.array others)
  | object {fields others : Fields}
      (inside : ∀ key, Option.Rel Alike (field? key fields) (field? key others)) :
      Alike (.object fields) (.object others)

mutual

theorem Alike.refl : ∀ value, Alike value value
  | .null => .null
  | .boolean value => .boolean value
  | .integer value => .number (.integer value) (.integer value)
  | .decimal value => .number (.decimal value) (.decimal value)
  | .nonFinite value => .number (.nonFinite value) (.nonFinite value)
  | .string text => .string text
  | .array items => .array (Alike.refl_items items)
  | .object fields => .object fun key => Alike.refl_field key fields

theorem Alike.refl_items : ∀ items, List.Forall₂ Alike items items
  | [] => .nil
  | item :: rest => .cons (Alike.refl item) (Alike.refl_items rest)

theorem Alike.refl_field (key : Text) :
    ∀ fields, Option.Rel Alike (field? key fields) (field? key fields)
  | [] => .none
  | (name, value) :: rest => by
      have later := Alike.refl_field key rest
      rw [field?] at later ⊢
      rw [List.lookup_cons]
      split
      · exact .some (Alike.refl value)
      · exact later

end

theorem field?_perm {fields others : Fields} (perm : fields.Perm others)
    (distinct : (fields.map Prod.fst).Nodup) (key : Text) :
    field? key fields = field? key others := by
  unfold field?
  induction perm with
  | nil => rfl
  | cons field _ ih =>
      rw [List.map_cons, List.nodup_cons] at distinct
      rw [List.lookup_cons, List.lookup_cons, ih distinct.2]
  | swap one two =>
      have apart : ¬ (key = one.1 ∧ key = two.1) := by
        rintro ⟨same, same'⟩
        simp [← same, ← same'] at distinct
      rw [List.lookup_cons, List.lookup_cons, List.lookup_cons, List.lookup_cons]
      cases first : key == one.1 with
      | false => rfl
      | true =>
          have second : (key == two.1) = false :=
            beq_false_of_ne fun same => apart ⟨eq_of_beq first, same⟩
          rw [second]
  | trans before _ ih ih' =>
      rw [ih distinct, ih' ((before.map Prod.fst).nodup_iff.mp distinct)]

theorem Alike.of_perm {fields others : Fields} (perm : fields.Perm others)
    (distinct : (fields.map Prod.fst).Nodup) : Alike (.object fields) (.object others) := by
  refine .object fun key => ?_
  rw [← field?_perm perm distinct key]
  exact Alike.refl_field key fields

end SceneScript.Json
