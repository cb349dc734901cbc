import SceneScript.Decimal.Basic

set_option autoImplicit false

namespace SceneScript

inductive NonFinite where
  | notANumber
  | infinite (negative : Bool)
deriving DecidableEq

inductive Json where
  | null
  | boolean (value : Bool)
  | integer (value : Int)
  | decimal (value : Decimal)
  | nonFinite (value : NonFinite)
  | string (text : Text)
  | array (items : List Json)
  | object (fields : List (Text × Json))

namespace Json

abbrev Fields := List (Text × Json)

def setField (key : Text) (value : Json) : Fields → Fields
  | [] => [(key, value)]
  | (other, old) :: rest =>
      if other = key then (key, value) :: rest else (other, old) :: setField key value rest

def field? (key : Text) (fields : Fields) : Option Json := fields.lookup key

theorem field?_setField (key other : Text) (value : Json) (fields : Fields) :
    field? other (setField key value fields) =
      if other = key then some value else field? other fields := by
  induction fields with
  | nil =>
      by_cases same : other = key
      · simp [setField, field?, same]
      · have apart : (other == key) = false := beq_false_of_ne same
        simp [setField, field?, List.lookup_cons, same, apart]
  | cons entry rest ih =>
      obtain ⟨name, old⟩ := entry
      simp only [field?] at ih
      by_cases first : name = key
      · subst first
        by_cases same : other = name
        · simp [setField, field?, same]
        · have apart : (other == name) = false := beq_false_of_ne same
          simp [setField, field?, List.lookup_cons, same, apart]
      · by_cases same : other = name
        · subst same
          simp [setField, field?, first]
        · have apart : (other == name) = false := beq_false_of_ne same
          simp [setField, field?, List.lookup_cons, first, apart, ih]

end Json

end SceneScript
