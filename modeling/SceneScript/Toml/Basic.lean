import SceneScript.Text.Numeral

set_option autoImplicit false

namespace SceneScript

inductive Toml where
  | string (text : Text)
  | integer (value : Int)
  | float (written : Text)
  | boolean (value : Bool)
  | date (written : Text)
  | array (items : List Toml)
  | table (fields : List (Text × Toml))

namespace Toml

abbrev Fields := List (Text × Toml)

abbrev Key := List Text

inductive Fault where
  | malformed
  | numeral (error : Text.NumeralError)
  | tooDeep
deriving DecidableEq

def isCollection : Toml → Bool
  | array _ | table _ => true
  | _ => false

def setField (name : Text) (value : Toml) : Fields → Fields
  | [] => [(name, value)]
  | (other, old) :: rest =>
      if other = name then (name, value) :: rest else (other, old) :: setField name value rest

def updateNest (throughLists : Bool) (update : Fields → Except Fault Fields) :
    Key → Fields → Except Fault Fields
  | [], fields => update fields
  | name :: rest, fields =>
      match fields.lookup name with
      | none => do
          let inner ← updateNest throughLists update rest []
          return setField name (.table inner) fields
      | some (.table inner) => do
          let inner ← updateNest throughLists update rest inner
          return setField name (.table inner) fields
      | some (.array items) =>
          match throughLists, items.getLast? with
          | true, some (.table inner) => do
              let inner ← updateNest throughLists update rest inner
              return setField name (.array (items.dropLast ++ [.table inner])) fields
          | _, _ => .error .malformed
      | some _ => .error .malformed

def insertNew (name : Text) (value : Toml) (fields : Fields) : Except Fault Fields :=
  match fields.lookup name with
  | none => .ok (setField name value fields)
  | some _ => .error .malformed

def appendTable (name : Text) (fields : Fields) : Except Fault Fields :=
  match fields.lookup name with
  | none => .ok (setField name (.array [.table []]) fields)
  | some (.array items) => .ok (setField name (.array (items ++ [.table []])) fields)
  | some _ => .error .malformed

end Toml

end SceneScript
