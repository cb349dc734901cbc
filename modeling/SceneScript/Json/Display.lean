import SceneScript.Decimal.Shortest
import SceneScript.Json.Basic
import SceneScript.Text.Quoted

set_option autoImplicit false

namespace SceneScript

namespace Json

def shownNonFinite : NonFinite → Text
  | .notANumber => "nan"
  | .infinite false => "inf"
  | .infinite true => "-inf"

mutual

def shown : Json → Text
  | .null => "None"
  | .boolean true => "True"
  | .boolean false => "False"
  | .integer value => Text.ofInt value
  | .decimal value => value.shortestText
  | .nonFinite value => shownNonFinite value
  | .string text => Text.quoted text
  | .array items => '[' :: List.intercalate [',', ' '] (shownItems items) ++ [']']
  | .object fields => '{' :: List.intercalate [',', ' '] (shownFields fields) ++ ['}']

def shownItems : List Json → List Text
  | [] => []
  | item :: rest => shown item :: shownItems rest

def shownFields : List (Text × Json) → List Text
  | [] => []
  | (key, value) :: rest => (Text.quoted key ++ ": " ++ shown value) :: shownFields rest

end

def display : Json → Text
  | .string text => text
  | value => shown value

end Json

end SceneScript
