import SceneScript.Decimal.Shortest
import SceneScript.Json.Basic
import SceneScript.Text.Quoted

set_option autoImplicit false

namespace SceneScript

namespace Json

inductive Layout where
  | compact
  | indented (width : Nat)
deriving DecidableEq

inductive IndentFault where
  | negative
  | tooLarge
deriving DecidableEq

def IndentFault.message : IndentFault → Text
  | negative => "can't convert negative int to unsigned"
  | tooLarge => "int too big to convert"

namespace Layout

def ofIndent (indent : Option Int) : Except IndentFault Layout :=
  match indent with
  | none => .ok compact
  | some width =>
      if width < 0 then .error .negative
      else if 0xffffffffffffffff < width then .error .tooLarge
      else .ok (indented width.toNat)

def lineBreak (layout : Layout) (depth : Nat) : Text :=
  match layout with
  | compact => []
  | indented width => '\n' :: List.replicate (width * depth) ' '

def afterKey : Layout → Text
  | compact => [':']
  | indented _ => [':', ' ']

end Layout

def escapedChar (c : Char) : Text :=
  if c = '"' ∨ c = '\\' then ['\\', c]
  else if c = '\x08' then ['\\', 'b']
  else if c = '\t' then ['\\', 't']
  else if c = '\n' then ['\\', 'n']
  else if c = '\x0c' then ['\\', 'f']
  else if c = '\r' then ['\\', 'r']
  else if c.toNat < 0x20 then '\\' :: 'u' :: Text.hexadecimal 4 c.toNat
  else [c]

def writeString (text : Text) : Text := '"' :: text.flatMap escapedChar ++ ['"']

def writeNonFinite : NonFinite → Text
  | .notANumber => "NaN"
  | .infinite false => "Infinity"
  | .infinite true => "-Infinity"

mutual

def write (layout : Layout) (depth : Nat) : Json → Text
  | .null => "null"
  | .boolean true => "true"
  | .boolean false => "false"
  | .integer value => Text.ofInt value
  | .decimal value => value.shortestText
  | .nonFinite value => writeNonFinite value
  | .string text => writeString text
  | .array [] => ['[', ']']
  | .array (first :: rest) =>
      '[' :: layout.lineBreak (depth + 1) ++ write layout (depth + 1) first
        ++ writeItems layout (depth + 1) rest ++ layout.lineBreak depth ++ [']']
  | .object [] => ['{', '}']
  | .object ((key, value) :: rest) =>
      '{' :: layout.lineBreak (depth + 1) ++ writeString key ++ layout.afterKey
        ++ write layout (depth + 1) value ++ writeFields layout (depth + 1) rest
        ++ layout.lineBreak depth ++ ['}']

def writeItems (layout : Layout) (depth : Nat) : List Json → Text
  | [] => []
  | item :: rest =>
      ',' :: layout.lineBreak depth ++ write layout depth item ++ writeItems layout depth rest

def writeFields (layout : Layout) (depth : Nat) : List (Text × Json) → Text
  | [] => []
  | (key, value) :: rest =>
      ',' :: layout.lineBreak depth ++ writeString key ++ layout.afterKey
        ++ write layout depth value ++ writeFields layout depth rest

end

def toText (layout : Layout) (value : Json) : Text := write layout 0 value

end Json

end SceneScript
