import SceneScript.Instruction
import SceneScript.Json.Writer

set_option autoImplicit false

namespace SceneScript

namespace Instruction

def kindField (keyword : Keyword) : Text × Json := ("kind", .string keyword.tag)

def textsToJson (texts : List Text) : Json := .array (texts.map .string)

def ownFields : Instruction → Json.Fields
  | assets names => [("names", textsToJson names)]
  | call action arguments => [("action", .string action), ("arguments", textsToJson arguments)]
  | background name => [("name", .string name)]
  | play track => [("track", .string track)]
  | say text => [("text", .string text)]
  | wait duration => [("duration", .string duration)]
  | stop => []
  | loadScript path => [("path", .string path)]

def toJson (instruction : Instruction) : Json :=
  .object (kindField instruction.keyword :: instruction.ownFields)

end Instruction

namespace Program

def toJson (program : Program) : Json :=
  .object [("instructions", .array (program.instructions.map Instruction.toJson))]

def encode (layout : Json.Layout) (program : Program) : Text := program.toJson.toText layout

def dump (indent : Option Int) (program : Program) : Except Json.IndentFault Text :=
  match Json.Layout.ofIndent indent with
  | .ok layout => .ok (program.encode layout)
  | .error fault => .error fault

end Program

end SceneScript
