import SceneScript.Token
import SceneScript.Text.Numeral

set_option autoImplicit false

namespace SceneScript

inductive Instruction where
  | assets (names : List Text)
  | call (action : Text) (arguments : List Text)
  | background (name : Text)
  | play (track : Text)
  | say (text : Text)
  -- The duration stays as written.
  | wait (duration : Text)
  | stop
  | loadScript (path : Text)
deriving DecidableEq

namespace Instruction

def keyword : Instruction → Keyword
  | assets _ => .assets
  | call _ _ => .call
  | background _ => .background
  | play _ => .play
  | say _ => .say
  | wait _ => .wait
  | stop => .stop
  | loadScript _ => .loadScript

def primary : Instruction → Text
  | assets _ => "Assets"
  | call action _ => action
  | background name => name
  | play track => track
  | say text => text
  | wait duration => duration
  | stop => "end"
  | loadScript path => path

def parameters : Instruction → List Text
  | assets names => names
  | call _ arguments => arguments
  | _ => []

def render : Instruction → Text
  | assets [] => "Assets \x7b \x7d"
  | assets names => "Assets \x7b " ++ List.intercalate [' '] names ++ " \x7d"
  | call action [] => "call " ++ action
  | call action arguments =>
      "call " ++ action ++ "(" ++ List.intercalate [',', ' '] arguments ++ ")"
  | background name => "background " ++ name
  | play track => "play " ++ track
  | say text => "say \"" ++ text ++ "\""
  | wait duration => "wait " ++ duration
  | stop => "end"
  | loadScript path => "load_script \"" ++ path ++ "\""

def milliseconds (duration : Text) : Except Text.NumeralError Int := Text.readNumeral duration

end Instruction

structure UnknownTag where
  tag : Text
deriving DecidableEq

def UnknownTag.message (unknown : UnknownTag) : Text :=
  Text.quoted unknown.tag ++ " is not a valid InstructionKind"

structure Program where
  instructions : List Instruction
deriving DecidableEq

namespace Program

def render (program : Program) : Text :=
  Text.unlines (program.instructions.map Instruction.render)

def ofKind (program : Program) (kind : Keyword) : List Instruction :=
  program.instructions.filter (·.keyword = kind)

def ofTag (program : Program) (tag : Text) : Except UnknownTag (List Instruction) :=
  match Keyword.ofTag? tag with
  | some kind => .ok (program.ofKind kind)
  | none => .error ⟨tag⟩

end Program

end SceneScript
