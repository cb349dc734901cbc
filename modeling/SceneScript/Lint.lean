import SceneScript.Ascending
import SceneScript.Instruction
import SceneScript.Text.Blank

set_option autoImplicit false

namespace SceneScript

inductive Finding where
  | nothingToRun
  | emptyPath (index : Nat)
  | declaredAgain (name : Text) (times : Nat)
  | undeclared (index : Nat) (keyword : Keyword) (name : Text)
  | unreachable (index remaining : Nat)
deriving DecidableEq

namespace Finding

def placed (index : Nat) : Text := "Instruction " ++ Text.ofNat index ++ ": "

def message : Finding → Text
  | nothingToRun => "Script contains no instructions."
  | emptyPath index => placed index ++ "load_script has an empty path."
  | declaredAgain name times =>
      "Asset '" ++ name ++ "' is declared " ++ Text.ofNat times ++ " times."
  | undeclared index keyword name =>
      placed index ++ keyword.tag ++ " '" ++ name ++ "' is not declared in Assets."
  | unreachable index remaining =>
      placed index ++ Text.ofNat remaining ++ " instruction(s) after 'end' are unreachable."

end Finding

namespace Instruction

def declares : Instruction → List Text
  | assets names => names
  | _ => []

def asset? : Instruction → Option Text
  | background name => some name
  | play track => some track
  | _ => none

def loadsNothing : Instruction → Bool
  | loadScript path => path.all Text.isBlank
  | _ => false

end Instruction

namespace Program

def numbered (program : Program) : List (Instruction × Nat) := program.instructions.zipIdx 1

def errors (program : Program) : List Finding :=
  (program.numbered.filter (·.1.loadsNothing)).map fun (_, index) => .emptyPath index

def declared (program : Program) : List Text := program.instructions.flatMap Instruction.declares

def repeatedAssets (program : Program) : List Finding :=
  let names := program.declared
  ((ascending names).map fun name => (name, names.count name)).filterMap fun (name, times) =>
    if 1 < times then some (.declaredAgain name times) else none

/-- As long as nothing is declared, names are left to whoever runs the script. -/
def undeclaredAssets (program : Program) : List Finding :=
  let names := program.declared
  if names = [] then []
  else
    program.numbered.filterMap fun (instruction, index) =>
      match instruction.asset? with
      | none => none
      | some name =>
          if name ∈ names then none else some (.undeclared index instruction.keyword name)

def unreachable (program : Program) : List Finding :=
  match program.instructions.findIdx? (· = .stop) with
  | some index =>
      let remaining := program.instructions.length - (index + 1)
      if 0 < remaining then [.unreachable (index + 1) remaining] else []
  | none => []

def warnings (program : Program) : List Finding :=
  if program.instructions = [] then [.nothingToRun]
  else program.repeatedAssets ++ program.undeclaredAssets ++ program.unreachable

/-- The errors and the warnings, in words. -/
def lint (program : Program) : List Text × List Text :=
  (program.errors.map Finding.message, program.warnings.map Finding.message)

end Program

end SceneScript
