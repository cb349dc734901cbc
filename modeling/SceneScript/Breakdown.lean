import SceneScript.FileTree
import SceneScript.Glob
import SceneScript.Text.Numeral

set_option autoImplicit false

namespace SceneScript

inductive Breakdown where
  | access (error : AccessError)
  | pattern (fault : Glob.Fault)
  | numeral (error : Text.NumeralError)
  | tooDeep
deriving DecidableEq

def Breakdown.message : Breakdown → Text
  | access error => error.message
  | pattern fault => fault.message
  | numeral error => error.message
  | tooDeep => "maximum recursion depth exceeded"

end SceneScript
