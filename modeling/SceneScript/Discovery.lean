import SceneScript.Ascending
import SceneScript.Glob.Search
import SceneScript.Manifest

set_option autoImplicit false

namespace SceneScript

namespace ScriptSettings

def pattern (settings : ScriptSettings) : Text := '*' :: settings.extension

def base? (workspace : Workspace) (root : Path) (configured : Text) :
    Except Breakdown (Option Place) :=
  let asked := root.join (Path.ofText configured)
  if '\x00' ∈ asked.toText then .error (.access ⟨.embeddedNul, asked⟩)
  else
    let path := workspace.resolve asked
    match workspace.entryIfAny path with
    | .error error => .error (.access error)
    | .ok none => .ok none
    | .ok (some _) => .ok (some path.parts)

def foundAt (workspace : Workspace) (root : Path) (settings : ScriptSettings) (configured : Text) :
    Except Breakdown (List Path) := do
  match ← base? workspace root configured with
  | none => return []
  | some base =>
      match Glob.ofText settings.pattern with
      | .error fault => throw (.pattern fault)
      | .ok glob =>
          match glob.search workspace base with
          | .error error => throw (.access error)
          | .ok found => return found

def discover (workspace : Workspace) (root : Path) (settings : ScriptSettings) :
    Except Breakdown (List Path) := do
  let found ← settings.paths.mapM (foundAt workspace root settings)
  return (ascending (found.flatten.map Path.parts)).map (Path.mk .root)

end ScriptSettings

end SceneScript
