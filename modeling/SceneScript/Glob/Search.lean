import SceneScript.FileTree
import SceneScript.Glob

set_option autoImplicit false

namespace SceneScript

namespace FileTree

def directoriesFrom (tree : FileTree) (place : Place) : List Place :=
  (tree.entries.filter fun (other, entry) =>
    entry = .directory && place.isPrefixOf other).map Prod.fst

def children (tree : FileTree) (place : Place) : List (Text × Entry) :=
  tree.entries.filterMap fun (other, entry) =>
    match other.getLast? with
    | some name => if other.dropLast = place then some (name, entry) else none
    | none => none

end FileTree

namespace Glob

/-- A place may be reached over double dots, so how it is shown is kept beside it. -/
structure Found where
  shown : List Text
  place : Place
deriving DecidableEq

namespace Found

def down (found : Found) (names : List Text) : Found :=
  ⟨found.shown ++ names, found.place ++ names⟩

end Found

def enter (workspace : Workspace) (directory : Bool) (name : Text) (found : Found) :
    Except AccessError (List Found) :=
  let shown := found.shown ++ [name]
  match workspace.entryIfAny ⟨.root, shown⟩ with
  | .error error => .error error
  | .ok none => .ok []
  | .ok (some entry) =>
      if directory && entry ≠ .directory then .ok []
      else
        match workspace.locate ⟨.root, shown⟩ with
        | .ok place => .ok [⟨shown, place⟩]
        | .error _ => .ok []

def select (workspace : Workspace) (directoriesOnly : Bool) :
    List Stage → Found → Except AccessError (List Found)
  | [], found => .ok [found]
  | stage :: rest, found => do
      let onlyDirectories := directoriesOnly || !rest.isEmpty
      let reached ←
        match stage with
        | .anyDepth =>
            pure ((workspace.tree.directoriesFrom found.place).map fun place =>
              found.down (place.drop found.place.length))
        | .matching wilds =>
            pure ((workspace.tree.children found.place).filterMap fun (name, entry) =>
              if (!onlyDirectories || entry = .directory) && Wild.fits wilds name then
                some (found.down [name])
              else none)
        | .named name => enter workspace onlyDirectories name found
      return (← reached.mapM (select workspace directoriesOnly rest)).flatten

-- The tree is taken to hold no name or path that is too long, so that walking down never fails.
def search (glob : Glob) (workspace : Workspace) (base : Place) :
    Except AccessError (List Path) := do
  if workspace.tree.isDirectory base then
    let found ← select workspace glob.directoriesOnly (.anyDepth :: glob.stages) ⟨base, base⟩
    return found.map fun item => ⟨.root, item.shown⟩
  else return []

end Glob

end SceneScript
