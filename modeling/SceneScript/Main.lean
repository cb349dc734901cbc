import SceneScript.Command.Run

set_option autoImplicit false

namespace SceneScript.Main

def placeText (place : Place) : String := String.ofList (Path.mk .root place).toText

/-- Everything at a place and below it. Links to directories below it are not followed. -/
partial def capture (tree : FileTree) (place : Place) (below : Bool) : IO FileTree := do
  let path := (← IO.currentDir) / placeText place
  if ← path.isDir then
    let tree := tree.addDirectory place
    if !below then return tree
    (← path.readDir).foldlM (fun tree found => do
      let linked := (← found.path.symlinkMetadata).type == .symlink
      capture tree (place ++ [found.fileName.toList]) !linked) tree
  else if ← path.pathExists then
    return tree.addFile place (← IO.FS.readBinFile path).toList
  else
    return tree

/-- The places that lead to a path are captured as well: a file among them stops the way. -/
def captureAll (workspace : Workspace) (paths : List Path) : IO Workspace := do
  let start := Path.mk .root workspace.directory
  let tree ← paths.foldlM (fun tree path => do
    let parts := (start.join path).parts
    let above ← (FileTree.leading parts).dropLast.foldlM (fun tree names =>
      capture tree (Path.resolveParts names) false) tree
    capture above (Path.resolveParts parts) true) workspace.tree
  return ⟨tree, workspace.directory⟩

def here : IO Workspace := do
  let place := (Path.ofText (← IO.currentDir).toString.toList).parts
  return ⟨FileTree.empty.addDirectory place, place⟩

def workspaceFor (command : Command) : IO Workspace := do
  let empty ← here
  let named ← captureAll empty (command.sources empty)
  captureAll named (command.sources named)

def printLine (line : Line) : IO Unit := do
  let stream ← match line.channel with
    | .output => IO.getStdout
    | .errors => IO.getStderr
  let shown := if ← stream.isTty then line.text else line.plain
  stream.putStrLn (String.ofList shown)

def report (outcome : Outcome) : IO UInt32 := do
  outcome.lines.forM printLine
  return outcome.exitCode.toUInt32

def abort (breakdown : Breakdown) : IO UInt32 :=
  report (.fail ("Error: " ++ breakdown.message))

def usage : Outcome := ⟨2, Command.helpText.map (.message .errors)⟩

def run (words : List String) : IO UInt32 := do
  match Command.ofArguments? (words.map String.toList) with
  | none => report usage
  | some command =>
      match command.run (← workspaceFor command) with
      | .error breakdown => abort breakdown
      | .ok outcome => report outcome

end SceneScript.Main

def main (words : List String) : IO UInt32 := SceneScript.Main.run words
