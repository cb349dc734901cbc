import SceneScript.Text.Basic

set_option autoImplicit false

namespace SceneScript

inductive Anchor where
  | relative
  | root
  | doubleRoot
deriving DecidableEq

structure Path where
  anchor : Anchor
  parts : List Text
deriving DecidableEq

namespace Path

def anchorOf : Text → Anchor
  | '/' :: '/' :: '/' :: _ => .root
  | '/' :: '/' :: _ => .doubleRoot
  | '/' :: _ => .root
  | _ => .relative

def partsOf (text : Text) : List Text :=
  (Text.split '/' text).filter fun part => part ≠ [] ∧ part ≠ ['.']

def ofText (text : Text) : Path := ⟨anchorOf text, partsOf text⟩

def anchorText : Anchor → Text
  | .relative => []
  | .root => ['/']
  | .doubleRoot => ['/', '/']

def toText (path : Path) : Text :=
  match path.anchor, path.parts with
  | .relative, [] => ['.']
  | anchor, parts => anchorText anchor ++ List.intercalate ['/'] parts

def isAbsolute (path : Path) : Bool := path.anchor ≠ .relative

def join (path other : Path) : Path :=
  if other.isAbsolute then other else ⟨path.anchor, path.parts ++ other.parts⟩

def parent (path : Path) : Path := ⟨path.anchor, path.parts.dropLast⟩

def name (path : Path) : Text := path.parts.getLast?.getD []

def relativeTo? (path root : Path) : Option Path :=
  if path.anchor = root.anchor ∧ root.parts <+: path.parts then
    some ⟨.relative, path.parts.drop root.parts.length⟩
  else none

def resolveParts : List Text → List Text :=
  List.foldl (fun done part => if part = ['.', '.'] then done.dropLast else done ++ [part]) []

/-- Without symbolic links, following a path comes down to cancelling double dots. -/
def resolve (path : Path) : Path := ⟨.root, resolveParts path.parts⟩

end Path

end SceneScript
