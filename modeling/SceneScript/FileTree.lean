import SceneScript.Path
import SceneScript.Text.Quoted
import SceneScript.Text.Utf8

set_option autoImplicit false

namespace SceneScript

inductive Entry where
  | directory
  | file (bytes : List UInt8)
deriving DecidableEq

abbrev Place := List Text

structure FileTree where
  entries : List (Place × Entry)
  rooted : ([], Entry.directory) ∈ entries
  closed : ∀ place entry, (place, entry) ∈ entries → place ≠ [] →
    (place.dropLast, Entry.directory) ∈ entries
  single : ∀ place first second, (place, first) ∈ entries → (place, second) ∈ entries →
    first = second

inductive PathFault where
  | notFound
  | notDirectory
  | isDirectory
  | nameTooLong
  | embeddedNul
deriving DecidableEq

namespace PathFault

def numbered (number : Nat) (reason : Text) (path : Path) : Text :=
  "[Errno " ++ Text.ofNat number ++ "] " ++ reason ++ ": " ++ Text.quoted path.toText

def message (path : Path) : PathFault → Text
  | notFound => numbered 2 "No such file or directory" path
  | notDirectory => numbered 20 "Not a directory" path
  | isDirectory => numbered 21 "Is a directory" path
  | nameTooLong => numbered 36 "File name too long" path
  | embeddedNul => "embedded null byte"

end PathFault

structure AccessError where
  fault : PathFault
  path : Path
deriving DecidableEq

def AccessError.message (error : AccessError) : Text := error.fault.message error.path

namespace FileTree

def empty : FileTree where
  entries := [([], .directory)]
  rooted := by simp
  closed := by simp
  single := by simp_all

def lookup (tree : FileTree) (place : Place) : Option Entry := tree.entries.lookup place

theorem mem_of_lookup {places : List (Place × Entry)} {place : Place} {entry : Entry}
    (found : places.lookup place = some entry) : (place, entry) ∈ places := by
  induction places with
  | nil => simp at found
  | cons head rest ih =>
      obtain ⟨name, value⟩ := head
      rw [List.lookup_cons] at found
      split at found
      next same =>
        simp only [Option.some.injEq] at found
        simp [eq_of_beq same, found]
      next => simp [ih found]

theorem lookup_of_mem {places : List (Place × Entry)} {place : Place} {entry : Entry}
    (found : (place, entry) ∈ places) : ∃ first, places.lookup place = some first := by
  induction places with
  | nil => simp at found
  | cons head rest ih =>
      obtain ⟨name, value⟩ := head
      rw [List.lookup_cons]
      split
      next => exact ⟨value, rfl⟩
      next apart =>
        refine ih ((List.mem_cons.mp found).resolve_left fun same => ?_)
        simp only [Prod.mk.injEq] at same
        simp [same.1] at apart

theorem lookup_eq_some_iff (tree : FileTree) (place : Place) (entry : Entry) :
    tree.lookup place = some entry ↔ (place, entry) ∈ tree.entries := by
  constructor
  · exact mem_of_lookup
  · intro found
    obtain ⟨first, known⟩ := lookup_of_mem found
    rw [lookup, known, tree.single place first entry (mem_of_lookup known) found]

def insertAfter (above : Place) (item : Place × Entry) :
    List (Place × Entry) → List (Place × Entry)
  | [] => [item]
  | other :: rest =>
      if other.1 = above then other :: item :: rest else other :: insertAfter above item rest

@[simp] theorem mem_insertAfter (above : Place) (item other : Place × Entry)
    (entries : List (Place × Entry)) :
    other ∈ insertAfter above item entries ↔ other = item ∨ other ∈ entries := by
  induction entries with
  | nil => simp [insertAfter]
  | cons first rest ih =>
      by_cases found : first.1 = above
      · simp [insertAfter, found, or_left_comm]
      · simp [insertAfter, found, ih, or_left_comm]

/-- A new entry needs a directory above it; a place that is taken keeps its entry. -/
def add (tree : FileTree) (place : Place) (entry : Entry) : FileTree :=
  if fits : (place.dropLast, Entry.directory) ∈ tree.entries ∧ tree.lookup place = none then
    { entries := insertAfter place.dropLast (place, entry) tree.entries
      rooted := by simp [tree.rooted]
      closed := by
        intro other value found apart
        rcases (mem_insertAfter _ _ _ _).mp found with same | old
        · simp only [Prod.mk.injEq] at same
          simp [same.1, fits.1]
        · simp [tree.closed other value old apart]
      single := by
        have unknown : ∀ value, (place, value) ∉ tree.entries := by
          intro value known
          rw [← lookup_eq_some_iff, fits.2] at known
          simp at known
        intro other first second one two
        simp only [mem_insertAfter, Prod.mk.injEq] at one two
        rcases one with ⟨rfl, rfl⟩ | one
        · rcases two with ⟨_, rfl⟩ | two
          · rfl
          · exact absurd two (unknown second)
        · rcases two with ⟨rfl, rfl⟩ | two
          · exact absurd one (unknown first)
          · exact tree.single other first second one two }
  else tree

def leading : Place → List Place
  | [] => [[]]
  | name :: rest => [] :: (leading rest).map (name :: ·)

def addDirectory (tree : FileTree) (place : Place) : FileTree :=
  (leading place).foldl (fun tree above => tree.add above .directory) tree

def addFile (tree : FileTree) (place : Place) (bytes : List UInt8) : FileTree :=
  (tree.addDirectory place.dropLast).add place (.file bytes)

def isDirectory (tree : FileTree) (place : Place) : Bool := tree.lookup place = some .directory

def parentName : Text := ['.', '.']

def byteLength (text : Text) : Nat := text.foldl (fun length c => length + c.utf8Size) 0

def longestName : Nat := 255

def longestPath : Nat := 4095

def follow (tree : FileTree) (place : Place) : List Text → Except PathFault Place
  | [] => .ok place
  | name :: rest =>
      if !tree.isDirectory place then .error .notDirectory
      else if name = parentName then follow tree place.dropLast rest
      else if longestName < byteLength name then .error .nameTooLong
      else if tree.lookup (place ++ [name]) = none then .error .notFound
      else follow tree (place ++ [name]) rest

end FileTree

structure Workspace where
  tree : FileTree
  directory : Place

namespace Workspace

def locate (workspace : Workspace) (path : Path) : Except PathFault Place :=
  let text := path.toText
  if '\x00' ∈ text then .error .embeddedNul
  else if FileTree.longestPath < FileTree.byteLength text then .error .nameTooLong
  else
    let start := if path.isAbsolute then [] else workspace.directory
    workspace.tree.follow start path.parts

def entry? (workspace : Workspace) (path : Path) : Except PathFault Entry :=
  match workspace.locate path with
  | .error fault => .error fault
  | .ok place =>
      match workspace.tree.lookup place with
      | some entry => .ok entry
      | none => .error .notFound

def read (workspace : Workspace) (path : Path) : Except AccessError (List UInt8) :=
  match workspace.entry? path with
  | .error fault => .error ⟨fault, path⟩
  | .ok .directory => .error ⟨.isDirectory, path⟩
  | .ok (.file bytes) => .ok bytes

/-- A path that leads nowhere is an answer; a name that no file can have is an error. -/
def entryIfAny (workspace : Workspace) (path : Path) : Except AccessError (Option Entry) :=
  match workspace.entry? path with
  | .ok entry => .ok (some entry)
  | .error .nameTooLong => .error ⟨.nameTooLong, path⟩
  | .error _ => .ok none

def resolve (workspace : Workspace) (path : Path) : Path :=
  ((Path.mk .root workspace.directory).join path).resolve

inductive ReadError where
  | access (error : AccessError)
  | encoding (error : Utf8Error)
deriving DecidableEq

def ReadError.message : ReadError → Text
  | access error => error.message
  | encoding error => error.message

def readText (workspace : Workspace) (path : Path) : Except ReadError Text :=
  match workspace.read path with
  | .error error => .error (.access error)
  | .ok bytes =>
      match Text.ofFile bytes with
      | .error error => .error (.encoding error)
      | .ok text => .ok text

end Workspace

end SceneScript
