import SceneScript.Toml.Basic

set_option autoImplicit false

namespace SceneScript

namespace Toml

structure Document where
  fields : Fields
  opened : List Key
  frozen : List Key
  -- Passed through by dotted keys since the last header.
  passed : List Key
  header : Key

namespace Document

def empty : Document := ⟨[], [], [], [], []⟩

def isFrozen (document : Document) (key : Key) : Bool :=
  document.frozen.any (·.isPrefixOf key)

def isOpened (document : Document) (key : Key) : Bool := document.opened.contains key

def closeSection (document : Document) : Document :=
  { document with opened := document.passed ++ document.opened, passed := [] }

def changed (document : Document) (key : Key) (update : Fields → Except Fault Fields) :
    Except Fault Document := do
  let fields ← updateNest true update key document.fields
  return { document with fields := fields }

def openTable (document : Document) (key : Key) : Except Fault Document := do
  if document.isOpened key || document.isFrozen key then throw .malformed
  let document ← document.changed key pure
  return { document with opened := key :: document.opened, header := key }

/-- Whatever was settled below the last table of the list no longer counts for the new one. -/
def openListItem (document : Document) (key : Key) : Except Fault Document := do
  if document.isFrozen key then throw .malformed
  let document ← document.changed key.dropLast (appendTable (key.getLast?.getD []))
  let settled (other : Key) : Bool := !key.isPrefixOf other
  return { document with
    opened := key :: document.opened.filter settled
    frozen := document.frozen.filter settled
    header := key }

def assign (document : Document) (key : Key) (value : Toml) : Except Fault Document := do
  let parent := document.header ++ key.dropLast
  let between := (List.range (key.length - 1)).map fun count =>
    document.header ++ key.take (count + 1)
  if between.any document.isOpened || document.isFrozen parent then throw .malformed
  let changed ← document.changed parent (insertNew (key.getLast?.getD []) value)
  let frozen :=
    if value.isCollection then (document.header ++ key) :: document.frozen else document.frozen
  return { changed with passed := between ++ document.passed, frozen := frozen }

end Document

end Toml

end SceneScript
