import SceneScript.Toml.Document
import SceneScript.Toml.Scalar

set_option autoImplicit false

namespace SceneScript

namespace Toml

open SceneScript.Toml.Reader

def skipComment : Reader Unit := do
  if ← take? ['#'] then
    let comment := (← get).takeWhile (· ≠ '\n')
    if comment.any (isIllegal false) then fail
    skip (· ≠ '\n')

def isBareKeyChar (c : Char) : Bool :=
  isDecimal c || ('a' ≤ c && c ≤ 'z') || ('A' ≤ c && c ≤ 'Z') || c = '-' || c = '_'

def startsKey (c : Char) : Bool := isBareKeyChar c || c = '"' || c = '\''

def readKeyPart : Reader Text := do
  let bare := (← get).takeWhile isBareKeyChar
  if bare ≠ [] then
    skip isBareKeyChar
    return bare
  else if ← take? ['\''] then readLiteral
  else if ← take? ['"'] then readBasic false .closed
  else fail

def readKey : Nat → Reader Key
  | 0 => fail
  | fuel + 1 => do
      let part ← readKeyPart
      skip isSpace
      if ← take? ['.'] then
        skip isSpace
        return part :: (← readKey fuel)
      else return [part]

def skipArraySpace : Nat → Reader Unit
  | 0 => return
  | fuel + 1 => do
      skip isSpaceOrNewline
      if (← peek) = some '#' then
        skipComment
        skipArraySpace fuel

def readScalar : Reader Toml :=
  orElse (do return (← readString?).map .string) <|
  orElse (do if ← take? "true" then return some (.boolean true) else return none) <|
  orElse (do if ← take? "false" then return some (.boolean false) else return none) <|
  orElse readDate? <|
  orElse readNumber? <|
  orElse readSpecialFloat? fail

structure Inline where
  fields : Fields
  frozen : List Key

def Inline.assign (inline : Inline) (key : Key) (value : Toml) : Except Fault Inline := do
  if inline.frozen.any (·.isPrefixOf key) then throw .malformed
  let fields ← updateNest false (insertNew (key.getLast?.getD []) value) key.dropLast inline.fields
  return ⟨fields, if value.isCollection then key :: inline.frozen else inline.frozen⟩

def roomOfDocument : Nat := 985

def roomOfArray : Nat := 2

def roomOfInline : Nat := 3

def enter (taken room : Nat) : Reader Nat :=
  if taken ≤ room then return room - taken else throw .tooDeep

mutual

def readValue (room : Nat) : Nat → Reader Toml
  | 0 => fail
  | fuel + 1 => do
      if ← take? ['['] then
        let room ← enter roomOfArray room
        skipArraySpace fuel
        if ← take? [']'] then return .array [] else return .array (← readItems room fuel)
      else if ← take? ['{'] then
        let room ← enter roomOfInline room
        skip isSpace
        if ← take? ['}'] then return .table []
        else return .table (← readPairs room fuel ⟨[], []⟩)
      else readScalar

def readItems (room : Nat) : Nat → Reader (List Toml)
  | 0 => fail
  | fuel + 1 => do
      let item ← readValue room fuel
      skipArraySpace fuel
      if ← take? [']'] then return [item]
      else if ← take? [','] then
        skipArraySpace fuel
        if ← take? [']'] then return [item] else return item :: (← readItems room fuel)
      else fail

def readPair (room : Nat) : Nat → Reader (Key × Toml)
  | 0 => fail
  | fuel + 1 => do
      let key ← readKey fuel
      if ← take? ['='] then
        skip isSpace
        return (key, ← readValue room fuel)
      else fail

def readPairs (room : Nat) : Nat → Inline → Reader Fields
  | 0, _ => fail
  | fuel + 1, inline => do
      let (key, value) ← readPair room fuel
      let inline ← inline.assign key value
      skip isSpace
      if ← take? ['}'] then return inline.fields
      else if ← take? [','] then
        skip isSpace
        readPairs room fuel inline
      else fail

end

def closing (word : Text) : Reader Unit := do
  if !(← take? word) then fail

def readStatement (fuel : Nat) (document : Document) : Reader Document := do
  let first ← peek
  if first.any startsKey then
    let (key, value) ← readPair roomOfDocument fuel
    document.assign key value
  else if ← take? ['[', '['] then
    skip isSpace
    let opened ← document.closeSection.openListItem (← readKey fuel)
    closing [']', ']']
    return opened
  else if ← take? ['['] then
    skip isSpace
    let opened ← document.closeSection.openTable (← readKey fuel)
    closing [']']
    return opened
  else return document

def readStatements (depth : Nat) : Nat → Document → Reader Document
  | 0, _ => fail
  | fuel + 1, document => do
      skip isSpace
      let document ← readStatement depth document
      skip isSpace
      skipComment
      match ← get with
      | [] => return document
      | c :: rest =>
          if c = '\n' then
            set rest
            readStatements depth fuel document
          else fail

def ofText (text : Text) : Except Fault Fields := do
  -- Every step takes at least one of every two characters that it is allowed for.
  let depth := 2 * text.length + 4
  let (document, _) ← (readStatements depth (text.length + 1) .empty).run text
  return document.fields

end Toml

end SceneScript
