import SceneScript.Cursor

set_option autoImplicit false

namespace SceneScript

namespace Cursor

inductive Request where
  | nextToken
  | currentChar
  | advance
  | skipBlanks
  | readWord
  | readDigits
  | readQuoted
  | drain
deriving DecidableEq

inductive Reply where
  | nothing
  | char (c : Char)
  | text (text : Text)
  | token (token : Token)
  | tokens (tokens : List Token)
deriving DecidableEq

def perform (cursor : Cursor) : Request → Reply × Cursor
  | .nextToken => (.token cursor.next.1, cursor.next.2)
  | .currentChar =>
      match cursor.ahead with
      | [] => (.nothing, cursor)
      | c :: _ => (.char c, cursor)
  | .advance => (.nothing, cursor.advance 1)
  | .skipBlanks => (.nothing, cursor.skipBlanks)
  | .readWord => (.text cursor.readWord.1, cursor.readWord.2)
  | .readDigits => (.text cursor.readDigits.1, cursor.readDigits.2)
  | .readQuoted =>
      match cursor.readQuoted with
      | (some inner, after) => (.text inner, after)
      | (none, after) => (.nothing, after)
  | .drain => (.tokens cursor.drain.1, cursor.drain.2)

def run : Cursor → List Request → List (Reply × Cursor)
  | _, [] => []
  | cursor, request :: rest =>
      let step := cursor.perform request
      step :: run step.2 rest

end Cursor

end SceneScript
