import SceneScript.Position
import SceneScript.Text.Quoted

set_option autoImplicit false

namespace SceneScript

inductive Keyword where
  | assets
  | call
  | background
  | play
  | say
  | wait
  | stop
  | loadScript
deriving DecidableEq

namespace Keyword

def all : List Keyword := [assets, call, background, play, say, wait, stop, loadScript]

theorem mem_all (keyword : Keyword) : keyword ∈ all := by
  cases keyword <;> decide

def tag : Keyword → Text
  | assets => "assets"
  | call => "call"
  | background => "background"
  | play => "play"
  | say => "say"
  | wait => "wait"
  | stop => "end"
  | loadScript => "load_script"

def spelling : Keyword → Text
  | assets => "Assets"
  | keyword => keyword.tag

def label : Keyword → Text
  | assets => "ASSETS"
  | call => "CALL"
  | background => "BACKGROUND"
  | play => "PLAY"
  | say => "SAY"
  | wait => "WAIT"
  | stop => "END"
  | loadScript => "LOAD_SCRIPT"

def ofTag? (tag : Text) : Option Keyword := all.find? (·.tag = tag)

def ofSpelling? (word : Text) : Option Keyword := all.find? (·.spelling = word)

@[simp] theorem ofTag?_tag (keyword : Keyword) : ofTag? keyword.tag = some keyword := by
  cases keyword <;> decide

@[simp] theorem ofSpelling?_spelling (keyword : Keyword) :
    ofSpelling? keyword.spelling = some keyword := by
  cases keyword <;> decide

theorem ofTag?_eq_some_iff (tag : Text) (keyword : Keyword) :
    ofTag? tag = some keyword ↔ tag = keyword.tag := by
  constructor
  · intro found
    have := List.find?_some found
    simp at this
    exact this.symm
  · rintro rfl
    exact ofTag?_tag keyword

theorem ofSpelling?_eq_some_iff (word : Text) (keyword : Keyword) :
    ofSpelling? word = some keyword ↔ word = keyword.spelling := by
  constructor
  · intro found
    have := List.find?_some found
    simp at this
    exact this.symm
  · rintro rfl
    exact ofSpelling?_spelling keyword

theorem ofSpelling?_eq_none_iff (word : Text) :
    ofSpelling? word = none ↔ ∀ keyword : Keyword, word ≠ keyword.spelling := by
  constructor
  · intro absent keyword same
    rw [same, ofSpelling?_spelling] at absent
    cases absent
  · intro free
    cases found : ofSpelling? word with
    | none => rfl
    | some keyword =>
        exact absurd ((ofSpelling?_eq_some_iff word keyword).mp found) (free keyword)

end Keyword

inductive Kind where
  | keyword (word : Keyword)
  | identifier
  | string
  | number
  -- Only token lists made by hand hold this kind.
  | integer
  | leftBrace
  | rightBrace
  | leftParen
  | rightParen
  | comma
  | endOfInput
  | unknown
deriving DecidableEq

namespace Kind

def all : List Kind :=
  Keyword.all.map keyword ++
    [identifier, string, number, integer, leftBrace, rightBrace, leftParen, rightParen, comma,
      endOfInput, unknown]

theorem mem_all (kind : Kind) : kind ∈ all := by
  cases kind with
  | keyword word => cases word <;> decide
  | _ => decide

def label : Kind → Text
  | keyword word => word.label
  | identifier => "IDENTIFIER"
  | string => "STRING"
  | number => "NUMBER"
  | integer => "INTEGER"
  | leftBrace => "LBRACE"
  | rightBrace => "RBRACE"
  | leftParen => "LPAREN"
  | rightParen => "RPAREN"
  | comma => "COMMA"
  | endOfInput => "EOF"
  | unknown => "UNKNOWN"

def symbol : Kind → Text
  | keyword word => word.spelling
  | leftBrace => ['{']
  | rightBrace => ['}']
  | leftParen => ['(']
  | rightParen => [')']
  | comma => [',']
  | kind => kind.label

def describe : Kind → Text
  | keyword word => "keyword '" ++ word.spelling ++ "'"
  | identifier => "identifier"
  | string => "string"
  | number => "number"
  | integer => "integer"
  | endOfInput => "end of input"
  | unknown => "unknown"
  | mark => "'" ++ mark.symbol ++ "'"

def ofWord (word : Text) : Kind :=
  match Keyword.ofSpelling? word with
  | some reserved => .keyword reserved
  | none => .identifier

def ofMark (c : Char) : Kind :=
  if c = '{' then leftBrace
  else if c = '}' then rightBrace
  else if c = '(' then leftParen
  else if c = ')' then rightParen
  else if c = ',' then comma
  else unknown

end Kind

structure Token where
  kind : Kind
  value : Text
  position : Position
deriving DecidableEq

def Token.display (token : Token) : Text :=
  "Token(" ++ token.kind.label ++ ", " ++ Text.quoted token.value ++ ", "
    ++ Text.ofInt token.position.line ++ ":" ++ Text.ofInt token.position.column ++ ")"

end SceneScript
