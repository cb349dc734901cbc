import SceneScript.Text.Basic

set_option autoImplicit false

namespace SceneScript

structure Position where
  line : Int
  column : Int
deriving DecidableEq

namespace Position

def start : Position := ⟨1, 1⟩

def step (position : Position) (c : Char) : Position :=
  if c = '\n' then ⟨position.line + 1, 1⟩ else ⟨position.line, position.column + 1⟩

def after (position : Position) (text : Text) : Position := text.foldl step position

@[simp] theorem after_nil (position : Position) : position.after [] = position := rfl

@[simp] theorem after_cons (position : Position) (c : Char) (text : Text) :
    position.after (c :: text) = (position.step c).after text := rfl

theorem after_append (position : Position) (first second : Text) :
    position.after (first ++ second) = (position.after first).after second := by
  simp [after]

end Position

end SceneScript
