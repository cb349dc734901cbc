
set_option autoImplicit false

namespace SceneScript

variable {α : Type} [LT α] [DecidableLT α]

def insertDistinct (item : α) : List α → List α
  | [] => [item]
  | other :: rest =>
      if item < other then item :: other :: rest
      else if other < item then other :: insertDistinct item rest
      else other :: rest

def ascending (items : List α) : List α := items.foldr insertDistinct []

end SceneScript
