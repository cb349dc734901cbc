import SceneScript.Text.Basic

set_option autoImplicit false

namespace SceneScript

namespace Text

def isStyleParameter (c : Char) : Bool := c.isDigit || c = ';' || c = '?'

def afterStyle? : Text → Option Text
  | '\x1b' :: '[' :: rest =>
      match rest.dropWhile isStyleParameter with
      | letter :: after => if letter.isAlpha then some after else none
      | [] => none
  | _ => none

theorem length_afterStyle? {text after : Text} (found : afterStyle? text = some after) :
    after.length < text.length := by
  unfold afterStyle? at found
  split at found
  next rest =>
    have shorter := (List.dropWhile_suffix isStyleParameter (l := rest)).length_le
    split at found
    next letter left same =>
      split at found
      next =>
        simp only [Option.some.injEq] at found
        simp only [same, found, List.length_cons] at shorter
        simp only [List.length_cons]
        omega
      next => simp at found
    next => simp at found
  next => simp at found

def unstyled : Text → Text
  | [] => []
  | c :: rest =>
      match _ : afterStyle? (c :: rest) with
      | some after => unstyled after
      | none => c :: unstyled rest
termination_by text => text.length
decreasing_by
  · exact length_afterStyle? ‹_›
  · simp

theorem unstyled_of_absent {text : Text} (absent : '\x1b' ∉ text) : unstyled text = text := by
  induction text with
  | nil => rw [unstyled]
  | cons c rest ih =>
      rw [List.mem_cons, not_or] at absent
      have plain : afterStyle? (c :: rest) = none := by
        rw [afterStyle?.eq_2 _ fun _ same => absent.1 (List.cons.inj same).1.symm]
      rw [unstyled.eq_def]
      simp only
      split
      next found => rw [plain] at found; cases found
      next => rw [ih absent.2]

end Text

end SceneScript
