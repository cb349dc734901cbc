import SceneScript.Token
import SceneScript.Text.Blank
import SceneScript.Text.Digit
import SceneScript.Text.Letter

set_option autoImplicit false

namespace SceneScript

structure Cursor where
  offset : Nat
  position : Position
  ahead : Text
deriving DecidableEq

namespace Cursor

def ofText (text : Text) : Cursor := ⟨0, .start, text⟩

def advance (cursor : Cursor) (count : Nat) : Cursor where
  offset := cursor.offset + (cursor.ahead.take count).length
  position := cursor.position.after (cursor.ahead.take count)
  ahead := cursor.ahead.drop count

def readRun (member : Char → Bool) (cursor : Cursor) : Text × Cursor :=
  let run := cursor.ahead.takeWhile member
  (run, cursor.advance run.length)

def skipBlanks (cursor : Cursor) : Cursor := (cursor.readRun Text.isBlank).2

def startsWord (c : Char) : Bool := Text.isLetter c || c = '_'

def continuesWord (c : Char) : Bool := Text.isLetter c || Text.isDigit c || c = '_'

def readWord (cursor : Cursor) : Text × Cursor := cursor.readRun continuesWord

def readDigits (cursor : Cursor) : Text × Cursor := cursor.readRun Text.isDigit

/-- The character under the cursor counts as the opening quote, whatever it is. -/
def readQuoted (cursor : Cursor) : Option Text × Cursor :=
  let inner := cursor.ahead.tail.takeWhile (· ≠ '"')
  if '"' ∈ cursor.ahead.tail then (some inner, cursor.advance (inner.length + 2))
  else (none, cursor.advance 1)

def nextAt (cursor : Cursor) (first : Char) : Token × Cursor :=
  if startsWord first then
    let (word, after) := cursor.readWord
    (⟨.ofWord word, word, after.position⟩, after)
  else if first = '"' then
    match cursor.readQuoted with
    | (some inner, after) => (⟨.string, inner, after.position⟩, after)
    | (none, after) => (⟨.unknown, [], after.position⟩, after)
  else if Text.isDigit first then
    let (digits, after) := cursor.readDigits
    (⟨.number, digits, after.position⟩, after)
  else (⟨.ofMark first, [first], cursor.position⟩, cursor.advance 1)

def next (cursor : Cursor) : Token × Cursor :=
  let cursor := cursor.skipBlanks
  match cursor.ahead with
  | [] => (⟨.endOfInput, [], cursor.position⟩, cursor)
  | first :: _ => cursor.nextAt first

@[simp] theorem ahead_advance (cursor : Cursor) (count : Nat) :
    (cursor.advance count).ahead = cursor.ahead.drop count := rfl

theorem drop_length_takeWhile (member : Char → Bool) (text : Text) :
    text.drop (text.takeWhile member).length = text.dropWhile member := by
  induction text with
  | nil => rfl
  | cons c rest ih => cases held : member c <;> simp [held, ih]

theorem ahead_readRun (member : Char → Bool) (cursor : Cursor) :
    (cursor.readRun member).2.ahead = cursor.ahead.dropWhile member :=
  drop_length_takeWhile member cursor.ahead

theorem ahead_skipBlanks (cursor : Cursor) :
    cursor.skipBlanks.ahead = cursor.ahead.dropWhile Text.isBlank :=
  ahead_readRun Text.isBlank cursor

theorem length_readRun {member : Char → Bool} {cursor : Cursor} {first : Char} {rest : Text}
    (ahead : cursor.ahead = first :: rest) (starts : member first = true) :
    (cursor.readRun member).2.ahead.length < cursor.ahead.length := by
  have shorter := (List.dropWhile_suffix member (l := rest)).length_le
  simp only [ahead_readRun, ahead, List.dropWhile_cons, starts, ↓reduceIte, List.length_cons]
  omega

theorem length_readQuoted {cursor : Cursor} {first : Char} {rest : Text}
    (ahead : cursor.ahead = first :: rest) :
    cursor.readQuoted.2.ahead.length < cursor.ahead.length := by
  unfold readQuoted
  split
  next =>
    simp only [ahead_advance, List.length_drop, ahead, List.length_cons]
    omega
  next => simp [ahead]

theorem length_nextAt {cursor : Cursor} {first : Char} {rest : Text}
    (ahead : cursor.ahead = first :: rest) :
    (cursor.nextAt first).2.ahead.length < cursor.ahead.length := by
  unfold nextAt
  split
  next starts =>
    refine length_readRun ahead ?_
    simp only [startsWord, continuesWord, Bool.or_eq_true] at starts ⊢
    exact starts.elim (fun letter => .inl (.inl letter)) .inr
  next =>
    split
    next =>
      have shorter := length_readQuoted ahead
      split <;> simp_all
    next =>
      split
      next digit => exact length_readRun ahead digit
      next => simp [ahead]

theorem length_next {cursor : Cursor} (more : cursor.next.1.kind ≠ .endOfInput) :
    cursor.next.2.ahead.length < cursor.ahead.length := by
  have skipped : cursor.skipBlanks.ahead.length ≤ cursor.ahead.length := by
    rw [ahead_skipBlanks]
    exact (List.dropWhile_suffix Text.isBlank).length_le
  cases ahead : cursor.skipBlanks.ahead with
  | nil => simp [next, ahead] at more
  | cons first rest =>
      simp only [next, ahead]
      exact Nat.lt_of_lt_of_le (length_nextAt ahead) skipped

def drain (cursor : Cursor) : List Token × Cursor :=
  let step := cursor.next
  if _ : step.1.kind = .endOfInput then ([step.1], step.2)
  else
    let (tokens, final) := drain step.2
    (step.1 :: tokens, final)
termination_by cursor.ahead.length
decreasing_by exact length_next ‹_›

theorem drain_eq (cursor : Cursor) :
    cursor.drain =
      if cursor.next.1.kind = .endOfInput then ([cursor.next.1], cursor.next.2)
      else (cursor.next.1 :: cursor.next.2.drain.1, cursor.next.2.drain.2) := by
  rw [drain]
  split <;> rfl

end Cursor

def tokenize (text : Text) : List Token := (Cursor.ofText text).drain.1

end SceneScript
