import SceneScript.Cursor.Request
import SceneScript.Proofs.Stamp

set_option autoImplicit false

namespace SceneScript

namespace Cursor

variable {cursor after : Cursor} {text : Text}

/-- What the cursor has counted is true of the text behind it, and the rest of the text is ahead. -/
structure StandsIn (cursor : Cursor) (text : Text) : Prop where
  within : cursor.offset ≤ text.length
  position : cursor.position = Text.place (text.take cursor.offset)
  ahead : cursor.ahead = text.drop cursor.offset

theorem standsIn_iff : cursor.StandsIn text ↔
    ∃ passed, text = passed ++ cursor.ahead ∧ cursor.offset = passed.length ∧
      cursor.position = Position.start.after passed := by
  constructor
  · intro stands
    refine ⟨text.take cursor.offset, ?_, ?_, ?_⟩
    · rw [stands.ahead, List.take_append_drop]
    · rw [List.length_take, Nat.min_eq_left stands.within]
    · rw [stands.position, Position.start_after]
  · intro given
    obtain ⟨passed, rfl, offset, position⟩ := given
    constructor
    case within => simp [offset]
    case position => rw [position, Position.start_after, offset, List.take_left]
    case ahead => rw [offset, List.drop_left]

def Onward (cursor after : Cursor) : Prop := ∃ count, after = cursor.advance count

namespace Onward

theorem refl (cursor : Cursor) : cursor.Onward cursor :=
  ⟨0, by simp [advance]⟩

theorem trans {last : Cursor} (first : cursor.Onward after) (second : after.Onward last) :
    cursor.Onward last := by
  obtain ⟨count, rfl⟩ := first
  obtain ⟨further, rfl⟩ := second
  refine ⟨count + further, ?_⟩
  simp [advance, List.take_add, Position.after_append, Nat.add_assoc]

theorem standsIn (onward : cursor.Onward after) (stands : cursor.StandsIn text) :
    after.StandsIn text := by
  obtain ⟨count, rfl⟩ := onward
  obtain ⟨passed, rfl, offset, position⟩ := standsIn_iff.mp stands
  refine standsIn_iff.mpr ⟨passed ++ cursor.ahead.take count, ?_, ?_, ?_⟩
  · rw [ahead_advance, List.append_assoc, List.take_append_drop]
  · simp [advance, offset]
  · simp [advance, position, Position.after_append]

theorem offset_le (onward : cursor.Onward after) : cursor.offset ≤ after.offset := by
  obtain ⟨count, rfl⟩ := onward
  exact Nat.le_add_right ..

theorem offset_lt (onward : cursor.Onward after)
    (shorter : after.ahead.length < cursor.ahead.length) : cursor.offset < after.offset := by
  obtain ⟨count, rfl⟩ := onward
  simp only [ahead_advance, List.length_drop] at shorter
  simp only [advance, List.length_take]
  omega

theorem eq_of_end (onward : cursor.Onward after) (ended : cursor.ahead = []) : after = cursor := by
  obtain ⟨count, rfl⟩ := onward
  cases cursor
  simp_all [advance]

end Onward

theorem onward_readRun (member : Char → Bool) (cursor : Cursor) :
    cursor.Onward (cursor.readRun member).2 := ⟨_, rfl⟩

theorem onward_readQuoted (cursor : Cursor) : cursor.Onward cursor.readQuoted.2 := by
  unfold readQuoted
  split <;> exact ⟨_, rfl⟩

theorem onward_nextAt (cursor : Cursor) (first : Char) :
    cursor.Onward (cursor.nextAt first).2 := by
  unfold nextAt
  split
  next => exact onward_readRun continuesWord cursor
  next =>
    split
    next =>
      have onward := onward_readQuoted cursor
      split <;> simp_all
    next =>
      split
      next => exact onward_readRun Text.isDigit cursor
      next => exact ⟨1, rfl⟩

theorem onward_next (cursor : Cursor) : cursor.Onward cursor.next.2 := by
  have skipped : cursor.Onward cursor.skipBlanks := onward_readRun Text.isBlank cursor
  simp only [next]
  split
  next => exact skipped
  next first _ _ => exact skipped.trans (onward_nextAt cursor.skipBlanks first)

theorem drain_ended_of_scans {position : Position} {ahead : Text} {tokens : List Token}
    (scans : Scans position ahead tokens) (offset : Nat) :
    (⟨offset, position, ahead⟩ : Cursor).drain.2 =
        ⟨offset + ahead.length, position.after ahead, []⟩ ∧
      tokens.getLast? = some ⟨.endOfInput, [], position.after ahead⟩ := by
  -- A drain takes the tokens of the scan one by one; the offset, which no scan knows, goes along.
  induction scans generalizing offset with
  | done blank =>
      rw [drain_eq, next_of_blank _ _ blank]
      exact ⟨rfl, rfl⟩
  | @next position gap rest lexeme tokens blank formed ends more ih =>
      have going : (lexeme.token (position.after gap)).kind ≠ .endOfInput :=
        lexeme.kind_ne_endOfInput
      obtain ⟨drained, last⟩ := ih (offset + gap.length + lexeme.raw.length)
      constructor
      · rw [drain_eq, next_of_lexeme _ _ blank formed ends]
        simp only [going, ↓reduceIte, drained]
        simp [Position.after_append, Nat.add_assoc]
      · rw [List.getLast?_cons, last]
        simp [Position.after_append]

theorem drain_ended (cursor : Cursor) :
    cursor.drain.2 = cursor.advance cursor.ahead.length ∧
      cursor.drain.1.getLast? = some ⟨.endOfInput, [], cursor.drain.2.position⟩ := by
  obtain ⟨offset, position, ahead⟩ := cursor
  obtain ⟨tokens, scans⟩ := Scans.exists_tokens position ahead
  obtain ⟨drained, last⟩ := drain_ended_of_scans scans offset
  rw [drained, drain_of_scans scans, last]
  simp [advance]

theorem next_ended {cursor : Cursor} (ended : cursor.next.1.kind = .endOfInput) :
    cursor.next.2.ahead = [] ∧ cursor.next.1 = ⟨.endOfInput, [], cursor.next.2.position⟩ := by
  obtain ⟨offset, position, ahead⟩ := cursor
  obtain ⟨tokens, scans⟩ := Scans.exists_tokens position ahead
  cases scans with
  | done blank =>
      rw [next_of_blank _ _ blank]
      exact ⟨rfl, rfl⟩
  | next blank formed ends _ =>
      rw [next_of_lexeme _ _ blank formed ends] at ended
      exact absurd ended (Lexeme.kind_ne_endOfInput _)

theorem onward_perform (cursor : Cursor) (request : Request) :
    cursor.Onward (cursor.perform request).2 := by
  cases request with
  | nextToken => exact onward_next cursor
  | currentChar =>
      simp only [perform]
      split <;> exact .refl cursor
  | advance => exact ⟨1, rfl⟩
  | skipBlanks => exact onward_readRun Text.isBlank cursor
  | readWord => exact onward_readRun continuesWord cursor
  | readDigits => exact onward_readRun Text.isDigit cursor
  | readQuoted =>
      have onward := onward_readQuoted cursor
      simp only [perform]
      split <;> simp_all
  | drain => exact ⟨_, cursor.drain_ended.1⟩

def reached : Cursor → List Request → Cursor
  | cursor, [] => cursor
  | cursor, request :: rest => reached (cursor.perform request).2 rest

theorem run_append (cursor : Cursor) (earlier later : List Request) :
    cursor.run (earlier ++ later) = cursor.run earlier ++ (cursor.reached earlier).run later := by
  induction earlier generalizing cursor with
  | nil => rfl
  | cons request earlier ih => simp [run, reached, ih]

theorem onward_reached (cursor : Cursor) (requests : List Request) :
    cursor.Onward (cursor.reached requests) := by
  induction requests generalizing cursor with
  | nil => exact .refl cursor
  | cons request rest ih => exact (onward_perform cursor request).trans (ih _)

def Reply.ending? : Reply → Option Token
  | .token found => if found.kind = .endOfInput then some found else none
  | .tokens list => list.getLast?
  | _ => none

structure Exhausted (cursor : Cursor) (last : Token) : Prop where
  ended : last.kind = .endOfInput
  still : ∀ requests, ∀ step ∈ cursor.run requests, step.2 = cursor
  again : ∀ (requests : List Request) (index : Nat), requests[index]? = some .nextToken →
    (cursor.run requests)[index]? = some (.token last, cursor)

theorem exhausted_of_end (ended : cursor.ahead = []) :
    cursor.Exhausted ⟨.endOfInput, [], cursor.position⟩ := by
  -- No request gets past the end, and so each finds the same cursor as the one before it.
  have stays (request : Request) : (cursor.perform request).2 = cursor :=
    (onward_perform cursor request).eq_of_end ended
  have last : cursor.perform .nextToken = (.token ⟨.endOfInput, [], cursor.position⟩, cursor) := by
    have skipped : cursor.skipBlanks = cursor :=
      (onward_readRun Text.isBlank cursor).eq_of_end ended
    simp [perform, next, skipped, ended]
  constructor
  case ended => rfl
  case still =>
    intro requests
    induction requests with
    | nil => simp [run]
    | cons request rest ih =>
        intro step held
        simp only [run, stays, List.mem_cons] at held
        rcases held with rfl | held
        · exact stays request
        · exact ih step held
  case again =>
    intro requests index asked
    induction requests generalizing index with
    | nil => simp at asked
    | cons request rest ih =>
        simp only [run, stays]
        cases index with
        | zero =>
            obtain rfl : request = .nextToken := by simpa using asked
            simp [last]
        | succ index => simpa using ih index (by simpa using asked)

structure Keeps (text : Text) (before : Cursor) (request : Request) (step : Reply × Cursor) :
    Prop where
  standsIn : step.2.StandsIn text
  forward : before.offset ≤ step.2.offset
  progress : request = .nextToken → ∃ token, step.1 = .token token ∧
    (token.kind = .endOfInput ∨ before.offset < step.2.offset)
  drained : request = .drain → step.1.ending?.isSome
  exhausted : ∀ last, step.1.ending? = some last → step.2.Exhausted last

theorem exhausted_perform {request : Request} {last : Token}
    (ending : (cursor.perform request).1.ending? = some last) :
    (cursor.perform request).2.Exhausted last := by
  cases request with
  | nextToken =>
      simp only [perform, Reply.ending?, Option.ite_none_right_eq_some, Option.some.injEq] at ending
      obtain ⟨ended, rfl⟩ := ending
      obtain ⟨nothing, closing⟩ := next_ended ended
      rw [closing]
      exact exhausted_of_end nothing
  | drain =>
      obtain ⟨drained, closing⟩ := cursor.drain_ended
      simp only [perform, Reply.ending?, closing, Option.some.injEq] at ending
      rw [← ending]
      exact exhausted_of_end (by simp [perform, drained])
  | currentChar =>
      simp only [perform] at ending
      split at ending <;> simp [Reply.ending?] at ending
  | readQuoted =>
      simp only [perform] at ending
      split at ending <;> simp [Reply.ending?] at ending
  | _ => simp [perform, Reply.ending?] at ending

theorem keeps_perform (stands : cursor.StandsIn text) (request : Request) :
    Keeps text cursor request (cursor.perform request) where
  standsIn := (onward_perform cursor request).standsIn stands
  forward := (onward_perform cursor request).offset_le
  progress := by
    rintro rfl
    refine ⟨cursor.next.1, rfl, ?_⟩
    by_cases ended : cursor.next.1.kind = .endOfInput
    next => exact .inl ended
    next => exact .inr ((onward_next cursor).offset_lt (length_next ended))
  drained := by
    rintro rfl
    simp [perform, Reply.ending?, cursor.drain_ended.2]
  exhausted := fun _ ending => exhausted_perform ending

theorem standsIn_ofText (text : Text) : (ofText text).StandsIn text :=
  ⟨Nat.zero_le _, rfl, rfl⟩

/-- Whatever is asked of a cursor and in which order, it knows where in the text it stands; it moves
on with every token, until the end of input stops it for good. -/
theorem run_keeps_place (text : Text) (earlier : List Request) (request : Request)
    (later : List Request) :
    let before := (ofText text).reached earlier
    let step := before.perform request
    (ofText text).run (earlier ++ request :: later) =
        (ofText text).run earlier ++ step :: step.2.run later ∧
      Keeps text before request step := by
  intro before step
  have stands := (onward_reached (ofText text) earlier).standsIn (standsIn_ofText text)
  exact ⟨run_append _ earlier (request :: later), keeps_perform stands request⟩

end Cursor

end SceneScript
