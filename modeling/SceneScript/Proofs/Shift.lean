import SceneScript.Proofs.Restamping
import SceneScript.Proofs.Stamp
import Mathlib.Algebra.Group.Nat.Even

set_option autoImplicit false

namespace SceneScript

open Cursor (startsWord continuesWord)

namespace Position

/-- Where a position of a text lies when the text starts at the origin; only the first line of the
text shares its columns with what stands before. -/
def behind (origin position : Position) : Position where
  line := origin.line + position.line - 1
  column := if position.line = 1 then origin.column + position.column - 1 else position.column

variable {position : Position}

theorem behind_start (origin : Position) : origin.behind .start = origin := by
  cases origin
  simp [behind, start]

theorem one_le_line_step (positive : 1 ≤ position.line) (c : Char) :
    1 ≤ (position.step c).line := by
  by_cases ends : c = '\n' <;> simp [step, ends] <;> omega

theorem one_le_line_after (positive : 1 ≤ position.line) (text : Text) :
    1 ≤ (position.after text).line := by
  induction text generalizing position with
  | nil => exact positive
  | cons c text ih => exact ih (one_le_line_step positive c)

theorem behind_step (positive : 1 ≤ position.line) (origin : Position) (c : Char) :
    origin.behind (position.step c) = (origin.behind position).step c := by
  by_cases ends : c = '\n'
  next =>
    have later : position.line + 1 ≠ 1 := by omega
    simp [behind, step, ends, later]
    omega
  next =>
    by_cases first : position.line = 1
    next =>
      simp [behind, step, ends, first]
      omega
    next => simp [behind, step, ends, first]

theorem behind_after (positive : 1 ≤ position.line) (origin : Position) (text : Text) :
    origin.behind (position.after text) = (origin.behind position).after text := by
  induction text generalizing position with
  | nil => rfl
  | cons c text ih =>
      rw [after_cons, ih (one_le_line_step positive c), behind_step positive, after_cons]

end Position

namespace Cursor

theorem continuesWord_of_isBlank {c : Char} (blank : Text.isBlank c = true) :
    continuesWord c = false := by
  by_contra continues
  simp only [continuesWord, Bool.or_eq_true, decide_eq_true_eq, Bool.not_eq_false] at continues
  rcases continues with (letter | digit) | rfl
  · rw [Text.isBlank_of_isLetter letter] at blank
    cases blank
  · rw [Text.isBlank_of_isDigit digit] at blank
    cases blank
  · exact absurd blank (by decide)

end Cursor

namespace Lexeme

variable {lexeme : Lexeme} {rest : Text}

theorem restamp_token {position : Position} (positive : 1 ≤ position.line) (origin : Position) :
    (lexeme.token position).restamp origin.behind = lexeme.token (origin.behind position) := by
  cases lexeme <;> simp [Token.restamp, token, stamp, Position.behind_after positive]

theorem even_count_raw (formed : lexeme.Formed) (closed : lexeme ≠ loneQuote) :
    Even (lexeme.raw.count '"') := by
  have free : lexeme.value.count '"' = 0 := List.count_eq_zero.mpr (quote_notMem_value formed)
  cases lexeme with
  | quoted inner =>
      replace free : inner.count '"' = 0 := free
      exact ⟨1, by simp [raw, free]⟩
  | loneQuote => exact absurd rfl closed
  | word spelling => exact ⟨0, free⟩
  | digits run => exact ⟨0, free⟩
  | mark c => exact ⟨0, free⟩

theorem Ends.append {gap further : Text} (ends : lexeme.Ends rest)
    (blank : ∀ c ∈ gap, Text.isBlank c = true) (parted : gap ≠ [])
    (alone : lexeme = loneQuote → '"' ∉ further) : lexeme.Ends (rest ++ (gap ++ further)) := by
  obtain ⟨c, others, rfl⟩ := List.exists_cons_of_ne_nil parted
  have outside : continuesWord c = false :=
    Cursor.continuesWord_of_isBlank (blank c List.mem_cons_self)
  cases lexeme with
  | word spelling =>
      cases rest with
      | nil => simpa [Ends] using outside
      | cons first rest => exact ends
  | digits run =>
      cases rest with
      | nil =>
          have apart : Apart (c :: (others ++ further)) := by simpa [Apart] using outside
          exact ends_of_apart apart (by simp)
      | cons first rest => exact ends
  | loneQuote =>
      have none : '"' ∉ c :: others :=
        List.count_eq_zero.mp (Text.count_quote_of_blank blank)
      simp only [Ends, List.mem_append, not_or] at ends ⊢
      exact ⟨ends, none, alone rfl⟩
  | quoted inner => trivial
  | mark c => trivial

end Lexeme

namespace Scans

variable {position : Position} {text : Text} {tokens : List Token}

theorem restamped (scans : Scans position text tokens) (positive : 1 ≤ position.line)
    (origin : Position) :
    Scans (origin.behind position) text (tokens.map (Token.restamp origin.behind)) := by
  induction scans with
  | done blank =>
      simp only [List.map_cons, List.map_nil, Token.restamp, Position.behind_after positive]
      exact .done blank
  | @next position gap rest lexeme tokens blank formed ends _ ih =>
      have shifted := ih (Position.one_le_line_after positive _)
      rw [Position.behind_after positive] at shifted
      rw [List.map_cons, Lexeme.restamp_token (Position.one_le_line_after positive gap),
        Position.behind_after positive]
      exact .next blank formed ends shifted

theorem of_gap {gap : Text} (blank : ∀ c ∈ gap, Text.isBlank c = true)
    (more : Scans (position.after gap) text tokens) : Scans position (gap ++ text) tokens := by
  induction gap generalizing position with
  | nil => exact more
  | cons c gap ih =>
      obtain ⟨first, others⟩ := List.forall_mem_cons.mp blank
      exact .of_blank first (ih others more)

theorem join {gap further : Text} {others : List Token} (scans : Scans position text tokens)
    (blank : ∀ c ∈ gap, Text.isBlank c = true) (parted : gap ≠ [])
    (paired : Even (text.count '"') ∨ '"' ∉ further)
    (more : Scans (position.after (text ++ gap)) further others) :
    Scans position (text ++ (gap ++ further)) (tokens.dropLast ++ others) := by
  induction scans with
  | @done position before blank' =>
      -- What the text ends with and the gap are one gap in front of the further text.
      rw [Position.after_append] at more
      exact of_gap blank' (of_gap blank more)
  | @next position before rest lexeme tokens blank' formed ends scans ih =>
      have alone (lone : lexeme = .loneQuote) : '"' ∉ further := by
        -- No quote follows this one, so the text holds an odd number of them.
        subst lone
        have none : rest.count '"' = 0 := List.count_eq_zero.mpr ends
        rcases paired with even | absent
        · simp [Text.count_quote_of_blank blank', Lexeme.raw, none] at even
        · exact absent
      have paired' : Even (rest.count '"') ∨ '"' ∉ further := by
        by_cases closed : lexeme = .loneQuote
        next => exact .inr (alone closed)
        next =>
          refine paired.imp_left fun even => ?_
          rw [List.count_append, List.count_append, Text.count_quote_of_blank blank', Nat.zero_add,
            Nat.even_add] at even
          exact even.mp (Lexeme.even_count_raw formed closed)
      have filled : tokens ≠ [] := by cases scans <;> simp
      have behind := ih paired' (by simpa [Position.after_append] using more)
      rw [List.dropLast_cons_of_ne_nil filled]
      simpa using Scans.next blank' formed (ends.append blank parted alone) behind

end Scans

theorem tokenize_join {text gap further : Text} (blank : ∀ c ∈ gap, Text.isBlank c = true)
    (parted : gap ≠ []) (paired : Even (text.count '"') ∨ '"' ∉ further) :
    tokenize (text ++ (gap ++ further)) =
      (tokenize text).dropLast ++
        (tokenize further).map (Token.restamp (Position.start.after (text ++ gap)).behind) := by
  have first := (tokenize_eq_iff text _).mp rfl
  have second := ((tokenize_eq_iff further _).mp rfl).restamped (by decide)
    (Position.start.after (text ++ gap))
  rw [Position.behind_start] at second
  exact (tokenize_eq_iff _ _).mpr (first.join blank parted paired second)

structure Token.Moved (origin : Position) (token moved : Token) : Prop where
  kind : moved.kind = token.kind
  value : moved.value = token.value
  position : moved.position = origin.behind token.position

theorem Token.forall₂_moved (origin : Position) (tokens : List Token) :
    List.Forall₂ (Token.Moved origin) tokens (tokens.map (Token.restamp origin.behind)) := by
  rw [List.forall₂_map_right_iff, List.forall₂_same]
  exact fun _ _ => ⟨rfl, rfl, rfl⟩

/-- Texts with a gap between them have the tokens of the one and then those of the other, which are
moved to the place behind the gap. -/
theorem tokenize_behind_gap {text gap further : Text} (blank : ∀ c ∈ gap, Text.isBlank c = true)
    (parted : gap ≠ []) (paired : Even (text.count '"') ∨ '"' ∉ further) :
    ∃ tokens last moved, tokenize text = tokens ++ [last] ∧ last.kind = .endOfInput ∧
      (∀ token ∈ tokens, token.kind ≠ .endOfInput) ∧
      tokenize (text ++ gap ++ further) = tokens ++ moved ∧
      List.Forall₂ (Token.Moved (Text.place (text ++ gap))) (tokenize further) moved := by
  obtain ⟨tokens, _, whole, going, _⟩ := ((tokenize_eq_iff text _).mp rfl).exists_spans []
  have joined := tokenize_join blank parted paired
  rw [whole, List.dropLast_concat, ← List.append_assoc, Position.start_after] at joined
  exact ⟨tokens, _, _, whole, rfl, going, joined, Token.forall₂_moved _ _⟩

theorem greeting_moved :
    ∃ tokens last moved, tokenize "say \"Hi" = tokens ++ [last] ∧ last.kind = .endOfInput ∧
      (∀ token ∈ tokens, token.kind ≠ .endOfInput) ∧
      tokenize ("say \"Hi".toList ++ ['\n', ' '] ++ "end".toList) = tokens ++ moved ∧
      List.Forall₂ (Token.Moved ⟨2, 2⟩) (tokenize "end") moved :=
  tokenize_behind_gap (by simpa using (by decide)) (by simp) (.inr (by decide))

end SceneScript
