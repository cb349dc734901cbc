import SceneScript.Proofs.Characters
import SceneScript.Proofs.MaximalRun

set_option autoImplicit false

namespace SceneScript

open Cursor (startsWord continuesWord)

inductive Lexeme where
  | word (spelling : Text)
  | digits (run : Text)
  | quoted (inner : Text)
  | loneQuote
  | mark (c : Char)

namespace Lexeme

def raw : Lexeme → Text
  | word spelling => spelling
  | digits run => run
  | quoted inner => '"' :: (inner ++ ['"'])
  | loneQuote => ['"']
  | mark c => [c]

def kind : Lexeme → Kind
  | word spelling => .ofWord spelling
  | digits _ => .number
  | quoted _ => .string
  | loneQuote => .unknown
  | mark c => .ofMark c

def value : Lexeme → Text
  | word spelling => spelling
  | digits run => run
  | quoted inner => inner
  | loneQuote => []
  | mark c => [c]

def Formed : Lexeme → Prop
  | word spelling => (∃ first more, spelling = first :: more ∧ startsWord first = true) ∧
      ∀ c ∈ spelling, continuesWord c = true
  | digits run => run ≠ [] ∧ ∀ c ∈ run, Text.isDigit c = true
  | quoted inner => '"' ∉ inner
  | loneQuote => True
  | mark c =>
      startsWord c = false ∧ Text.isDigit c = false ∧ c ≠ '"' ∧ Text.isBlank c = false

def Ends : Lexeme → Text → Prop
  | word _, rest => ∀ c ∈ rest.head?, continuesWord c = false
  | digits _, rest => ∀ c ∈ rest.head?, Text.isDigit c = false
  | loneQuote, rest => '"' ∉ rest
  | _, _ => True

/-- Marks are stamped where they stand, all other lexemes where they end. -/
def stamp (lexeme : Lexeme) (before : Position) : Position :=
  match lexeme with
  | mark _ => before
  | _ => before.after lexeme.raw

def token (lexeme : Lexeme) (before : Position) : Token :=
  ⟨lexeme.kind, lexeme.value, lexeme.stamp before⟩

variable {lexeme : Lexeme}

theorem raw_of_formed (formed : lexeme.Formed) :
    ∃ first more, lexeme.raw = first :: more ∧ Text.isBlank first = false := by
  cases lexeme with
  | word spelling =>
      obtain ⟨⟨first, more, rfl, starts⟩, _⟩ := formed
      exact ⟨first, more, rfl, Cursor.isBlank_of_startsWord starts⟩
  | digits run =>
      obtain ⟨filled, digits⟩ := formed
      obtain ⟨first, more, rfl⟩ := List.exists_cons_of_ne_nil filled
      exact ⟨first, more, rfl, Text.isBlank_of_isDigit (digits first (by simp))⟩
  | quoted inner => exact ⟨'"', inner ++ ['"'], rfl, by decide⟩
  | loneQuote => exact ⟨'"', [], rfl, by decide⟩
  | mark c => exact ⟨c, [], rfl, formed.2.2.2⟩

theorem kind_ne_endOfInput (lexeme : Lexeme) : lexeme.kind ≠ .endOfInput := by
  cases lexeme with
  | word spelling =>
      simp only [kind, Kind.ofWord]
      split <;> simp
  | mark c =>
      simp only [kind, Kind.ofMark]
      repeat' split
      all_goals simp
  | _ => simp [kind]

end Lexeme

inductive Scans : Position → Text → List Token → Prop where
  | done {position : Position} {gap : Text} (blank : ∀ c ∈ gap, Text.isBlank c = true) :
      Scans position gap [⟨.endOfInput, [], position.after gap⟩]
  | next {position : Position} {gap rest : Text} {lexeme : Lexeme} {tokens : List Token}
      (blank : ∀ c ∈ gap, Text.isBlank c = true) (formed : lexeme.Formed)
      (ends : lexeme.Ends rest)
      (more : Scans (position.after (gap ++ lexeme.raw)) rest tokens) :
      Scans position (gap ++ (lexeme.raw ++ rest)) (lexeme.token (position.after gap) :: tokens)

namespace Cursor

variable {cursor : Cursor} {gap rest : Text} {lexeme : Lexeme}

theorem advance_of_append {taken : Text} (ahead : cursor.ahead = taken ++ rest) :
    cursor.advance taken.length =
      ⟨cursor.offset + taken.length, cursor.position.after taken, rest⟩ := by
  simp [advance, ahead]

theorem readRun_of_maximal {member : Char → Bool} {run : Text}
    (maximal : MaximalRun member cursor.ahead run rest) :
    cursor.readRun member =
      (run, ⟨cursor.offset + run.length, cursor.position.after run, rest⟩) := by
  simp only [readRun, maximal.takeWhile_eq, advance_of_append maximal.split]

theorem skipBlanks_of_gap (ahead : cursor.ahead = gap ++ rest)
    (blank : ∀ c ∈ gap, Text.isBlank c = true) (stops : ∀ c ∈ rest.head?, Text.isBlank c = false) :
    cursor.skipBlanks = ⟨cursor.offset + gap.length, cursor.position.after gap, rest⟩ := by
  rw [skipBlanks, readRun_of_maximal ⟨ahead, blank, stops⟩]

theorem next_of_blank (offset : Nat) (position : Position)
    (blank : ∀ c ∈ gap, Text.isBlank c = true) :
    (⟨offset, position, gap⟩ : Cursor).next =
      (⟨.endOfInput, [], position.after gap⟩, ⟨offset + gap.length, position.after gap, []⟩) := by
  have skipped : (⟨offset, position, gap⟩ : Cursor).skipBlanks = _ :=
    skipBlanks_of_gap (List.append_nil gap).symm blank (by simp)
  simp only [next, skipped]

theorem nextAt_of_word {spelling : Text} {first : Char} (starts : startsWord first = true)
    (maximal : MaximalRun continuesWord cursor.ahead spelling rest) :
    cursor.nextAt first =
      ((Lexeme.word spelling).token cursor.position,
        ⟨cursor.offset + spelling.length, cursor.position.after spelling, rest⟩) := by
  simp [nextAt, starts, readWord, readRun_of_maximal maximal, Lexeme.token, Lexeme.kind,
    Lexeme.value, Lexeme.stamp, Lexeme.raw]

theorem nextAt_of_digits {run : Text} {first : Char} (digit : Text.isDigit first = true)
    (maximal : MaximalRun Text.isDigit cursor.ahead run rest) :
    cursor.nextAt first =
      ((Lexeme.digits run).token cursor.position,
        ⟨cursor.offset + run.length, cursor.position.after run, rest⟩) := by
  -- Digits are tried last, so a digit must fail the tests for words and quotes.
  have noQuote : first ≠ '"' := by
    intro same
    subst same
    exact absurd digit (by decide)
  simp [nextAt, startsWord_of_isDigit digit, noQuote, digit, readDigits,
    readRun_of_maximal maximal, Lexeme.token, Lexeme.kind, Lexeme.value, Lexeme.stamp, Lexeme.raw]

theorem startsWord_quote : startsWord '"' = false := by decide +kernel

theorem nextAt_of_quoted {inner : Text} (closed : '"' ∉ inner)
    (ahead : cursor.ahead = '"' :: (inner ++ '"' :: rest)) :
    cursor.nextAt '"' =
      ((Lexeme.quoted inner).token cursor.position,
        ⟨cursor.offset + (inner.length + 2), cursor.position.after ('"' :: (inner ++ ['"'])),
          rest⟩) := by
  have maximal : MaximalRun (· ≠ '"') (inner ++ '"' :: rest) inner ('"' :: rest) := by
    refine ⟨rfl, fun c held => decide_eq_true ?_, by simp⟩
    intro same
    subst same
    exact closed held
  have split : cursor.ahead = ('"' :: (inner ++ ['"'])) ++ rest := by simp [ahead]
  have advanced := advance_of_append split
  simp only [List.length_cons, List.length_append, List.length_nil] at advanced
  simp only [nextAt, startsWord_quote, readQuoted, ahead, List.tail_cons, maximal.takeWhile_eq]
  simp [advanced, Lexeme.token, Lexeme.kind, Lexeme.value, Lexeme.stamp, Lexeme.raw]

theorem nextAt_of_loneQuote (ahead : cursor.ahead = '"' :: rest) (lone : '"' ∉ rest) :
    cursor.nextAt '"' =
      (Lexeme.loneQuote.token cursor.position,
        ⟨cursor.offset + 1, cursor.position.after ['"'], rest⟩) := by
  have split : cursor.ahead = ['"'] ++ rest := ahead
  have advanced := advance_of_append split
  simp only [List.length_cons, List.length_nil, Nat.zero_add] at advanced
  simp [nextAt, startsWord_quote, readQuoted, ahead, lone, advanced, Lexeme.token, Lexeme.kind,
    Lexeme.value, Lexeme.stamp, Lexeme.raw]

theorem nextAt_of_mark {c : Char} (formed : (Lexeme.mark c).Formed)
    (ahead : cursor.ahead = c :: rest) :
    cursor.nextAt c =
      ((Lexeme.mark c).token cursor.position,
        ⟨cursor.offset + 1, cursor.position.after [c], rest⟩) := by
  obtain ⟨noWord, noDigit, noQuote, _⟩ := formed
  have split : cursor.ahead = [c] ++ rest := ahead
  have advanced := advance_of_append split
  simp only [List.length_cons, List.length_nil, Nat.zero_add] at advanced
  simp [nextAt, noWord, noDigit, noQuote, advanced, Lexeme.token, Lexeme.kind, Lexeme.value,
    Lexeme.stamp]

theorem nextAt_of_lexeme (formed : lexeme.Formed) (ends : lexeme.Ends rest) {first : Char}
    {more : Text} (raw : lexeme.raw = first :: more) (ahead : cursor.ahead = lexeme.raw ++ rest) :
    cursor.nextAt first =
      (lexeme.token cursor.position,
        ⟨cursor.offset + lexeme.raw.length, cursor.position.after lexeme.raw, rest⟩) := by
  cases lexeme with
  | word spelling =>
      obtain ⟨⟨_, _, rfl, starts⟩, continues⟩ := formed
      injection raw with same _
      exact nextAt_of_word (same ▸ starts) ⟨ahead, continues, ends⟩
  | digits run =>
      have digit : Text.isDigit first = true := formed.2 first (by simp [show run = _ from raw])
      exact nextAt_of_digits digit ⟨ahead, formed.2, ends⟩
  | quoted inner =>
      injection raw with same _
      subst same
      have opened : cursor.ahead = '"' :: (inner ++ '"' :: rest) := by
        simpa [Lexeme.raw] using ahead
      simpa [Lexeme.raw] using nextAt_of_quoted formed opened
  | loneQuote =>
      injection raw with same _
      subst same
      exact nextAt_of_loneQuote ahead ends
  | mark c =>
      injection raw with same _
      subst same
      exact nextAt_of_mark formed ahead

theorem next_of_lexeme (offset : Nat) (position : Position)
    (blank : ∀ c ∈ gap, Text.isBlank c = true) (formed : lexeme.Formed)
    (ends : lexeme.Ends rest) :
    (⟨offset, position, gap ++ (lexeme.raw ++ rest)⟩ : Cursor).next =
      (lexeme.token (position.after gap),
        ⟨offset + gap.length + lexeme.raw.length, position.after (gap ++ lexeme.raw), rest⟩) := by
  obtain ⟨first, more, raw, dark⟩ := Lexeme.raw_of_formed formed
  have skipped : (⟨offset, position, gap ++ (lexeme.raw ++ rest)⟩ : Cursor).skipBlanks = _ :=
    skipBlanks_of_gap rfl blank (by simpa [raw] using dark)
  have found :
      (⟨offset + gap.length, position.after gap, lexeme.raw ++ rest⟩ : Cursor).nextAt first = _ :=
    nextAt_of_lexeme formed ends raw rfl
  have cut : lexeme.raw ++ rest = first :: (more ++ rest) := by rw [raw, List.cons_append]
  simp only [next, skipped]
  rw [Position.after_append, ← found]
  simp only [cut]

end Cursor

namespace Lexeme

theorem exists_run {member : Char → Bool} {first : Char} {more : Text}
    (starts : member first = true) :
    ∃ run rest, first :: more = first :: run ++ rest ∧ (∀ c ∈ first :: run, member c = true) ∧
      ∀ c ∈ rest.head?, member c = false := by
  have maximal := MaximalRun.ofList member more
  refine ⟨more.takeWhile member, more.dropWhile member, by simp, ?_, maximal.outside⟩
  intro c held
  rcases List.mem_cons.mp held with rfl | held
  · exact starts
  · exact maximal.inside c held

theorem exists_of_not_isBlank {first : Char} (more : Text) (dark : Text.isBlank first = false) :
    ∃ (lexeme : Lexeme) (rest : Text),
      first :: more = lexeme.raw ++ rest ∧ lexeme.Formed ∧ lexeme.Ends rest := by
  by_cases starts : startsWord first = true
  next =>
    obtain ⟨run, rest, split, continues, ends⟩ :=
      exists_run (Cursor.continuesWord_of_startsWord starts)
    exact ⟨word (first :: run), rest, split, ⟨⟨first, run, rfl, starts⟩, continues⟩, ends⟩
  next =>
    by_cases digit : Text.isDigit first = true
    next =>
      obtain ⟨run, rest, split, digits, ends⟩ := exists_run digit
      exact ⟨.digits (first :: run), rest, split, ⟨by simp, digits⟩, ends⟩
    next =>
      by_cases quote : first = '"'
      next =>
        subst quote
        by_cases closed : '"' ∈ more
        next =>
          obtain ⟨inner, rest, rfl, outside⟩ := List.eq_append_cons_of_mem closed
          exact ⟨quoted inner, rest, by simp [raw], outside, trivial⟩
        next => exact ⟨loneQuote, more, rfl, trivial, closed⟩
      next =>
        refine ⟨mark first, more, rfl, ⟨?_, ?_, quote, dark⟩, trivial⟩
        · simpa using starts
        · simpa using digit

end Lexeme

namespace Scans

theorem exists_tokens (position : Position) (text : Text) :
    ∃ tokens, Scans position text tokens := by
  -- Lexemes are not empty, so the text behind one is shorter.
  induction size : text.length using Nat.strong_induction_on generalizing position text with
  | _ count ih =>
    have maximal := MaximalRun.ofList Text.isBlank text
    cases ahead : text.dropWhile Text.isBlank with
    | nil =>
        rw [ahead] at maximal
        have whole : text = text.takeWhile Text.isBlank := by simpa using maximal.split
        refine ⟨_, .done fun c held => maximal.inside c (whole ▸ held)⟩
    | cons first more =>
        rw [ahead] at maximal
        obtain ⟨lexeme, rest, split, formed, ends⟩ :=
          Lexeme.exists_of_not_isBlank more (maximal.outside first rfl)
        obtain ⟨_, _, raw, _⟩ := Lexeme.raw_of_formed formed
        have parts := maximal.split
        rw [split] at parts
        have shorter : rest.length < count := by
          rw [← size, parts, raw]
          simp
          omega
        obtain ⟨tokens, scans⟩ := ih _ shorter
          (position.after (text.takeWhile Text.isBlank ++ lexeme.raw)) rest rfl
        rw [parts]
        exact ⟨_, .next maximal.inside formed ends scans⟩

end Scans

namespace Cursor

theorem drain_of_scans {position : Position} {text : Text} {tokens : List Token}
    (scans : Scans position text tokens) (offset : Nat) :
    (⟨offset, position, text⟩ : Cursor).drain.1 = tokens := by
  induction scans generalizing offset with
  | done blank =>
      rw [drain_eq, next_of_blank _ _ blank]
      rfl
  | @next position gap rest lexeme tokens blank formed ends more ih =>
      rw [drain_eq, next_of_lexeme _ _ blank formed ends]
      have going : (lexeme.token (position.after gap)).kind ≠ .endOfInput :=
        lexeme.kind_ne_endOfInput
      simp only [going, ↓reduceIte, ih]

end Cursor

theorem tokenize_eq_iff (text : Text) (tokens : List Token) :
    tokenize text = tokens ↔ Scans .start text tokens := by
  constructor
  · intro same
    subst same
    obtain ⟨tokens, scans⟩ := Scans.exists_tokens .start text
    have drained := Cursor.drain_of_scans scans 0
    rw [tokenize, Cursor.ofText, drained]
    exact scans
  · intro scans
    exact Cursor.drain_of_scans scans 0

end SceneScript
