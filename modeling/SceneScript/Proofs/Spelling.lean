import SceneScript.Instruction
import SceneScript.Proofs.Lexeme
import Mathlib.Algebra.GroupWithZero.Nat

set_option autoImplicit false

namespace SceneScript

open Cursor (startsWord continuesWord)

namespace Text

def IsWord : Text → Prop
  | [] => False
  | first :: more => startsWord first = true ∧ ∀ c ∈ more, continuesWord c = true

instance : DecidablePred IsWord
  | [] => isFalse id
  | first :: more =>
      decidable_of_iff ((startsWord first && more.all continuesWord) = true) (by simp [IsWord])

def IsIdentifier (text : Text) : Prop :=
  text.IsWord ∧ ∀ keyword : Keyword, text ≠ keyword.spelling

def IsDigits (text : Text) : Prop := text ≠ [] ∧ ∀ c ∈ text, isDigit c = true

def IsListed (name : Text) : Prop :=
  name.IsWord ∨ name.IsDigits ∨ ∃ c, name = [c] ∧ isBlank c = false ∧ c ≠ '"' ∧ c ≠ '}'

instance : DecidablePred IsIdentifier := fun text =>
  decidable_of_iff (text.IsWord ∧ Keyword.ofSpelling? text = none)
    (by rw [Keyword.ofSpelling?_eq_none_iff, IsIdentifier])

instance : DecidablePred IsDigits := fun text =>
  decidable_of_iff (text ≠ [] ∧ text.all isDigit = true) (by simp [IsDigits])

instance : DecidablePred IsListed
  | [c] =>
      decidable_of_iff (IsWord [c] ∨ IsDigits [c] ∨ isBlank c = false ∧ c ≠ '"' ∧ c ≠ '}')
        (by simp [IsListed])
  | [] => decidable_of_iff (IsWord [] ∨ IsDigits []) (by simp [IsListed])
  | first :: second :: more =>
      decidable_of_iff (IsWord (first :: second :: more) ∨ IsDigits (first :: second :: more))
        (by simp [IsListed])

theorem isWord_iff (text : Text) : text.IsWord ↔ (Lexeme.word text).Formed := by
  cases text with
  | nil => simp [IsWord, Lexeme.Formed]
  | cons first more =>
      constructor
      · intro given
        obtain ⟨starts, continues⟩ := given
        exact ⟨⟨first, more, rfl, starts⟩,
          List.forall_mem_cons.mpr ⟨Cursor.continuesWord_of_startsWord starts, continues⟩⟩
      · intro given
        obtain ⟨⟨_, _, same, starts⟩, continues⟩ := given
        injection same with same
        subst same
        exact ⟨starts, fun c held => continues c (List.mem_cons_of_mem _ held)⟩

end Text

theorem Keyword.isWord_spelling (keyword : Keyword) : keyword.spelling.IsWord := by
  cases keyword <;> decide +kernel

theorem Kind.ofWord_eq_identifier_iff (word : Text) :
    Kind.ofWord word = .identifier ↔ ∀ keyword : Keyword, word ≠ keyword.spelling := by
  rw [← Keyword.ofSpelling?_eq_none_iff]
  cases found : Keyword.ofSpelling? word <;> simp [Kind.ofWord, found]

theorem Text.IsIdentifier.formed {name : Text} (spelled : name.IsIdentifier) :
    (Lexeme.word name).Formed :=
  (isWord_iff name).mp spelled.1

theorem Text.IsIdentifier.ofWord {name : Text} (spelled : name.IsIdentifier) :
    Kind.ofWord name = .identifier :=
  (Kind.ofWord_eq_identifier_iff name).mpr spelled.2

theorem Kind.ofWord_mem (word : Text) :
    (∃ keyword, Kind.ofWord word = .keyword keyword) ∨ Kind.ofWord word = .identifier := by
  cases found : Keyword.ofSpelling? word <;> simp [Kind.ofWord, found]

theorem Kind.ofMark_mem (c : Char) :
    Kind.ofMark c ∈ [leftBrace, rightBrace, leftParen, rightParen, comma, unknown] := by
  simp only [Kind.ofMark]
  repeat' split
  all_goals decide

namespace Cursor

theorem continuesWord_of_isDigit {c : Char} (digit : Text.isDigit c = true) :
    continuesWord c = true := by
  simp [continuesWord, digit]

theorem continuesWord_quote : continuesWord '"' = false := by decide +kernel

end Cursor

namespace Lexeme

variable {lexeme : Lexeme} {rest : Text}

def Apart (rest : Text) : Prop := ∀ c ∈ rest.head?, continuesWord c = false

theorem apart_of_mem {c : Char} (listed : c ∈ [' ', '\n', '(', ')', ',']) : Apart (c :: rest) := by
  have outside : [' ', '\n', '(', ')', ','].all (!continuesWord ·) = true := by decide +kernel
  simpa [Apart] using List.all_eq_true.mp outside c listed

theorem ends_of_apart (apart : Apart rest) (closed : lexeme ≠ loneQuote) : lexeme.Ends rest := by
  cases lexeme with
  | word spelling => exact apart
  | digits run =>
      intro c first
      have outside := apart c first
      by_contra digit
      rw [Cursor.continuesWord_of_isDigit (by simpa using digit)] at outside
      cases outside
  | loneQuote => exact absurd rfl closed
  | quoted inner => trivial
  | mark c => trivial

theorem exists_of_isListed {name : Text} (listed : name.IsListed) :
    ∃ lexeme : Lexeme, lexeme.Formed ∧ lexeme ≠ loneQuote ∧ lexeme.raw = name ∧
      lexeme.value = name ∧ lexeme.kind ≠ .rightBrace := by
  -- A single character may also be a short word or number, and is read as such.
  rcases listed with shaped | digits | ⟨c, rfl, dark, noQuote, noBrace⟩
  · refine ⟨word name, (Text.isWord_iff name).mp shaped, by simp, rfl, rfl, ?_⟩
    rcases Kind.ofWord_mem name with ⟨keyword, same⟩ | same <;> simp [kind, same]
  · exact ⟨.digits name, digits, by simp, rfl, rfl, by simp [kind]⟩
  · by_cases starts : startsWord c = true
    next =>
      refine ⟨word [c], (Text.isWord_iff [c]).mp ⟨starts, by simp⟩, by simp, rfl, rfl, ?_⟩
      rcases Kind.ofWord_mem [c] with ⟨keyword, same⟩ | same <;> simp [kind, same]
    next =>
      by_cases digit : Text.isDigit c = true
      next => exact ⟨.digits [c], by simp [Formed, digit], by simp, rfl, rfl, by simp [kind]⟩
      next =>
        refine ⟨mark c, ⟨?_, ?_, noQuote, dark⟩, by simp, rfl, rfl, ?_⟩
        · simpa using starts
        · simpa using digit
        · simp only [kind, Kind.ofMark, noBrace, ↓reduceIte]
          repeat' split
          all_goals simp

theorem quote_notMem_value (formed : lexeme.Formed) : '"' ∉ lexeme.value := by
  intro held
  cases lexeme with
  | word spelling =>
      have continues := formed.2 '"' held
      rw [Cursor.continuesWord_quote] at continues
      cases continues
  | digits run => exact absurd (formed.2 '"' held) (by decide)
  | quoted inner => exact formed held
  | loneQuote => cases held
  | mark c => exact formed.2.2.1 (List.mem_singleton.mp held).symm

theorem exists_digits (counts : lexeme.kind = .number ∨ lexeme.kind = .integer) :
    ∃ run, lexeme = .digits run := by
  cases lexeme with
  | digits run => exact ⟨run, rfl⟩
  | word spelling =>
      rcases Kind.ofWord_mem spelling with ⟨keyword, same⟩ | same <;> simp [kind, same] at counts
  | mark c =>
      have listed := Kind.ofMark_mem c
      rcases counts with same | same <;>
        · rw [show Kind.ofMark c = _ from same] at listed
          exact absurd listed (by decide)
  | quoted => simp [kind] at counts
  | loneQuote => simp [kind] at counts

end Lexeme

theorem Text.count_quote_of_blank {gap : Text} (blank : ∀ c ∈ gap, isBlank c = true) :
    gap.count '"' = 0 := by
  apply List.count_eq_zero.mpr
  intro held
  exact absurd (blank '"' held) (by decide)

def Token.quotes (token : Token) : Nat :=
  if token.kind = .string then 2
  else if token.kind = .unknown ∧ token.value = [] then 1
  else 0

theorem Lexeme.count_raw {lexeme : Lexeme} (formed : lexeme.Formed) (position : Position) :
    lexeme.raw.count '"' = (lexeme.token position).quotes := by
  have inner := quote_notMem_value formed
  cases lexeme with
  | word spelling =>
      rw [show (word spelling).raw.count '"' = 0 from List.count_eq_zero.mpr inner]
      rcases Kind.ofWord_mem spelling with ⟨keyword, same⟩ | same <;>
        simp [Token.quotes, token, kind, same]
  | digits run =>
      rw [show (digits run).raw.count '"' = 0 from List.count_eq_zero.mpr inner]
      simp [Token.quotes, token, kind]
  | quoted inside =>
      have quoteless : inside.count '"' = 0 := List.count_eq_zero.mpr inner
      simp [raw, quoteless, Token.quotes, token, kind]
  | loneQuote => rfl
  | mark c =>
      rw [show (mark c).raw.count '"' = 0 from List.count_eq_zero.mpr inner]
      have noString : Kind.ofMark c ≠ .string := by
        intro same
        have listed := Kind.ofMark_mem c
        rw [same] at listed
        exact absurd listed (by decide)
      simp [Token.quotes, token, kind, value, noString]

def Token.Scanned (token : Token) : Prop :=
  token.kind = .endOfInput ∧ token.value = [] ∨
    ∃ (lexeme : Lexeme) (position : Position), lexeme.Formed ∧ token = lexeme.token position

namespace Scans

variable {position : Position} {text : Text} {tokens : List Token}

theorem scanned (scans : Scans position text tokens) : ∀ token ∈ tokens, token.Scanned := by
  induction scans with
  | done => simp [Token.Scanned]
  | @next position gap rest lexeme tokens blank formed ends _ ih =>
      intro token held
      rcases List.mem_cons.mp held with rfl | held
      · exact .inr ⟨lexeme, _, formed, rfl⟩
      · exact ih token held

theorem sum_quotes (scans : Scans position text tokens) :
    (tokens.map Token.quotes).sum = text.count '"' := by
  -- Quotes stand in strings and alone, and nowhere else.
  induction scans with
  | done blank => simp [Text.count_quote_of_blank blank, Token.quotes]
  | @next position gap rest lexeme tokens blank formed ends _ ih =>
      have first := Lexeme.count_raw formed (position.after gap)
      simp only [List.map_cons, List.sum_cons, List.count_append, Text.count_quote_of_blank blank,
        first, ih, Nat.zero_add]

theorem of_lexeme {rest : Text} {lexeme : Lexeme} (formed : lexeme.Formed)
    (ends : lexeme.Ends rest) (more : Scans (position.after lexeme.raw) rest tokens) :
    Scans position (lexeme.raw ++ rest) (lexeme.token position :: tokens) :=
  @next position [] rest lexeme tokens (by simp) formed ends more

theorem of_blank {c : Char} {rest : Text} (blank : Text.isBlank c = true)
    (more : Scans (position.step c) rest tokens) : Scans position (c :: rest) tokens := by
  cases more with
  | done blanks => exact @done position (c :: rest) (List.forall_mem_cons.mpr ⟨blank, blanks⟩)
  | @next _ gap rest lexeme tokens blanks formed ends more =>
      exact @next position (c :: gap) rest lexeme tokens (List.forall_mem_cons.mpr ⟨blank, blanks⟩)
        formed ends more

end Scans

namespace Token.Scanned

variable {token : Token}

theorem quote_notMem (scanned : token.Scanned) : '"' ∉ token.value := by
  rcases scanned with ⟨_, empty⟩ | ⟨lexeme, position, formed, rfl⟩
  · simp [empty]
  · exact Lexeme.quote_notMem_value formed

theorem isIdentifier (scanned : token.Scanned) (names : token.kind = .identifier) :
    token.value.IsIdentifier := by
  rcases scanned with ⟨ended, _⟩ | ⟨lexeme, position, formed, rfl⟩
  · rw [ended] at names
    cases names
  · cases lexeme with
    | word spelling =>
        exact ⟨(Text.isWord_iff spelling).mpr formed, (Kind.ofWord_eq_identifier_iff _).mp names⟩
    | mark c =>
        have listed := Kind.ofMark_mem c
        rw [show Kind.ofMark c = .identifier from names] at listed
        exact absurd listed (by decide)
    | digits => cases names
    | quoted => cases names
    | loneQuote => cases names

theorem isDigits (scanned : token.Scanned) (counts : token.kind = .number ∨ token.kind = .integer) :
    token.value.IsDigits := by
  rcases scanned with ⟨ended, _⟩ | ⟨lexeme, position, formed, rfl⟩
  · simp [ended] at counts
  · obtain ⟨run, rfl⟩ := Lexeme.exists_digits counts
    exact formed

theorem isListed (scanned : token.Scanned) (going : token.kind ≠ .endOfInput)
    (inside : token.kind ≠ .rightBrace) (quoteless : token.quotes = 0) : token.value.IsListed := by
  rcases scanned with ⟨ended, _⟩ | ⟨lexeme, position, formed, rfl⟩
  · exact absurd ended going
  · cases lexeme with
    | word spelling => exact .inl ((Text.isWord_iff spelling).mpr formed)
    | digits run => exact .inr (.inl formed)
    | quoted => cases quoteless
    | loneQuote => cases quoteless
    | mark c =>
        refine .inr (.inr ⟨c, rfl, formed.2.2.2, formed.2.2.1, ?_⟩)
        intro same
        subst same
        exact inside rfl

end Token.Scanned

end SceneScript
