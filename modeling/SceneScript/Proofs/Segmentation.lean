import SceneScript.Proofs.Lexeme
import Mathlib.Data.List.Forall2
import Mathlib.Data.Nat.Find

set_option autoImplicit false

namespace SceneScript

open Cursor (startsWord continuesWord)

structure Span where
  start : Nat
  stop : Nat
deriving DecidableEq

namespace Span

def Covers (span : Span) (index : Nat) : Prop := span.start ≤ index ∧ index < span.stop

def cut (span : Span) (text : Text) : Text := (text.take span.stop).drop span.start

structure IsRun (member : Char → Bool) (text : Text) (span : Span) : Prop where
  inside : ∀ index, span.Covers index → ∃ c, text[index]? = some c ∧ member c = true
  maximal : ∀ c, text[span.stop]? = some c → member c = false

end Span

structure NextQuote (text : Text) (index closing : Nat) : Prop where
  later : index < closing
  quote : text[closing]? = some '"'
  nearest : ∀ between, index < between → between < closing → text[between]? ≠ some '"'

def reservedWords : List (Text × Keyword) :=
  [("Assets", .assets), ("call", .call), ("background", .background), ("play", .play),
    ("say", .say), ("wait", .wait), ("end", .stop), ("load_script", .loadScript)]

def WordKind (word : Text) (kind : Kind) : Prop :=
  (∃ keyword, (word, keyword) ∈ reservedWords ∧ kind = .keyword keyword) ∨
    (∀ keyword, (word, keyword) ∉ reservedWords) ∧ kind = .identifier

inductive MarkKind : Char → Kind → Prop where
  | leftBrace : MarkKind '{' .leftBrace
  | rightBrace : MarkKind '}' .rightBrace
  | leftParen : MarkKind '(' .leftParen
  | rightParen : MarkKind ')' .rightParen
  | comma : MarkKind ',' .comma
  | other {c : Char} (none : c ∉ ['{', '}', '(', ')', ',']) : MarkKind c .unknown

def OpensWord (c : Char) : Prop := Text.isLetter c = true ∨ c = '_'

/-- What the first character of a span says about the span and its token. -/
structure Prescribes (text : Text) (first : Char) (span : Span) (token : Token) : Prop where
  word : OpensWord first →
    span.IsRun (fun c => Text.isLetter c || Text.isDigit c || c = '_') text ∧
      token.value = span.cut text ∧ WordKind token.value token.kind
  digits : Text.isDigit first = true →
    span.IsRun Text.isDigit text ∧ token.value = span.cut text ∧ token.kind = .number
  quoted : first = '"' → ∀ closing, NextQuote text span.start closing →
    span.stop = closing + 1 ∧ token.value = (⟨span.start + 1, closing⟩ : Span).cut text ∧
      token.kind = .string
  loneQuote : first = '"' → (∀ later, span.start < later → text[later]? ≠ some '"') →
    span.stop = span.start + 1 ∧ token.value = [] ∧ token.kind = .unknown
  mark : ¬ OpensWord first → Text.isDigit first = false → first ≠ '"' →
    span.stop = span.start + 1 ∧ token.value = [first] ∧ MarkKind first token.kind

def Matches (text : Text) (span : Span) (token : Token) : Prop :=
  ∃ first, text[span.start]? = some first ∧ Text.isBlank first = false ∧
    Prescribes text first span token

/-- A division of a text, from an offset on, into the spans of tokens and blanks between them. -/
structure Segmentation (text : Text) (origin : Nat) (spans : List Span) (tokens : List Token) :
    Prop where
  ordered : spans.Pairwise fun left right => left.stop ≤ right.start
  within : ∀ span ∈ spans, origin ≤ span.start ∧ span.start < span.stop ∧ span.stop ≤ text.length
  blank : ∀ index c, origin ≤ index → text[index]? = some c →
    (∀ span ∈ spans, ¬ span.Covers index) → Text.isBlank c = true
  matched : List.Forall₂ (Matches text) spans tokens

theorem opensWord_iff {c : Char} : OpensWord c ↔ startsWord c = true := by
  simp [OpensWord, startsWord]

theorem mem_reservedWords {word : Text} {keyword : Keyword} :
    (word, keyword) ∈ reservedWords ↔ word = keyword.spelling := by
  constructor
  · have table : ∀ entry ∈ reservedWords, entry.1 = entry.2.spelling := by decide
    exact table (word, keyword)
  · rintro rfl
    cases keyword <;> decide

theorem wordKind_iff {word : Text} {kind : Kind} : WordKind word kind ↔ kind = .ofWord word := by
  simp only [WordKind, mem_reservedWords, ← Keyword.ofSpelling?_eq_some_iff]
  cases found : Keyword.ofSpelling? word <;> simp [Kind.ofWord, found]

theorem markKind_ofMark (c : Char) : MarkKind c (.ofMark c) := by
  unfold Kind.ofMark
  split_ifs with opens closes opensList closesList separates
  next => exact opens ▸ .leftBrace
  next => exact closes ▸ .rightBrace
  next => exact opensList ▸ .leftParen
  next => exact closesList ▸ .rightParen
  next => exact separates ▸ .comma
  next => exact .other (by simp [opens, closes, opensList, closesList, separates])

theorem MarkKind.unique {c : Char} {kind other : Kind} (one : MarkKind c kind)
    (another : MarkKind c other) : kind = other := by
  cases one with
  | other none =>
      cases another with
      | other => rfl
      | _ => simp at none
  | _ =>
      cases another with
      | other none => simp at none
      | _ => rfl

theorem nextQuote_or_none (text : Text) (index : Nat) :
    (∃ closing, NextQuote text index closing) ∨
      ∀ later, index < later → text[later]? ≠ some '"' := by
  by_cases found : ∃ later, index < later ∧ text[later]? = some '"'
  next =>
    obtain ⟨later, quote⟩ := Nat.find_spec found
    refine .inl ⟨Nat.find found, later, quote, fun between after before another => ?_⟩
    exact Nat.find_min found before ⟨after, another⟩
  next =>
    right
    intro later after quote
    exact found ⟨later, after, quote⟩

theorem NextQuote.unique {text : Text} {index closing other : Nat}
    (first : NextQuote text index closing) (second : NextQuote text index other) :
    closing = other := by
  rcases Nat.lt_trichotomy closing other with before | same | after
  · exact absurd first.quote (second.nearest closing first.later before)
  · exact same
  · exact absurd second.quote (first.nearest other second.later after)

theorem Span.IsRun.unique {member : Char → Bool} {text : Text} {span other : Span}
    (first : span.IsRun member text) (second : other.IsRun member text)
    (same : span.start = other.start) (filled : span.start < span.stop)
    (filled' : other.start < other.stop) : span.stop = other.stop := by
  -- Otherwise the character behind the shorter run lies inside the longer one.
  have bounded {short long : Span} (run : short.IsRun member text) (run' : long.IsRun member text)
      (begins : long.start ≤ short.stop) : long.stop ≤ short.stop := by
    by_contra longer
    obtain ⟨c, there, held⟩ := run'.inside short.stop ⟨begins, by omega⟩
    rw [run.maximal c there] at held
    cases held
  exact Nat.le_antisymm (bounded second first (by omega)) (bounded first second (by omega))

theorem Matches.unique {text : Text} {span other : Span} {token token' : Token}
    (first : Matches text span token) (second : Matches text other token')
    (same : span.start = other.start) (filled : span.start < span.stop)
    (filled' : other.start < other.stop) :
    span = other ∧ token.kind = token'.kind ∧ token.value = token'.value := by
  obtain ⟨span₁, stop₁⟩ := span
  obtain ⟨span₂, stop₂⟩ := other
  simp only at same filled filled'
  subst same
  obtain ⟨c, there, _, rules⟩ := first
  obtain ⟨c', there', _, rules'⟩ := second
  obtain rfl : c = c' := by
    rw [there] at there'
    injection there'
  by_cases starts : OpensWord c
  next =>
    obtain ⟨run, value, kind⟩ := rules.word starts
    obtain ⟨run', value', kind'⟩ := rules'.word starts
    obtain rfl : stop₁ = stop₂ := run.unique run' rfl filled filled'
    rw [wordKind_iff] at kind kind'
    exact ⟨rfl, by rw [kind, kind', value, value'], by rw [value, value']⟩
  next =>
    by_cases digit : Text.isDigit c = true
    next =>
      obtain ⟨run, value, kind⟩ := rules.digits digit
      obtain ⟨run', value', kind'⟩ := rules'.digits digit
      obtain rfl : stop₁ = stop₂ := run.unique run' rfl filled filled'
      exact ⟨rfl, by rw [kind, kind'], by rw [value, value']⟩
    next =>
      by_cases quote : c = '"'
      next =>
        rcases nextQuote_or_none text span₁ with ⟨closing, nearest⟩ | lone
        · obtain ⟨ends, value, kind⟩ := rules.quoted quote closing nearest
          obtain ⟨ends', value', kind'⟩ := rules'.quoted quote closing nearest
          exact ⟨by simp_all, by rw [kind, kind'], by rw [value, value']⟩
        · obtain ⟨ends, value, kind⟩ := rules.loneQuote quote lone
          obtain ⟨ends', value', kind'⟩ := rules'.loneQuote quote lone
          exact ⟨by simp_all, by rw [kind, kind'], by rw [value, value']⟩
      next =>
        have noDigit : Text.isDigit c = false := by simpa using digit
        obtain ⟨ends, value, kind⟩ := rules.mark starts noDigit quote
        obtain ⟨ends', value', kind'⟩ := rules'.mark starts noDigit quote
        exact ⟨by simp_all, kind.unique kind', by rw [value, value']⟩

namespace Segmentation

variable {text : Text} {origin : Nat} {span : Span} {token : Token} {spans : List Span}
  {tokens : List Token}

theorem tail (whole : Segmentation text origin (span :: spans) (token :: tokens)) :
    Segmentation text span.stop spans tokens where
  ordered := whole.ordered.of_cons
  within := by
    intro later held
    have behind := List.rel_of_pairwise_cons whole.ordered held
    exact ⟨behind, (whole.within later (List.mem_cons_of_mem _ held)).2⟩
  blank := by
    intro index c low there outside
    have start := whole.within span List.mem_cons_self
    apply whole.blank index c (by omega) there
    intro other held
    rcases List.mem_cons.mp held with rfl | held
    · exact fun covered => Nat.lt_irrefl _ (Nat.lt_of_lt_of_le covered.2 low)
    · exact outside other held
  matched := (List.forall₂_cons.mp whole.matched).2

theorem blank_before (whole : Segmentation text origin (span :: spans) (token :: tokens))
    {index : Nat} {c : Char} (low : origin ≤ index) (high : index < span.start)
    (there : text[index]? = some c) : Text.isBlank c = true := by
  apply whole.blank index c low there
  intro other held covered
  rcases List.mem_cons.mp held with rfl | held
  · exact Nat.not_lt.mpr covered.1 high
  · have behind := List.rel_of_pairwise_cons whole.ordered held
    have start := whole.within span List.mem_cons_self
    have := covered.1
    omega

theorem start_le {span' : Span} {token' : Token} {spans' : List Span} {tokens' : List Token}
    (whole : Segmentation text origin (span :: spans) (token :: tokens))
    (other : Segmentation text origin (span' :: spans') (token' :: tokens')) :
    span.start ≤ span'.start := by
  -- Both start at the first character that is not blank.
  by_contra earlier
  obtain ⟨c, there, dark, _⟩ := (List.forall₂_cons.mp other.matched).1
  have low := (other.within span' List.mem_cons_self).1
  rw [whole.blank_before low (by omega) there] at dark
  cases dark

theorem not_nil_of_cons (whole : Segmentation text origin (span :: spans) (token :: tokens))
    (empty : Segmentation text origin [] []) : False := by
  obtain ⟨c, there, dark, _⟩ := (List.forall₂_cons.mp whole.matched).1
  have low := (whole.within span List.mem_cons_self).1
  rw [empty.blank _ c low there (by simp)] at dark
  cases dark

theorem unique {spans' : List Span} {tokens' : List Token}
    (first : Segmentation text origin spans tokens)
    (second : Segmentation text origin spans' tokens') :
    spans = spans' ∧ List.Forall₂ (fun token token' => token.kind = token'.kind ∧
      token.value = token'.value) tokens tokens' := by
  -- From the left: the first spans agree, and the others divide what lies behind them.
  induction spans generalizing origin tokens spans' tokens' with
  | nil =>
      cases spans' with
      | nil =>
          cases first.matched
          cases second.matched
          exact ⟨rfl, .nil⟩
      | cons span' spans' =>
          cases tokens' with
          | nil => cases second.matched
          | cons token' tokens' =>
              cases first.matched
              exact (second.not_nil_of_cons first).elim
  | cons span spans ih =>
      cases tokens with
      | nil => cases first.matched
      | cons token tokens =>
          cases spans' with
          | nil =>
              cases second.matched
              exact (first.not_nil_of_cons second).elim
          | cons span' spans' =>
              cases tokens' with
              | nil => cases second.matched
              | cons token' tokens' =>
                  have same := Nat.le_antisymm (first.start_le second) (second.start_le first)
                  obtain ⟨rfl, kind, value⟩ :=
                    (List.forall₂_cons.mp first.matched).1.unique
                      (List.forall₂_cons.mp second.matched).1 same
                      (first.within span List.mem_cons_self).2.1
                      (second.within span' List.mem_cons_self).2.1
                  obtain ⟨rfl, rest⟩ := ih first.tail second.tail
                  exact ⟨rfl, .cons ⟨kind, value⟩ rest⟩

theorem cons (after : Segmentation text span.stop spans tokens) (first : Matches text span token)
    (low : origin ≤ span.start) (filled : span.start < span.stop) (high : span.stop ≤ text.length)
    (gap : ∀ index c, origin ≤ index → index < span.start → text[index]? = some c →
      Text.isBlank c = true) :
    Segmentation text origin (span :: spans) (token :: tokens) where
  ordered := List.pairwise_cons.mpr ⟨fun later held => (after.within later held).1, after.ordered⟩
  within := by
    intro other held
    rcases List.mem_cons.mp held with rfl | held
    · exact ⟨low, filled, high⟩
    · have behind := after.within other held
      exact ⟨by omega, behind.2⟩
  blank := by
    intro index c begins there outside
    by_cases early : index < span.start
    next => exact gap index c begins early there
    next =>
      have late : span.stop ≤ index := by
        by_contra inside
        exact outside span List.mem_cons_self ⟨by omega, by omega⟩
      exact after.blank index c late there fun other held =>
        outside other (List.mem_cons_of_mem _ held)
  matched := .cons first after.matched

end Segmentation

section

variable {before run inner rest : Text}

theorem Span.cut_of_append (before run rest : Text) :
    (⟨before.length, before.length + run.length⟩ : Span).cut (before ++ (run ++ rest)) = run := by
  simp [Span.cut, List.take_append]

theorem Span.isRun_of_append {member : Char → Bool} (before : Text)
    (inside : ∀ c ∈ run, member c = true) (outside : ∀ c ∈ rest.head?, member c = false) :
    (⟨before.length, before.length + run.length⟩ : Span).IsRun member
      (before ++ (run ++ rest)) where
  inside := by
    intro index covered
    obtain ⟨low, high⟩ := covered
    simp only at low high
    have short : index - before.length < run.length := by omega
    refine ⟨run[index - before.length], ?_, inside _ (List.getElem_mem short)⟩
    rw [List.getElem?_append_right low, List.getElem?_append_left short,
      List.getElem?_eq_getElem short]
  maximal := by
    intro c there
    apply outside c
    rw [List.getElem?_append_right (by simp), List.getElem?_append_right (by simp)] at there
    simpa [List.head?_eq_getElem?] using there

theorem nextQuote_of_append (before rest : Text) (closed : '"' ∉ inner) :
    NextQuote (before ++ (('"' :: (inner ++ ['"'])) ++ rest)) before.length
      (before.length + 1 + inner.length) where
  later := by omega
  quote := by
    rw [List.getElem?_append_right (by omega)]
    simp [show before.length + 1 + inner.length - before.length = inner.length + 1 by omega]
  nearest := by
    intro between after early quote
    obtain ⟨index, rfl⟩ := Nat.exists_eq_add_of_lt after
    have short : index < inner.length := by omega
    rw [List.getElem?_append_right (by omega),
      show before.length + index + 1 - before.length = index + 1 by omega] at quote
    simp only [List.cons_append, List.append_assoc, List.getElem?_cons_succ,
      List.getElem?_append_left short] at quote
    exact closed (List.mem_of_getElem? quote)

end

namespace Prescribes

variable {text : Text} {first : Char} {span : Span} {token : Token}

-- The classes of first characters exclude one another, so only one rule has to be met.

theorem of_word (starts : startsWord first = true)
    (met : span.IsRun continuesWord text ∧ token.value = span.cut text ∧
      WordKind token.value token.kind) : Prescribes text first span token := by
  have noQuote : first ≠ '"' := by
    intro same
    subst same
    rw [Cursor.startsWord_quote] at starts
    cases starts
  refine ⟨fun _ => met, ?_, fun quote => absurd quote noQuote,
    fun quote => absurd quote noQuote, ?_⟩
  · intro digit
    rw [Cursor.startsWord_of_isDigit digit] at starts
    cases starts
  · intro noWord
    exact absurd (opensWord_iff.mpr starts) noWord

theorem of_digits (digit : Text.isDigit first = true)
    (met : span.IsRun Text.isDigit text ∧ token.value = span.cut text ∧ token.kind = .number) :
    Prescribes text first span token := by
  have noQuote : first ≠ '"' := by
    intro same
    subst same
    exact absurd digit (by decide)
  refine ⟨?_, fun _ => met, fun quote => absurd quote noQuote,
    fun quote => absurd quote noQuote, ?_⟩
  · intro starts
    rw [opensWord_iff, Cursor.startsWord_of_isDigit digit] at starts
    cases starts
  · intro _ noDigit
    rw [noDigit] at digit
    cases digit

theorem of_closed_quote {closing : Nat} (nearest : NextQuote text span.start closing)
    (met : span.stop = closing + 1 ∧
      token.value = (⟨span.start + 1, closing⟩ : Span).cut text ∧ token.kind = .string) :
    Prescribes text '"' span token where
  word := fun starts => absurd starts (by rw [opensWord_iff, Cursor.startsWord_quote]; decide)
  digits := fun digit => absurd digit (by decide)
  quoted := by
    intro _ other nearest'
    obtain rfl := nearest.unique nearest'
    exact met
  loneQuote := fun _ lone => absurd nearest.quote (lone _ nearest.later)
  mark := fun _ _ noQuote => absurd rfl noQuote

theorem of_lone_quote (lone : ∀ later, span.start < later → text[later]? ≠ some '"')
    (met : span.stop = span.start + 1 ∧ token.value = [] ∧ token.kind = .unknown) :
    Prescribes text '"' span token where
  word := fun starts => absurd starts (by rw [opensWord_iff, Cursor.startsWord_quote]; decide)
  digits := fun digit => absurd digit (by decide)
  quoted := fun _ _ nearest => absurd nearest.quote (lone _ nearest.later)
  loneQuote := fun _ _ => met
  mark := fun _ _ noQuote => absurd rfl noQuote

theorem of_mark (noWord : startsWord first = false) (noDigit : Text.isDigit first = false)
    (noQuote : first ≠ '"')
    (met : span.stop = span.start + 1 ∧ token.value = [first] ∧ token.kind = .ofMark first) :
    Prescribes text first span token where
  word := fun starts => absurd starts (by simp [opensWord_iff, noWord])
  digits := fun digit => absurd digit (by simp [noDigit])
  quoted := fun quote => absurd quote noQuote
  loneQuote := fun quote => absurd quote noQuote
  mark := fun _ _ _ => ⟨met.1, met.2.1, met.2.2 ▸ markKind_ofMark first⟩

end Prescribes

theorem Lexeme.matches_of_ends {lexeme : Lexeme} {rest : Text} (formed : lexeme.Formed)
    (ends : lexeme.Ends rest) (before : Text) (position : Position) :
    Matches (before ++ (lexeme.raw ++ rest)) ⟨before.length, before.length + lexeme.raw.length⟩
      (lexeme.token position) := by
  obtain ⟨first, more, raw, dark⟩ := raw_of_formed formed
  refine ⟨first, by simp [raw], dark, ?_⟩
  cases lexeme with
  | word spelling =>
      obtain ⟨⟨_, _, rfl, starts⟩, continues⟩ := formed
      injection raw with same _
      subst same
      exact .of_word starts ⟨Span.isRun_of_append before continues ends,
        (Span.cut_of_append ..).symm, wordKind_iff.mpr rfl⟩
  | digits run =>
      have digit : Text.isDigit first = true := formed.2 first (by simp [show run = _ from raw])
      exact .of_digits digit ⟨Span.isRun_of_append before formed.2 ends,
        (Span.cut_of_append ..).symm, rfl⟩
  | quoted inner =>
      injection raw with same _
      subst same
      refine .of_closed_quote (nextQuote_of_append before rest formed) ⟨?_, ?_, rfl⟩
      · simp only [Lexeme.raw, List.length_cons, List.length_append, List.length_nil]
        omega
      · have inside := Span.cut_of_append (before ++ ['"']) inner ('"' :: rest)
        simpa [Lexeme.raw, Lexeme.token, Lexeme.value] using inside.symm
  | loneQuote =>
      injection raw with same _
      subst same
      refine .of_lone_quote ?_ ⟨rfl, rfl, rfl⟩
      intro other (later : before.length < other) quote
      obtain ⟨index, rfl⟩ := Nat.exists_eq_add_of_lt later
      rw [List.getElem?_append_right (by omega),
        show before.length + index + 1 - before.length = index + 1 by omega] at quote
      exact ends (List.mem_of_getElem? (by simpa [Lexeme.raw] using quote))
  | mark c =>
      injection raw with same _
      subst same
      obtain ⟨noWord, noDigit, noQuote, _⟩ := formed
      exact .of_mark noWord noDigit noQuote ⟨rfl, rfl, rfl⟩

def Lexeme.Fills (lexeme : Lexeme) (before : Text) (span : Span) (text : Text) : Prop :=
  ∃ rest, text = before ++ (lexeme.raw ++ rest) ∧
    span = ⟨before.length, before.length + lexeme.raw.length⟩ ∧ lexeme.Formed ∧ lexeme.Ends rest

def ReadAt (text before : Text) (position : Position) (span : Span) (token : Token) : Prop :=
  ∃ (lexeme : Lexeme) (between : Text), lexeme.Fills (before ++ between) span text ∧
    token = lexeme.token (position.after between)

theorem Scans.exists_spans {position : Position} {ahead : Text} {tokens : List Token}
    (scans : Scans position ahead tokens) (before : Text) :
    ∃ body spans, tokens = body ++ [⟨.endOfInput, [], position.after ahead⟩] ∧
      (∀ token ∈ body, token.kind ≠ .endOfInput) ∧
      Segmentation (before ++ ahead) before.length spans body ∧
      List.Forall₂ (ReadAt (before ++ ahead) before position) spans body := by
  -- What was passed is kept in front, since spans count from the start of the whole text.
  induction scans generalizing before with
  | @done position gap blank =>
      refine ⟨[], [], rfl, by simp, ⟨.nil, by simp, ?_, .nil⟩, .nil⟩
      intro index c low there _
      rw [List.getElem?_append_right low] at there
      exact blank c (List.mem_of_getElem? there)
  | @next position gap rest lexeme tokens blank formed ends _ ih =>
      obtain ⟨body, spans, rfl, going, segmented, read⟩ := ih (before ++ gap ++ lexeme.raw)
      obtain ⟨first, more, raw, _⟩ := Lexeme.raw_of_formed formed
      have found := Lexeme.matches_of_ends formed ends (before ++ gap) (position.after gap)
      have behind : Segmentation (before ++ (gap ++ (lexeme.raw ++ rest)))
          ((before ++ gap).length + lexeme.raw.length) spans body := by
        simpa [Nat.add_assoc] using segmented
      have later : List.Forall₂ (ReadAt (before ++ (gap ++ (lexeme.raw ++ rest))) before position)
          spans body := by
        refine read.imp ?_
        intro span token given
        obtain ⟨other, between, filled, rfl⟩ := given
        exact ⟨other, gap ++ lexeme.raw ++ between, by simpa using filled,
          by simp [Position.after_append]⟩
      have filled : lexeme.Fills (before ++ gap)
          ⟨(before ++ gap).length, (before ++ gap).length + lexeme.raw.length⟩
          (before ++ (gap ++ (lexeme.raw ++ rest))) := ⟨rest, by simp, rfl, formed, ends⟩
      rw [List.append_assoc before gap] at found
      refine ⟨lexeme.token (position.after gap) :: body, _, by simp [Position.after_append], ?_,
        .cons behind found (by simp) (by simp [raw]) (by simp; omega) ?_,
        .cons ⟨lexeme, gap, filled, rfl⟩ later⟩
      · intro token held
        rcases List.mem_cons.mp held with rfl | held
        · exact lexeme.kind_ne_endOfInput
        · exact going token held
      · intro index c low high there
        rw [List.getElem?_append_right low] at there
        rw [List.getElem?_append_left (by simp at high; omega)] at there
        exact blank c (List.mem_of_getElem? there)

theorem Scans.exists_segmentation {position : Position} {ahead : Text} {tokens : List Token}
    (scans : Scans position ahead tokens) (before : Text) :
    ∃ body last spans, tokens = body ++ [last] ∧ last.kind = .endOfInput ∧
      (∀ token ∈ body, token.kind ≠ .endOfInput) ∧
      Segmentation (before ++ ahead) before.length spans body := by
  obtain ⟨body, spans, whole, going, segmented, _⟩ := scans.exists_spans before
  exact ⟨body, _, spans, whole, rfl, going, segmented⟩

/-- The tokens of a text, less the end of input that closes them, are those of its segmentation,
and it has no other. -/
theorem tokenize_segmentation (text : Text) :
    ∃ tokens last spans, tokenize text = tokens ++ [last] ∧ last.kind = .endOfInput ∧
      (∀ token ∈ tokens, token.kind ≠ .endOfInput) ∧ Segmentation text 0 spans tokens ∧
      ∀ spans' tokens', Segmentation text 0 spans' tokens' →
        spans' = spans ∧ List.Forall₂ (fun token' token => token'.kind = token.kind ∧
          token'.value = token.value) tokens' tokens := by
  obtain ⟨tokens, last, spans, whole, final, going, segmented⟩ :=
    ((tokenize_eq_iff text _).mp rfl).exists_segmentation []
  exact ⟨tokens, last, spans, whole, final, going, segmented,
    fun _ _ other => other.unique segmented⟩

end SceneScript
