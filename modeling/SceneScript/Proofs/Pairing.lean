import SceneScript.Proofs.Shift

set_option autoImplicit false

namespace SceneScript

namespace Token

def isString (token : Token) : Bool := token.kind = .string

def isLoneQuote (token : Token) : Bool := token.kind = .unknown && token.value = []

theorem quotes_eq (token : Token) :
    token.quotes = 2 * token.isString.toNat + token.isLoneQuote.toNat := by
  cases token with
  | mk kind value position =>
      cases kind <;> simp [quotes, isString, isLoneQuote]
      split <;> simp_all

theorem sum_quotes_eq (tokens : List Token) :
    (tokens.map quotes).sum = 2 * tokens.countP isString + tokens.countP isLoneQuote := by
  induction tokens with
  | nil => rfl
  | cons token tokens ih =>
      rw [List.map_cons, List.sum_cons, ih, quotes_eq, List.countP_cons, List.countP_cons]
      cases token.isString <;> cases token.isLoneQuote <;> simp <;> omega

end Token

namespace Lexeme

variable {lexeme : Lexeme} {position : Position}

theorem eq_loneQuote (lone : (lexeme.token position).isLoneQuote = true) : lexeme = loneQuote := by
  simp only [Token.isLoneQuote, token, Bool.and_eq_true] at lone
  obtain ⟨unknown, empty⟩ := lone
  cases lexeme with
  | loneQuote => rfl
  | word spelling =>
      rcases Kind.ofWord_mem spelling with ⟨keyword, same⟩ | same <;> simp [kind, same] at unknown
  | mark c => cases empty
  | digits run => cases unknown
  | quoted inner => cases unknown

end Lexeme

namespace Scans

variable {position : Position} {text : Text} {tokens others : List Token}

theorem unique (scans : Scans position text tokens) (other : Scans position text others) :
    tokens = others :=
  (Cursor.drain_of_scans scans 0).symm.trans (Cursor.drain_of_scans other 0)

theorem exists_behind {earlier later : List Token} {token : Token}
    (scans : Scans position text (earlier ++ token :: later))
    (going : token.kind ≠ .endOfInput) :
    ∃ (before : Text) (lexeme : Lexeme) (rest : Text), text = before ++ (lexeme.raw ++ rest) ∧
      token = lexeme.token (position.after before) ∧ lexeme.Ends rest ∧
      Scans (position.after (before ++ lexeme.raw)) rest later := by
  generalize whole : earlier ++ token :: later = tokens at scans
  induction scans generalizing earlier with
  | done =>
      cases earlier with
      | nil =>
          obtain ⟨rfl, rfl⟩ := List.cons.inj whole
          exact absurd rfl going
      | cons => simp at whole
  | @next position gap rest lexeme tokens blank formed ends more ih =>
      cases earlier with
      | nil =>
          obtain ⟨rfl, rfl⟩ := List.cons.inj whole
          exact ⟨gap, lexeme, rest, rfl, rfl, ends, more⟩
      | cons first earlier =>
          obtain ⟨rfl, others⟩ := List.cons.inj whole
          obtain ⟨before, found, left, rfl, same, ends', more'⟩ := ih others
          refine ⟨gap ++ (lexeme.raw ++ before), found, left, by simp, ?_, ends', ?_⟩
          · rw [same, ← Position.after_append, List.append_assoc]
          · rw [← Position.after_append] at more'
            simpa using more'

theorem countP_of_quoteless (scans : Scans position text tokens) (free : '"' ∉ text) :
    tokens.countP Token.isString = 0 ∧ tokens.countP Token.isLoneQuote = 0 := by
  have counted := scans.sum_quotes
  rw [List.count_eq_zero.mpr free, Token.sum_quotes_eq] at counted
  omega

theorem countP_loneQuote_le (scans : Scans position text tokens) :
    tokens.countP Token.isLoneQuote ≤ 1 := by
  induction scans with
  | done => simp [Token.isLoneQuote]
  | @next position gap rest lexeme tokens blank formed ends more ih =>
      rw [List.countP_cons]
      by_cases lone : (lexeme.token (position.after gap)).isLoneQuote = true
      next =>
        -- A quote is read alone if no other follows, so none is left for the tokens behind it.
        obtain rfl := Lexeme.eq_loneQuote lone
        rw [(more.countP_of_quoteless ends).2, if_pos lone]
      next =>
        rw [if_neg lone]
        exact ih

end Scans

theorem last_quote_unique {before after before' after' : Text} (free : '"' ∉ after)
    (free' : '"' ∉ after') (same : before ++ '"' :: after = before' ++ '"' :: after') :
    before = before' ∧ after = after' := by
  -- Read backwards, what stands behind the last quote is the run in front of the first.
  have run (start rest : Text) (quoteless : '"' ∉ rest) :
      MaximalRun (· ≠ '"') (start ++ '"' :: rest).reverse rest.reverse ('"' :: start.reverse) := by
    refine ⟨by simp, fun c held => decide_eq_true ?_, by simp⟩
    intro quote
    subst quote
    exact quoteless (List.mem_reverse.mp held)
  have ends := (run before after free).takeWhile_eq
  rw [same, (run before' after' free').takeWhile_eq, List.reverse_inj] at ends
  subst ends
  exact ⟨List.append_cancel_right same, rfl⟩

structure Dangling (text before after : Text) (earlier : List Token) (lone : Token)
    (later : List Token) : Prop where
  split : text = before ++ '"' :: after
  last : '"' ∉ after
  tokens : tokenize text = earlier ++ lone :: later
  lone : lone.isLoneQuote = true
  covers : ∃ body final spans, tokenize text = body ++ [final] ∧ Segmentation text 0 spans body ∧
    spans[earlier.length]? = some ⟨before.length, before.length + 1⟩
  noString : ∀ token ∈ later, token.isString = false
  fresh : List.Forall₂ (Token.Moved (Text.place (before ++ ['"']))) (tokenize after) later

theorem Scans.moved {text : Text} {tokens : List Token} {origin : Position}
    (scans : Scans origin text tokens) :
    List.Forall₂ (Token.Moved origin) (tokenize text) tokens := by
  have fresh := ((tokenize_eq_iff text _).mp rfl).restamped (by decide) origin
  rw [Position.behind_start] at fresh
  rw [scans.unique fresh]
  exact Token.forall₂_moved origin _

theorem span_of_loneQuote {text before after : Text} {earlier later : List Token} {lone : Token}
    (split : text = before ++ '"' :: after) (last : '"' ∉ after)
    (tokens : tokenize text = earlier ++ lone :: later) (alone : lone.isLoneQuote = true) :
    ∃ body final spans, tokenize text = body ++ [final] ∧ Segmentation text 0 spans body ∧
      spans[earlier.length]? = some ⟨before.length, before.length + 1⟩ := by
  obtain ⟨body, spans, whole, _, segmented, read⟩ :=
    ((tokenize_eq_iff text _).mp rfl).exists_spans []
  rw [List.nil_append] at segmented read
  refine ⟨body, _, spans, whole, segmented, ?_⟩
  have there : body[earlier.length]? = some lone := by
    have found : (tokenize text)[earlier.length]? = some lone := by
      rw [tokens, List.getElem?_append_right (Nat.le_refl _), Nat.sub_self, List.getElem?_cons_zero]
    by_cases inside : earlier.length < body.length
    next => rwa [whole, List.getElem?_append_left inside] at found
    next =>
      -- Behind the body stands the end of input only, which is no quote.
      rw [whole, List.getElem?_append_right (by omega)] at found
      obtain rfl := List.mem_singleton.mp (List.mem_of_getElem? found)
      cases alone
  obtain ⟨inside, here⟩ := List.getElem?_eq_some_iff.mp there
  have among : earlier.length < spans.length := by rw [read.length_eq]; exact inside
  obtain ⟨lexeme, between, ⟨rest, split', span, _, ends⟩, same⟩ := read.get among inside
  rw [List.get_eq_getElem, here] at same
  rw [List.get_eq_getElem] at span
  obtain rfl := Lexeme.eq_loneQuote (same ▸ alone)
  obtain ⟨rfl, _⟩ := last_quote_unique last ends (split.symm.trans split')
  rw [List.getElem?_eq_getElem among, span]
  rfl

theorem dangling_of_odd {text : Text} (odd : text.count '"' % 2 = 1) :
    ∃ before after earlier lone later, Dangling text before after earlier lone later := by
  have scans := (tokenize_eq_iff text _).mp rfl
  have present : 0 < (tokenize text).countP Token.isLoneQuote := by
    have counted := scans.sum_quotes
    rw [Token.sum_quotes_eq] at counted
    omega
  obtain ⟨lone, held, alone⟩ := List.countP_pos_iff.mp present
  obtain ⟨earlier, later, tokens⟩ := List.append_of_mem held
  have going : lone.kind ≠ .endOfInput := by
    intro ended
    simp [Token.isLoneQuote, ended] at alone
  rw [tokens] at scans
  obtain ⟨before, lexeme, after, split, same, ends, more⟩ := scans.exists_behind going
  obtain rfl := Lexeme.eq_loneQuote (same ▸ alone)
  refine ⟨before, after, earlier, lone, later, split, ends, tokens, alone,
    span_of_loneQuote split ends tokens alone, ?_, ?_⟩
  · intro token behind
    have none := List.countP_eq_zero.mp (more.countP_of_quoteless ends).1 token behind
    simpa using none
  · rw [Position.start_after] at more
    exact more.moved

structure QuotesPaired (text : Text) : Prop where
  strings : (tokenize text).countP Token.isString = text.count '"' / 2
  quoteless : ∀ token ∈ tokenize text, token.isString = true → '"' ∉ token.value
  loneQuotes : (tokenize text).countP Token.isLoneQuote = text.count '"' % 2
  dangling : text.count '"' % 2 = 1 →
    ∃ before after earlier lone later, Dangling text before after earlier lone later

/-- Two quotes make a string, from the left, and a last one without a partner stands alone. -/
theorem tokenize_pairs_quotes (text : Text) : QuotesPaired text := by
  have scans := (tokenize_eq_iff text _).mp rfl
  have counted := scans.sum_quotes
  rw [Token.sum_quotes_eq] at counted
  have atMost := scans.countP_loneQuote_le
  constructor
  case strings => omega
  case quoteless => exact fun token held _ => (scans.scanned token held).quote_notMem
  case loneQuotes => omega
  case dangling => exact dangling_of_odd

end SceneScript
