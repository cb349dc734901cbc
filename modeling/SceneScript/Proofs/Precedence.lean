import SceneScript.Proofs.Stamp

set_option autoImplicit false

namespace SceneScript

namespace Position

variable {one other : Position}

def Before (one other : Position) : Prop :=
  one.line < other.line ∨ one.line = other.line ∧ one.column < other.column

def AtMost (one other : Position) : Prop :=
  one.line < other.line ∨ one.line = other.line ∧ one.column ≤ other.column

theorem AtMost.refl (position : Position) : position.AtMost position :=
  .inr ⟨rfl, Int.le_refl _⟩

theorem AtMost.line (atMost : one.AtMost other) : one.line ≤ other.line := by
  rcases atMost with earlier | same
  · omega
  · omega

theorem Before.atMost (before : one.Before other) : one.AtMost other := by
  rcases before with earlier | same
  · exact .inl earlier
  · exact .inr ⟨same.1, by omega⟩

theorem Before.ne (before : one.Before other) : one ≠ other := by
  rintro rfl
  rcases before with earlier | same
  · omega
  · omega

theorem Before.trans {last : Position} (first : one.Before other) (second : other.Before last) :
    one.Before last := by
  simp only [Before] at *
  omega

theorem before_step (position : Position) (c : Char) : position.Before (position.step c) := by
  by_cases ends : c = '\n'
  next =>
    rw [step, if_pos ends]
    exact .inl (Int.lt_succ position.line)
  next =>
    rw [step, if_neg ends]
    exact .inr ⟨rfl, Int.lt_succ position.column⟩

theorem before_after (position : Position) {text : Text} (filled : text ≠ []) :
    position.Before (position.after text) := by
  induction text generalizing position with
  | nil => exact absurd rfl filled
  | cons c rest ih =>
      by_cases last : rest = []
      next =>
        rw [last]
        exact before_step position c
      next => exact (before_step position c).trans (ih (position.step c) last)

end Position

namespace Text

variable {text : Text} {first second : Nat}

theorem place_before (earlier : first < second) (within : second ≤ text.length) :
    (place (text.take first)).Before (place (text.take second)) := by
  obtain ⟨between, whole⟩ : text.take first <+: text.take second :=
    List.take_prefix_take_left (Nat.le_of_lt earlier)
  have filled : between ≠ [] := by
    rintro rfl
    have same := congrArg List.length whole
    simp only [List.append_nil, List.length_take] at same
    omega
  rw [← whole, ← Position.start_after, ← Position.start_after, Position.after_append]
  exact Position.before_after _ filled

theorem place_atMost (earlier : first ≤ second) (within : second ≤ text.length) :
    (place (text.take first)).AtMost (place (text.take second)) := by
  rcases Nat.lt_or_eq_of_le earlier with before | rfl
  · exact (place_before before within).atMost
  · exact .refl _

theorem place_inj (earlier : first ≤ second) (within : second ≤ text.length) :
    place (text.take first) = place (text.take second) ↔ first = second := by
  constructor
  · intro same
    rcases Nat.lt_or_eq_of_le earlier with before | equal
    · exact absurd same (place_before before within).ne
    · exact equal
  · exact fun equal => by rw [equal]

end Text

namespace Token

variable {token : Token}

/-- Marks and the end of input carry the position where they stand. -/
def StampedInPlace (token : Token) : Prop := token.StampedAtStart ∨ token.kind = .endOfInput

theorem not_stampedInPlace (atEnd : token.StampedAtEnd) : ¬ token.StampedInPlace := by
  rintro (atStart | ended)
  · exact not_stampedAtStart atEnd atStart
  · simp [StampedAtEnd, ended] at atEnd

end Token

structure InOrder (spans : List Span) (tokens : List Token) : Prop where
  level : spans.length = tokens.length
  consecutive : ∀ (index : Nat) span token later next,
    spans[index]? = some span → tokens[index]? = some token →
    spans[index + 1]? = some later → tokens[index + 1]? = some next →
    token.position.AtMost next.position ∧
      (token.position = next.position ↔
        token.StampedAtEnd ∧ next.StampedInPlace ∧ later.start = span.stop)
  paired : ∀ (first second : Nat) token other, first < second →
    tokens[first]? = some token → tokens[second]? = some other →
    token.position = other.position → second = first + 1
  lines : tokens.Pairwise fun token later => token.position.line ≤ later.position.line

structure Placed (text : Text) (span : Span) (token : Token) : Prop where
  stamped : token.StampedAtEnd ∧ token.position = Text.place (text.take span.stop) ∨
    token.StampedInPlace ∧ token.position = Text.place (text.take span.start)
  filled : token.kind ≠ .endOfInput → span.start < span.stop
  forward : span.start ≤ span.stop
  within : span.stop ≤ text.length

structure Laid (text : Text) (spans : List Span) (tokens : List Token) : Prop where
  placed : List.Forall₂ (Placed text) spans tokens
  ordered : spans.Pairwise fun span later => span.stop ≤ later.start
  going : ∀ token ∈ tokens.dropLast, token.kind ≠ .endOfInput

namespace Placed

variable {text : Text} {span later : Span} {token next : Token}

theorem exists_offsets (first : Placed text span token) (second : Placed text later next)
    (behind : span.stop ≤ later.start) (going : token.kind ≠ .endOfInput) :
    ∃ here there, here ≤ there ∧ there ≤ text.length ∧
      token.position = Text.place (text.take here) ∧ next.position = Text.place (text.take there) ∧
      (here = there ↔ token.StampedAtEnd ∧ next.StampedInPlace ∧ later.start = span.stop) := by
  have filled := first.filled going
  have forward := second.forward
  have within := second.within
  rcases first.stamped with ⟨atEnd, position⟩ | ⟨inPlace, position⟩
  · rcases second.stamped with ⟨atEnd', position'⟩ | ⟨inPlace', position'⟩
    · have going' : next.kind ≠ .endOfInput :=
        fun ended => Token.not_stampedInPlace atEnd' (.inr ended)
      have filled' := second.filled going'
      have apart := Token.not_stampedInPlace atEnd'
      exact ⟨span.stop, later.stop, by omega, within, position, position', by simp [apart]; omega⟩
    · exact ⟨span.stop, later.start, behind, by omega, position, position',
        by simp [atEnd, inPlace', eq_comm]⟩
  · have apart : ¬ token.StampedAtEnd := fun atEnd => Token.not_stampedInPlace atEnd inPlace
    rcases second.stamped with ⟨_, position'⟩ | ⟨_, position'⟩
    · exact ⟨span.start, later.stop, by omega, within, position, position', by simp [apart]; omega⟩
    · exact ⟨span.start, later.start, by omega, by omega, position, position',
        by simp [apart]; omega⟩

theorem order (first : Placed text span token) (second : Placed text later next)
    (behind : span.stop ≤ later.start) (going : token.kind ≠ .endOfInput) :
    token.position.AtMost next.position ∧ (token.position = next.position ↔
      token.StampedAtEnd ∧ next.StampedInPlace ∧ later.start = span.stop) := by
  obtain ⟨here, there, earlier, within, position, position', meets⟩ :=
    first.exists_offsets second behind going
  rw [position, position', Text.place_inj earlier within]
  exact ⟨Text.place_atMost earlier within, meets⟩

end Placed

namespace Laid

variable {text : Text} {spans : List Span} {tokens : List Token}

theorem placed_at (laid : Laid text spans tokens) {index : Nat} {span : Span} {token : Token}
    (there : spans[index]? = some span) (there' : tokens[index]? = some token) :
    Placed text span token := by
  obtain ⟨short, rfl⟩ := List.getElem?_eq_some_iff.mp there
  obtain ⟨short', rfl⟩ := List.getElem?_eq_some_iff.mp there'
  exact laid.placed.get short short'

theorem ordered_at (laid : Laid text spans tokens) {first second : Nat} {span later : Span}
    (earlier : first < second) (there : spans[first]? = some span)
    (there' : spans[second]? = some later) : span.stop ≤ later.start := by
  obtain ⟨short, rfl⟩ := List.getElem?_eq_some_iff.mp there
  obtain ⟨short', rfl⟩ := List.getElem?_eq_some_iff.mp there'
  exact List.pairwise_iff_getElem.mp laid.ordered first second short short' earlier

theorem going_at (laid : Laid text spans tokens) {first second : Nat} {token : Token}
    (earlier : first < second) (short : second < tokens.length)
    (there : tokens[first]? = some token) : token.kind ≠ .endOfInput := by
  refine laid.going token (List.mem_of_getElem? (i := first) ?_)
  rw [List.getElem?_dropLast, if_pos (by omega), there]

theorem exists_span (laid : Laid text spans tokens) {index : Nat} {token : Token}
    (there : tokens[index]? = some token) : ∃ span, spans[index]? = some span := by
  obtain ⟨short, _⟩ := List.getElem?_eq_some_iff.mp there
  exact ⟨_, List.getElem?_eq_getElem (laid.placed.length_eq ▸ short)⟩

theorem order (laid : Laid text spans tokens) {first second : Nat} {span later : Span}
    {token next : Token} (earlier : first < second) (there : spans[first]? = some span)
    (token_there : tokens[first]? = some token) (there' : spans[second]? = some later)
    (next_there : tokens[second]? = some next) :
    token.position.AtMost next.position ∧ (token.position = next.position ↔
      token.StampedAtEnd ∧ next.StampedInPlace ∧ later.start = span.stop) := by
  obtain ⟨short, _⟩ := List.getElem?_eq_some_iff.mp next_there
  exact (laid.placed_at there token_there).order (laid.placed_at there' next_there)
    (laid.ordered_at earlier there there') (laid.going_at earlier short token_there)

theorem inOrder (laid : Laid text spans tokens) : InOrder spans tokens := by
  constructor
  case level => exact laid.placed.length_eq
  case consecutive =>
    intro index span token later next there token_there there' next_there
    exact laid.order (Nat.lt_succ_self index) there token_there there' next_there
  case paired =>
    intro first second token other earlier there there' same
    obtain ⟨span, span_there⟩ := laid.exists_span there
    obtain ⟨later, later_there⟩ := laid.exists_span there'
    have meets := ((laid.order earlier span_there there later_there there').2.mp same).2.2
    obtain ⟨short, _⟩ := List.getElem?_eq_some_iff.mp there'
    by_contra apart
    -- A token between the two has a span, which keeps theirs apart.
    have between : first + 1 < second := by omega
    have middle_there := List.getElem?_eq_getElem (Nat.lt_trans between short)
    obtain ⟨middle, here⟩ := laid.exists_span middle_there
    have filled := (laid.placed_at here middle_there).filled
      (laid.going_at between short middle_there)
    have before := laid.ordered_at (Nat.lt_succ_self first) span_there here
    have after := laid.ordered_at between here later_there
    omega
  case lines =>
    refine List.pairwise_iff_getElem.mpr fun first second short short' earlier => ?_
    have there := List.getElem?_eq_getElem short
    have there' := List.getElem?_eq_getElem short'
    obtain ⟨span, span_there⟩ := laid.exists_span there
    obtain ⟨later, later_there⟩ := laid.exists_span there'
    exact (laid.order earlier span_there there later_there there').1.line

end Laid

theorem Lexeme.Fills.placed {lexeme : Lexeme} {before text : Text} {span : Span}
    (filled : lexeme.Fills before span text) :
    Placed text span (lexeme.token (Position.start.after before)) := by
  have stamped := filled.stamped
  obtain ⟨rest, rfl, rfl, formed, _⟩ := filled
  obtain ⟨first, more, raw, _⟩ := Lexeme.raw_of_formed formed
  constructor
  case stamped =>
    rcases stamped.sorted with atEnd | atStart
    · exact .inl ⟨atEnd, stamped.atEnd atEnd⟩
    · exact .inr ⟨.inl atStart, stamped.atStart atStart⟩
  case filled =>
    intro _
    simp [raw]
  case forward => simp
  case within =>
    simp only [List.length_append]
    omega

theorem placed_endOfInput (text : Text) :
    Placed text ⟨text.length, text.length⟩ ⟨.endOfInput, [], text.place⟩ where
  stamped := .inr ⟨.inr rfl, by rw [List.take_length]⟩
  filled := fun going => absurd rfl going
  forward := Nat.le_refl _
  within := Nat.le_refl _

/-- The tokens of a text are in order of their positions, and two of them share one only where a
token that is stamped in place follows directly upon one that is stamped at its end. -/
theorem tokenize_inOrder (text : Text) :
    ∃ tokens, tokenize text = tokens ++ [⟨.endOfInput, [], text.place⟩] ∧
      (∃ spans, Segmentation text 0 spans tokens) ∧
      ∀ spans, Segmentation text 0 spans tokens →
        InOrder (spans ++ [⟨text.length, text.length⟩]) (tokenize text) := by
  obtain ⟨tokens, spans, whole, going, segmented, read⟩ :=
    ((tokenize_eq_iff text _).mp rfl).exists_spans []
  rw [Position.start_after] at whole
  have placed : List.Forall₂ (Placed text) spans tokens := by
    refine read.imp ?_
    intro span token given
    obtain ⟨lexeme, between, filled, rfl⟩ := given
    exact filled.placed
  refine ⟨tokens, whole, ⟨spans, segmented⟩, ?_⟩
  intro others segmented'
  obtain ⟨rfl, _⟩ := segmented.unique segmented'
  have laid : Laid text (spans ++ [⟨text.length, text.length⟩])
      (tokens ++ [⟨.endOfInput, [], text.place⟩]) := by
    constructor
    case placed => exact List.rel_append placed (.cons (placed_endOfInput text) .nil)
    case ordered =>
      refine List.pairwise_append.mpr ⟨segmented.ordered, List.pairwise_singleton .., ?_⟩
      intro span held last ended
      obtain rfl := List.mem_singleton.mp ended
      exact (segmented.within span held).2.2
    case going => simpa using going
  rw [whole]
  exact laid.inOrder

end SceneScript
