import SceneScript.Proofs.Segmentation
import SceneScript.Proofs.Spelling
import Mathlib.Data.List.Induction

set_option autoImplicit false

namespace SceneScript

def Text.place (text : Text) : Position :=
  ⟨1 + text.count '\n', 1 + (text.reverse.takeWhile (· ≠ '\n')).length⟩

theorem Position.start_after (text : Text) : Position.start.after text = text.place := by
  induction text using List.reverseRecOn with
  | nil => rfl
  | append_singleton text c ih =>
      rw [after_append, ih]
      by_cases ends : c = '\n'
      next =>
        subst ends
        simp [step, Text.place]
        omega
      next =>
        simp [step, Text.place, ends]
        omega

namespace Token

def StampedAtEnd (token : Token) : Prop :=
  match token.kind with
  | .keyword _ | .identifier | .number | .string => True
  | .unknown => token.value = []
  | _ => False

def StampedAtStart (token : Token) : Prop :=
  match token.kind with
  | .leftBrace | .rightBrace | .leftParen | .rightParen | .comma => True
  | .unknown => token.value.length = 1
  | _ => False

variable {token : Token}

theorem not_stampedAtStart (atEnd : token.StampedAtEnd) : ¬ token.StampedAtStart := by
  intro atStart
  cases kind : token.kind with
  | unknown =>
      simp only [StampedAtEnd, StampedAtStart, kind] at atEnd atStart
      simp [atEnd] at atStart
  | _ => simp [StampedAtEnd, StampedAtStart, kind] at atEnd atStart

end Token

structure Stamped (text : Text) (span : Span) (token : Token) : Prop where
  sorted : token.StampedAtEnd ∨ token.StampedAtStart
  atEnd : token.StampedAtEnd → token.position = Text.place (text.take span.stop)
  atStart : token.StampedAtStart → token.position = Text.place (text.take span.start)

namespace Stamped

variable {text : Text} {span : Span} {token : Token}

theorem of_end (atEnd : token.StampedAtEnd)
    (same : token.position = Text.place (text.take span.stop)) : Stamped text span token where
  sorted := .inl atEnd
  atEnd := fun _ => same
  atStart := fun atStart => absurd atStart (Token.not_stampedAtStart atEnd)

theorem of_start (atStart : token.StampedAtStart)
    (same : token.position = Text.place (text.take span.start)) : Stamped text span token where
  sorted := .inr atStart
  atEnd := fun atEnd => absurd atStart (Token.not_stampedAtStart atEnd)
  atStart := fun _ => same

end Stamped

namespace Lexeme

variable {lexeme : Lexeme} {before text : Text} {span : Span}

theorem Fills.take_start (filled : lexeme.Fills before span text) :
    text.take span.start = before := by
  obtain ⟨rest, rfl, rfl, _⟩ := filled
  simp

theorem Fills.take_stop (filled : lexeme.Fills before span text) :
    text.take span.stop = before ++ lexeme.raw := by
  obtain ⟨rest, rfl, rfl, _⟩ := filled
  rw [← List.append_assoc, ← List.length_append, List.take_left]

theorem stampedAtStart_mark (c : Char) (position : Position) :
    ((mark c).token position).StampedAtStart := by
  have listed := Kind.ofMark_mem c
  simp only [Token.StampedAtStart, token, kind, value]
  cases same : Kind.ofMark c <;> simp_all

theorem stampedAtEnd_token (noMark : ∀ c, lexeme ≠ mark c) (position : Position) :
    (lexeme.token position).StampedAtEnd := by
  cases lexeme with
  | word spelling =>
      rcases Kind.ofWord_mem spelling with ⟨keyword, same⟩ | same <;>
        simp [Token.StampedAtEnd, token, kind, same]
  | mark c => exact absurd rfl (noMark c)
  | _ => simp [Token.StampedAtEnd, token, kind, value]

theorem Fills.stamped (filled : lexeme.Fills before span text) :
    Stamped text span (lexeme.token (Position.start.after before)) := by
  have start : Position.start.after before = Text.place (text.take span.start) := by
    rw [filled.take_start, Position.start_after]
  have stop : (Position.start.after before).after lexeme.raw =
      Text.place (text.take span.stop) := by
    rw [filled.take_stop, ← Position.start_after, Position.after_append]
  cases lexeme with
  | mark c => exact .of_start (stampedAtStart_mark c _) start
  | _ => exact .of_end (stampedAtEnd_token (by simp) _) stop

end Lexeme

/-- Every token of a text carries the place of its span, and the end of input the place behind the
whole text. -/
theorem tokenize_stamped (text : Text) :
    ∃ tokens, tokenize text = tokens ++ [⟨.endOfInput, [], text.place⟩] ∧
      (∃ spans, Segmentation text 0 spans tokens) ∧
      ∀ spans, Segmentation text 0 spans tokens → List.Forall₂ (Stamped text) spans tokens := by
  obtain ⟨tokens, spans, whole, _, segmented, read⟩ :=
    ((tokenize_eq_iff text _).mp rfl).exists_spans []
  have stamped : List.Forall₂ (Stamped text) spans tokens := by
    refine read.imp ?_
    intro span token given
    obtain ⟨lexeme, between, filled, rfl⟩ := given
    exact filled.stamped
  rw [Position.start_after] at whole
  refine ⟨tokens, whole, ⟨spans, segmented⟩, ?_⟩
  intro others segmented'
  obtain ⟨rfl, _⟩ := segmented.unique segmented'
  exact stamped

end SceneScript
