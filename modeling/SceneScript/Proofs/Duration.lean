import Mathlib.Algebra.BigOperators.Fin
import Mathlib.Tactic.Ring
import SceneScript.Proofs.Script
import SceneScript.Proofs.Spelling

set_option autoImplicit false

namespace SceneScript

namespace Text

theorem foldl_positional (start : Nat) (digits : Text) :
    digits.foldl (fun value digit => 10 * value + digitValue digit) start =
      start * 10 ^ digits.length +
        ∑ place : Fin digits.length,
          digitValue digits[place] * 10 ^ (digits.length - 1 - place) := by
  -- On the digits, for every start: each step makes the start of the next one.
  induction digits generalizing start with
  | nil => simp
  | cons digit rest ih =>
      have weight (place : Fin rest.length) :
          rest.length - (place.val + 1) = rest.length - 1 - place.val := by omega
      have first : ∑ place : Fin (rest.length + 1),
          digitValue (digit :: rest)[place] * 10 ^ (rest.length + 1 - 1 - place) =
            digitValue digit * 10 ^ rest.length +
              ∑ place : Fin rest.length,
                digitValue rest[place] * 10 ^ (rest.length - 1 - place) := by
        rw [Fin.sum_univ_succ]
        simp [weight]
      simp only [List.foldl_cons, List.length_cons, ih, first]
      ring

theorem positional_eq_sum (digits : Text) :
    positional digits =
      ∑ place : Fin digits.length, digitValue digits[place] * 10 ^ (digits.length - 1 - place) := by
  simpa [positional] using foldl_positional 0 digits

theorem wellSpaced_of_absent {text : Text} (filled : text ≠ []) (absent : '_' ∉ text) :
    wellSpaced text = true := by
  fun_induction wellSpaced text with
  | case1 => exact absurd rfl filled
  | case2 => simp at absent
  | case3 => rfl
  | case4 => simp at absent
  | case5 first rest _ more _ ih => exact ih more fun held => absent (List.mem_cons_of_mem _ held)

theorem notMem_of_isDigits {text : Text} (digits : text.IsDigits) {c : Char}
    (other : isDigit c = false) : c ∉ text := by
  intro held
  rw [digits.2 c held] at other
  cases other

theorem splitSign_of_isDigits {text : Text} (digits : text.IsDigits) :
    splitSign text = (false, text) := by
  have minus : '-' ∉ text := notMem_of_isDigits digits (by decide)
  have plus : '+' ∉ text := notMem_of_isDigits digits (by decide)
  unfold splitSign
  split
  next => simp at minus
  next => simp at plus
  next => rfl

theorem readNumeral_of_isDigits {text : Text} (digits : text.IsDigits) :
    readNumeral text =
      if text.length ≤ numeralDigitLimit then .ok (positional text)
      else .error (.tooLong text.length) := by
  have bare : text.dropWhile surroundsNumeral = text := by
    obtain ⟨first, rest, rfl⟩ := List.exists_cons_of_ne_nil digits.1
    have dark := isBlank_of_isDigit (digits.2 first List.mem_cons_self)
    simp [surroundsNumeral, dark]
  have solid : '_' ∉ text := notMem_of_isDigits digits (by decide)
  have whole : MaximalRun (fun c => isDigit c || c = '_') text text [] :=
    ⟨(List.append_nil text).symm, fun c held => by simp [digits.2 c held], by simp⟩
  have kept : text.filter (· ≠ '_') = text :=
    List.filter_eq_self.mpr fun c held =>
      decide_eq_true fun same => solid (same ▸ held)
  simp only [readNumeral, bare, splitSign_of_isDigits digits, whole.takeWhile_eq,
    whole.dropWhile_eq, kept, wellSpaced_of_absent digits.1 solid]
  by_cases long : numeralDigitLimit < text.length
  next => simp [long]
  next => simp [long, Nat.not_lt.mp long]

end Text

/-- Behind what derives the earlier instructions, the duration is the whole run of digits behind the
keyword of a wait. -/
def StandsBehindWait (text : Text) (earlier : List Instruction) (duration : Text) : Prop :=
  duration.IsDigits ∧ ∃ spans tokens, Segmentation text 0 spans tokens ∧
    ∃ (pieces : List (List Token)) (head operand : Token) (rest : List Token) (span : Span),
      List.Forall₂ Derives earlier pieces ∧
      tokens = pieces.flatten ++ head :: operand :: rest ∧ head.kind = .keyword .wait ∧
      operand.kind = .number ∧ operand.value = duration ∧
      spans[pieces.flatten.length + 1]? = some span ∧
      span.IsRun Text.isDigit text ∧ span.cut text = duration

theorem ReadAt.isRun {text before : Text} {position : Position} {span : Span} {token : Token}
    (read : ReadAt text before position span token)
    (counts : token.kind = .number ∨ token.kind = .integer) :
    token.kind = .number ∧ span.IsRun Text.isDigit text ∧ span.cut text = token.value ∧
      token.value.IsDigits := by
  obtain ⟨lexeme, between, filled, rfl⟩ := read
  obtain ⟨run, rfl⟩ := Lexeme.exists_digits counts
  obtain ⟨rest, rfl, rfl, formed, ends⟩ := filled
  exact ⟨rfl, Span.isRun_of_append _ formed.2 ends, Span.cut_of_append .., formed⟩

namespace Program

theorem exists_pieces {earlier later : List Instruction} {instruction : Instruction}
    {pieces : List (List Token)}
    (derived : List.Forall₂ Derives (earlier ++ instruction :: later) pieces) :
    ∃ before piece after, pieces = before ++ piece :: after ∧ List.Forall₂ Derives earlier before ∧
      Derives instruction piece := by
  have front := List.forall₂_take earlier.length derived
  have behind := List.forall₂_drop earlier.length derived
  rw [List.take_left] at front
  rw [List.drop_left, List.forall₂_cons_left_iff] at behind
  obtain ⟨piece, after, found, _, rest⟩ := behind
  exact ⟨_, piece, after, by rw [← rest, List.take_append_drop], front, found⟩

theorem standsBehindWait {file : Option Path} {text : Text} {program : Program}
    (read : ofText file text = .ok program) {earlier later : List Instruction} {duration : Text}
    (divided : program.instructions = earlier ++ .wait duration :: later) :
    StandsBehindWait text earlier duration := by
  obtain ⟨pieces, last, derived, ended, split⟩ := ofText_eq_ok_iff.mp read
  obtain ⟨tokens, spans, whole, _, segmented, stands⟩ :=
    ((tokenize_eq_iff text _).mp rfl).exists_spans []
  rw [divided] at derived
  obtain ⟨before, piece, after, rfl, front, found⟩ := exists_pieces derived
  obtain ⟨rfl, _⟩ := List.append_inj' (whole.symm.trans split) rfl
  cases found with
  | @wait head operand opens counts =>
      have there : (before ++ [head, operand] :: after).flatten =
          before.flatten ++ head :: operand :: after.flatten := by simp
      rw [there] at segmented stands
      have short : before.flatten.length + 1 < spans.length := by
        rw [stands.length_eq]
        simp
      have second : (before.flatten ++ head :: operand :: after.flatten)[before.flatten.length + 1]?
          = some operand := by simp
      obtain ⟨inside, same⟩ := List.getElem?_eq_some_iff.mp second
      have behind := stands.get short inside
      simp only [List.get_eq_getElem, same] at behind
      obtain ⟨number, run, written, digits⟩ := behind.isRun counts
      exact ⟨digits, spans, _, segmented, before, head, operand, after.flatten, _, front, rfl,
        opens, number, rfl, List.getElem?_eq_getElem short, run, written⟩

/-- A duration is kept as it stands in the script, and only its length decides whether it is read as
the number that its digits write. -/
theorem milliseconds_of_ofText {file : Option Path} {text : Text} {program : Program}
    (read : ofText file text = .ok program) {earlier later : List Instruction} {duration : Text}
    (divided : program.instructions = earlier ++ .wait duration :: later) :
    StandsBehindWait text earlier duration ∧
      Instruction.milliseconds duration =
        if duration.length ≤ 4300 then
          .ok ((∑ place : Fin duration.length,
            Text.digitValue duration[place] * 10 ^ (duration.length - 1 - place) : Nat) : Int)
        else .error (.tooLong duration.length) := by
  have stands := standsBehindWait read divided
  refine ⟨stands, ?_⟩
  rw [Instruction.milliseconds, Text.readNumeral_of_isDigits stands.1, Text.positional_eq_sum]
  rfl

theorem milliseconds_of_mixed_digits :
    ofText none "end wait 007\u0665" = .ok ⟨[.stop, .wait "007\u0665"]⟩ ∧
      Instruction.milliseconds "007\u0665" = .ok 75 := by
  have read : ofText none "end wait 007\u0665" = .ok ⟨[.stop, .wait "007\u0665"]⟩ := by
    decide +kernel
  have divided : (Program.mk [.stop, .wait "007\u0665"]).instructions =
      [.stop] ++ .wait "007\u0665" :: [] := rfl
  refine ⟨read, ?_⟩
  rw [(milliseconds_of_ofText read divided).2]
  decide +kernel

end Program

end SceneScript
