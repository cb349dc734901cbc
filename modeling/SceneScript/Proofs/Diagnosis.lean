import SceneScript.Proofs.Rows
import SceneScript.Proofs.Script

set_option autoImplicit false

namespace SceneScript

/-- The diagnostic is about the token, and shows it where it stands in the text. -/
structure Diagnostic.PointsAt (file : Option Path) (text : Text) (token : Token)
    (diagnostic : Diagnostic) : Prop where
  held : token ∈ tokenize text
  carried : diagnostic.subject.token = some token
  placed : ∃ above row below snippet, Text.lines text = above ++ row :: below ∧
    token.position.InRow above row ∧
    diagnostic.context = some ⟨file, token.position, some snippet⟩ ∧ snippet ≠ [] ∧
    Text.lines snippet = above.drop (above.length - 2) ++ row :: below.take 2
  atEnd : (∃ expected found, diagnostic.subject = .unexpectedKind expected .endOfInput found) ↔
    (tokenize text).getLast? = some token
  unknown : diagnostic.subject.family = .unknownInstruction → token.kind ≠ .endOfInput
  nothingBehind : ∀ trailing, diagnostic.subject ≠ (Fault.afterEnd trailing).subject

theorem Scans.exists_passed {position : Position} {text : Text} {tokens : List Token}
    (scans : Scans position text tokens) :
    ∀ token ∈ tokens, ∃ passed ahead, text = passed ++ ahead ∧
      token.position = position.after passed := by
  induction scans with
  | @done position gap =>
      intro token held
      obtain rfl := List.mem_singleton.mp held
      exact ⟨gap, [], (List.append_nil gap).symm, rfl⟩
  | @next position gap rest lexeme tokens blank formed ends _ ih =>
      intro token held
      rcases List.mem_cons.mp held with rfl | held
      · -- A mark is stamped in front of it, any other lexeme behind it.
        cases lexeme with
        | mark c => exact ⟨gap, _, rfl, rfl⟩
        | _ => exact ⟨_, _, (List.append_assoc ..).symm, (Position.after_append ..).symm⟩
      · obtain ⟨passed, ahead, rfl, same⟩ := ih token held
        exact ⟨gap ++ (lexeme.raw ++ passed), ahead, by simp,
          by rw [same, ← Position.after_append, List.append_assoc]⟩

theorem Closed.last_iff {tokens : List Token} {token : Token} (closed : Closed tokens)
    (held : token ∈ tokens) : tokens.getLast? = some token ↔ token.kind = .endOfInput := by
  obtain ⟨body, last, rfl, endFree, ended⟩ := closed
  rw [List.getLast?_concat, Option.some.injEq]
  constructor
  · rintro rfl
    exact ended
  · intro closes
    rcases List.mem_append.mp held with inside | final
    · exact absurd closes (endFree token inside)
    · exact (List.mem_singleton.mp final).symm

theorem Stage.expected_ne_end (stage : Stage) : stage.expected ≠ [.endOfInput] := by
  cases stage with
  | operand due => cases due <;> decide
  | _ => simp [expected]

theorem Origin.excerptAt_of_filled (file : Option Path) {text : Text} (filled : text ≠ [])
    (line : Int) :
    (Origin.mk file (some text)).excerptAt line = some (excerpt text line defaultRadius) := by
  obtain ⟨c, rest, rfl⟩ := List.exists_cons_of_ne_nil filled
  rfl

namespace Program

variable {file : Option Path} {text : Text} {diagnostic : Diagnostic}

theorem filled_of_ofText_error (failed : ofText file text = .error diagnostic) : text ≠ [] := by
  rintro rfl
  have nothing : tokenize [] = [] ++ [⟨.endOfInput, [], .start⟩] :=
    (tokenize_eq_iff [] _).mpr (.done (by simp))
  have read : ofText file [] = .ok ⟨[]⟩ := ofText_eq_ok_iff.mpr ⟨[], _, .nil, rfl, nothing⟩
  rw [read] at failed
  cases failed

end Program

/-- Every diagnostic of a text points into it. -/
theorem Program.ofText_points_at {file : Option Path} {text : Text} {diagnostic : Diagnostic}
    (failed : Program.ofText file text = .error diagnostic) :
    ∃ token, diagnostic.PointsAt file text token := by
  have filled := filled_of_ofText_error failed
  obtain ⟨fault, rest, read, rfl⟩ := ofTokens_eq_error_iff.mp failed
  -- The tokens end in the end of input, where every stage halts at the latest, so there is a token.
  obtain ⟨stage, token, held, more, halts⟩ :=
    Production.halts_of_program_error (tokenize_closed text) read
  have last := (tokenize_closed text).last_iff held
  have about : fault.token = some token := by cases halts <;> rfl
  obtain ⟨passed, ahead, split, same⟩ :=
    ((tokenize_eq_iff text _).mp rfl).exists_passed token held
  obtain ⟨above, row, below, rows, inRow⟩ := Position.exists_inRow passed ahead
  rw [← split] at rows
  rw [← same] at inRow
  refine ⟨token, ?_⟩
  constructor
  case held => exact held
  case carried => exact (Fault.token_subject fault).trans about
  case placed =>
    refine ⟨above, row, below, _, rows, inRow, ?_, excerpt_ne_nil rows filled, lines_excerpt rows⟩
    simp [Origin.diagnose, Origin.context, about, Origin.excerptAt_of_filled file filled,
      inRow.line]
  case atEnd =>
    rw [last]
    cases halts with
    | unknown other => simpa [Origin.diagnose, Fault.subject] using other
    | wrong => simp [Origin.diagnose, Fault.subject, Fault.kindOf]
  case unknown =>
    cases halts with
    | unknown other => exact fun _ => other
    | wrong => simp [Origin.diagnose, Fault.subject, Subject.family]
  case nothingBehind =>
    cases halts with
    | unknown => simp [Origin.diagnose, Fault.subject]
    | wrong => simp [Origin.diagnose, Fault.subject, stage.expected_ne_end]

def openBlock : Text := "Assets \x7b\n\n\n"

def missingBrace : Diagnostic :=
  ⟨.unexpectedKind [.rightBrace] .endOfInput (some ⟨.endOfInput, [], ⟨4, 1⟩⟩),
    "Expected '\x7d', got end of input", some ⟨none, ⟨4, 1⟩, some "\n\n"⟩⟩

theorem openBlock_points_at_end :
    Program.ofText none openBlock = .error missingBrace ∧
      missingBrace.PointsAt none openBlock ⟨.endOfInput, [], ⟨4, 1⟩⟩ := by
  have failed : Program.ofText none openBlock = .error missingBrace := by decide +kernel
  obtain ⟨token, points⟩ := Program.ofText_points_at failed
  obtain rfl : ⟨.endOfInput, [], ⟨4, 1⟩⟩ = token := Option.some.inj points.carried
  exact ⟨failed, points⟩

end SceneScript
