import SceneScript.Proofs.Diagnosis
import SceneScript.Proofs.ReaderRun
import SceneScript.Proofs.Showing
import SceneScript.Proofs.ViablePrefix

set_option autoImplicit false

namespace SceneScript

variable {tokens rest : List Token} {origin : Origin}

theorem Fault.Leaves.token_mem {fault : Fault} (leaves : fault.Leaves tokens rest)
    (suffix : rest <:+ tokens) {token : Token} (about : fault.token = some token) :
    token ∈ tokens := by
  cases fault with
  | wrongKind expected found =>
      obtain rfl : found = some token := about
      exact leaves.subset List.mem_cons_self
  | noInstruction found =>
      obtain rfl : found = some token := about
      exact suffix.subset (List.mem_of_mem_head? leaves)
  | unknownInstruction found =>
      obtain rfl : found = token := Option.some.inj about
      exact suffix.subset (List.mem_of_mem_head? leaves)
  | afterEnd found =>
      obtain rfl : found = token := Option.some.inj about
      obtain ⟨last, more, rfl, _⟩ := leaves
      exact suffix.subset (by simp)

theorem Text.length_lines_le (text : Text) : (lines text).length ≤ text.length + 1 := by
  induction text with
  | nil => simp [lines, split]
  | cons c rest ih =>
      by_cases ends : c = '\n'
      next =>
        subst ends
        rw [lines_newline]
        simpa using ih
      next =>
        rw [lines_cons ends, List.length_modifyHead, List.length_cons]
        omega

theorem Position.after_bounds (position : Position) (text : Text) (counted : 1 ≤ position.column) :
    position.line ≤ (position.after text).line ∧
      (position.after text).line ≤ position.line + text.length ∧
      1 ≤ (position.after text).column ∧
      (position.after text).column ≤ position.column + text.length := by
  induction text generalizing position with
  | nil => simp [counted]
  | cons c text ih =>
      rw [after_cons, List.length_cons]
      by_cases ends : c = '\n'
      next =>
        have next := ih (position.step c) (by simp [step, ends])
        simp only [step, ends, ↓reduceIte] at next ⊢
        omega
      next =>
        have next := ih (position.step c) (by simp only [step, ends, ↓reduceIte]; omega)
        simp only [step, ends, ↓reduceIte] at next ⊢
        omega

theorem length_ofNat_le {n : Nat} (small : n < 10 ^ 11) : (Text.ofNat n).length ≤ 11 :=
  (Nat.length_toDigits_le_iff (by decide) (by decide)).mpr small

theorem not_overlong {number : Int} (low : 0 ≤ number) (high : number < 10 ^ 11) :
    ¬ Overlong number := by
  have short := length_ofNat_le (n := number.natAbs) (by omega)
  unfold Overlong
  omega

theorem not_unshowable_after {text passed : Text} (inside : passed.length < 2 ^ 35)
    (short : text.length < 2 ^ 35) (fault : RenderFault) :
    ¬ Unshowable (some text) (Position.start.after passed) fault := by
  obtain ⟨first, last, left, right⟩ := Position.start.after_bounds passed (by decide)
  generalize Position.start.after passed = position at first last left right ⊢
  rw [show Position.start.line = 1 from rfl] at first last
  rw [show Position.start.column = 1 from rfl] at right
  intro unshowable
  cases unshowable with
  | place long =>
      rcases long with long | long
      · exact not_overlong (by omega) (by omega) long
      · exact not_overlong (by omega) (by omega) long
  | mark _ _ _ _ _ far =>
      refine far.not_near ?_
      have width : Row.width position.line ≤ 14 := by
        have digits := length_ofNat_le (n := position.line.toNat) (by omega)
        have same : Text.ofInt position.line = Text.ofNat position.line.toNat := by
          obtain ⟨line, written⟩ := Int.eq_ofNat_of_zero_le (a := position.line) (by omega)
          rw [written]
          rfl
        rw [Row.width, same]
        omega
      rw [markIndentAt]
      omega
  | row given _ _ _ shown long =>
      cases given
      obtain ⟨filled, low, high⟩ := shown
      rw [lines_excerpt_of_ne_nil filled] at high
      have rows := length_sliceRows_le (Text.lines text)
        (max 1 (position.line - defaultRadius) - 1)
        (min ((Text.lines text).length : Int) (position.line + defaultRadius))
      have count := Text.length_lines_le text
      exact not_overlong (by omega) (by omega) long

namespace Program

/-- What an underivable list is answered with. The place is that of the token at fault, or of the
last token if there is none. -/
inductive Refused (origin : Origin) (tokens : List Token) (diagnostic : Diagnostic)
    (token : Token) : Except Raised Program → Prop where
  | diagnosed (showable : ∀ fault, ¬ Unshowable origin.text token.position fault) :
      Refused origin tokens diagnostic token (.error (.diagnostic diagnostic))
  | broken {fault : RenderFault} (unshowable : Unshowable origin.text token.position fault) :
      Refused origin tokens diagnostic token (.error (.fault fault))

theorem parse_eq_ok_iff {program : Program} :
    parse origin tokens = .ok program ↔ ofTokens origin tokens = .ok program := by
  rw [parse]
  cases ofTokens origin tokens <;> simp [Except.mapError]

theorem parse_of_failed {diagnostic : Diagnostic}
    (failed : ofTokens origin tokens = .error diagnostic) :
    parse origin tokens = .error diagnostic.raised := by
  rw [parse, failed]
  rfl

theorem refused_raised {diagnostic : Diagnostic} {token : Token}
    (placed : diagnostic.context =
      some ⟨origin.file, token.position, origin.excerptAt token.position.line⟩) :
    Refused origin tokens diagnostic token (.error diagnostic.raised) := by
  have faults (fault : RenderFault) := @Origin.format_eq_error_iff origin token.position fault
  simp only [Diagnostic.raised, placed]
  split
  next rendered written =>
    refine .diagnosed fun fault unshowable => ?_
    rw [(faults fault).mpr unshowable] at written
    cases written
  next fault failed => exact .broken ((faults fault).mp failed)

theorem exists_refused {diagnostic : Diagnostic}
    (failed : ofTokens origin tokens = .error diagnostic) :
    ∃ token ∈ tokens, (diagnostic.subject.token <|> tokens.getLast?) = some token ∧
      Refused origin tokens diagnostic token (parse origin tokens) := by
  obtain ⟨fault, rest, read, rfl⟩ := ofTokens_eq_error_iff.mp failed
  have settled := Production.settles_program tokens
  simp only [read] at settled
  obtain ⟨suffix, leaves⟩ := settled
  -- An empty list is a program, so there is a last token.
  have filled : tokens ≠ [] := by
    rintro rfl
    have empty : ofTokens origin [] = .ok ⟨[]⟩ :=
      ofTokens_eq_ok_iff_derivedBy.mpr ⟨[], [], .nil, rfl, .inl rfl⟩
    rw [empty] at failed
    cases failed
  obtain ⟨token, anchored, held⟩ : ∃ token, (fault.token <|> tokens.getLast?) = some token ∧
      token ∈ tokens := by
    cases about : fault.token with
    | some token => exact ⟨token, rfl, leaves.token_mem suffix about⟩
    | none =>
        exact ⟨tokens.getLast filled, List.getLast?_eq_some_getLast filled, List.getLast_mem filled⟩
  refine ⟨token, held, ?_, ?_⟩
  · rw [← anchored, ← Fault.token_subject]
    rfl
  · rw [parse_of_failed failed]
    refine refused_raised ?_
    simp only [Origin.diagnose, Origin.context, anchored]

theorem parse_of_short {text : Text} (given : origin.text = some text)
    (short : text.length < 2 ^ 35) :
    parse origin (tokenize text) = (ofTokens origin (tokenize text)).mapError .diagnostic := by
  cases result : ofTokens origin (tokenize text) with
  | ok program => exact parse_eq_ok_iff.mpr result
  | error diagnostic =>
      obtain ⟨token, held, -, refused⟩ := exists_refused result
      obtain ⟨passed, ahead, whole, same⟩ :=
        ((tokenize_eq_iff text _).mp rfl).exists_passed token held
      have inside : passed.length < 2 ^ 35 := by
        rw [whole, List.length_append] at short
        omega
      have showable (fault : RenderFault) : ¬ Unshowable origin.text token.position fault := by
        rw [given, same]
        exact not_unshowable_after inside short fault
      generalize parse origin (tokenize text) = outcome at refused
      cases refused with
      | diagnosed => rfl
      | broken unshowable => exact absurd unshowable (showable _)

theorem parseText_of_short {file : Option Path} {text : Text} (short : text.length < 2 ^ 35) :
    parseText file text = (ofText file text).mapError .diagnostic :=
  parse_of_short rfl short

/-- Parsing gives the program that the grammar derives from the tokens. Where it derives none there
is a parse error, provided that the place of the error can be written, as it always can in a text
that is not longer than memory. -/
theorem parse_exact (origin : Origin) (tokens : List Token) :
    (∀ program, parse origin tokens = .ok program ↔ program.DerivedBy tokens) ∧
      ((∀ program : Program, ¬ program.DerivedBy tokens) ↔
        ∃ diagnostic, ofTokens origin tokens = .error diagnostic ∧
          Family.parse.includes diagnostic.subject.family = true ∧
          ∃ token ∈ tokens, (diagnostic.subject.token <|> tokens.getLast?) = some token ∧
            Refused origin tokens diagnostic token (parse origin tokens)) ∧
      ∀ text, origin.text = some text → tokens = tokenize text → text.length < 2 ^ 35 →
        parse origin tokens = (ofTokens origin tokens).mapError .diagnostic := by
  have exactly (program : Program) :
      parse origin tokens = .ok program ↔ program.DerivedBy tokens := by
    rw [parse_eq_ok_iff, ofTokens_eq_ok_iff_derivedBy]
  refine ⟨exactly, ?_, fun text given lexed short => lexed ▸ parse_of_short given short⟩
  constructor
  · intro underivable
    cases result : ofTokens origin tokens with
    | ok program =>
        exact absurd (ofTokens_eq_ok_iff_derivedBy.mp result) (underivable program)
    | error diagnostic =>
        exact ⟨diagnostic, rfl, parse_includes_of_ofTokens result, exists_refused result⟩
  · rintro ⟨diagnostic, -, -, token, -, -, refused⟩ program derived
    rw [(exactly program).mpr derived] at refused
    cases refused

def brokenLine : Text := "say hello"

theorem brokenLine_refused :
    brokenLine.length < 2 ^ 35 ∧
      parse ⟨none, some brokenLine⟩ (tokenize brokenLine) =
        (ofTokens ⟨none, some brokenLine⟩ (tokenize brokenLine)).mapError .diagnostic := by
  have short : brokenLine.length < 2 ^ 35 := by decide +kernel
  exact ⟨short, (parse_exact _ _).2.2 brokenLine rfl rfl short⟩

def strayWord : List Token := [⟨.identifier, "x", ⟨1, 2 ^ 63⟩⟩]

theorem strayWord_not_refused :
    (∀ program : Program, ¬ program.DerivedBy strayWord) ∧
      ¬ ∃ diagnostic, Family.parse.includes diagnostic.subject.family = true ∧
        parse ⟨none, some ['x']⟩ strayWord = .error (.diagnostic diagnostic) := by
  have broken : parse ⟨none, some ['x']⟩ strayWord =
      .error (.fault (.mark .beyondLengths)) := by
    decide +kernel
  constructor
  · intro program derived
    rw [parse_eq_ok_iff.mpr (ofTokens_eq_ok_iff_derivedBy.mpr derived)] at broken
    cases broken
  · rintro ⟨diagnostic, -, failed⟩
    rw [broken] at failed
    cases failed

end Program

end SceneScript
