import SceneScript.Proofs.Script
import SceneScript.Proofs.Shift

set_option autoImplicit false

namespace SceneScript

structure Diagnostic.SameBehind (origin : Position) (diagnostic moved : Diagnostic) : Prop where
  subject : moved.subject = diagnostic.subject.mapToken (Token.restamp origin.behind)
  message : moved.message = diagnostic.message
  place : ∃ context context', diagnostic.context = some context ∧ moved.context = some context' ∧
    context'.file = context.file ∧ context'.position = origin.behind context.position

theorem Origin.sameBehind (file : Option Path) (text other : Option Text) (place : Position)
    {last : Option Token} (held : last.isSome = true) (fault : Fault) :
    ((Origin.mk file text).diagnose last fault).SameBehind place
      ((Origin.mk file other).diagnose (last.map (Token.restamp place.behind))
        (fault.mapToken (Token.restamp place.behind))) where
  subject := fault.subject_restamp place.behind
  message := fault.message_restamp place.behind
  place := by
    obtain ⟨last, rfl⟩ := Option.isSome_iff_exists.mp held
    refine ⟨_, _, rfl, rfl, ?_⟩
    rw [Fault.token_mapToken]
    cases fault.token <;> exact ⟨rfl, rfl⟩

namespace Program

variable {file : Option Path} {text gap further : Text} {program : Program}

theorem notAhead_of_ofText (read : ofText file text = .ok program) :
    NotAhead .leftParen (tokenize text) := by
  obtain ⟨pieces, last, derived, ended, split⟩ := ofText_eq_ok_iff.mp read
  rw [split]
  exact Production.notAhead_append derived
    (Production.notAhead_of_atEnd (by simp [Production.atEnd, ended]))

theorem read_behind (blank : ∀ c ∈ gap, Text.isBlank c = true) (parted : gap ≠ [])
    (paired : Even (text.count '"') ∨ '"' ∉ further) (read : ofText file text = .ok program)
    (absent : NotAhead .leftParen (tokenize further)) :
    ∃ front, tokenize (text ++ gap ++ further) =
        front ++ (tokenize further).map
          (Token.restamp (Position.start.after (text ++ gap)).behind) ∧
      Production.program (tokenize (text ++ gap ++ further)) =
        match Production.restampResult (Position.start.after (text ++ gap)).behind
          (Production.program (tokenize further)) with
        | .ok other left => .ok ⟨program.instructions ++ other.instructions⟩ left
        | .error fault left => .error fault left := by
  obtain ⟨pieces, last, derived, ended, split⟩ := ofText_eq_ok_iff.mp read
  have joined := tokenize_join blank parted paired
  rw [split, List.dropLast_concat, ← List.append_assoc] at joined
  -- A call at the end of the script would take a list of arguments for its own.
  have whole := Production.program_append derived
    (absent.restamp (Position.start.after (text ++ gap)).behind)
  rw [Production.blind_program] at whole
  refine ⟨pieces.flatten, joined, ?_⟩
  rw [joined]
  refine whole.trans ?_
  cases Production.program (tokenize further) <;> rfl

end Program

/-- Scripts that are parted by a gap are read one after the other, unless a quote of the first could
pair with one of the second. -/
theorem Program.ofText_join {file : Option Path} {text gap further : Text}
    (blank : ∀ c ∈ gap, Text.isBlank c = true) (parted : gap ≠ [])
    (paired : Even (text.count '"') ∨ '"' ∉ further) {program : Program}
    (read : Program.ofText file text = .ok program) :
    (∀ other, Program.ofText file further = .ok other →
        Program.ofText file (text ++ gap ++ further) =
          .ok ⟨program.instructions ++ other.instructions⟩) ∧
      ∀ diagnostic, Program.ofText file further = .error diagnostic →
        NotAhead .leftParen (tokenize further) →
        ∃ moved, Program.ofText file (text ++ gap ++ further) = .error moved ∧
          diagnostic.SameBehind (Position.start.after (text ++ gap)) moved := by
  constructor
  · intro other read'
    obtain ⟨rest, found⟩ := ofTokens_eq_ok_iff.mp read'
    obtain ⟨_, _, whole⟩ := read_behind blank parted paired read (notAhead_of_ofText read')
    rw [found] at whole
    exact ofTokens_eq_ok_iff.mpr ⟨_, whole⟩
  · intro diagnostic failed absent
    obtain ⟨fault, rest, found, rfl⟩ := ofTokens_eq_error_iff.mp failed
    obtain ⟨front, joined, whole⟩ := read_behind blank parted paired read absent
    rw [found] at whole
    obtain ⟨tokens, last, split, _⟩ := tokenize_closed further
    have held : (tokenize further).getLast?.isSome = true := by simp [split]
    have closing : (tokenize (text ++ gap ++ further)).getLast? =
        (tokenize further).getLast?.map
          (Token.restamp (Position.start.after (text ++ gap)).behind) := by
      rw [joined, split]
      simp
    refine ⟨_, ofTokens_eq_error_iff.mpr ⟨_, _, whole, rfl⟩, ?_⟩
    rw [closing]
    exact Origin.sameBehind file _ _ _ held fault

def greeting : Text := "say \"Hi\" call fade"

def wrongPause : Diagnostic :=
  ⟨.unexpectedKind [.number, .integer] .identifier (some ⟨.identifier, "x", ⟨1, 7⟩⟩),
    "Expected number or integer, got identifier", some ⟨none, ⟨1, 7⟩, some "wait x"⟩⟩

theorem greeting_joined :
    Program.ofText none (greeting ++ ['\n'] ++ "say \"Bye\"".toList) =
        .ok ⟨[.say "Hi", .call "fade" [], .say "Bye"]⟩ ∧
      ∃ moved, Program.ofText none (greeting ++ ['\n'] ++ "wait x".toList) = .error moved ∧
        wrongPause.SameBehind ⟨2, 1⟩ moved := by
  have read : Program.ofText none greeting = .ok ⟨[.say "Hi", .call "fade" []]⟩ := by
    decide +kernel
  have blank : ∀ c ∈ ['\n'], Text.isBlank c = true := by simpa using (by decide)
  have paired : Even (greeting.count '"') := ⟨1, by decide⟩
  have said : Program.ofText none "say \"Bye\"" = .ok ⟨[.say "Bye"]⟩ := by decide +kernel
  have failed : Program.ofText none "wait x" = .error wrongPause := by decide +kernel
  have absent : NotAhead .leftParen (tokenize "wait x") := by
    have first : (tokenize "wait x").head? = some ⟨.keyword .wait, "wait", ⟨1, 5⟩⟩ := by
      decide +kernel
    rw [NotAhead, first]
    simp
  have joined {further : Text} :=
    @Program.ofText_join none greeting ['\n'] further blank (by simp) (.inl paired) _ read
  exact ⟨joined.1 _ said, joined.2 _ failed absent⟩

end SceneScript
