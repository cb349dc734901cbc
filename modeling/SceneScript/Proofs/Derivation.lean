import SceneScript.Proofs.Production
import Mathlib.Data.List.Forall2

set_option autoImplicit false

namespace SceneScript

inductive DerivesMore : List Text → List Token → Prop where
  | done : DerivesMore [] []
  | more {comma argument : Token} {arguments : List Text} {rest : List Token}
      (separates : comma.kind = .comma) (names : argument.kind = .identifier)
      (further : DerivesMore arguments rest) :
      DerivesMore (argument.value :: arguments) (comma :: argument :: rest)

inductive DerivesArguments : List Text → List Token → Prop where
  | absent : DerivesArguments [] []
  | empty {opening closing : Token} (opens : opening.kind = .leftParen)
      (closes : closing.kind = .rightParen) : DerivesArguments [] [opening, closing]
  | listed {opening first closing : Token} {arguments : List Text} {rest : List Token}
      (opens : opening.kind = .leftParen) (names : first.kind = .identifier)
      (further : DerivesMore arguments rest) (closes : closing.kind = .rightParen) :
      DerivesArguments (first.value :: arguments) (opening :: first :: (rest ++ [closing]))

inductive Derives : Instruction → List Token → Prop where
  | assets {head opening closing : Token} {inner : List Token}
      (opens : head.kind = .keyword .assets) (brace : opening.kind = .leftBrace)
      (fills : ∀ token ∈ inner, token.kind ≠ .rightBrace ∧ token.kind ≠ .endOfInput)
      (closes : closing.kind = .rightBrace) :
      Derives (.assets (inner.map Token.value)) (head :: opening :: (inner ++ [closing]))
  | call {head action : Token} {arguments : List Text} {list : List Token}
      (opens : head.kind = .keyword .call) (names : action.kind = .identifier)
      (passes : DerivesArguments arguments list) :
      Derives (.call action.value arguments) (head :: action :: list)
  | background {head operand : Token} (opens : head.kind = .keyword .background)
      (names : operand.kind = .identifier) : Derives (.background operand.value) [head, operand]
  | play {head operand : Token} (opens : head.kind = .keyword .play)
      (names : operand.kind = .identifier) : Derives (.play operand.value) [head, operand]
  | say {head operand : Token} (opens : head.kind = .keyword .say)
      (quotes : operand.kind = .string) : Derives (.say operand.value) [head, operand]
  | wait {head operand : Token} (opens : head.kind = .keyword .wait)
      (counts : operand.kind = .number ∨ operand.kind = .integer) :
      Derives (.wait operand.value) [head, operand]
  | stop {head : Token} (opens : head.kind = .keyword .stop) : Derives .stop [head]
  | loadScript {head operand : Token} (opens : head.kind = .keyword .loadScript)
      (quotes : operand.kind = .string) : Derives (.loadScript operand.value) [head, operand]

/-- The derivations of the instructions in a row; one end of input may close them. -/
def Program.DerivedBy (program : Program) (tokens : List Token) : Prop :=
  ∃ pieces tail, List.Forall₂ Derives program.instructions pieces ∧
    tokens = pieces.flatten ++ tail ∧
    (tail = [] ∨ ∃ last, last.kind = .endOfInput ∧ tail = [last])

theorem Derives.headed {instruction : Instruction} {tokens : List Token}
    (derived : Derives instruction tokens) :
    ∃ head tail, tokens = head :: tail ∧ head.kind = .keyword instruction.keyword := by
  cases derived <;> exact ⟨_, _, rfl, ‹_›⟩

namespace Production

variable {tokens rest taken : List Token}

theorem moreArguments_sound {arguments : List Text}
    (read : moreArguments tokens = .ok arguments rest) :
    ∃ taken, tokens = taken ++ rest ∧ DerivesMore arguments taken := by
  -- Along the recursion: every round takes a comma and the name behind it.
  fun_induction moreArguments tokens generalizing arguments rest with
  | case1 =>
      injection read with names left
      subst names left
      exact ⟨[], rfl, .done⟩
  | case2 => simp at read
  | case3 comma separates argument tail names arguments' left found ih =>
      injection read with same left'
      subst same left'
      obtain ⟨taken, rfl, further⟩ := ih found
      exact ⟨comma :: argument :: taken, rfl, .more separates names further⟩
  | case4 => simp at read
  | case5 => simp at read
  | case6 =>
      injection read with names left
      subst names left
      exact ⟨[], rfl, .done⟩

theorem moreArguments_complete {arguments : List Text} (derived : DerivesMore arguments taken)
    (absent : NotAhead .comma rest) : moreArguments (taken ++ rest) = .ok arguments rest := by
  induction derived with
  | done => exact moreArguments_of_notAhead absent
  | more separates names _ ih => simp [moreArguments, separates, names, ih]

theorem listedArguments_eq_ok_iff {arguments : List Text} :
    listedArguments tokens = .ok arguments rest ↔
      ∃ first more further closing, tokens = first :: more ∧ first.kind = .identifier ∧
        moreArguments more = .ok further (closing :: rest) ∧ closing.kind = .rightParen ∧
        first.value :: further = arguments := by
  simp only [listedArguments, bind_eq_ok_iff, discard_eq_ok_iff, expect_eq_ok_iff, pure_eq_ok_iff,
    List.mem_singleton]
  constructor
  · intro given
    obtain ⟨first, more, ⟨rfl, names⟩, further, _, read, _, _, ⟨closing, rfl, closes⟩, rfl,
      rfl⟩ := given
    exact ⟨first, more, further, closing, rfl, names, read, closes, rfl⟩
  · intro given
    obtain ⟨first, more, further, closing, rfl, names, read, closes, rfl⟩ := given
    exact ⟨first, more, ⟨rfl, names⟩, further, _, read, (), _, ⟨closing, rfl, closes⟩, rfl, rfl⟩

theorem argumentList_sound {arguments : List Text}
    (read : argumentList tokens = .ok arguments rest) :
    ∃ taken, tokens = taken ++ rest ∧ DerivesArguments arguments taken := by
  rcases ahead_or_notAhead .leftParen tokens with ⟨opening, inner, rfl, opens⟩ | absent
  · rcases ahead_or_notAhead .rightParen inner with ⟨closing, outer, rfl, closes⟩ | absent
    · rw [argumentList_of_empty opens closes] at read
      injection read with none left
      subst none left
      exact ⟨[opening, closing], rfl, .empty opens closes⟩
    · rw [argumentList_of_listed opens absent, listedArguments_eq_ok_iff] at read
      obtain ⟨first, more, further, closing, rfl, names, read, closes, rfl⟩ := read
      obtain ⟨taken, rfl, derived⟩ := moreArguments_sound read
      exact ⟨opening :: first :: (taken ++ [closing]), by simp, .listed opens names derived closes⟩
  · rw [argumentList_of_notAhead absent] at read
    injection read with none left
    subst none left
    exact ⟨[], rfl, .absent⟩

theorem argumentList_complete {arguments : List Text} (derived : DerivesArguments arguments taken)
    (absent : NotAhead .leftParen rest) : argumentList (taken ++ rest) = .ok arguments rest := by
  cases derived with
  | absent => exact argumentList_of_notAhead absent
  | empty opens closes => exact argumentList_of_empty opens closes
  | @listed opening first closing further taken opens names derived closes =>
      have noComma : NotAhead .comma (closing :: rest) := by simp [NotAhead, closes]
      have noClosing : NotAhead .rightParen (first :: (taken ++ closing :: rest)) := by
        simp [NotAhead, names]
      have read := moreArguments_complete derived noComma
      simp only [List.cons_append, List.append_assoc, List.nil_append]
      rw [argumentList_of_listed opens noClosing, listedArguments_eq_ok_iff]
      exact ⟨first, _, further, closing, rfl, names, read, closes, rfl⟩

theorem fillsBlock_eq_true_iff (token : Token) :
    fillsBlock token = true ↔ token.kind ≠ .rightBrace ∧ token.kind ≠ .endOfInput := by
  simp [fillsBlock]

theorem ofKeyword_sound {keyword : Keyword} {found : Instruction}
    (read : ofKeyword keyword tokens = .ok found rest) :
    ∃ taken, tokens = taken ++ rest ∧ Derives found taken := by
  cases keyword <;>
    simp only [ofKeyword, bind_eq_ok_iff, pure_eq_ok_iff, after_eq_ok_iff, discard_eq_ok_iff,
      expect_eq_ok_iff, blockValues_eq_ok_iff, List.mem_singleton] at read
  case assets =>
    obtain ⟨_, _, ⟨head, rfl, opens⟩, _, _, ⟨opening, rfl, brace⟩, _, _, ⟨inner, maximal, rfl⟩,
      _, _, ⟨closing, rfl, closes⟩, rfl, rfl⟩ := read
    refine ⟨head :: opening :: (inner ++ [closing]), by simp [maximal.split], ?_⟩
    exact .assets opens brace
      (fun token held => (fillsBlock_eq_true_iff token).mp (maximal.inside token held)) closes
  case call =>
    obtain ⟨_, _, ⟨head, action, rfl, opens, names, rfl⟩, arguments, _, read, rfl, rfl⟩ := read
    obtain ⟨taken, rfl, derived⟩ := argumentList_sound read
    exact ⟨head :: action :: taken, rfl, .call opens names derived⟩
  case background =>
    obtain ⟨_, _, ⟨head, operand, rfl, opens, names, rfl⟩, rfl, rfl⟩ := read
    exact ⟨[head, operand], rfl, .background opens names⟩
  case play =>
    obtain ⟨_, _, ⟨head, operand, rfl, opens, names, rfl⟩, rfl, rfl⟩ := read
    exact ⟨[head, operand], rfl, .play opens names⟩
  case say =>
    obtain ⟨_, _, ⟨head, operand, rfl, opens, quotes, rfl⟩, rfl, rfl⟩ := read
    exact ⟨[head, operand], rfl, .say opens quotes⟩
  case wait =>
    obtain ⟨_, _, ⟨head, operand, rfl, opens, counts, rfl⟩, rfl, rfl⟩ := read
    exact ⟨[head, operand], rfl, .wait opens (by simpa using counts)⟩
  case stop =>
    obtain ⟨_, _, ⟨head, rfl, opens⟩, rfl, rfl⟩ := read
    exact ⟨[head], rfl, .stop opens⟩
  case loadScript =>
    obtain ⟨_, _, ⟨head, operand, rfl, opens, quotes, rfl⟩, rfl, rfl⟩ := read
    exact ⟨[head, operand], rfl, .loadScript opens quotes⟩

theorem instruction_of_keyword {keyword : Keyword} {head : Token}
    (opens : head.kind = .keyword keyword) :
    instruction (head :: rest) = ofKeyword keyword (head :: rest) := by
  simp [instruction, opens]

theorem instruction_sound {found : Instruction} (read : instruction tokens = .ok found rest) :
    ∃ taken, tokens = taken ++ rest ∧ Derives found taken := by
  cases tokens with
  | nil => simp [instruction] at read
  | cons token more =>
      simp only [instruction] at read
      split at read
      next => exact ofKeyword_sound read
      next => simp at read
      next => simp at read

theorem instruction_complete {found : Instruction} (derived : Derives found taken)
    (absent : NotAhead .leftParen rest) : instruction (taken ++ rest) = .ok found rest := by
  -- In each case the tokens are at hand, and the production asks for them in their order.
  cases derived <;> simp only [List.cons_append, List.nil_append, List.append_assoc] <;>
    rw [instruction_of_keyword ‹_›] <;>
    simp only [ofKeyword, bind_eq_ok_iff, pure_eq_ok_iff, after_eq_ok_iff, discard_eq_ok_iff,
      expect_eq_ok_iff, blockValues_eq_ok_iff, List.mem_singleton]
  case assets head opening closing inner opens brace fills closes =>
    have maximal : MaximalRun fillsBlock (inner ++ closing :: rest) inner (closing :: rest) := by
      refine ⟨rfl, fun token held => (fillsBlock_eq_true_iff token).mpr (fills token held), ?_⟩
      simp [fillsBlock, closes]
    exact ⟨(), _, ⟨head, rfl, opens⟩, (), _, ⟨opening, rfl, brace⟩, _, _, ⟨inner, maximal, rfl⟩,
      (), _, ⟨closing, rfl, closes⟩, rfl, rfl⟩
  case call head action arguments list opens names passes =>
    exact ⟨_, _, ⟨head, action, rfl, opens, names, rfl⟩, _, _,
      argumentList_complete passes absent, rfl, rfl⟩
  case background head operand opens names =>
    exact ⟨_, _, ⟨head, operand, rfl, opens, names, rfl⟩, rfl, rfl⟩
  case play head operand opens names =>
    exact ⟨_, _, ⟨head, operand, rfl, opens, names, rfl⟩, rfl, rfl⟩
  case say head operand opens quotes =>
    exact ⟨_, _, ⟨head, operand, rfl, opens, quotes, rfl⟩, rfl, rfl⟩
  case wait head operand opens counts =>
    exact ⟨_, _, ⟨head, operand, rfl, opens, by simpa using counts, rfl⟩, rfl, rfl⟩
  case stop head opens => exact ⟨(), _, ⟨head, rfl, opens⟩, trivial, rfl⟩
  case loadScript head operand opens quotes =>
    exact ⟨_, _, ⟨head, operand, rfl, opens, quotes, rfl⟩, rfl, rfl⟩

theorem instructions_eq (tokens : List Token) :
    instructions tokens =
      if atEnd tokens then .ok [] tokens
      else
        match instruction tokens with
        | .error fault rest => .error fault rest
        | .ok first rest =>
            match instructions rest with
            | .error fault rest => .error fault rest
            | .ok more rest => .ok (first :: more) rest := by
  -- The match in the definition keeps an equation for the termination proof; it is dropped here.
  rw [instructions]
  split
  next => rfl
  next =>
    split
    next failed => rw [failed]
    next first left found => cases more : instructions left <;> simp only [found, more]

theorem instructions_sound {found : List Instruction}
    (read : instructions tokens = .ok found rest) :
    atEnd rest = true ∧
      ∃ pieces, List.Forall₂ Derives found pieces ∧ tokens = pieces.flatten ++ rest := by
  fun_induction instructions tokens generalizing found rest with
  | case1 tokens ended =>
      injection read with none left
      subst none left
      exact ⟨ended, [], .nil, rfl⟩
  | case2 => simp at read
  | case3 => simp at read
  | case4 tokens more first left taken others rest' read' ih =>
      injection read with same left'
      subst same left'
      obtain ⟨ended, pieces, derived, rfl⟩ := ih read'
      obtain ⟨piece, rfl, derivedFirst⟩ := instruction_sound taken
      exact ⟨ended, piece :: pieces, .cons derivedFirst derived, by simp⟩

theorem notAhead_of_atEnd (ended : atEnd rest = true) : NotAhead .leftParen rest := by
  cases rest with
  | nil => simp [NotAhead]
  | cons last more =>
      have closes : last.kind = .endOfInput := by simpa [atEnd] using ended
      simp [NotAhead, closes]

theorem notAhead_append {found : List Instruction} {pieces : List (List Token)}
    (derived : List.Forall₂ Derives found pieces) (absent : NotAhead .leftParen rest) :
    NotAhead .leftParen (pieces.flatten ++ rest) := by
  -- The next instruction opens with its keyword, so a bare call stays bare.
  cases derived with
  | nil => exact absent
  | cons first _ =>
      obtain ⟨head, tail, rfl, opens⟩ := first.headed
      simp [NotAhead, opens]

theorem instructions_append {found : List Instruction} {pieces : List (List Token)}
    (derived : List.Forall₂ Derives found pieces) (absent : NotAhead .leftParen rest) :
    instructions (pieces.flatten ++ rest) =
      match instructions rest with
      | .ok more left => .ok (found ++ more) left
      | .error fault left => .error fault left := by
  induction derived with
  | nil => cases read : instructions rest <;> simp [read]
  | @cons first piece others pieces derivedFirst derived ih =>
      have going : atEnd (piece ++ (pieces.flatten ++ rest)) = false := by
        obtain ⟨head, tail, rfl, opens⟩ := derivedFirst.headed
        simp [atEnd, opens]
      have read := instruction_complete derivedFirst (notAhead_append derived absent)
      rw [instructions_eq, List.flatten_cons, List.append_assoc]
      simp only [going, Bool.false_eq_true, ↓reduceIte, read, ih]
      cases instructions rest <;> rfl

theorem instructions_complete {found : List Instruction} {pieces : List (List Token)}
    (derived : List.Forall₂ Derives found pieces) (ended : atEnd rest = true) :
    instructions (pieces.flatten ++ rest) = .ok found rest := by
  have none : instructions rest = .ok [] rest := by
    rw [instructions_eq, if_pos ended]
  rw [instructions_append derived (notAhead_of_atEnd ended), none]
  simp only [List.append_nil]

theorem program_append {found : List Instruction} {pieces : List (List Token)}
    (derived : List.Forall₂ Derives found pieces) (absent : NotAhead .leftParen rest) :
    program (pieces.flatten ++ rest) =
      match program rest with
      | .ok further left => .ok ⟨found ++ further.instructions⟩ left
      | .error fault left => .error fault left := by
  simp only [program, instructions_append derived absent]
  cases instructions rest with
  | error fault left => rfl
  | ok more left => rcases left with _ | ⟨last, _ | ⟨trailing, others⟩⟩ <;> rfl

theorem program_eq_ok_iff {found : Program} :
    program tokens = .ok found rest ↔
      ∃ pieces, List.Forall₂ Derives found.instructions pieces ∧ tokens = pieces.flatten ++ rest ∧
        (rest = [] ∨ ∃ last, last.kind = .endOfInput ∧ rest = [last]) := by
  constructor
  · intro read
    simp only [program] at read
    split at read
    next => simp at read
    next list left readList =>
      obtain ⟨ended, pieces, derived, rfl⟩ := instructions_sound readList
      split at read
      next => simp at read
      next short =>
        -- What is left starts with the end of input, and nothing stands behind that.
        injection read with same left'
        subst same left'
        refine ⟨pieces, derived, rfl, ?_⟩
        cases left with
        | nil => exact .inl rfl
        | cons last more =>
            cases more with
            | nil => exact .inr ⟨last, by simpa [atEnd] using ended, rfl⟩
            | cons trailing more => exact absurd rfl (short last trailing more)
  · intro given
    rcases given with ⟨pieces, derived, rfl, rfl | ⟨last, closes, rfl⟩⟩
    · have read : instructions (pieces.flatten ++ []) = .ok found.instructions [] :=
        instructions_complete derived rfl
      simp only [program, read]
    · have read : instructions (pieces.flatten ++ [last]) = .ok found.instructions [last] :=
        instructions_complete derived (by simp [atEnd, closes])
      simp only [program, read]

end Production

theorem Fault.parse_includes_family (fault : Fault) :
    Family.parse.includes fault.subject.family = true := by
  cases fault <;> rfl

namespace Program

variable {origin : Origin} {tokens : List Token}

theorem ofTokens_eq_ok_iff {program : Program} :
    ofTokens origin tokens = .ok program ↔
      ∃ rest, Production.program tokens = .ok program rest := by
  cases read : Production.program tokens <;> simp [ofTokens, read]

theorem ofTokens_eq_error_iff {diagnostic : Diagnostic} :
    ofTokens origin tokens = .error diagnostic ↔
      ∃ fault rest, Production.program tokens = .error fault rest ∧
        origin.diagnose tokens.getLast? fault = diagnostic := by
  cases read : Production.program tokens <;> simp [ofTokens, read]

theorem parse_includes_of_ofTokens {diagnostic : Diagnostic}
    (failed : ofTokens origin tokens = .error diagnostic) :
    Family.parse.includes diagnostic.subject.family = true := by
  obtain ⟨fault, _, _, rfl⟩ := ofTokens_eq_error_iff.mp failed
  exact fault.parse_includes_family

theorem ofTokens_eq_ok_iff_derivedBy {program : Program} :
    ofTokens origin tokens = .ok program ↔ program.DerivedBy tokens := by
  rw [ofTokens_eq_ok_iff]
  constructor
  · intro given
    obtain ⟨rest, read⟩ := given
    obtain ⟨pieces, derived, split, closed⟩ := Production.program_eq_ok_iff.mp read
    exact ⟨pieces, rest, derived, split, closed⟩
  · intro given
    obtain ⟨pieces, rest, derived, split, closed⟩ := given
    exact ⟨rest, Production.program_eq_ok_iff.mpr ⟨pieces, derived, split, closed⟩⟩

end Program

end SceneScript
