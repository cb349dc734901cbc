import SceneScript.Proofs.Derivation

set_option autoImplicit false

namespace SceneScript

def Token.restamp (move : Position → Position) (token : Token) : Token :=
  { token with position := move token.position }

@[simp] theorem Token.kind_restamp (move : Position → Position) (token : Token) :
    (token.restamp move).kind = token.kind := rfl

@[simp] theorem Token.value_restamp (move : Position → Position) (token : Token) :
    (token.restamp move).value = token.value := rfl

def Fault.mapToken (change : Token → Token) : Fault → Fault
  | wrongKind expected found => wrongKind expected (found.map change)
  | noInstruction found => noInstruction (found.map change)
  | unknownInstruction found => unknownInstruction (change found)
  | afterEnd found => afterEnd (change found)

def Subject.mapToken (change : Token → Token) : Subject → Subject
  | unknownInstruction token => unknownInstruction (token.map change)
  | unexpectedKind expected actual token => unexpectedKind expected actual (token.map change)
  | subject => subject

theorem NotAhead.restamp {kind : Kind} {tokens : List Token} (absent : NotAhead kind tokens)
    (move : Position → Position) : NotAhead kind (tokens.map (Token.restamp move)) := by
  cases tokens with
  | nil => simp [NotAhead]
  | cons token rest => simpa [NotAhead] using absent

namespace Fault

variable (move : Position → Position) (fault : Fault)

theorem token_mapToken (change : Token → Token) :
    (fault.mapToken change).token = fault.token.map change := by
  cases fault <;> rfl

theorem subject_restamp :
    (fault.mapToken (Token.restamp move)).subject =
      fault.subject.mapToken (Token.restamp move) := by
  cases fault with
  | wrongKind expected found => cases found <;> rfl
  | _ => rfl

theorem message_restamp : (fault.mapToken (Token.restamp move)).message = fault.message := by
  cases fault with
  | wrongKind expected found => cases found <;> rfl
  | _ => rfl

end Fault

namespace Production

variable {α β : Type}

def restampResult (move : Position → Position) :
    EStateM.Result Fault (List Token) α → EStateM.Result Fault (List Token) α
  | .ok value rest => .ok value (rest.map (Token.restamp move))
  | .error fault rest =>
      .error (fault.mapToken (Token.restamp move)) (rest.map (Token.restamp move))

/-- What it reads does not depend on where the tokens stand. -/
def Blind (production : Production α) : Prop :=
  ∀ move tokens,
    production (tokens.map (Token.restamp move)) = restampResult move (production tokens)

theorem blind_pure (value : α) : Blind (pure value) := fun _ _ => rfl

theorem Blind.bind {first : Production α} {next : α → Production β} (blind : Blind first)
    (each : ∀ value, Blind (next value)) : Blind (first >>= next) := by
  intro move tokens
  simp only [Bind.bind, EStateM.bind, blind move tokens]
  cases first tokens with
  | ok value rest => exact each value move rest
  | error fault rest => rfl

theorem blind_expect_bind {kinds : List Kind} {next : Token → Production β}
    (each : ∀ token, Blind (next token))
    (same : ∀ move token, next (Token.restamp move token) = next token) :
    Blind (expect kinds >>= next) := by
  intro move tokens
  cases tokens with
  | nil => rfl
  | cons token rest =>
      by_cases fits : token.kind ∈ kinds
      next =>
        -- The token that was read goes on as a value, stamped anew or not.
        have read : (expect kinds >>= next) (token :: rest) = next token rest := by
          simp [Bind.bind, EStateM.bind, expect, fits]
        simp only [read, ← each token move rest]
        simp [Bind.bind, EStateM.bind, expect, fits, same]
      next => simp [Bind.bind, EStateM.bind, expect, fits, restampResult, Fault.mapToken]

theorem blind_discard_expect (kinds : List Kind) : Blind (discard <| expect kinds) :=
  blind_expect_bind (fun _ => blind_pure _) fun _ _ => rfl

theorem blind_lookingAt (kind : Kind) : Blind (lookingAt kind) := by
  intro move tokens
  cases tokens <;> rfl

theorem blind_skip : Blind skip := by
  intro move tokens
  cases tokens <;> rfl

theorem blind_blockValues : Blind blockValues := by
  intro move tokens
  have fills : fillsBlock ∘ Token.restamp move = fillsBlock := rfl
  have values : Token.value ∘ Token.restamp move = Token.value := rfl
  simp only [blockValues, restampResult, List.takeWhile_map, List.dropWhile_map, List.map_map,
    fills, values]

theorem blind_moreArguments : Blind moreArguments := by
  intro move tokens
  fun_induction moreArguments tokens with
  | case1 => rfl
  | case2 comma separates => simp [moreArguments, separates, restampResult, Fault.mapToken]
  | case3 comma separates argument rest names arguments left found ih =>
      rw [found] at ih
      simp [moreArguments, separates, names, restampResult, ih]
  | case4 comma separates argument rest names fault left found ih =>
      rw [found] at ih
      simp [moreArguments, separates, names, restampResult, ih]
  | case5 comma separates argument rest other =>
      simp [moreArguments, separates, other, restampResult, Fault.mapToken]
  | case6 token rest other =>
      cases rest <;> simp [moreArguments, other, restampResult]

theorem blind_argumentList : Blind argumentList := by
  refine (blind_lookingAt _).bind fun opened => ?_
  cases opened with
  | false => exact blind_pure []
  | true =>
      refine blind_skip.bind fun _ => (blind_lookingAt _).bind fun closed => ?_
      cases closed with
      | true => exact blind_skip.bind fun _ => blind_pure []
      | false =>
          refine blind_expect_bind (fun _ => ?_) fun _ _ => rfl
          exact blind_moreArguments.bind fun _ => (blind_discard_expect _).bind fun _ =>
            blind_pure _

theorem blind_after (keyword : Keyword) (kinds : List Kind) : Blind (after keyword kinds) :=
  (blind_discard_expect _).bind fun _ => blind_expect_bind (fun _ => blind_pure _) fun _ _ => rfl

theorem blind_ofKeyword (keyword : Keyword) : Blind (ofKeyword keyword) := by
  cases keyword with
  | assets =>
      exact (blind_discard_expect _).bind fun _ => (blind_discard_expect _).bind fun _ =>
        blind_blockValues.bind fun _ => (blind_discard_expect _).bind fun _ => blind_pure _
  | call => exact (blind_after _ _).bind fun _ => blind_argumentList.bind fun _ => blind_pure _
  | stop => exact (blind_discard_expect _).bind fun _ => blind_pure _
  | background => exact (blind_after _ _).bind fun _ => blind_pure _
  | play => exact (blind_after _ _).bind fun _ => blind_pure _
  | say => exact (blind_after _ _).bind fun _ => blind_pure _
  | wait => exact (blind_after _ _).bind fun _ => blind_pure _
  | loadScript => exact (blind_after _ _).bind fun _ => blind_pure _

theorem blind_instruction : Blind instruction := by
  intro move tokens
  cases tokens with
  | nil => rfl
  | cons token rest =>
      cases found : token.kind with
      | keyword keyword =>
          have opens : (token.restamp move).kind = .keyword keyword := found
          rw [instruction_of_keyword found, List.map_cons, instruction_of_keyword opens]
          exact blind_ofKeyword keyword move (token :: rest)
      | _ => simp [instruction, found, restampResult, Fault.mapToken]

theorem atEnd_restamp (move : Position → Position) (tokens : List Token) :
    atEnd (tokens.map (Token.restamp move)) = atEnd tokens := by
  cases tokens <;> rfl

theorem blind_instructions : Blind instructions := by
  intro move tokens
  fun_induction instructions tokens with
  | case1 tokens ended =>
      rw [instructions_eq, atEnd_restamp, if_pos ended]
      rfl
  | case2 tokens more fault rest failed =>
      rw [instructions_eq, atEnd_restamp, if_neg more, blind_instruction, failed]
      rfl
  | case3 tokens more first left taken fault rest failed ih =>
      rw [failed] at ih
      rw [instructions_eq, atEnd_restamp, if_neg more, blind_instruction, taken]
      simp only [restampResult] at ih ⊢
      rw [ih]
  | case4 tokens more first left taken others rest read ih =>
      rw [read] at ih
      rw [instructions_eq, atEnd_restamp, if_neg more, blind_instruction, taken]
      simp only [restampResult] at ih ⊢
      rw [ih]

theorem blind_program : Blind program := by
  intro move tokens
  simp only [program, blind_instructions move tokens]
  cases instructions tokens with
  | error fault rest => rfl
  | ok list rest => rcases rest with _ | ⟨last, _ | ⟨trailing, more⟩⟩ <;> rfl

end Production

end SceneScript
