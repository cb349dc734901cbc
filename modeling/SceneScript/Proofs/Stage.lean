import SceneScript.Proofs.Production

set_option autoImplicit false

namespace SceneScript

inductive Operand where
  | brace
  | action
  | name
  | quote
  | duration
deriving DecidableEq

def Operand.kinds : Operand → List Kind
  | brace => [.leftBrace]
  | action | name => [.identifier]
  | quote => [.string]
  | duration => [.number, .integer]

inductive Stage where
  | between
  -- Only a production that is performed by itself waits for its own keyword.
  | opening (keyword : Keyword)
  | operand (due : Operand)
  | block
  | action
  | opened
  | argument
  | separated
deriving DecidableEq

namespace Stage

def afterKeyword : Keyword → Stage
  | .assets => operand .brace
  | .call => operand .action
  | .background | .play => operand .name
  | .say | .loadScript => operand .quote
  | .wait => operand .duration
  | .stop => between

def afterOperand : Operand → Stage
  | .brace => block
  | .action => action
  | _ => between

def step : Stage → Kind → Option Stage
  | between, .keyword keyword => some (afterKeyword keyword)
  | between, _ => none
  | opening keyword, kind => if kind = .keyword keyword then some (afterKeyword keyword) else none
  | operand due, kind => if kind ∈ due.kinds then some (afterOperand due) else none
  | block, .rightBrace => some between
  | block, .endOfInput => none
  | block, _ => some block
  | action, .leftParen => some opened
  | action, .keyword keyword => some (afterKeyword keyword)
  | action, _ => none
  | opened, .rightParen => some between
  | opened, .identifier => some argument
  | opened, _ => none
  | argument, .comma => some separated
  | argument, .rightParen => some between
  | argument, _ => none
  | separated, .identifier => some argument
  | separated, _ => none

/-- The kinds that a diagnostic names; not all that may come next. -/
def expected : Stage → List Kind
  | between | action => []
  | opening keyword => [.keyword keyword]
  | operand due => due.kinds
  | block => [.rightBrace]
  | opened | separated => [.identifier]
  | argument => [.rightParen]

/-- A call may do without arguments, so where it stops it is over. -/
def settle : Stage → Stage
  | action => between
  | stage => stage

def reach : Stage → List Token → Stage × List Token
  | stage, [] => (stage.settle, [])
  | stage, token :: rest =>
      match stage.step token.kind with
      | some next => next.reach rest
      | none => (stage.settle, token :: rest)

variable {stage next : Stage} {token : Token} {tokens rest : List Token}

theorem reach_cons_of_step (steps : stage.step token.kind = some next) :
    stage.reach (token :: rest) = next.reach rest := by
  simp [reach, steps]

theorem reach_cons_of_stuck (stuck : stage.step token.kind = none) :
    stage.reach (token :: rest) = (stage.settle, token :: rest) := by
  simp [reach, stuck]

theorem step_endOfInput (stage : Stage) : stage.step .endOfInput = none := by
  cases stage with
  | operand due => cases due <;> rfl
  | _ => rfl

theorem reach_action (absent : NotAhead .leftParen tokens) :
    action.reach tokens = between.reach tokens := by
  -- The parenthesis is all that tells the end of a call from the end of any other instruction.
  cases tokens with
  | nil => rfl
  | cons token rest =>
      have other : token.kind ≠ .leftParen := absent token rfl
      have same : action.step token.kind = between.step token.kind := by
        cases found : token.kind with
        | leftParen => exact absurd found other
        | _ => rfl
      simp only [reach, same, settle]

inductive Halts : Stage × List Token → Fault → List Token → Prop where
  | unknown {token : Token} {rest : List Token} (other : token.kind ≠ .endOfInput) :
      Halts (between, token :: rest) (.unknownInstruction token) (token :: rest)
  | wrong {stage : Stage} {left : List Token} (within : stage ≠ between) :
      Halts (stage, left) (.wrongKind stage.expected left.head?) left.tail

/-- A production that starts in one stage and ends in another, on given tokens. -/
def Tracks {α : Type} (stage : Stage) (production : Production α) (next : Stage)
    (tokens : List Token) : Prop :=
  match production tokens with
  | .ok _ rest => stage.reach tokens = next.reach rest
  | .error fault rest => Halts (stage.reach tokens) fault rest

end Stage

namespace Production

open Stage

variable {α β : Type} {stage middle next : Stage} {tokens rest : List Token}

theorem tracks_pure (value : α) : Tracks stage (pure value) stage tokens := rfl

theorem tracks_bind {first : Production α} {further : α → Production β}
    (tracks : Tracks stage first middle tokens)
    (each : ∀ value rest, first tokens = .ok value rest → Tracks middle (further value) next rest) :
    Tracks stage (first >>= further) next tokens := by
  simp only [Tracks, Bind.bind, EStateM.bind] at tracks ⊢
  cases result : first tokens with
  | error fault rest => simpa [result] using tracks
  | ok value rest =>
      have continued := each value rest result
      simp only [result] at tracks ⊢
      rw [tracks]
      exact continued

theorem tracks_discard {production : Production α} (tracks : Tracks stage production next tokens) :
    Tracks stage (discard production) next tokens :=
  tracks_bind tracks fun _ _ _ => tracks_pure _

theorem tracks_expect {kinds : List Kind} (within : stage.settle ≠ between)
    (expects : stage.settle.expected = kinds)
    (steps : ∀ token ∈ tokens.head?,
      stage.step token.kind = if token.kind ∈ kinds then some next else none) :
    Tracks stage (expect kinds) next tokens := by
  cases tokens with
  | nil =>
      rw [← expects]
      exact Halts.wrong within
  | cons token rest =>
      have step := steps token rfl
      by_cases fits : token.kind ∈ kinds
      next =>
        rw [if_pos fits] at step
        simp only [Tracks, expect, fits, ↓reduceIte]
        exact reach_cons_of_step step
      next =>
        rw [if_neg fits] at step
        simp only [Tracks, expect, fits, ↓reduceIte, reach_cons_of_stuck step]
        rw [← expects]
        exact Halts.wrong within

theorem tracks_moreArguments (tokens : List Token) :
    Tracks argument moreArguments argument tokens := by
  -- A comma leads out of `argument` and the name behind it leads back, once for each round.
  have separated_of_comma {comma : Token} (rest : List Token) (separates : comma.kind = .comma) :
      argument.reach (comma :: rest) = separated.reach rest :=
    reach_cons_of_step (by rw [separates]; rfl)
  have argument_of_name {name : Token} (rest : List Token) (names : name.kind = .identifier) :
      separated.reach (name :: rest) = argument.reach rest :=
    reach_cons_of_step (by rw [names]; rfl)
  unfold Tracks
  fun_induction moreArguments tokens with
  | case1 => rfl
  | case2 comma separates =>
      rw [separated_of_comma [] separates]
      exact Halts.wrong (by decide)
  | case3 comma separates name rest names arguments left found ih =>
      rw [found] at ih
      rw [separated_of_comma _ separates, argument_of_name rest names]
      exact ih
  | case4 comma separates name rest names fault left found ih =>
      rw [found] at ih
      rw [separated_of_comma _ separates, argument_of_name rest names]
      exact ih
  | case5 comma separates name rest other =>
      have stuck : separated.step name.kind = none := by
        cases found : name.kind with
        | identifier => exact absurd found other
        | _ => rfl
      rw [separated_of_comma _ separates, reach_cons_of_stuck stuck]
      exact Halts.wrong (by decide)
  | case6 => rfl

theorem notAhead_of_moreArguments {arguments : List Text}
    (read : moreArguments tokens = .ok arguments rest) : NotAhead .comma rest := by
  fun_induction moreArguments tokens generalizing arguments rest with
  | case1 =>
      injection read with _ left
      simp [NotAhead, ← left]
  | case2 => simp at read
  | case3 _ _ _ _ _ _ _ found ih =>
      injection read with _ left
      exact ih (left ▸ found)
  | case4 => simp at read
  | case5 => simp at read
  | case6 separator rest' other =>
      injection read with _ left
      simpa [NotAhead, ← left] using other

theorem tracks_listedArguments (absent : NotAhead .rightParen tokens) :
    Tracks opened listedArguments between tokens := by
  -- The stage would also take a closing parenthesis, which was looked for before.
  have first : Tracks opened (expect [.identifier]) argument tokens := by
    refine tracks_expect (by decide) rfl ?_
    intro token head
    have other := absent token head
    cases found : token.kind with
    | rightParen => exact absurd found other
    | _ => rfl
  apply tracks_bind first
  intro _ more _
  apply tracks_bind (tracks_moreArguments more)
  intro _ left read
  -- The stage would go on at a comma, but the rounds before ended because there is none.
  have last : Tracks argument (expect [.rightParen]) between left := by
    refine tracks_expect (by decide) rfl ?_
    intro token head
    have other := notAhead_of_moreArguments read token head
    cases found : token.kind with
    | comma => exact absurd found other
    | _ => rfl
  exact tracks_bind (tracks_discard last) fun _ _ _ => tracks_pure _

theorem tracks_argumentList (tokens : List Token) : Tracks action argumentList between tokens := by
  rcases ahead_or_notAhead .leftParen tokens with ⟨opening, inner, rfl, opens⟩ | absent
  · have entered : action.reach (opening :: inner) = opened.reach inner :=
      reach_cons_of_step (by rw [opens]; rfl)
    rcases ahead_or_notAhead .rightParen inner with ⟨closing, outer, rfl, closes⟩ | absent
    · have left : opened.reach (closing :: outer) = between.reach outer :=
        reach_cons_of_step (by rw [closes]; rfl)
      rw [Tracks, argumentList_of_empty opens closes, entered, left]
    · have tracks := tracks_listedArguments absent
      rw [Tracks, argumentList_of_listed opens absent, entered]
      exact tracks
  · rw [Tracks, argumentList_of_notAhead absent, reach_action absent]

theorem tracks_blockValues (tokens : List Token) : Tracks block blockValues block tokens := by
  simp only [Tracks, blockValues]
  induction tokens with
  | nil => rfl
  | cons token rest ih =>
      by_cases fills : fillsBlock token = true
      next =>
        have stays : block.step token.kind = some block := by
          cases found : token.kind <;> simp_all [fillsBlock, step]
        rw [reach_cons_of_step stays, List.dropWhile_cons_of_pos fills, ih]
      next => rw [List.dropWhile_cons_of_neg fills]

theorem tracks_operand (due : Operand) (tokens : List Token) :
    Tracks (operand due) (expect due.kinds) (afterOperand due) tokens :=
  tracks_expect (by simp [settle]) rfl fun _ _ => rfl

theorem tracks_keyword (keyword : Keyword) (tokens : List Token) :
    Tracks (opening keyword) (expect [.keyword keyword]) (afterKeyword keyword) tokens :=
  tracks_expect (by simp [settle]) rfl fun _ _ => by simp [step]

theorem tracks_after {keyword : Keyword} {due : Operand}
    (takes : afterKeyword keyword = operand due) :
    Tracks (opening keyword) (after keyword due.kinds) (afterOperand due) tokens := by
  have opens := tracks_keyword keyword tokens
  rw [takes] at opens
  apply tracks_bind (tracks_discard opens)
  intro _ left _
  exact tracks_bind (tracks_operand due left) fun _ _ _ => tracks_pure _

theorem tracks_ofKeyword (keyword : Keyword) (tokens : List Token) :
    Tracks (opening keyword) (ofKeyword keyword) between tokens := by
  cases keyword with
  | assets =>
      apply tracks_bind (tracks_discard (tracks_keyword .assets tokens))
      intro _ left _
      apply tracks_bind (tracks_discard (tracks_operand .brace left))
      intro _ inner _
      apply tracks_bind (tracks_blockValues inner)
      intro _ rest read
      have close : Tracks block (expect [.rightBrace]) between rest := by
        refine tracks_expect (by decide) rfl ?_
        intro token head
        obtain ⟨_, maximal, _⟩ := blockValues_eq_ok_iff.mp read
        have closed := maximal.outside token head
        cases found : token.kind <;> simp_all [fillsBlock, step]
      exact tracks_bind (tracks_discard close) fun _ _ _ => tracks_pure _
  | call =>
      have head : Tracks (opening .call) (after .call Operand.action.kinds) action tokens :=
        tracks_after rfl
      apply tracks_bind head
      intro _ left _
      exact tracks_bind (tracks_argumentList left) fun _ _ _ => tracks_pure _
  | stop =>
      exact tracks_bind (tracks_discard (tracks_keyword .stop tokens)) fun _ _ _ => tracks_pure _
  | background | play =>
      have head {keyword : Keyword} (takes : afterKeyword keyword = operand .name) :
          Tracks (opening keyword) (after keyword Operand.name.kinds) between tokens :=
        tracks_after takes
      exact tracks_bind (head rfl) fun _ _ _ => tracks_pure _
  | say | loadScript =>
      have head {keyword : Keyword} (takes : afterKeyword keyword = operand .quote) :
          Tracks (opening keyword) (after keyword Operand.quote.kinds) between tokens :=
        tracks_after takes
      exact tracks_bind (head rfl) fun _ _ _ => tracks_pure _
  | wait =>
      have head : Tracks (opening .wait) (after .wait Operand.duration.kinds) between tokens :=
        tracks_after rfl
      exact tracks_bind head fun _ _ _ => tracks_pure _

theorem reach_between_of_keyword {keyword : Keyword} {head : Token}
    (opens : head.kind = .keyword keyword) :
    between.reach (head :: rest) = (opening keyword).reach (head :: rest) := by
  have free : between.step head.kind = some (afterKeyword keyword) := by rw [opens]; rfl
  have bound : (opening keyword).step head.kind = some (afterKeyword keyword) := by
    simp [step, opens]
  rw [reach_cons_of_step free, reach_cons_of_step bound]

theorem tracks_instruction (tokens : List Token) (going : atEnd tokens = false) :
    Tracks between instruction between tokens := by
  cases tokens with
  | nil => simp [atEnd] at going
  | cons token rest =>
      have other : token.kind ≠ .endOfInput := by simpa [atEnd] using going
      cases found : token.kind with
      | keyword keyword =>
          have tracks := tracks_ofKeyword keyword (token :: rest)
          simp only [Tracks, instruction, found, reach_between_of_keyword found]
          exact tracks
      | endOfInput => exact absurd found other
      | _ =>
          -- No other kind opens an instruction.
          have stuck : between.step token.kind = none := by rw [found]; rfl
          simp only [Tracks, instruction, found, reach_cons_of_stuck stuck]
          exact Halts.unknown other

theorem reach_between_of_atEnd (ended : atEnd tokens = true) :
    between.reach tokens = (between, tokens) := by
  cases tokens with
  | nil => rfl
  | cons token rest =>
      have closes : token.kind = .endOfInput := by simpa [atEnd] using ended
      exact reach_cons_of_stuck (by rw [closes]; rfl)

theorem instructions_tracks (tokens : List Token) :
    match instructions tokens with
    | .ok _ rest => between.reach tokens = (between, rest) ∧ atEnd rest = true
    | .error fault rest => Halts (between.reach tokens) fault rest := by
  -- Each round starts and ends between instructions, so the rounds join.
  fun_induction instructions tokens with
  | case1 tokens ended => exact ⟨reach_between_of_atEnd ended, ended⟩
  | case2 tokens more fault rest failed =>
      have tracks := tracks_instruction tokens (by simpa using more)
      simpa [Tracks, failed] using tracks
  | case3 tokens more first left taken fault rest failed ih =>
      have tracks := tracks_instruction tokens (by simpa using more)
      simp only [Tracks, taken] at tracks
      simpa [tracks, failed] using ih
  | case4 tokens more first left taken others rest read ih =>
      have tracks := tracks_instruction tokens (by simpa using more)
      simp only [Tracks, taken] at tracks
      simpa [tracks, read] using ih

theorem program_ok_tracks {found : Program} (read : program tokens = .ok found rest) :
    between.reach tokens = (between, rest) ∧
      (rest = [] ∨ ∃ last, last.kind = .endOfInput ∧ rest = [last]) := by
  have tracks := instructions_tracks tokens
  simp only [program] at read
  cases list : instructions tokens with
  | error fault left => simp [list] at read
  | ok items left =>
      simp only [list] at tracks read
      obtain ⟨reached, ended⟩ := tracks
      rcases left with _ | ⟨last, _ | ⟨trailing, more⟩⟩
      · injection read with _ same
        exact ⟨same ▸ reached, .inl same.symm⟩
      · injection read with _ same
        exact ⟨same ▸ reached, .inr ⟨last, by simpa [atEnd] using ended, same.symm⟩⟩
      · simp at read

theorem program_error_tracks {fault : Fault} (failed : program tokens = .error fault rest) :
    Halts (between.reach tokens) fault rest ∨
      ∃ last trailing more, between.reach tokens = (between, last :: trailing :: more) ∧
        last.kind = .endOfInput := by
  have tracks := instructions_tracks tokens
  simp only [program] at failed
  cases list : instructions tokens with
  | error first left =>
      simp only [list, EStateM.Result.error.injEq] at tracks failed
      obtain ⟨rfl, rfl⟩ := failed
      exact .inl tracks
  | ok items left =>
      simp only [list] at tracks failed
      obtain ⟨reached, ended⟩ := tracks
      rcases left with _ | ⟨last, _ | ⟨trailing, more⟩⟩
      · simp at failed
      · simp at failed
      · exact .inr ⟨last, trailing, more, reached, by simpa [atEnd] using ended⟩

end Production

end SceneScript
