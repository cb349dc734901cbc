import Mathlib.Data.List.Induction
import SceneScript.Proofs.ViablePrefix

set_option autoImplicit false

namespace SceneScript

def AfterOpening (taken : List Token) : Prop :=
  ∃ script call action opening, taken = script ++ [call, action, opening] ∧ Accepted script ∧
    call.kind = .keyword .call ∧ action.kind = .identifier ∧ opening.kind = .leftParen

inductive AfterArgument : List Token → Prop where
  | first {before : List Token} {argument : Token} (opened : AfterOpening before)
      (names : argument.kind = .identifier) : AfterArgument (before ++ [argument])
  | next {before : List Token} {separator argument : Token} (listed : AfterArgument before)
      (separates : separator.kind = .comma) (names : argument.kind = .identifier) :
      AfterArgument (before ++ [separator, argument])

def InBlock (taken : List Token) : Prop :=
  ∃ script assets brace names, taken = script ++ assets :: brace :: names ∧ Accepted script ∧
    assets.kind = .keyword .assets ∧ brace.kind = .leftBrace ∧
    ∀ name ∈ names, name.kind ≠ .rightBrace

/-- The tokens that can come next are those of the given kinds. -/
def MayFollow (taken : List Token) (kinds : List Kind) : Prop :=
  ∀ token, Viable (taken ++ [token]) ↔ token.kind ∈ kinds

/-- What the expected kinds are worth, place by place. -/
structure ReportedKinds (taken : List Token) (expected : List Kind) : Prop where
  opened : AfterOpening taken →
    expected = [.identifier] ∧ MayFollow taken [.identifier, .rightParen]
  argument : AfterArgument taken →
    expected = [.rightParen] ∧ MayFollow taken [.rightParen, .comma]
  block : InBlock taken →
    expected = [.rightBrace] ∧
      ∀ token, Viable (taken ++ [token]) ↔ token.kind ≠ .endOfInput
  elsewhere : ¬ AfterOpening taken → ¬ AfterArgument taken → ¬ InBlock taken →
    MayFollow taken expected

namespace Stage

variable {stage next last : Stage} {kind : Kind} {token : Token} {tokens more left : List Token}

/-- The stage behind some tokens, if there is one; a call at their end is not taken to be over. -/
def after (stage : Stage) (tokens : List Token) : Option Stage :=
  tokens.foldlM (fun stage token => stage.step token.kind) stage

@[simp] theorem after_nil (stage : Stage) : stage.after [] = some stage := rfl

theorem after_append (stage : Stage) (first second : List Token) :
    stage.after (first ++ second) = (stage.after first).bind (·.after second) :=
  List.foldlM_append

theorem after_cons (stage : Stage) (token : Token) (rest : List Token) :
    stage.after (token :: rest) = (stage.step token.kind).bind (·.after rest) :=
  List.foldlM_cons

theorem after_concat_eq_some_iff :
    stage.after (tokens ++ [token]) = some next ↔
      ∃ middle, stage.after tokens = some middle ∧ middle.step token.kind = some next := by
  simp [after_append, after_cons, Option.bind_eq_some_iff]

theorem reach_eq_done_iff :
    stage.reach tokens = (last, []) ↔
      ∃ next, stage.after tokens = some next ∧ next.settle = last := by
  induction tokens generalizing stage with
  | nil => simp [reach]
  | cons token rest ih =>
      rw [after_cons]
      cases steps : stage.step token.kind with
      | none => simp [reach_cons_of_stuck steps]
      | some next => rw [reach_cons_of_step steps, ih, Option.bind_some]

theorem exists_taken (reached : stage.reach tokens = (last, left)) :
    ∃ taken next, tokens = taken ++ left ∧ stage.after taken = some next ∧ next.settle = last ∧
      ∀ token ∈ left.head?, next.step token.kind = none := by
  induction tokens generalizing stage with
  | nil =>
      obtain ⟨rfl, rfl⟩ : stage.settle = last ∧ [] = left := by simpa [reach] using reached
      exact ⟨[], stage, rfl, rfl, rfl, by simp⟩
  | cons head rest ih =>
      cases steps : stage.step head.kind with
      | none =>
          rw [reach_cons_of_stuck steps] at reached
          obtain ⟨rfl, rfl⟩ := Prod.mk.inj reached
          exact ⟨[], stage, rfl, rfl, rfl, by simpa using steps⟩
      | some middle =>
          rw [reach_cons_of_step steps] at reached
          obtain ⟨taken, next, rfl, done, settled, stuck⟩ := ih reached
          exact ⟨head :: taken, next, rfl, by simp [after_cons, steps, done], settled, stuck⟩

inductive Leads : Stage → Kind → Stage → Prop where
  | keyword {stage : Stage} {word : Keyword} {due : Operand}
      (free : stage.settle = between ∨ stage = opening word)
      (takes : afterKeyword word = operand due) : Leads stage (.keyword word) (operand due)
  | stop {stage : Stage} (free : stage.settle = between ∨ stage = opening .stop) :
      Leads stage (.keyword .stop) between
  | brace : Leads (operand .brace) .leftBrace block
  | action : Leads (operand .action) .identifier action
  | last {due : Operand} {kind : Kind} (fits : kind ∈ due.kinds)
      (ends : afterOperand due = between) : Leads (operand due) kind between
  | fill {kind : Kind} (inside : kind ≠ .rightBrace) (other : kind ≠ .endOfInput) :
      Leads block kind block
  | shut : Leads block .rightBrace between
  | enter : Leads action .leftParen opened
  | first : Leads opened .identifier argument
  | separator : Leads argument .comma separated
  | further : Leads separated .identifier argument
  | without : Leads opened .rightParen between
  | leave : Leads argument .rightParen between

theorem leads_of_keyword {word : Keyword} (free : stage.settle = between ∨ stage = opening word) :
    Leads stage (.keyword word) (afterKeyword word) := by
  cases word with
  | stop => exact .stop free
  | _ => exact .keyword free rfl

theorem leads_of_step (steps : stage.step kind = some next) : Leads stage kind next := by
  cases stage with
  | opening word =>
      obtain ⟨rfl, rfl⟩ : kind = .keyword word ∧ afterKeyword word = next := by
        simpa [step] using steps
      exact leads_of_keyword (.inr rfl)
  | operand due =>
      obtain ⟨fits, rfl⟩ : kind ∈ due.kinds ∧ afterOperand due = next := by
        simpa [step] using steps
      cases due with
      | brace =>
          obtain rfl := List.mem_singleton.mp fits
          exact .brace
      | action =>
          obtain rfl := List.mem_singleton.mp fits
          exact .action
      | _ => exact .last fits rfl
  | between | action =>
      cases kind with
      | keyword word =>
          cases steps
          exact leads_of_keyword (.inl rfl)
      | _ => cases steps <;> constructor
  | block => cases kind <;> cases steps <;> constructor <;> simp
  | opened | argument | separated => cases kind <;> cases steps <;> constructor

theorem step_keyword_of_free {word : Keyword} (free : stage.settle = between) :
    stage.step (.keyword word) = some (afterKeyword word) := by
  cases stage <;> cases free <;> rfl

theorem exists_last (reached : between.after tokens = some next) (further : next ≠ between) :
    ∃ before token middle kind, tokens = before ++ [token] ∧
      between.after before = some middle ∧ token.kind = kind ∧ Leads middle kind next := by
  rcases List.eq_nil_or_concat' tokens with rfl | ⟨before, token, rfl⟩
  · exact absurd (Option.some.inj reached).symm further
  · obtain ⟨middle, earlier, steps⟩ := after_concat_eq_some_iff.mp reached
    exact ⟨before, token, middle, _, rfl, earlier, rfl, leads_of_step steps⟩

theorem after_ne_opening {word : Keyword} : between.after tokens ≠ some (opening word) := by
  intro reached
  obtain ⟨_, _, _, _, _, _, _, leads⟩ := exists_last reached (by simp)
  cases leads

theorem exists_keyword {due : Operand} (reached : between.after tokens = some (operand due)) :
    ∃ script head word free, tokens = script ++ [head] ∧ between.after script = some free ∧
      free.settle = between ∧ head.kind = .keyword word ∧ afterKeyword word = operand due := by
  obtain ⟨script, head, free, _, rfl, earlier, opens, leads⟩ := exists_last reached (by simp)
  cases leads with
  | keyword started takes =>
      rcases started with settled | rfl
      · exact ⟨script, head, _, free, rfl, earlier, settled, opens, takes⟩
      · exact absurd earlier after_ne_opening

theorem step_ne_none_of_expected (reported : kind ∈ stage.expected) : stage.step kind ≠ none := by
  cases stage with
  | opening word => simpa [expected, step] using reported
  | operand due => simpa [expected, step] using reported
  | between | action => simp [expected] at reported
  | block | opened | argument | separated =>
      obtain rfl := List.mem_singleton.mp reported
      simp [step]

end Stage

open Stage

variable {tokens taken : List Token} {stage : Stage} {expected kinds : List Kind}

theorem accepted_iff_after (endFree : EndFree tokens) :
    Accepted tokens ↔ ∃ free, between.after tokens = some free ∧ free.settle = between := by
  rw [accepted_iff_reach endFree, reach_eq_done_iff]

theorem viable_iff_after (endFree : EndFree tokens) :
    Viable tokens ↔ ∃ next, between.after tokens = some next := by
  simp only [viable_iff_reach endFree, reach_eq_done_iff]
  constructor
  · exact fun ⟨_, next, reached, _⟩ => ⟨next, reached⟩
  · exact fun ⟨next, reached⟩ => ⟨_, next, reached, rfl⟩

theorem viable_concat_iff {token : Token} (endFree : EndFree taken)
    (reached : between.after taken = some stage) :
    Viable (taken ++ [token]) ↔ stage.step token.kind ≠ none := by
  by_cases ended : token.kind = .endOfInput
  next =>
    have never : ¬ Viable (taken ++ [token]) :=
      fun ⟨more, accepted⟩ => accepted.1 token (by simp) ended
    simp [never, ended, step_endOfInput]
  next =>
    have whole : EndFree (taken ++ [token]) := endFree.append (by simpa [EndFree] using ended)
    simp [viable_iff_after whole, after_concat_eq_some_iff, reached, Option.ne_none_iff_exists']

theorem afterOpening_iff (endFree : EndFree taken) :
    AfterOpening taken ↔ between.after taken = some opened := by
  constructor
  · rintro ⟨script, call, action, opening, rfl, accepted, calls, names, opens⟩
    obtain ⟨free, reached, settled⟩ := (accepted_iff_after endFree.left).mp accepted
    have called : free.step call.kind = some (operand .action) := by
      rw [calls, step_keyword_of_free settled]
      rfl
    have named : (operand .action).step action.kind = some .action := by rw [names]; rfl
    have entered : Stage.action.step opening.kind = some opened := by rw [opens]; rfl
    simp [after_append, reached, after_cons, called, named, entered]
  · intro reached
    obtain ⟨named, opening, _, _, rfl, reached, opens, leads⟩ := exists_last reached (by simp)
    cases leads
    obtain ⟨called, action, _, _, rfl, reached, names, leads⟩ := exists_last reached (by simp)
    cases leads
    obtain ⟨script, call, word, free, rfl, reached, settled, calls, takes⟩ := exists_keyword reached
    obtain rfl : word = .call := by cases word <;> simp_all [afterKeyword]
    have accepted : Accepted script :=
      (accepted_iff_after endFree.left.left.left).mpr ⟨free, reached, settled⟩
    exact ⟨script, call, action, opening, by simp, accepted, calls, names, opens⟩

theorem after_of_afterArgument (listed : AfterArgument taken) (endFree : EndFree taken) :
    between.after taken = some argument := by
  induction listed with
  | first entered names =>
      have reached := (afterOpening_iff endFree.left).mp entered
      exact after_concat_eq_some_iff.mpr ⟨opened, reached, by rw [names]; rfl⟩
  | @next before separator name _ separates names ih =>
      have parted : argument.step separator.kind = some separated := by rw [separates]; rfl
      have named : separated.step name.kind = some argument := by rw [names]; rfl
      simp [after_append, ih endFree.left, after_cons, parted, named]

theorem afterArgument_of_after {taken : List Token} (endFree : EndFree taken)
    (reached : between.after taken = some argument) : AfterArgument taken := by
  -- Each argument but the first has a comma before it, and another argument before that.
  obtain ⟨before, name, _, _, rfl, earlier, names, leads⟩ := exists_last reached (by simp)
  cases leads with
  | first => exact .first ((afterOpening_iff endFree.left).mpr earlier) names
  | further =>
      obtain ⟨front, comma, _, _, rfl, listed, separates, leads⟩ := exists_last earlier (by simp)
      cases leads
      rw [List.append_assoc]
      exact .next (afterArgument_of_after endFree.left.left listed) separates names
termination_by taken.length
decreasing_by
  subst_vars
  simp only [List.length_append, List.length_singleton]
  omega

theorem after_block {names : List Token}
    (inside : ∀ name ∈ names, name.kind ≠ .rightBrace ∧ name.kind ≠ .endOfInput) :
    block.after names = some block := by
  induction names with
  | nil => rfl
  | cons name rest ih =>
      obtain ⟨first, others⟩ := List.forall_mem_cons.mp inside
      have stays : block.step name.kind = some block := by
        cases found : name.kind <;> simp_all [step]
      rw [after_cons, stays, Option.bind_some, ih others]

theorem inBlock_iff (endFree : EndFree taken) :
    InBlock taken ↔ between.after taken = some block := by
  constructor
  · rintro ⟨script, assets, brace, names, rfl, accepted, declares, opens, inside⟩
    obtain ⟨free, reached, settled⟩ := (accepted_iff_after endFree.left).mp accepted
    have declared : free.step assets.kind = some (operand .brace) := by
      rw [declares, step_keyword_of_free settled]
      rfl
    have entered : (operand .brace).step brace.kind = some block := by rw [opens]; rfl
    have stays : block.after names = some block :=
      after_block fun name held => ⟨inside name held, endFree name (by simp [held])⟩
    simp [after_append, reached, after_cons, declared, entered, stays]
  · intro reached
    induction taken using List.reverseRecOn with
    | nil => cases reached
    | append_singleton before token ih =>
        obtain ⟨middle, earlier, steps⟩ := after_concat_eq_some_iff.mp reached
        have leads := leads_of_step steps
        generalize same : token.kind = kind at leads
        cases leads with
        | brace =>
            obtain ⟨script, assets, word, free, rfl, reached, settled, declares, takes⟩ :=
              exists_keyword earlier
            obtain rfl : word = .assets := by cases word <;> simp_all [afterKeyword]
            have accepted : Accepted script :=
              (accepted_iff_after endFree.left.left).mpr ⟨free, reached, settled⟩
            exact ⟨script, assets, token, [], by simp, accepted, declares, same, by simp⟩
        | fill inside _ =>
            obtain ⟨script, assets, brace, names, rfl, accepted, declares, opens, within⟩ :=
              ih endFree.left earlier
            refine ⟨script, assets, brace, names ++ [token], by simp, accepted, declares, opens, ?_⟩
            intro name held
            rcases List.mem_append.mp held with held | held
            · exact within name held
            · obtain rfl := List.mem_singleton.mp held
              exact same ▸ inside

theorem mayFollow_of_after (endFree : EndFree taken) (reached : between.after taken = some stage)
    (same : ∀ kind, stage.step kind ≠ none ↔ kind ∈ kinds) : MayFollow taken kinds :=
  fun token => (viable_concat_iff endFree reached).trans (same token.kind)

theorem reportedKinds_of_after (endFree : EndFree taken)
    (reached : between.after taken = some stage) (within : stage.settle ≠ between) :
    ReportedKinds taken stage.expected := by
  constructor
  case opened =>
    intro place
    obtain rfl : stage = opened := by
      simpa [reached] using (afterOpening_iff endFree).mp place
    exact ⟨rfl, mayFollow_of_after endFree reached fun kind => by cases kind <;> simp [step]⟩
  case argument =>
    intro place
    obtain rfl : stage = argument := by
      simpa [reached] using after_of_afterArgument place endFree
    exact ⟨rfl, mayFollow_of_after endFree reached fun kind => by cases kind <;> simp [step]⟩
  case block =>
    intro place
    obtain rfl : stage = block := by
      simpa [reached] using (inBlock_iff endFree).mp place
    refine ⟨rfl, fun token => (viable_concat_iff endFree reached).trans ?_⟩
    cases token.kind <;> simp [step]
  case elsewhere =>
    intro notOpened notArgument notBlock
    rw [afterOpening_iff endFree, reached] at notOpened
    rw [inBlock_iff endFree, reached] at notBlock
    apply mayFollow_of_after endFree reached
    intro kind
    cases stage with
    | between | action => exact absurd rfl within
    | opening word => exact absurd reached after_ne_opening
    | opened => exact absurd rfl notOpened
    | block => exact absurd rfl notBlock
    | argument => exact absurd (afterArgument_of_after endFree reached) notArgument
    | operand due => simp [step, expected]
    | separated => cases kind <;> simp [step, expected]

theorem endFree_of_after (reached : between.after taken = some stage) : EndFree taken := by
  induction taken using List.reverseRecOn generalizing stage with
  | nil => simp [EndFree]
  | append_singleton before token ih =>
      obtain ⟨middle, earlier, steps⟩ := after_concat_eq_some_iff.mp reached
      refine (ih earlier).append fun last held => ?_
      obtain rfl := List.mem_singleton.mp held
      intro ended
      rw [ended, step_endOfInput] at steps
      cases steps

theorem exists_behind {ending left : List Token}
    (ends : ending = [] ∨ ∃ last, last.kind = .endOfInput ∧ ending = [last])
    (whole : tokens ++ ending = taken ++ left) (reached : between.after taken = some stage) :
    ∃ behind, tokens = taken ++ behind ∧ left = behind ++ ending := by
  rcases List.append_eq_append_iff.mp whole with ⟨more, rfl, rest⟩ | inside
  · cases more with
    | nil => exact ⟨[], by simp, rest.symm⟩
    | cons last others =>
        rcases ends with rfl | ⟨final, ended, rfl⟩
        · cases rest
        · obtain ⟨rfl, _⟩ := List.cons.inj rest
          exact absurd ended (endFree_of_after reached final (by simp))
  · exact inside

theorem settled_of_within (within : stage.settle ≠ between) : stage.settle = stage := by
  cases stage <;> first | rfl | exact absurd rfl within

theorem offset_of_program_failed {origin : Origin} {diagnostic : Diagnostic} {reader : Reader}
    {fault : Fault} {rest : List Token}
    (failed : (Reader.ofTokens origin tokens).perform .program = (.diagnostic diagnostic, reader))
    (read : Production.program tokens = .error fault rest) :
    reader.offset = tokens.length - rest.length := by
  simp only [Reader.perform, Reader.apply, Reader.ofTokens, Reader.ahead, List.drop_zero, read,
    Prod.mk.injEq] at failed
  rw [← failed.2]
  rfl

/-- A diagnostic about the kind of a token names kinds that could have come instead, and except at
three places all of them. -/
theorem expected_kinds_reported {tokens ending : List Token} (endFree : EndFree tokens)
    (ends : ending = [] ∨ ∃ last, last.kind = .endOfInput ∧ ending = [last])
    {origin : Origin} {diagnostic : Diagnostic} {reader : Reader} {expected : List Kind}
    {actual : Kind} {found : Option Token}
    (failed : (Reader.ofTokens origin (tokens ++ ending)).perform .program =
      (.diagnostic diagnostic, reader))
    (about : diagnostic.subject = .unexpectedKind expected actual found) :
    ∃ index ≤ tokens.length, found = (tokens ++ ending)[index]? ∧ actual = Fault.kindOf found ∧
      reader.offset = min (index + 1) (tokens ++ ending).length ∧
      Viable (tokens.take index) ∧ actual ∉ expected ∧
      ReportedKinds (tokens.take index) expected := by
  obtain ⟨fault, rest, read, rfl⟩ := perform_program_failed failed
  have offset := offset_of_program_failed failed read
  cases reached : between.reach (tokens ++ ending) with
  | mk settled left =>
      obtain ⟨taken, stage, whole, done, same, stuck⟩ := exists_taken reached
      obtain ⟨behind, rfl, rest⟩ := exists_behind ends whole done
      rcases Production.program_error_tracks read with
        halts | ⟨last, trailing, more, further, ended⟩
      · rw [reached] at halts
        cases halts with
        | unknown => cases about
        | wrong within =>
            rw [← same] at within about
            rw [settled_of_within within] at about
            cases about
            have stops : stage.step (Fault.kindOf left.head?) = none := by
              cases left with
              | nil => exact step_endOfInput stage
              | cons token more => exact stuck token rfl
            refine ⟨taken.length, by simp, ?_, rfl, ?_, ?_, ?_, ?_⟩
            · rw [whole, List.getElem?_append_right (Nat.le_refl _), Nat.sub_self,
                List.head?_eq_getElem?]
            · rw [offset, whole]
              cases left <;> simp
              omega
            · rw [List.take_left]
              exact (viable_iff_after endFree.left).mpr ⟨stage, done⟩
            · exact fun reported => step_ne_none_of_expected reported stops
            · rw [List.take_left]
              exact reportedKinds_of_after endFree.left done within
      · -- Nothing is left behind an end of input.
        rw [reached] at further
        obtain ⟨rfl, rfl⟩ := Prod.mk.inj further
        cases behind with
        | nil => rcases ends with rfl | ⟨_, _, rfl⟩ <;> cases rest
        | cons head others =>
            obtain ⟨rfl, _⟩ := List.cons.inj rest
            exact absurd ended (endFree last (by simp))

def unclosedCall : List Token :=
  [⟨.keyword .call, "call", ⟨1, 5⟩⟩, ⟨.identifier, "fade", ⟨1, 10⟩⟩, ⟨.leftParen, "(", ⟨1, 10⟩⟩,
    ⟨.identifier, "slow", ⟨1, 15⟩⟩, ⟨.string, "out", ⟨1, 21⟩⟩]

theorem unclosedCall_reported :
    ReportedKinds (unclosedCall.take 4) [.rightParen] ∧
      MayFollow (unclosedCall.take 4) [.rightParen, .comma] := by
  have failed :
      (Reader.ofTokens ⟨none, none⟩ (unclosedCall ++ [])).perform .program =
        (.diagnostic ⟨.unexpectedKind [.rightParen] .string (some ⟨.string, "out", ⟨1, 21⟩⟩),
            "Expected ')', got string", some ⟨none, ⟨1, 21⟩, none⟩⟩,
          ⟨⟨none, none⟩, unclosedCall, 5⟩) := by
    decide +kernel
  have endFree : EndFree unclosedCall := by simp [EndFree, unclosedCall]
  obtain ⟨index, inside, found, _, offset, _, _, reported⟩ :=
    expected_kinds_reported endFree (.inl rfl) failed rfl
  have fourth : index = 4 := by
    have reaches : 5 = min (index + 1) 5 := offset
    have notLast : index ≠ 5 := by
      rintro rfl
      cases found
    have bound : index ≤ 5 := inside
    omega
  subst fourth
  have behindArgument : AfterArgument (unclosedCall.take 4) :=
    afterArgument_of_after (fun token held => endFree token (List.mem_of_mem_take held)) rfl
  exact ⟨reported, (reported.argument behindArgument).2⟩

end SceneScript
