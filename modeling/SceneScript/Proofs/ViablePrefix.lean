import SceneScript.Grammar.Reader
import SceneScript.Proofs.Derivation
import SceneScript.Proofs.Stage

set_option autoImplicit false

namespace SceneScript

def EndFree (tokens : List Token) : Prop := ∀ token ∈ tokens, token.kind ≠ .endOfInput

def Accepted (tokens : List Token) : Prop :=
  EndFree tokens ∧ ∃ program, ∀ origin, Program.ofTokens origin tokens = .ok program

def Viable (tokens : List Token) : Prop := ∃ more, Accepted (tokens ++ more)

def Subject.token : Subject → Option Token
  | .unknownInstruction token | .unexpectedKind _ _ token => token
  | _ => none

theorem Fault.token_subject (fault : Fault) : fault.subject.token = fault.token := by
  cases fault <;> rfl

theorem EndFree.left {first second : List Token} (endFree : EndFree (first ++ second)) :
    EndFree first :=
  fun token held => endFree token (List.mem_append_left second held)

namespace Stage

variable {stage last : Stage} {token : Token} {tokens more : List Token}

theorem reach_append_of_done (done : stage.reach tokens = (last, [])) :
    ∃ final : Stage, final.settle = last ∧
      ∀ more, stage.reach (tokens ++ more) = final.reach more := by
  -- It is not the settled stage that goes on: a call at the end may still take its arguments.
  induction tokens generalizing stage with
  | nil =>
      injection done with settled _
      exact ⟨stage, settled, fun _ => rfl⟩
  | cons head tail ih =>
      cases steps : stage.step head.kind with
      | none => simp [reach_cons_of_stuck steps] at done
      | some next =>
          rw [reach_cons_of_step steps] at done
          obtain ⟨final, settled, continues⟩ := ih done
          refine ⟨final, settled, fun more => ?_⟩
          rw [List.cons_append, reach_cons_of_step steps, continues]

theorem reach_of_stuck (stuck : stage.reach tokens = (last, token :: more)) :
    ∃ taken, tokens = taken ++ token :: more ∧ stage.reach taken = (last, []) ∧
      ∀ other, stage.reach (taken ++ token :: other) = (last, token :: other) := by
  induction tokens generalizing stage with
  | nil => simp [reach] at stuck
  | cons head tail ih =>
      cases steps : stage.step head.kind with
      | none =>
          rw [reach_cons_of_stuck steps] at stuck
          obtain ⟨rfl, rfl, rfl⟩ : stage.settle = last ∧ head = token ∧ tail = more := by
            simpa using stuck
          exact ⟨[], rfl, rfl, fun _ => reach_cons_of_stuck steps⟩
      | some next =>
          rw [reach_cons_of_step steps] at stuck
          obtain ⟨taken, rfl, done, stays⟩ := ih stuck
          refine ⟨head :: taken, rfl, ?_, fun other => ?_⟩
          · rw [reach_cons_of_step steps, done]
          · rw [List.cons_append, reach_cons_of_step steps, stays]

def Completable (stage : Stage) : Prop :=
  ∃ more, EndFree more ∧ stage.reach more = (between, [])

theorem Completable.of_step {next : Stage} (kind : Kind) (completable : next.Completable)
    (steps : stage.step kind = some next) : stage.Completable := by
  obtain ⟨more, endFree, done⟩ := completable
  have other : kind ≠ .endOfInput := by
    intro same
    subst same
    rw [step_endOfInput] at steps
    cases steps
  refine ⟨⟨kind, [], .start⟩ :: more, ?_, ?_⟩
  · intro token held
    rcases List.mem_cons.mp held with rfl | held
    · exact other
    · exact endFree token held
  · rw [reach_cons_of_step steps, done]

theorem completable_between : between.Completable := ⟨[], by simp [EndFree], rfl⟩

theorem completable_argument : argument.Completable :=
  completable_between.of_step .rightParen rfl

theorem completable_action : action.Completable := ⟨[], by simp [EndFree], rfl⟩

theorem completable_block : block.Completable := completable_between.of_step .rightBrace rfl

theorem completable_operand (due : Operand) : (operand due).Completable := by
  cases due with
  | brace => exact completable_block.of_step .leftBrace rfl
  | action => exact completable_action.of_step .identifier rfl
  | name => exact completable_between.of_step .identifier rfl
  | quote => exact completable_between.of_step .string rfl
  | duration => exact completable_between.of_step .number rfl

theorem completable (stage : Stage) : stage.Completable := by
  cases stage with
  | between => exact completable_between
  | opening keyword =>
      have next : (afterKeyword keyword).Completable := by
        cases keyword with
        | stop => exact completable_between
        | _ => exact completable_operand _
      exact next.of_step (.keyword keyword) (by simp [step])
  | operand due => exact completable_operand due
  | block => exact completable_block
  | action => exact completable_action
  | opened => exact completable_between.of_step .rightParen rfl
  | argument => exact completable_argument
  | separated => exact completable_argument.of_step .identifier rfl

end Stage

open Stage

variable {tokens taken more : List Token} {token : Token} {stage : Stage} {origin : Origin}

theorem EndFree.append {first second : List Token} (left : EndFree first) (right : EndFree second) :
    EndFree (first ++ second) := by
  intro token held
  rcases List.mem_append.mp held with held | held
  · exact left token held
  · exact right token held

theorem accepted_iff_reach (endFree : EndFree tokens) :
    Accepted tokens ↔ between.reach tokens = (between, []) := by
  constructor
  · intro given
    obtain ⟨_, found, read⟩ := given
    obtain ⟨rest, read⟩ := Program.ofTokens_eq_ok_iff.mp (read ⟨none, none⟩)
    obtain ⟨reached, rfl | ⟨last, ended, rfl⟩⟩ := Production.program_ok_tracks read
    · exact reached
    · obtain ⟨taken, rfl, _, _⟩ := reach_of_stuck reached
      exact absurd ended (endFree last (by simp))
  · intro reached
    refine ⟨endFree, ?_⟩
    cases read : Production.program tokens with
    | ok found rest => exact ⟨found, fun origin => Program.ofTokens_eq_ok_iff.mpr ⟨rest, read⟩⟩
    | error fault rest =>
        rcases Production.program_error_tracks read with halts | ⟨last, trailing, more, other, _⟩
        · rw [reached] at halts
          cases halts with
          | wrong within => exact absurd rfl within
        · rw [reached] at other
          cases other

theorem viable_iff_reach (endFree : EndFree tokens) :
    Viable tokens ↔ ∃ last, between.reach tokens = (last, []) := by
  constructor
  · intro given
    obtain ⟨more, accepted⟩ := given
    have whole := (accepted_iff_reach accepted.1).mp accepted
    cases reached : between.reach tokens with
    | mk last left =>
        cases left with
        | nil => exact ⟨last, rfl⟩
        | cons token rest =>
            -- A token that no stage takes stays in front, whatever is put behind it.
            obtain ⟨taken, rfl, _, stays⟩ := reach_of_stuck reached
            rw [List.append_assoc, List.cons_append, stays] at whole
            simp at whole
  · intro given
    obtain ⟨last, reached⟩ := given
    obtain ⟨final, _, continues⟩ := reach_append_of_done reached
    obtain ⟨more, moreEndFree, done⟩ := completable final
    refine ⟨more, (accepted_iff_reach (endFree.append moreEndFree)).mpr ?_⟩
    rw [continues, done]

theorem perform_program_failed {diagnostic : Diagnostic} {reader : Reader}
    (failed : (Reader.ofTokens origin tokens).perform .program = (.diagnostic diagnostic, reader)) :
    ∃ fault rest, Production.program tokens = .error fault rest ∧
      diagnostic = origin.diagnose tokens.getLast? fault := by
  simp only [Reader.perform, Reader.apply, Reader.ofTokens, Reader.ahead, List.drop_zero] at failed
  cases read : Production.program tokens with
  | ok found rest => simp [read] at failed
  | error fault rest =>
      simp only [read, Prod.mk.injEq, Reader.Reply.diagnostic.injEq] at failed
      exact ⟨fault, rest, rfl, failed.1.symm⟩

end SceneScript
