import SceneScript.Proofs.Segmentation
import SceneScript.Proofs.ViablePrefix

set_option autoImplicit false

namespace SceneScript

theorem Stage.left_ne_nil {last : Token} (ended : last.kind = .endOfInput) (stage : Stage)
    (tokens : List Token) : (stage.reach (tokens ++ [last])).2 ≠ [] := by
  induction tokens generalizing stage with
  | nil =>
      rw [List.nil_append, reach_cons_of_stuck (by rw [ended, step_endOfInput])]
      simp
  | cons token rest ih =>
      cases steps : stage.step token.kind with
      | none =>
          rw [List.cons_append, reach_cons_of_stuck steps]
          simp
      | some next =>
          rw [List.cons_append, reach_cons_of_step steps]
          exact ih next

/-- The input ends behind the last token and nowhere before. -/
def Closed (tokens : List Token) : Prop :=
  ∃ body last, tokens = body ++ [last] ∧ EndFree body ∧ last.kind = .endOfInput

theorem tokenize_closed (text : Text) : Closed (tokenize text) := by
  obtain ⟨tokens, _, whole, going, _⟩ := ((tokenize_eq_iff text _).mp rfl).exists_spans []
  exact ⟨tokens, _, whole, going, rfl⟩

namespace Program

theorem ofText_eq_ok_iff {file : Option Path} {text : Text} {program : Program} :
    ofText file text = .ok program ↔
      ∃ pieces last, List.Forall₂ Derives program.instructions pieces ∧
        last.kind = .endOfInput ∧ tokenize text = pieces.flatten ++ [last] := by
  rw [ofText, ofTokens_eq_ok_iff]
  constructor
  · intro given
    obtain ⟨rest, read⟩ := given
    obtain ⟨tokens, last, whole, _, ended⟩ := tokenize_closed text
    obtain ⟨pieces, derived, split, rfl | ⟨last, ended, rfl⟩⟩ :=
      Production.program_eq_ok_iff.mp read
    · -- Reading never takes the end of input off.
      obtain ⟨reached, _⟩ := Production.program_ok_tracks read
      have left := Stage.left_ne_nil ended .between tokens
      rw [← whole, reached] at left
      exact absurd rfl left
    · exact ⟨pieces, last, derived, ended, split⟩
  · intro given
    obtain ⟨pieces, last, derived, ended, split⟩ := given
    exact ⟨[last], Production.program_eq_ok_iff.mpr
      ⟨pieces, derived, split, .inr ⟨last, ended, rfl⟩⟩⟩

end Program

namespace Production

theorem halts_of_program_error {tokens rest : List Token} {fault : Fault} (closed : Closed tokens)
    (failed : program tokens = .error fault rest) :
    ∃ stage, ∃ token ∈ tokens, ∃ more, Stage.Halts (stage, token :: more) fault rest := by
  obtain ⟨tokens, last, rfl, endFree, ended⟩ := closed
  have left := Stage.left_ne_nil ended .between tokens
  cases reached : Stage.between.reach (tokens ++ [last]) with
  | mk stage ahead =>
      rw [reached] at left
      obtain ⟨token, more, rfl⟩ := List.exists_cons_of_ne_nil left
      obtain ⟨taken, split, _, _⟩ := Stage.reach_of_stuck reached
      rcases program_error_tracks failed with halts | ⟨first, trailing, others, further, closes⟩
      · rw [reached] at halts
        exact ⟨stage, token, by simp [split], more, halts⟩
      · -- Only the last token ends the input, so none is left behind one that does.
        rw [reached] at further
        injection further with _ same
        injection same with same rest
        subst same rest
        have before := congrArg List.dropLast split
        rw [List.dropLast_concat, List.dropLast_append_of_ne_nil (by simp),
          List.dropLast_cons_of_ne_nil (by simp)] at before
        exact absurd closes (endFree token (by simp [before]))

theorem token_of_program_error {tokens rest : List Token} {fault : Fault}
    (closed : Closed tokens) (failed : program tokens = .error fault rest) :
    ∃ token ∈ tokens, fault.token = some token := by
  obtain ⟨stage, token, held, more, halts⟩ := halts_of_program_error closed failed
  cases halts <;> exact ⟨token, held, rfl⟩

end Production

end SceneScript
