import SceneScript.Proofs.RoundTrip
import SceneScript.Proofs.Script

set_option autoImplicit false

namespace SceneScript

namespace Instruction

def Spellable : Instruction → Prop
  | assets names => ∀ name ∈ names, '"' ∉ name
  | instruction => instruction.WellSpelled

instance : DecidablePred Spellable
  | assets names => inferInstanceAs (Decidable (∀ name ∈ names, '"' ∉ name))
  | call action arguments => inferInstanceAs (Decidable (call action arguments).WellSpelled)
  | background name => inferInstanceAs (Decidable (background name).WellSpelled)
  | play track => inferInstanceAs (Decidable (play track).WellSpelled)
  | say text => inferInstanceAs (Decidable (say text).WellSpelled)
  | wait duration => inferInstanceAs (Decidable (wait duration).WellSpelled)
  | stop => inferInstanceAs (Decidable stop.WellSpelled)
  | loadScript path => inferInstanceAs (Decidable (loadScript path).WellSpelled)

example : (assets ["two words", ""]).Spellable ∧ ¬ (background "end").Spellable := by
  decide +kernel

def renderQuoted : Instruction → Text
  | assets names =>
      Keyword.assets.spelling ++ ' ' :: '{' ::
        (names.flatMap fun name => (Lexeme.quoted name).raw) ++ ['}']
  | instruction => instruction.render

end Instruction

namespace Scans

variable {position : Position} {rest : Text} {tokens : List Token}

theorem of_quotedNames {names : List Text} (free : ∀ name ∈ names, '"' ∉ name)
    (more : Scans (position.after (names.flatMap fun name => (Lexeme.quoted name).raw)) rest
      tokens) :
    ∃ inner, (∀ token ∈ inner, token.kind = .string) ∧ inner.map Token.value = names ∧
      Scans position ((names.flatMap fun name => (Lexeme.quoted name).raw) ++ rest)
        (inner ++ tokens) := by
  induction names generalizing position with
  | nil => exact ⟨[], by simp, rfl, more⟩
  | cons name others ih =>
      obtain ⟨freeFirst, free⟩ := List.forall_mem_cons.mp free
      rw [List.flatMap_cons, Position.after_append] at more
      obtain ⟨inner, strings, values, scans⟩ := ih free more
      have formed : (Lexeme.quoted name).Formed := freeFirst
      have whole := of_lexeme formed trivial scans
      refine ⟨(Lexeme.quoted name).token position :: inner,
        List.forall_mem_cons.mpr ⟨rfl, strings⟩, ?_, by simpa using whole⟩
      simp [Lexeme.token, Lexeme.value, values]

end Scans

namespace Instruction

theorem writtenAs_renderQuoted_assets {names : List Text} (free : ∀ name ∈ names, '"' ∉ name) :
    (assets names).WrittenAs (assets names).renderQuoted := by
  intro position rest tokens _ more
  simp only [renderQuoted, List.append_assoc, List.cons_append, List.nil_append] at more ⊢
  simp only [Position.after_append, Position.after_cons, Position.after_nil] at more
  obtain ⟨closing, closes, scans⟩ := Scans.of_mark (by simp) more
  obtain ⟨inner, strings, rfl, scans⟩ := Scans.of_quotedNames free scans
  obtain ⟨opening, brace, scans⟩ := Scans.of_mark (by simp) scans
  obtain ⟨head, opens, scans⟩ := Scans.of_spelling .assets (Lexeme.apart_of_mem (by simp))
    (.of_blank (by decide) scans)
  have fills : ∀ token ∈ inner, token.kind ≠ .rightBrace ∧ token.kind ≠ .endOfInput := by
    intro token held
    simp [strings token held]
  exact ⟨_, .assets opens brace fills closes, by simpa using scans⟩

theorem writtenAs_renderQuoted {instruction : Instruction} (spellable : instruction.Spellable) :
    instruction.WrittenAs instruction.renderQuoted := by
  cases instruction with
  | assets names => exact writtenAs_renderQuoted_assets spellable
  | _ =>
      intro position rest tokens line more
      refine scans_render ?_ line more
      exact spellable

end Instruction

theorem Derives.spellable {instruction : Instruction} {tokens : List Token}
    (derived : Derives instruction tokens) (scanned : ∀ token ∈ tokens, token.Scanned) :
    instruction.Spellable := by
  cases instruction with
  | assets names =>
      exact fun name held => derived.quote_notMem scanned name (List.mem_cons_of_mem _ held)
  | _ => exact derived.wellSpelled_of_noBlock scanned (by simp [Instruction.keyword])

theorem Program.spellable_of_derived {instructions : List Instruction} {pieces : List (List Token)}
    (derived : List.Forall₂ Derives instructions pieces)
    (scanned : ∀ token ∈ pieces.flatten, token.Scanned) :
    ∀ instruction ∈ instructions, instruction.Spellable := by
  induction derived with
  | nil => simp
  | @cons first piece others pieces derivedFirst _ ih =>
      rw [List.flatten_cons, List.forall_mem_append] at scanned
      exact List.forall_mem_cons.mpr ⟨derivedFirst.spellable scanned.1, ih scanned.2⟩

/-- A program is read from some text exactly when each of its instructions can be spelled. -/
theorem Program.exists_ofText_iff (file : Option Path) (program : Program) :
    (∃ text, Program.ofText file text = .ok program) ↔
      ∀ instruction ∈ program.instructions, instruction.Spellable := by
  constructor
  · intro given
    obtain ⟨text, read⟩ := given
    obtain ⟨pieces, last, derived, _, split⟩ := ofText_eq_ok_iff.mp read
    -- Every field of an instruction is the value of a token that was scanned.
    have scans := (tokenize_eq_iff text _).mp split
    exact spellable_of_derived derived
      fun token held => scans.scanned token (List.mem_append_left _ held)
  · intro spellable
    -- The script to read: a line for each instruction, the names of a block between quotes.
    have written := fun instruction held =>
      Instruction.writtenAs_renderQuoted (spellable instruction held)
    obtain ⟨pieces, last, derived, ended, scans⟩ := scans_lines written .start
    exact ⟨_, ofText_eq_ok_iff.mpr ⟨pieces, last, derived, ended, (tokenize_eq_iff _ _).mpr scans⟩⟩

end SceneScript
