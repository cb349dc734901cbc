import SceneScript.Proofs.Derivation
import SceneScript.Proofs.Spelling

set_option autoImplicit false

namespace SceneScript

open Cursor (startsWord)

def Instruction.WellSpelled : Instruction → Prop
  | assets names => ∀ name ∈ names, Text.IsListed name
  | call action arguments =>
      Text.IsIdentifier action ∧ ∀ argument ∈ arguments, Text.IsIdentifier argument
  | background name => Text.IsIdentifier name
  | play track => Text.IsIdentifier track
  | say text => '"' ∉ text
  | wait duration => Text.IsDigits duration
  | stop => True
  | loadScript path => '"' ∉ path

namespace Instruction

instance : DecidablePred WellSpelled
  | assets names => inferInstanceAs (Decidable (∀ name ∈ names, Text.IsListed name))
  | call action arguments =>
      inferInstanceAs (Decidable (Text.IsIdentifier action ∧
        ∀ argument ∈ arguments, Text.IsIdentifier argument))
  | background name => inferInstanceAs (Decidable (Text.IsIdentifier name))
  | play track => inferInstanceAs (Decidable (Text.IsIdentifier track))
  | say text => inferInstanceAs (Decidable ('"' ∉ text))
  | wait duration => inferInstanceAs (Decidable (Text.IsDigits duration))
  | stop => isTrue trivial
  | loadScript path => inferInstanceAs (Decidable ('"' ∉ path))

example : (assets ["call", "7", ","]).WellSpelled ∧ ¬ (assets ["two words"]).WellSpelled := by
  decide +kernel

-- The equations of `render`, with the spelling of the keyword in front.

theorem render_emptyAssets :
    (assets []).render = Keyword.assets.spelling ++ [' ', '{', ' ', '}'] := rfl

theorem render_assets (name : Text) (others : List Text) :
    (assets (name :: others)).render =
      Keyword.assets.spelling ++ ([' ', '{', ' '] ++
        (List.intercalate [' '] (name :: others) ++ [' ', '}'])) := rfl

theorem render_bareCall (action : Text) :
    (call action []).render = Keyword.call.spelling ++ ' ' :: action := rfl

theorem render_call (action first : Text) (others : List Text) :
    (call action (first :: others)).render =
      Keyword.call.spelling ++ ([' '] ++ action ++ ['('] ++
        List.intercalate [',', ' '] (first :: others) ++ [')']) := rfl

theorem render_background (name : Text) :
    (background name).render = Keyword.background.spelling ++ ' ' :: name := rfl

theorem render_play (track : Text) :
    (play track).render = Keyword.play.spelling ++ ' ' :: track := rfl

theorem render_say (text : Text) :
    (say text).render = Keyword.say.spelling ++ ' ' :: (Lexeme.quoted text).raw := rfl

theorem render_wait (duration : Text) :
    (wait duration).render = Keyword.wait.spelling ++ ' ' :: (Lexeme.digits duration).raw := rfl

theorem render_loadScript (path : Text) :
    (loadScript path).render = Keyword.loadScript.spelling ++ ' ' :: (Lexeme.quoted path).raw := rfl

end Instruction

namespace Scans

variable {position : Position} {rest : Text} {tokens : List Token}

theorem of_nothing (position : Position) : Scans position [] [⟨.endOfInput, [], position⟩] :=
  @done position [] (by simp)

theorem of_spelling (keyword : Keyword) (apart : Lexeme.Apart rest)
    (more : Scans (position.after keyword.spelling) rest tokens) :
    ∃ head, head.kind = .keyword keyword ∧
      Scans position (keyword.spelling ++ rest) (head :: tokens) := by
  have formed := (Text.isWord_iff _).mp keyword.isWord_spelling
  have kind : Kind.ofWord keyword.spelling = .keyword keyword := by simp [Kind.ofWord]
  exact ⟨_, kind, .of_lexeme formed apart more⟩

theorem of_identifier {name : Text} (spelled : name.IsIdentifier) (apart : Lexeme.Apart rest)
    (more : Scans (position.after name) rest tokens) :
    ∃ token, token.kind = .identifier ∧ token.value = name ∧
      Scans position (name ++ rest) (token :: tokens) :=
  ⟨_, spelled.ofWord, rfl, .of_lexeme spelled.formed apart more⟩

theorem of_mark {c : Char} (listed : c ∈ ['{', '}', '(', ')', ','])
    (more : Scans (position.step c) rest tokens) :
    ∃ mark, mark.kind = .ofMark c ∧ Scans position (c :: rest) (mark :: tokens) := by
  have alone : ['{', '}', '(', ')', ','].all (fun c =>
      !startsWord c && !Text.isDigit c && c ≠ '"' && !Text.isBlank c) = true := by
    decide +kernel
  have formed : (Lexeme.mark c).Formed := by
    simpa [Lexeme.Formed, and_assoc] using List.all_eq_true.mp alone c listed
  exact ⟨_, rfl, .of_lexeme formed trivial more⟩

theorem of_operand {keyword : Keyword} {lexeme : Lexeme} (formed : lexeme.Formed)
    (ends : lexeme.Ends rest)
    (more : Scans (position.after (keyword.spelling ++ ' ' :: lexeme.raw)) rest tokens) :
    ∃ head operand, head.kind = .keyword keyword ∧ operand.kind = lexeme.kind ∧
      operand.value = lexeme.value ∧
      Scans position (keyword.spelling ++ ' ' :: lexeme.raw ++ rest)
        (head :: operand :: tokens) := by
  have apart : Lexeme.Apart (' ' :: (lexeme.raw ++ rest)) := Lexeme.apart_of_mem (by simp)
  rw [Position.after_append, Position.after_cons] at more
  obtain ⟨head, opens, scans⟩ :=
    of_spelling keyword apart (.of_blank (by decide) (.of_lexeme formed ends more))
  exact ⟨head, _, opens, rfl, rfl, by simpa using scans⟩

theorem of_arguments {first : Text} {others : List Text}
    (spelled : ∀ argument ∈ first :: others, Text.IsIdentifier argument)
    (apart : Lexeme.Apart rest)
    (more : Scans (position.after (List.intercalate [',', ' '] (first :: others))) rest tokens) :
    ∃ named list, named.kind = .identifier ∧ named.value = first ∧ DerivesMore others list ∧
      Scans position (List.intercalate [',', ' '] (first :: others) ++ rest)
        (named :: (list ++ tokens)) := by
  -- Tokens are put in front of those that follow, so the last argument comes first.
  induction others generalizing first position with
  | nil =>
      rw [List.intercalate_singleton] at more ⊢
      obtain ⟨named, names, value, scans⟩ := of_identifier (spelled first (by simp)) apart more
      exact ⟨named, [], names, value, .done, scans⟩
  | cons second others ih =>
      rw [List.intercalate_cons_cons] at more ⊢
      simp only [Position.after_append, Position.after_cons, Position.after_nil] at more
      obtain ⟨argument, list, names', rfl, further, scans⟩ :=
        ih (fun argument held => spelled argument (List.mem_cons_of_mem _ held)) more
      obtain ⟨comma, separates, scans⟩ := of_mark (by simp) (.of_blank (by decide) scans)
      obtain ⟨named, names, value, scans⟩ :=
        of_identifier (spelled first (by simp)) (Lexeme.apart_of_mem (by simp)) scans
      refine ⟨named, comma :: argument :: list, names, value, .more separates names' further, ?_⟩
      simpa using scans

theorem of_names {names : List Text} (listed : ∀ name ∈ names, Text.IsListed name)
    (filled : names ≠ []) (apart : Lexeme.Apart rest)
    (more : Scans (position.after (List.intercalate [' '] names)) rest tokens) :
    ∃ inner, (∀ token ∈ inner, token.kind ≠ .rightBrace ∧ token.kind ≠ .endOfInput) ∧
      inner.map Token.value = names ∧
      Scans position (List.intercalate [' '] names ++ rest) (inner ++ tokens) := by
  induction names generalizing position with
  | nil => exact absurd rfl filled
  | cons name others ih =>
      obtain ⟨lexeme, formed, closed, rfl, value, noBrace⟩ :=
        Lexeme.exists_of_isListed (listed name (by simp))
      cases others with
      | nil =>
          rw [List.intercalate_singleton] at more ⊢
          have ends := Lexeme.ends_of_apart apart closed
          have fills : lexeme.kind ≠ .rightBrace ∧ lexeme.kind ≠ .endOfInput :=
            ⟨noBrace, lexeme.kind_ne_endOfInput⟩
          exact ⟨[lexeme.token position], List.forall_mem_singleton.mpr fills,
            by simp [Lexeme.token, value], .of_lexeme formed ends more⟩
      | cons second others =>
          rw [List.intercalate_cons_cons] at more ⊢
          simp only [Position.after_append, Position.after_cons, Position.after_nil] at more
          obtain ⟨inner, fills, values, scans⟩ :=
            ih (fun name held => listed name (List.mem_cons_of_mem _ held)) (by simp) more
          have ends (following : Text) : lexeme.Ends (' ' :: following) :=
            Lexeme.ends_of_apart (Lexeme.apart_of_mem (by simp)) closed
          have whole := of_lexeme formed (ends _) (.of_blank (by decide) scans)
          refine ⟨lexeme.token position :: inner, ?_, by simp [Lexeme.token, value, values],
            by simpa using whole⟩
          exact List.forall_mem_cons.mpr ⟨⟨noBrace, lexeme.kind_ne_endOfInput⟩, fills⟩

end Scans

namespace Instruction

variable {instruction : Instruction} {position : Position} {rest : Text} {tokens : List Token}

theorem scans_of_operand {keyword : Keyword} {lexeme : Lexeme}
    (rendered : instruction.render = keyword.spelling ++ ' ' :: lexeme.raw)
    (formed : lexeme.Formed) (ends : lexeme.Ends rest)
    (derived : ∀ head operand : Token, head.kind = .keyword keyword → operand.kind = lexeme.kind →
      operand.value = lexeme.value → Derives instruction [head, operand])
    (more : Scans (position.after instruction.render) rest tokens) :
    ∃ taken, Derives instruction taken ∧
      Scans position (instruction.render ++ rest) (taken ++ tokens) := by
  rw [rendered] at more ⊢
  obtain ⟨head, operand, opens, kind, value, scans⟩ := Scans.of_operand formed ends more
  exact ⟨[head, operand], derived head operand opens kind value, scans⟩

theorem scans_of_identifier {keyword : Keyword} {name : Text}
    (rendered : instruction.render = keyword.spelling ++ ' ' :: name)
    (spelled : name.IsIdentifier) (apart : Lexeme.Apart rest)
    (derived : ∀ head operand : Token, head.kind = .keyword keyword → operand.kind = .identifier →
      operand.value = name → Derives instruction [head, operand])
    (more : Scans (position.after instruction.render) rest tokens) :
    ∃ taken, Derives instruction taken ∧
      Scans position (instruction.render ++ rest) (taken ++ tokens) := by
  refine scans_of_operand rendered spelled.formed apart ?_ more
  intro head operand opens kind value
  exact derived head operand opens (kind.trans spelled.ofWord) value

theorem scans_assets {names : List Text} (listed : ∀ name ∈ names, Text.IsListed name)
    (more : Scans (position.after (assets names).render) rest tokens) :
    ∃ taken, Derives (assets names) taken ∧
      Scans position ((assets names).render ++ rest) (taken ++ tokens) := by
  cases names with
  | nil =>
      rw [render_emptyAssets] at more ⊢
      simp only [Position.after_append, Position.after_cons, Position.after_nil] at more
      obtain ⟨closing, closes, scans⟩ := Scans.of_mark (by simp) more
      obtain ⟨opening, brace, scans⟩ := Scans.of_mark (by simp) (.of_blank (by decide) scans)
      obtain ⟨head, opens, scans⟩ := Scans.of_spelling .assets (Lexeme.apart_of_mem (by simp))
        (.of_blank (by decide) scans)
      refine ⟨[head, opening, closing], ?_, by simpa using scans⟩
      exact @Derives.assets head opening closing [] opens brace (by simp) closes
  | cons name others =>
      rw [render_assets] at more ⊢
      simp only [Position.after_append, Position.after_cons, Position.after_nil] at more
      obtain ⟨closing, closes, scans⟩ := Scans.of_mark (by simp) more
      obtain ⟨inner, fills, values, scans⟩ := Scans.of_names listed (by simp)
        (Lexeme.apart_of_mem (by simp)) (.of_blank (by decide) scans)
      obtain ⟨opening, brace, scans⟩ := Scans.of_mark (by simp) (.of_blank (by decide) scans)
      obtain ⟨head, opens, scans⟩ := Scans.of_spelling .assets (Lexeme.apart_of_mem (by simp))
        (.of_blank (by decide) scans)
      refine ⟨head :: opening :: (inner ++ [closing]), ?_, by simpa using scans⟩
      rw [← values]
      exact .assets opens brace fills closes

theorem scans_call {action : Text} {arguments : List Text} (spelled : action.IsIdentifier)
    (passes : ∀ argument ∈ arguments, Text.IsIdentifier argument) (apart : Lexeme.Apart rest)
    (more : Scans (position.after (call action arguments).render) rest tokens) :
    ∃ taken, Derives (call action arguments) taken ∧
      Scans position ((call action arguments).render ++ rest) (taken ++ tokens) := by
  cases arguments with
  | nil =>
      refine scans_of_identifier (render_bareCall action) spelled apart ?_ more
      intro head operand opens names value
      rw [← value]
      exact .call opens names .absent
  | cons first others =>
      rw [render_call] at more ⊢
      simp only [Position.after_append, Position.after_cons, Position.after_nil] at more
      obtain ⟨closing, closes, scans⟩ := Scans.of_mark (by simp) more
      obtain ⟨named, list, names, value, further, scans⟩ :=
        Scans.of_arguments passes (Lexeme.apart_of_mem (by simp)) scans
      obtain ⟨opening, opens', scans⟩ := Scans.of_mark (by simp) scans
      obtain ⟨operand, names', rfl, scans⟩ :=
        Scans.of_identifier spelled (Lexeme.apart_of_mem (by simp)) scans
      obtain ⟨head, opens, scans⟩ := Scans.of_spelling .call (Lexeme.apart_of_mem (by simp))
        (.of_blank (by decide) scans)
      refine ⟨head :: operand :: opening :: named :: (list ++ [closing]), ?_, by simpa using scans⟩
      rw [← value]
      exact .call opens names' (.listed opens' names further closes)

theorem scans_render (well : instruction.WellSpelled) (line : ∀ c ∈ rest.head?, c = '\n')
    (more : Scans (position.after instruction.render) rest tokens) :
    ∃ taken, Derives instruction taken ∧
      Scans position (instruction.render ++ rest) (taken ++ tokens) := by
  -- A line ends every word and every number.
  have apart : Lexeme.Apart rest := by
    cases rest with
    | nil => simp [Lexeme.Apart]
    | cons c rest => exact Lexeme.apart_of_mem (by simp [line c rfl])
  cases instruction with
  | assets names => exact scans_assets well more
  | call action arguments => exact scans_call well.1 well.2 apart more
  | background name =>
      refine scans_of_identifier (render_background name) well apart ?_ more
      intro head operand opens names value
      rw [← value]
      exact .background opens names
  | play track =>
      refine scans_of_identifier (render_play track) well apart ?_ more
      intro head operand opens names value
      rw [← value]
      exact .play opens names
  | say text =>
      refine scans_of_operand (render_say text) well trivial ?_ more
      intro head operand opens quotes (value : operand.value = text)
      rw [← value]
      exact .say opens quotes
  | wait duration =>
      have ends : (Lexeme.digits duration).Ends rest := Lexeme.ends_of_apart apart (by simp)
      refine scans_of_operand (render_wait duration) well ends ?_ more
      intro head operand opens counts (value : operand.value = duration)
      rw [← value]
      exact .wait opens (.inl counts)
  | stop =>
      obtain ⟨head, opens, scans⟩ := Scans.of_spelling .stop apart more
      exact ⟨[head], .stop opens, scans⟩
  | loadScript path =>
      refine scans_of_operand (render_loadScript path) well trivial ?_ more
      intro head operand opens quotes (value : operand.value = path)
      rw [← value]
      exact .loadScript opens quotes

end Instruction

/-- In front of the end of a line, the text is scanned into tokens that derive the instruction. -/
def Instruction.WrittenAs (instruction : Instruction) (text : Text) : Prop :=
  ∀ ⦃position : Position⦄ ⦃rest : Text⦄ ⦃tokens : List Token⦄, (∀ c ∈ rest.head?, c = '\n') →
    Scans (position.after text) rest tokens →
    ∃ taken, Derives instruction taken ∧ Scans position (text ++ rest) (taken ++ tokens)

theorem Program.scans_lines {write : Instruction → Text} {instructions : List Instruction}
    (written : ∀ instruction ∈ instructions, instruction.WrittenAs (write instruction))
    (position : Position) :
    ∃ pieces last, List.Forall₂ Derives instructions pieces ∧ last.kind = .endOfInput ∧
      Scans position (Text.unlines (instructions.map write)) (pieces.flatten ++ [last]) := by
  induction instructions generalizing position with
  | nil => exact ⟨[], _, .nil, rfl, .of_nothing position⟩
  | cons first others ih =>
      obtain ⟨writtenFirst, written⟩ := List.forall_mem_cons.mp written
      cases others with
      | nil =>
          obtain ⟨taken, derived, scans⟩ :=
            writtenFirst (by simp) (.of_nothing (position.after (write first)))
          exact ⟨[taken], _, .cons derived .nil, rfl, by simpa [Text.unlines] using scans⟩
      | cons second others =>
          obtain ⟨pieces, last, derived, ended, scans⟩ :=
            ih written ((position.after (write first)).step '\n')
          obtain ⟨taken, derived', scans'⟩ := writtenFirst (by simp) (.of_blank (by decide) scans)
          refine ⟨taken :: pieces, last, .cons derived' derived, ended, ?_⟩
          simpa [Text.unlines] using scans'

theorem Program.scans_render {instructions : List Instruction}
    (well : ∀ instruction ∈ instructions, instruction.WellSpelled) (position : Position) :
    ∃ pieces last, List.Forall₂ Derives instructions pieces ∧ last.kind = .endOfInput ∧
      Scans position (Program.mk instructions).render (pieces.flatten ++ [last]) :=
  scans_lines (fun instruction held _ _ _ => Instruction.scans_render (well instruction held))
    position

end SceneScript
