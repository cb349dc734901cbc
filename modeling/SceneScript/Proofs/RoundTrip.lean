import SceneScript.Proofs.Rendering

set_option autoImplicit false

namespace SceneScript

theorem count_intercalate {separator : Text} {c : Char} (apart : c ∉ separator)
    (texts : List Text) :
    (List.intercalate separator texts).count c = (texts.map (List.count c)).sum := by
  induction texts with
  | nil => rfl
  | cons first others ih =>
      cases others with
      | nil => simp
      | cons second others =>
          rw [List.intercalate_cons_cons, List.count_append, List.count_append, ih,
            List.count_eq_zero.mpr apart]
          simp

theorem count_intercalate_of_absent {separator : Text} {c : Char} {texts : List Text}
    (apart : c ∉ separator) (absent : ∀ text ∈ texts, text.count c = 0) :
    (List.intercalate separator texts).count c = 0 := by
  rw [count_intercalate apart]
  apply List.sum_eq_zero_iff_forall_eq_nat.mpr
  intro count held
  obtain ⟨text, listed, rfl⟩ := List.mem_map.mp held
  exact absent text listed

theorem Keyword.count_spelling (keyword : Keyword) : keyword.spelling.count '"' = 0 := by
  cases keyword <;> decide

namespace Instruction

def quoteMarks : Instruction → Nat
  | say _ => 2
  | loadScript _ => 2
  | _ => 0

theorem count_render {instruction : Instruction}
    (free : ∀ field ∈ instruction.primary :: instruction.parameters, '"' ∉ field) :
    instruction.render.count '"' = instruction.quoteMarks := by
  have absent : ∀ field ∈ instruction.primary :: instruction.parameters, field.count '"' = 0 :=
    fun field held => List.count_eq_zero.mpr (free field held)
  obtain ⟨alone, listed⟩ := List.forall_mem_cons.mp absent
  cases instruction with
  | assets names =>
      cases names with
      | nil => decide
      | cons name others =>
          have inside : (List.intercalate [' '] (name :: others)).count '"' = 0 :=
            count_intercalate_of_absent (by simp) listed
          rw [render_assets]
          simp [inside, Keyword.count_spelling, quoteMarks]
  | call action arguments =>
      replace alone : action.count '"' = 0 := alone
      cases arguments with
      | nil =>
          rw [render_bareCall]
          simp [Keyword.count_spelling, alone, quoteMarks]
      | cons first others =>
          have inside : (List.intercalate [',', ' '] (first :: others)).count '"' = 0 :=
            count_intercalate_of_absent (by simp) listed
          rw [render_call]
          simp [inside, Keyword.count_spelling, alone, quoteMarks]
  | background name =>
      replace alone : name.count '"' = 0 := alone
      rw [render_background]
      simp [Keyword.count_spelling, alone, quoteMarks]
  | play track =>
      replace alone : track.count '"' = 0 := alone
      rw [render_play]
      simp [Keyword.count_spelling, alone, quoteMarks]
  | say text =>
      replace alone : text.count '"' = 0 := alone
      rw [render_say]
      simp [Keyword.count_spelling, alone, quoteMarks, Lexeme.raw]
  | wait duration =>
      replace alone : duration.count '"' = 0 := alone
      rw [render_wait]
      simp [Keyword.count_spelling, alone, quoteMarks, Lexeme.raw]
  | stop => decide
  | loadScript path =>
      replace alone : path.count '"' = 0 := alone
      rw [render_loadScript]
      simp [Keyword.count_spelling, alone, quoteMarks, Lexeme.raw]

end Instruction

theorem DerivesMore.named {arguments : List Text} {tokens : List Token}
    (derived : DerivesMore arguments tokens) :
    ∀ argument ∈ arguments, ∃ token ∈ tokens, token.kind = .identifier ∧
      token.value = argument := by
  induction derived with
  | done => simp
  | @more comma argument arguments rest separates names _ ih =>
      intro other held
      rcases List.mem_cons.mp held with rfl | held
      · exact ⟨argument, by simp, names, rfl⟩
      · obtain ⟨token, listed, found⟩ := ih other held
        exact ⟨token, by simp [listed], found⟩

theorem DerivesArguments.named {arguments : List Text} {tokens : List Token}
    (derived : DerivesArguments arguments tokens) :
    ∀ argument ∈ arguments, ∃ token ∈ tokens, token.kind = .identifier ∧
      token.value = argument := by
  cases derived with
  | absent => simp
  | empty => simp
  | @listed opening first closing arguments rest opens names further closes =>
      intro other held
      rcases List.mem_cons.mp held with rfl | held
      · exact ⟨first, by simp, names, rfl⟩
      · obtain ⟨token, listed, found⟩ := further.named other held
        exact ⟨token, by simp [listed], found⟩

namespace Derives

variable {instruction : Instruction} {tokens : List Token}

theorem quote_notMem (derived : Derives instruction tokens)
    (scanned : ∀ token ∈ tokens, token.Scanned) :
    ∀ field ∈ instruction.primary :: instruction.parameters, '"' ∉ field := by
  have free : ∀ token ∈ tokens, '"' ∉ token.value :=
    fun token held => (scanned token held).quote_notMem
  cases derived with
  | assets opens brace fills closes =>
      have capital : '"' ∉ ("Assets" : Text) := by decide
      refine List.forall_mem_cons.mpr ⟨capital, fun field held => ?_⟩
      obtain ⟨token, listed, rfl⟩ := List.mem_map.mp held
      exact free token (by simp [listed])
  | call opens names passes =>
      refine List.forall_mem_cons.mpr ⟨free _ (by simp), fun field held => ?_⟩
      obtain ⟨token, listed, _, rfl⟩ := passes.named field held
      exact free token (by simp [listed])
  | stop => decide
  | _ => exact List.forall_mem_singleton.mpr (free _ (by simp))

theorem quoteMarks_le (derived : Derives instruction tokens) :
    instruction.quoteMarks ≤ (tokens.map Token.quotes).sum := by
  cases derived with
  | say opens quotes => simp [Instruction.quoteMarks, Token.quotes, quotes]
  | loadScript opens quotes => simp [Instruction.quoteMarks, Token.quotes, quotes]
  | _ => exact Nat.zero_le _

theorem wellSpelled_of_noBlock (derived : Derives instruction tokens)
    (scanned : ∀ token ∈ tokens, token.Scanned) (noBlock : instruction.keyword ≠ .assets) :
    instruction.WellSpelled := by
  cases derived with
  | assets => exact absurd rfl noBlock
  | call opens names passes =>
      refine ⟨(scanned _ (by simp)).isIdentifier names, fun argument held => ?_⟩
      obtain ⟨token, listed, named, rfl⟩ := passes.named argument held
      exact (scanned token (by simp [listed])).isIdentifier named
  | background opens names => exact (scanned _ (by simp)).isIdentifier names
  | play opens names => exact (scanned _ (by simp)).isIdentifier names
  | say opens quotes => exact (scanned _ (by simp)).quote_notMem
  | wait opens counts => exact (scanned _ (by simp)).isDigits counts
  | stop opens => trivial
  | loadScript opens quotes => exact (scanned _ (by simp)).quote_notMem

theorem wellSpelled (derived : Derives instruction tokens)
    (scanned : ∀ token ∈ tokens, token.Scanned)
    (few : (tokens.map Token.quotes).sum ≤ instruction.quoteMarks) : instruction.WellSpelled := by
  by_cases block : instruction.keyword = .assets
  next =>
    cases derived with
    | @assets head opening closing inner opens brace fills closes =>
        intro name held
        obtain ⟨token, listed, rfl⟩ := List.mem_map.mp held
        -- Strings and lone quotes may fill a block, but here no quotes are left for it.
        obtain ⟨inside, going⟩ := fills token listed
        apply (scanned token (by simp [listed])).isListed going inside
        have quoteless := Nat.le_zero.mp few
        exact List.sum_eq_zero_iff_forall_eq_nat.mp quoteless _
          (List.mem_map_of_mem (by simp [listed]))
    | _ => cases block
  next => exact derived.wellSpelled_of_noBlock scanned block

end Derives

namespace Program

variable {instructions : List Instruction} {pieces : List (List Token)}

theorem sum_quoteMarks_le (derived : List.Forall₂ Derives instructions pieces) :
    (instructions.map Instruction.quoteMarks).sum ≤ (pieces.flatten.map Token.quotes).sum := by
  induction derived with
  | nil => simp
  | cons first _ ih =>
      have := first.quoteMarks_le
      simp only [List.map_cons, List.sum_cons, List.flatten_cons, List.map_append, List.sum_append]
      omega

theorem wellSpelled_of_derived (derived : List.Forall₂ Derives instructions pieces)
    (scanned : ∀ token ∈ pieces.flatten, token.Scanned)
    (few : (pieces.flatten.map Token.quotes).sum ≤ (instructions.map Instruction.quoteMarks).sum) :
    ∀ instruction ∈ instructions, instruction.WellSpelled := by
  induction derived with
  | nil => simp
  | @cons first piece others pieces derivedFirst derived ih =>
      -- Every instruction takes the quotes it needs, so none takes more than that.
      have low := derivedFirst.quoteMarks_le
      have low' := sum_quoteMarks_le derived
      simp only [List.map_cons, List.sum_cons, List.flatten_cons, List.map_append,
        List.sum_append] at few
      rw [List.flatten_cons, List.forall_mem_append] at scanned
      exact List.forall_mem_cons.mpr
        ⟨derivedFirst.wellSpelled scanned.1 (by omega), ih scanned.2 (by omega)⟩

theorem count_render (derived : List.Forall₂ Derives instructions pieces)
    (scanned : ∀ token ∈ pieces.flatten, token.Scanned) :
    (Program.mk instructions).render.count '"' =
      (instructions.map Instruction.quoteMarks).sum := by
  rw [render, Text.unlines, count_intercalate (by decide)]
  induction derived with
  | nil => rfl
  | @cons first piece others pieces derivedFirst derived ih =>
      rw [List.flatten_cons, List.forall_mem_append] at scanned
      have free := derivedFirst.quote_notMem scanned.1
      simp only [List.map_cons, List.sum_cons, Instruction.count_render free, ih scanned.2]

theorem ofText_render_iff (file : Option Path) (program : Program) :
    Program.ofText file program.render = .ok program ↔
      ∀ instruction ∈ program.instructions, instruction.WellSpelled := by
  have tokens := (tokenize_eq_iff program.render _).mp rfl
  simp only [Program.ofText, Program.ofTokens_eq_ok_iff, Production.program_eq_ok_iff]
  constructor
  · intro given
    obtain ⟨rest, pieces, derived, split, ended⟩ := given
    rw [split] at tokens
    have scanned : ∀ token ∈ pieces.flatten, token.Scanned :=
      fun token held => tokens.scanned token (List.mem_append_left _ held)
    apply wellSpelled_of_derived derived scanned
    have counted := tokens.sum_quotes
    rw [show program.render = (Program.mk program.instructions).render from rfl,
      count_render derived scanned, List.map_append, List.sum_append] at counted
    omega
  · intro well
    obtain ⟨pieces, last, derived, ended, scans⟩ := scans_render well .start
    rw [(tokenize_eq_iff program.render _).mpr scans]
    exact ⟨[last], pieces, derived, rfl, .inr ⟨last, ended, rfl⟩⟩

end Program

end SceneScript
