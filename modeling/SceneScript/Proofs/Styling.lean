import Mathlib.Data.Nat.Digits.Defs
import SceneScript.Proofs.Derivation
import SceneScript.Text.Styling

set_option autoImplicit false

namespace SceneScript

namespace Text

def IsStyled (text : Text) : Prop :=
  ∃ front parameters letter back, text = front ++ '\x1b' :: '[' :: (parameters ++ letter :: back) ∧
    (∀ c ∈ parameters, isStyleParameter c = true) ∧ letter.isAlpha = true

theorem exists_of_afterStyle? {text after : Text} (found : afterStyle? text = some after) :
    ∃ parameters letter, text = '\x1b' :: '[' :: (parameters ++ letter :: after) ∧
      (∀ c ∈ parameters, isStyleParameter c = true) ∧ letter.isAlpha = true := by
  unfold afterStyle? at found
  split at found
  next rest =>
    split at found
    next letter left same =>
      split at found
      next alpha =>
        cases found
        refine ⟨rest.takeWhile isStyleParameter, letter, ?_, ?_, alpha⟩
        · rw [← same, List.takeWhile_append_dropWhile]
        · exact fun c held => List.mem_takeWhile_imp held
      next => cases found
    next => cases found
  next => cases found

theorem unstyled_of_not_isStyled {text : Text} (bare : ¬ IsStyled text) : unstyled text = text := by
  fun_induction unstyled text with
  | case1 => rfl
  | case2 c rest after found =>
      obtain ⟨parameters, letter, same, all, alpha⟩ := exists_of_afterStyle? found
      exact absurd ⟨[], parameters, letter, after, same, all, alpha⟩ bare
  | case3 c rest none ih =>
      rw [ih]
      rintro ⟨front, parameters, letter, back, rfl, rest⟩
      exact bare ⟨c :: front, parameters, letter, back, rfl, rest⟩

theorem unstyled_of_afterStyle? {text after : Text} (found : afterStyle? text = some after) :
    unstyled text = unstyled after := by
  cases text with
  | nil => cases found
  | cons c rest =>
      rw [unstyled.eq_2]
      split
      next _ found' =>
        rw [found] at found'
        cases found'
        rfl
      next none =>
        rw [found] at none
        cases none

theorem unstyled_cons {c : Char} {rest : Text} (none : afterStyle? (c :: rest) = none) :
    unstyled (c :: rest) = c :: unstyled rest := by
  rw [unstyled.eq_2]
  split
  next _ found =>
    rw [none] at found
    cases found
  next => rfl

theorem dropWhile_append_colon (text rest : Text) :
    (text ++ ':' :: rest).dropWhile isStyleParameter =
      text.dropWhile isStyleParameter ++ ':' :: rest := by
  have colon : isStyleParameter ':' = false := rfl
  rw [List.dropWhile_append]
  split
  next all =>
    rw [List.isEmpty_iff] at all
    simp [all, colon]
  next => rfl

theorem afterStyle?_append_colon (text rest : Text) :
    afterStyle? (text ++ ':' :: rest) = (afterStyle? text).map (· ++ ':' :: rest) := by
  have mark : ':' ≠ '\x1b' := by decide
  have bracket : ':' ≠ '[' := by decide
  have letter : ':'.isAlpha = false := rfl
  rcases text with _ | ⟨c, text⟩
  · simp [afterStyle?]
  -- A sequence that the text leaves open goes on with a bracket, a parameter or a letter.
  by_cases escape : c = '\x1b'
  next =>
    subst escape
    rcases text with _ | ⟨second, text⟩
    · simp [afterStyle?]
    by_cases opens : second = '['
    next =>
      subst opens
      simp only [List.cons_append, afterStyle?, dropWhile_append_colon]
      cases ahead : text.dropWhile isStyleParameter with
      | nil => simp [letter]
      | cons last after =>
          by_cases alpha : last.isAlpha = true <;> simp [alpha]
    next => simp [afterStyle?, opens]
  next => simp [afterStyle?, escape]

theorem unstyled_append_colon (text : Text) {rest : Text} (bare : '\x1b' ∉ rest) :
    unstyled (text ++ ':' :: rest) = unstyled text ++ ':' :: rest := by
  fun_induction unstyled text with
  | case1 => exact unstyled_of_absent (by simpa using bare)
  | case2 c text after found ih =>
      have further := afterStyle?_append_colon (c :: text) rest
      rw [found] at further
      rw [unstyled_of_afterStyle? further, ih]
  | case3 c text none ih =>
      have further : afterStyle? (c :: (text ++ ':' :: rest)) = Option.none := by
        rw [← List.cons_append, afterStyle?_append_colon, none, Option.map_none]
      rw [List.cons_append, unstyled_cons further, ih, List.cons_append]

theorem exists_digitChar_of_mem_toDigits {c : Char} {code : Nat} (held : c ∈ Nat.toDigits 16 code) :
    ∃ digit < 16, c = Nat.digitChar digit := by
  induction code using Nat.strong_induction_on with
  | _ code ih =>
      rw [Nat.toDigits_eq_if (by decide)] at held
      split at held
      next small => exact ⟨code, small, List.mem_singleton.mp held⟩
      next =>
        rcases List.mem_append.mp held with held | held
        · exact ih (code / 16) (by omega) held
        · exact ⟨code % 16, Nat.mod_lt _ (by decide), List.mem_singleton.mp held⟩

theorem escape_notMem_hexadecimal (width code : Nat) : '\x1b' ∉ hexadecimal width code := by
  intro held
  rcases List.mem_append.mp held with held | held
  · exact absurd (List.eq_of_mem_replicate held) (by decide)
  · obtain ⟨digit, small, same⟩ := exists_digitChar_of_mem_toDigits held
    have other : ∀ digit < 16, '\x1b' ≠ Nat.digitChar digit := by decide
    exact other digit small same

theorem escape_notMem_quoteChar {mark : Char} (other : mark ≠ '\x1b') (c : Char) :
    '\x1b' ∉ quoteChar mark c := by
  have hidden : isPrintable '\x1b' = false := by decide +kernel
  unfold quoteChar
  split
  next marked => rcases marked with rfl | rfl <;> simp [Ne.symm other]
  next =>
    split_ifs
    next => decide
    next => decide
    next => decide
    next printable =>
      intro held
      rw [← List.mem_singleton.mp held, hidden] at printable
      cases printable
    next =>
      unfold escapeCode
      split_ifs <;> simp [escape_notMem_hexadecimal]

theorem escape_notMem_quoted (text : Text) : '\x1b' ∉ quoted text := by
  have mark : quoteMark text ≠ '\x1b' := by
    unfold quoteMark
    split <;> decide
  simp [quoted, Ne.symm mark, escape_notMem_quoteChar mark]

theorem escape_notMem_ofInt (number : Int) : '\x1b' ∉ ofInt number := by
  cases number <;> simp [ofInt, notMem_ofNat]

theorem notMem_intercalate {c : Char} {separator : Text} {texts : List Text}
    (between : c ∉ separator) (inside : ∀ text ∈ texts, c ∉ text) :
    c ∉ List.intercalate separator texts := by
  induction texts with
  | nil => simp
  | cons first others ih =>
      obtain ⟨free, later⟩ := List.forall_mem_cons.mp inside
      cases others with
      | nil => simpa using free
      | cons second others => simp [List.intercalate_cons_cons, free, between, ih later]

end Text

theorem Kind.escape_notMem_describe (kind : Kind) : '\x1b' ∉ kind.describe := by
  cases kind with
  | keyword word => cases word <;> decide
  | _ => decide

theorem Fault.escape_notMem_message (fault : Fault) : '\x1b' ∉ fault.message := by
  cases fault with
  | wrongKind expected found =>
      have wanted : '\x1b' ∉ List.intercalate " or ".toList (expected.map Kind.describe) :=
        Text.notMem_intercalate (by decide) fun text held => by
          obtain ⟨kind, _, rfl⟩ := List.mem_map.mp held
          exact kind.escape_notMem_describe
      have front := List.not_mem_append (by decide : '\x1b' ∉ "Expected ".toList) wanted
      have between := List.not_mem_append front (by decide : '\x1b' ∉ ", got ".toList)
      exact List.not_mem_append between (kindOf found).escape_notMem_describe
  | noInstruction =>
      exact (by decide : '\x1b' ∉ "Expected an instruction, got end of input".toList)
  | unknownInstruction found =>
      exact List.not_mem_append (by decide) (Text.escape_notMem_quoted found.value)
  | afterEnd found => exact List.not_mem_append (by decide) found.kind.escape_notMem_describe

theorem Program.escape_notMem_message {file : Option Path} {text : Text} {diagnostic : Diagnostic}
    (failed : Program.ofText file text = .error diagnostic) : '\x1b' ∉ diagnostic.message := by
  obtain ⟨fault, rest, read, rfl⟩ := ofTokens_eq_error_iff.mp failed
  exact fault.escape_notMem_message

end SceneScript
