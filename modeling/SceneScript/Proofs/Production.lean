import SceneScript.Grammar
import SceneScript.Proofs.MaximalRun

set_option autoImplicit false

namespace SceneScript

def NotAhead (kind : Kind) (tokens : List Token) : Prop :=
  ∀ token ∈ tokens.head?, token.kind ≠ kind

theorem ahead_or_notAhead (kind : Kind) (tokens : List Token) :
    (∃ token rest, tokens = token :: rest ∧ token.kind = kind) ∨ NotAhead kind tokens := by
  cases tokens with
  | nil => exact .inr (by simp [NotAhead])
  | cons token rest =>
      by_cases same : token.kind = kind
      next => exact .inl ⟨token, rest, rfl, same⟩
      next => exact .inr (by simpa [NotAhead] using same)

namespace Production

variable {α β : Type} {tokens rest : List Token}

theorem bind_eq_ok_iff {first : Production α} {next : α → Production β} {value : β} :
    (first >>= next) tokens = .ok value rest ↔
      ∃ middle left, first tokens = .ok middle left ∧ next middle left = .ok value rest := by
  cases result : first tokens <;> simp [Bind.bind, EStateM.bind, result, and_assoc]

theorem pure_eq_ok_iff {value found : α} :
    (pure value : Production α) tokens = .ok found rest ↔ value = found ∧ tokens = rest := by
  simp [pure, EStateM.pure]

theorem discard_eq_ok_iff {production : Production α} {nothing : PUnit} :
    discard production tokens = .ok nothing rest ↔ ∃ value, production tokens = .ok value rest := by
  cases result : production tokens <;>
    simp [discard, Functor.discard, Functor.mapConst, EStateM.map, result]

theorem expect_eq_ok_iff {kinds : List Kind} {token : Token} :
    expect kinds tokens = .ok token rest ↔ tokens = token :: rest ∧ token.kind ∈ kinds := by
  cases tokens with
  | nil => simp [expect]
  | cons head tail =>
      by_cases fits : head.kind ∈ kinds
      next =>
        simp only [expect, fits, ↓reduceIte, EStateM.Result.ok.injEq, List.cons.injEq]
        constructor
        · intro given
          obtain ⟨rfl, rfl⟩ := given
          exact ⟨⟨rfl, rfl⟩, fits⟩
        · exact And.left
      next =>
        simp only [expect, fits, ↓reduceIte, reduceCtorEq, List.cons.injEq, false_iff]
        intro given
        obtain ⟨⟨rfl, _⟩, fitting⟩ := given
        exact fits fitting

theorem after_eq_ok_iff {keyword : Keyword} {kinds : List Kind} {value : Text} :
    after keyword kinds tokens = .ok value rest ↔
      ∃ head operand, tokens = head :: operand :: rest ∧ head.kind = .keyword keyword ∧
        operand.kind ∈ kinds ∧ operand.value = value := by
  simp only [after, bind_eq_ok_iff, discard_eq_ok_iff, expect_eq_ok_iff, pure_eq_ok_iff,
    List.mem_singleton]
  constructor
  · intro given
    obtain ⟨_, _, ⟨head, rfl, opens⟩, operand, _, ⟨rfl, fits⟩, rfl, rfl⟩ := given
    exact ⟨head, operand, rfl, opens, fits, rfl⟩
  · intro given
    obtain ⟨head, operand, rfl, opens, fits, rfl⟩ := given
    exact ⟨(), _, ⟨head, rfl, opens⟩, operand, _, ⟨rfl, fits⟩, rfl, rfl⟩

theorem blockValues_eq_ok_iff {names : List Text} :
    blockValues tokens = .ok names rest ↔
      ∃ inner, MaximalRun fillsBlock tokens inner rest ∧ inner.map Token.value = names := by
  simp only [blockValues, EStateM.Result.ok.injEq]
  constructor
  · intro given
    obtain ⟨rfl, rfl⟩ := given
    exact ⟨_, .ofList fillsBlock tokens, rfl⟩
  · intro given
    obtain ⟨inner, maximal, rfl⟩ := given
    rw [maximal.takeWhile_eq, maximal.dropWhile_eq]
    exact ⟨rfl, rfl⟩

theorem lookingAt_of_ahead {kind : Kind} {token : Token} (same : token.kind = kind) :
    lookingAt kind (token :: rest) = .ok true (token :: rest) := by
  simp [lookingAt, same]

theorem lookingAt_of_notAhead {kind : Kind} (absent : NotAhead kind tokens) :
    lookingAt kind tokens = .ok false tokens := by
  cases tokens with
  | nil => rfl
  | cons token rest => simp [lookingAt, absent token rfl]

theorem moreArguments_of_notAhead (absent : NotAhead .comma tokens) :
    moreArguments tokens = .ok [] tokens := by
  cases tokens with
  | nil => simp [moreArguments]
  | cons token rest => cases rest <;> simp [moreArguments, absent token rfl]

def listedArguments : Production (List Text) := do
  let first ← expect [.identifier]
  let more ← moreArguments
  discard <| expect [.rightParen]
  return first.value :: more

theorem argumentList_of_notAhead (absent : NotAhead .leftParen tokens) :
    argumentList tokens = .ok [] tokens := by
  simp [argumentList, Bind.bind, EStateM.bind, pure, EStateM.pure, lookingAt_of_notAhead absent]

theorem argumentList_of_empty {opening closing : Token} (opens : opening.kind = .leftParen)
    (closes : closing.kind = .rightParen) :
    argumentList (opening :: closing :: rest) = .ok [] rest := by
  simp [argumentList, Bind.bind, EStateM.bind, pure, EStateM.pure, skip, lookingAt_of_ahead opens,
    lookingAt_of_ahead closes]

theorem argumentList_of_listed {opening : Token} (opens : opening.kind = .leftParen)
    (absent : NotAhead .rightParen rest) :
    argumentList (opening :: rest) = listedArguments rest := by
  simp [argumentList, listedArguments, Bind.bind, EStateM.bind, skip, lookingAt_of_ahead opens,
    lookingAt_of_notAhead absent]

end Production

end SceneScript
