import SceneScript.Cursor
import SceneScript.Diagnostic
import SceneScript.Instruction

set_option autoImplicit false

namespace SceneScript

inductive Fault where
  | wrongKind (expected : List Kind) (found : Option Token)
  | noInstruction (found : Option Token)
  | unknownInstruction (found : Token)
  | afterEnd (found : Token)
deriving DecidableEq

namespace Fault

def token : Fault → Option Token
  | wrongKind _ found | noInstruction found => found
  | unknownInstruction found | afterEnd found => some found

def kindOf : Option Token → Kind
  | some token => token.kind
  | none => .endOfInput

def subject : Fault → Subject
  | wrongKind expected found => .unexpectedKind expected (kindOf found) found
  | noInstruction found => .unexpectedKind (Keyword.all.map Kind.keyword) .endOfInput found
  | unknownInstruction found => .unknownInstruction (some found)
  | afterEnd found => .unexpectedKind [.endOfInput] found.kind (some found)

def message : Fault → Text
  | wrongKind expected found =>
      "Expected " ++ List.intercalate " or ".toList (expected.map Kind.describe)
        ++ ", got " ++ (kindOf found).describe
  | noInstruction _ => "Expected an instruction, got end of input"
  | unknownInstruction found => "Unknown instruction: " ++ Text.quoted found.value
  | afterEnd found => "Expected no tokens after end of input, got " ++ found.kind.describe

end Fault

structure Origin where
  file : Option Path
  text : Option Text
deriving DecidableEq

namespace Origin

def excerptAt (origin : Origin) (line : Int) : Option Text :=
  match origin.text with
  | none | some [] => none
  | some text => some (excerpt text line defaultRadius)

/-- Without a token at fault, the last one of the list stands for the place. -/
def context (origin : Origin) (last token : Option Token) : Context :=
  match token <|> last with
  | none => ⟨origin.file, .start, none⟩
  | some anchor => ⟨origin.file, anchor.position, origin.excerptAt anchor.position.line⟩

def diagnose (origin : Origin) (last : Option Token) (fault : Fault) : Diagnostic :=
  ⟨fault.subject, fault.message, some (origin.context last fault.token)⟩

end Origin

/-- Takes tokens off the front of a list, also where it fails. -/
abbrev Production := EStateM Fault (List Token)

namespace Production

def expect (kinds : List Kind) : Production Token
  | [] => .error (.wrongKind kinds none) []
  | token :: rest =>
      if token.kind ∈ kinds then .ok token rest else .error (.wrongKind kinds (some token)) rest

def lookingAt (kind : Kind) : Production Bool
  | tokens => .ok (tokens.head?.any (·.kind = kind)) tokens

def skip : Production Unit
  | tokens => .ok () tokens.tail

def fillsBlock (token : Token) : Bool := token.kind ≠ .rightBrace && token.kind ≠ .endOfInput

def blockValues : Production (List Text)
  | tokens => .ok ((tokens.takeWhile fillsBlock).map Token.value) (tokens.dropWhile fillsBlock)

def moreArguments : Production (List Text)
  | [] => .ok [] []
  | separator :: rest =>
      if separator.kind = .comma then
        match rest with
        | [] => .error (.wrongKind [.identifier] none) []
        | argument :: rest =>
            if argument.kind = .identifier then
              match moreArguments rest with
              | .ok arguments rest => .ok (argument.value :: arguments) rest
              | .error fault rest => .error fault rest
            else .error (.wrongKind [.identifier] (some argument)) rest
      else .ok [] (separator :: rest)

def argumentList : Production (List Text) := do
  if ← lookingAt .leftParen then
    skip
    if ← lookingAt .rightParen then
      skip
      return []
    let first ← expect [.identifier]
    let more ← moreArguments
    discard <| expect [.rightParen]
    return first.value :: more
  else return []

def after (keyword : Keyword) (kinds : List Kind) : Production Text := do
  discard <| expect [.keyword keyword]
  return (← expect kinds).value

def ofKeyword : Keyword → Production Instruction
  | .assets => do
      discard <| expect [.keyword .assets]
      discard <| expect [.leftBrace]
      let names ← blockValues
      discard <| expect [.rightBrace]
      return .assets names
  | .call => do
      let action ← after .call [.identifier]
      return .call action (← argumentList)
  | .background => return .background (← after .background [.identifier])
  | .play => return .play (← after .play [.identifier])
  | .say => return .say (← after .say [.string])
  | .wait => return .wait (← after .wait [.number, .integer])
  | .stop => do
      discard <| expect [.keyword .stop]
      return .stop
  | .loadScript => return .loadScript (← after .loadScript [.string])

def instruction : Production Instruction
  | [] => .error (.noInstruction none) []
  | token :: rest =>
      match token.kind with
      | .keyword keyword => ofKeyword keyword (token :: rest)
      | .endOfInput => .error (.noInstruction (some token)) (token :: rest)
      | _ => .error (.unknownInstruction token) (token :: rest)

def atEnd (tokens : List Token) : Bool := tokens.head?.all (·.kind = .endOfInput)

def Shortens {α : Type} (production : Production α) : Prop :=
  ∀ tokens value rest, production tokens = .ok value rest → rest.length ≤ tokens.length

def Consumes {α : Type} (production : Production α) : Prop :=
  ∀ tokens value rest, production tokens = .ok value rest → rest.length < tokens.length

theorem Consumes.shortens {α : Type} {production : Production α} (consumes : Consumes production) :
    Shortens production :=
  fun tokens value rest done => Nat.le_of_lt (consumes tokens value rest done)

theorem shortens_pure {α : Type} (value : α) : Shortens (pure value) := by
  intro tokens value rest done
  injection done with _ same
  simp [same]

theorem Shortens.bind {α β : Type} {first : Production α} {next : α → Production β}
    (shortens : Shortens first) (each : ∀ value, Shortens (next value)) :
    Shortens (first >>= next) := by
  intro tokens value rest done
  simp only [Bind.bind, EStateM.bind] at done
  split at done
  next middle left found =>
    exact Nat.le_trans (each middle left value rest done) (shortens tokens middle left found)
  next => simp at done

theorem Consumes.bind {α β : Type} {first : Production α} {next : α → Production β}
    (consumes : Consumes first) (each : ∀ value, Shortens (next value)) :
    Consumes (first >>= next) := by
  intro tokens value rest done
  simp only [Bind.bind, EStateM.bind] at done
  split at done
  next middle left found =>
    exact Nat.lt_of_le_of_lt (each middle left value rest done) (consumes tokens middle left found)
  next => simp at done

theorem consumes_expect (kinds : List Kind) : Consumes (expect kinds) := by
  intro tokens value rest done
  cases tokens with
  | nil => simp [expect] at done
  | cons token tail =>
      simp only [expect] at done
      split at done
      next =>
        injection done with _ same
        simp [← same]
      next => simp at done

theorem shortens_lookingAt (kind : Kind) : Shortens (lookingAt kind) := by
  intro tokens value rest done
  injection done with _ same
  simp [same]

theorem shortens_skip : Shortens skip := by
  intro tokens value rest done
  injection done with _ same
  simp [← same]

theorem shortens_blockValues : Shortens blockValues := by
  intro tokens value rest done
  injection done with _ same
  rw [← same]
  exact (List.dropWhile_suffix fillsBlock).length_le

theorem shortens_moreArguments : Shortens moreArguments := by
  intro tokens
  fun_induction moreArguments tokens with
  | case1 => simp
  | case2 => simp
  | case3 _ _ _ rest _ arguments left found ih =>
      intro value after done
      injection done with _ same
      have := ih _ _ found
      simp only [List.length_cons, ← same]
      omega
  | case4 => simp
  | case5 => simp
  | case6 => simp

theorem shortens_argumentList : Shortens argumentList := by
  refine (shortens_lookingAt _).bind fun opened => ?_
  cases opened with
  | false => exact shortens_pure []
  | true =>
      refine shortens_skip.bind fun _ => (shortens_lookingAt _).bind fun closed => ?_
      cases closed with
      | true => exact shortens_skip.bind fun _ => shortens_pure []
      | false =>
          exact (consumes_expect _).shortens.bind fun _ => shortens_moreArguments.bind fun _ =>
            ((consumes_expect _).bind fun _ => shortens_pure _).shortens.bind fun _ =>
              shortens_pure _

theorem consumes_after (keyword : Keyword) (kinds : List Kind) : Consumes (after keyword kinds) :=
  ((consumes_expect _).bind fun _ => shortens_pure _).bind fun _ =>
    (consumes_expect _).shortens.bind fun _ => shortens_pure _

theorem consumes_ofKeyword (keyword : Keyword) : Consumes (ofKeyword keyword) := by
  cases keyword with
  | assets =>
      exact ((consumes_expect _).bind fun _ => shortens_pure _).bind fun _ =>
        ((consumes_expect _).bind fun _ => shortens_pure _).shortens.bind fun _ =>
          shortens_blockValues.bind fun _ =>
            ((consumes_expect _).bind fun _ => shortens_pure _).shortens.bind fun _ =>
              shortens_pure _
  | call =>
      exact (consumes_after _ _).bind fun _ => shortens_argumentList.bind fun _ => shortens_pure _
  | stop =>
      exact ((consumes_expect _).bind fun _ => shortens_pure _).bind fun _ => shortens_pure _
  | background => exact (consumes_after _ _).bind fun _ => shortens_pure _
  | play => exact (consumes_after _ _).bind fun _ => shortens_pure _
  | say => exact (consumes_after _ _).bind fun _ => shortens_pure _
  | wait => exact (consumes_after _ _).bind fun _ => shortens_pure _
  | loadScript => exact (consumes_after _ _).bind fun _ => shortens_pure _

theorem consumes_instruction : Consumes instruction := by
  intro tokens value rest done
  cases tokens with
  | nil => simp [instruction] at done
  | cons token tail =>
      simp only [instruction] at done
      split at done
      next keyword _ => exact consumes_ofKeyword keyword _ _ _ done
      next => simp at done
      next => simp at done

def instructions (tokens : List Token) : EStateM.Result Fault (List Token) (List Instruction) :=
  if atEnd tokens then .ok [] tokens
  else
    match _ : instruction tokens with
    | .error fault rest => .error fault rest
    | .ok first rest =>
        match instructions rest with
        | .error fault rest => .error fault rest
        | .ok more rest => .ok (first :: more) rest
termination_by tokens.length
decreasing_by exact consumes_instruction _ _ _ ‹_›

/-- The end of input is not taken off, and nothing may follow it. -/
def program : Production Program
  | tokens =>
      match instructions tokens with
      | .error fault rest => .error fault rest
      | .ok list rest =>
          match rest with
          | _ :: trailing :: _ => .error (.afterEnd trailing) rest
          | _ => .ok ⟨list⟩ rest

end Production

namespace Program

def ofTokens (origin : Origin) (tokens : List Token) : Except Diagnostic Program :=
  match Production.program tokens with
  | .ok program _ => .ok program
  | .error fault _ => .error (origin.diagnose tokens.getLast? fault)

/-- Parsing fails with whatever the making of its diagnostic comes to. -/
def parse (origin : Origin) (tokens : List Token) : Except Raised Program :=
  (ofTokens origin tokens).mapError Diagnostic.raised

def parseText (file : Option Path) (text : Text) : Except Raised Program :=
  parse ⟨file, some text⟩ (tokenize text)

def ofText (file : Option Path) (text : Text) : Except Diagnostic Program :=
  ofTokens ⟨file, some text⟩ (tokenize text)

end Program

end SceneScript
