import SceneScript.Grammar.Reader
import SceneScript.Proofs.Derivation
import SceneScript.Proofs.Stage

set_option autoImplicit false

namespace SceneScript

variable {tokens rest : List Token}

def Fault.Leaves (tokens rest : List Token) : Fault → Prop
  | wrongKind _ (some token) => token :: rest <:+ tokens
  | wrongKind _ none => rest = []
  | noInstruction found => rest.head? = found
  | unknownInstruction found => rest.head? = some found
  | afterEnd found => ∃ last more, rest = last :: found :: more ∧ last.kind = .endOfInput

theorem Fault.Leaves.token_of_nil {fault : Fault} (leaves : fault.Leaves [] rest)
    (nothing : rest = []) : fault.token = none := by
  subst nothing
  cases fault with
  | wrongKind expected found =>
      cases found with
      | none => rfl
      | some token => simp [Leaves] at leaves
  | noInstruction found => exact leaves.symm
  | unknownInstruction found => simp [Leaves] at leaves
  | afterEnd found => simp [Leaves] at leaves

namespace Stage

variable {stage : Stage}

theorem left_suffix (stage : Stage) (tokens : List Token) : (stage.reach tokens).2 <:+ tokens := by
  induction tokens generalizing stage with
  | nil => exact List.suffix_refl []
  | cons token tail ih =>
      cases steps : stage.step token.kind with
      | none =>
          simp only [reach_cons_of_stuck steps, List.suffix_refl]
      | some next =>
          rw [reach_cons_of_step steps]
          exact (ih next).trans (List.suffix_cons token tail)

theorem Halts.leaves {fault : Fault} (halts : Halts (stage.reach tokens) fault rest) :
    rest <:+ tokens ∧ fault.Leaves tokens rest := by
  have suffix := stage.left_suffix tokens
  generalize stage.reach tokens = reached at halts suffix
  cases halts with
  | unknown => exact ⟨suffix, rfl⟩
  | @wrong stage left =>
      cases left with
      | nil => exact ⟨suffix, rfl⟩
      | cons token more => exact ⟨(List.suffix_cons token more).trans suffix, suffix⟩

end Stage

namespace Production

variable {α : Type}

/-- The production takes tokens off the front, and its fault says where it stopped. -/
def Settles (production : Production α) : Prop :=
  ∀ tokens,
    match production tokens with
    | .ok _ rest => rest <:+ tokens
    | .error fault rest => rest <:+ tokens ∧ fault.Leaves tokens rest

theorem settles_of_tracks {production : Production α} {stage next : Stage} {tokens : List Token}
    (tracks : Stage.Tracks stage production next tokens)
    (takes : ∀ value rest, production tokens = .ok value rest → rest <:+ tokens) :
    match production tokens with
    | .ok _ rest => rest <:+ tokens
    | .error fault rest => rest <:+ tokens ∧ fault.Leaves tokens rest := by
  cases result : production tokens with
  | ok value rest => exact takes value rest result
  | error fault rest =>
      simp only [Stage.Tracks, result] at tracks
      exact tracks.leaves

theorem settles_expect (kinds : List Kind) : Settles (expect kinds) := by
  intro tokens
  cases tokens with
  | nil => simp [expect, Fault.Leaves]
  | cons token tail =>
      by_cases fits : token.kind ∈ kinds <;> simp [expect, fits, Fault.Leaves]

theorem settles_ofKeyword (keyword : Keyword) : Settles (ofKeyword keyword) := by
  intro tokens
  refine settles_of_tracks (tracks_ofKeyword keyword tokens) fun found rest read => ?_
  obtain ⟨taken, rfl, _⟩ := ofKeyword_sound read
  exact List.suffix_append taken rest

theorem settles_instruction : Settles instruction := by
  intro tokens
  by_cases ended : atEnd tokens = true
  next =>
    -- Where no instruction can follow, nothing is taken off.
    cases tokens with
    | nil => simp [instruction, Fault.Leaves]
    | cons token tail =>
        have closes : token.kind = .endOfInput := by simpa [atEnd] using ended
        simp [instruction, closes, Fault.Leaves]
  next =>
    have tracks := tracks_instruction tokens (by simpa using ended)
    refine settles_of_tracks tracks fun found rest read => ?_
    obtain ⟨taken, rfl, _⟩ := instruction_sound read
    exact List.suffix_append taken rest

theorem settles_program : Settles program := by
  intro tokens
  simp only [program]
  have tracks := instructions_tracks tokens
  cases read : instructions tokens with
  | error fault rest =>
      simp only [read] at tracks
      exact tracks.leaves
  | ok list rest =>
      obtain ⟨ended, pieces, _, rfl⟩ := instructions_sound read
      have suffix := List.suffix_append pieces.flatten rest
      rcases rest with _ | ⟨last, _ | ⟨trailing, more⟩⟩
      · exact suffix
      · exact suffix
      · have closes : last.kind = .endOfInput := by simpa [atEnd] using ended
        exact ⟨suffix, last, more, rfl, closes⟩

end Production

namespace Fault

theorem eq_of_diagnose {origin : Origin} {last : Option Token} {fault other : Fault}
    (same : origin.diagnose last fault = origin.diagnose last other) : fault = other := by
  have subject : fault.subject = other.subject := congrArg Diagnostic.subject same
  have message : fault.message = other.message := congrArg Diagnostic.message same
  -- Where the subjects leave two causes open, the messages part at the tenth letter.
  have letter := congrArg (fun message : Text => message[9]?) message
  cases fault <;> cases other <;> simp [Fault.subject] at subject
  case wrongKind.noInstruction =>
    obtain ⟨rfl, _⟩ := subject
    exact absurd letter (by change some 'k' ≠ some 'a'; decide)
  case noInstruction.wrongKind =>
    obtain ⟨rfl, _⟩ := subject
    exact absurd letter (by change some 'a' ≠ some 'k'; decide)
  case wrongKind.afterEnd =>
    obtain ⟨rfl, _⟩ := subject
    exact absurd letter (by change some 'e' ≠ some 'n'; decide)
  case afterEnd.wrongKind =>
    obtain ⟨rfl, _⟩ := subject
    exact absurd letter (by change some 'n' ≠ some 'e'; decide)
  case afterEnd.noInstruction => exact absurd subject.1 (by decide)
  all_goals simp_all

end Fault

namespace Reader

variable {origin : Origin} {tokens : List Token} {before : Reader}

def Reply.placedAt (context : Context) : Reply → Reply
  | diagnostic found => diagnostic { found with context := some context }
  | reply => reply

/-- Where a fault leaves a reader that was asked at the first offset: behind a token of the wrong
kind, and otherwise in front of what could not be read. -/
def StopsAt (tokens : List Token) (first offset : Nat) : Fault → Prop
  | .wrongKind _ (some token) =>
      ∃ index, first ≤ index ∧ tokens[index]? = some token ∧ offset = index + 1
  | .wrongKind _ none => offset = tokens.length
  | .noInstruction found => tokens[offset]? = found
  | .unknownInstruction found => tokens[offset]? = some found
  | .afterEnd found => tokens[offset + 1]? = some found ∧
      ∃ last, tokens[offset]? = some last ∧ last.kind = .endOfInput

structure Moves (origin : Origin) (tokens : List Token) (before : Reader) (request : Request)
    (step : Reply × Reader) : Prop where
  source : step.2.origin = origin ∧ step.2.tokens = tokens
  forward : before.offset ≤ step.2.offset
  within : step.2.offset ≤ tokens.length
  still : request = .peek ∨ request = .atEnd → step.2.offset = before.offset
  cause : ∀ diagnostic, step.1 = .diagnostic diagnostic →
    ∃ fault, diagnostic = origin.diagnose tokens.getLast? fault
  stops : ∀ fault, step.1 = .diagnostic (origin.diagnose tokens.getLast? fault) →
    StopsAt tokens before.offset step.2.offset fault

/-- A request is answered as it is by a new reader over the tokens ahead, except that behind the
last token a diagnostic shows the place of that token. -/
structure Local (origin : Origin) (tokens : List Token) (passed : Nat)
    (step fresh : Reply × Reader) : Prop where
  offset : step.2.offset = passed + fresh.2.offset
  inside : passed < tokens.length → step.1 = fresh.1
  empty : tokens = [] → step.1 = fresh.1
  outside : passed = tokens.length → ∀ last, tokens.getLast? = some last →
    step.1 = fresh.1.placedAt ⟨origin.file, last.position, origin.excerptAt last.position.line⟩

section

variable {first : Nat} {fault : Fault}

theorem getElem?_of_suffix (suffix : rest <:+ tokens) (index : Nat) :
    tokens[tokens.length - rest.length + index]? = rest[index]? := by
  rw [← List.getElem?_drop, ← List.suffix_iff_eq_drop.mp suffix]

theorem stopsAt_of_leaves (suffix : rest <:+ tokens.drop first)
    (leaves : fault.Leaves (tokens.drop first) rest) :
    StopsAt tokens first (tokens.length - rest.length) fault := by
  have left := getElem?_of_suffix (suffix.trans (List.drop_suffix first tokens))
  cases fault with
  | wrongKind expected found =>
      cases found with
      | none =>
          obtain rfl : rest = [] := leaves
          rfl
      | some token =>
          -- The offending token is the last of those taken, so it may lie far behind the first.
          obtain ⟨taken, split⟩ := leaves
          have size := congrArg List.length split
          simp only [List.length_append, List.length_cons, List.length_drop] at size
          refine ⟨first + taken.length, by omega, ?_, by omega⟩
          rw [← List.getElem?_drop, ← split]
          simp
  | noInstruction found =>
      have front := left 0
      rw [← List.head?_eq_getElem?] at front
      exact front.trans leaves
  | unknownInstruction found =>
      have front := left 0
      rw [← List.head?_eq_getElem?] at front
      exact front.trans leaves
  | afterEnd found =>
      obtain ⟨last, more, rfl, ended⟩ := leaves
      exact ⟨left 1, last, left 0, ended⟩

end

section

variable {α : Type} {production : Production α} {reply : α → Reply}

theorem offset_leaving (within : before.offset ≤ before.tokens.length)
    (suffix : rest <:+ before.ahead) :
    (before.leaving rest).offset = before.offset + (before.ahead.length - rest.length) ∧
      (before.leaving rest).offset ≤ before.tokens.length := by
  have shorter := suffix.length_le
  simp only [ahead, List.length_drop] at shorter
  simp only [leaving, ahead, List.length_drop]
  omega

theorem moves_apply (settles : production.Settles) {request : Request}
    (acts : request ≠ .peek ∧ request ≠ .atEnd)
    (answers : ∀ value diagnostic, reply value ≠ .diagnostic diagnostic)
    (within : before.offset ≤ before.tokens.length) :
    Moves before.origin before.tokens before request (before.apply production reply) := by
  have settled := settles before.ahead
  cases result : production before.ahead with
  | ok value rest =>
      simp only [result] at settled
      have moved := offset_leaving within settled
      simp only [apply, result]
      constructor
      case source => exact ⟨rfl, rfl⟩
      case forward => exact moved.1 ▸ Nat.le_add_right ..
      case within => exact moved.2
      case still => simp [acts]
      case cause => exact fun diagnostic same => absurd same (answers value diagnostic)
      case stops => exact fun fault same => absurd same (answers value _)
  | error fault rest =>
      simp only [result] at settled
      obtain ⟨suffix, leaves⟩ := settled
      have moved := offset_leaving within suffix
      simp only [apply, result]
      constructor
      case source => exact ⟨rfl, rfl⟩
      case forward => exact moved.1 ▸ Nat.le_add_right ..
      case within => exact moved.2
      case still => simp [acts]
      case cause =>
        intro diagnostic same
        injection same with same
        exact ⟨fault, same.symm⟩
      case stops =>
        intro other same
        injection same with same
        rw [← Fault.eq_of_diagnose same]
        exact stopsAt_of_leaves suffix leaves

theorem local_apply (settles : production.Settles)
    (answers : ∀ value diagnostic, reply value ≠ .diagnostic diagnostic)
    (within : before.offset ≤ before.tokens.length) :
    Local before.origin before.tokens before.offset (before.apply production reply)
      ((ofTokens before.origin before.ahead).apply production reply) := by
  have fresh : (ofTokens before.origin before.ahead).ahead = before.ahead := rfl
  have settled := settles before.ahead
  have elsewhere (value : α) (context : Context) :
      (reply value).placedAt context = reply value := by
    cases answer : reply value with
    | diagnostic found => exact absurd answer (answers value found)
    | _ => rfl
  cases result : production before.ahead with
  | ok value rest =>
      simp only [result] at settled
      have moved := offset_leaving within settled
      simp only [apply, fresh, result]
      exact ⟨moved.1, fun _ => rfl, fun _ => rfl, fun _ _ _ => (elsewhere value _).symm⟩
  | error fault rest =>
      simp only [result] at settled
      obtain ⟨suffix, leaves⟩ := settled
      have moved := offset_leaving within suffix
      simp only [apply, fresh, result]
      constructor
      case offset => exact moved.1
      case inside =>
        intro inside
        have more : ¬ before.tokens.length ≤ before.offset := Nat.not_le.mpr inside
        simp only [ofTokens, ahead, List.getLast?_drop, more, ↓reduceIte]
      case empty =>
        intro empty
        simp [ofTokens, ahead, empty]
      case outside =>
        intro outside last closing
        have nothing : before.ahead = [] := by simp [ahead, outside]
        rw [nothing] at suffix leaves
        have absent := leaves.token_of_nil (List.suffix_nil.mp suffix)
        simp [Reply.placedAt, Origin.diagnose, Origin.context, absent, closing]

end

theorem moves_perform (request : Request) (within : before.offset ≤ before.tokens.length) :
    Moves before.origin before.tokens before request (before.perform request) := by
  cases request with
  | peek | atEnd =>
      exact ⟨⟨rfl, rfl⟩, Nat.le_refl _, within, fun _ => rfl, by simp [perform], by simp [perform]⟩
  | advance =>
      have moved := offset_leaving within (List.tail_suffix before.ahead)
      exact ⟨⟨rfl, rfl⟩, moved.1 ▸ Nat.le_add_right .., moved.2, by simp, by simp [perform],
        by simp [perform]⟩
  | expect kinds => exact moves_apply (Production.settles_expect kinds) (by simp) (by simp) within
  | program => exact moves_apply Production.settles_program (by simp) (by simp) within
  | instruction => exact moves_apply Production.settles_instruction (by simp) (by simp) within
  | ofKeyword keyword =>
      exact moves_apply (Production.settles_ofKeyword keyword) (by simp) (by simp) within

theorem local_perform (request : Request) (within : before.offset ≤ before.tokens.length) :
    Local before.origin before.tokens before.offset (before.perform request)
      ((ofTokens before.origin before.ahead).perform request) := by
  cases request with
  | peek | atEnd => exact ⟨rfl, fun _ => rfl, fun _ => rfl, fun _ _ _ => rfl⟩
  | advance =>
      have moved := offset_leaving within (List.tail_suffix before.ahead)
      exact ⟨moved.1, fun _ => rfl, fun _ => rfl, fun _ _ _ => rfl⟩
  | expect kinds => exact local_apply (Production.settles_expect kinds) (by simp) within
  | program => exact local_apply Production.settles_program (by simp) within
  | instruction => exact local_apply Production.settles_instruction (by simp) within
  | ofKeyword keyword => exact local_apply (Production.settles_ofKeyword keyword) (by simp) within

def reached : Reader → List Request → Reader
  | reader, [] => reader
  | reader, request :: rest => reached (reader.perform request).2 rest

theorem run_append (reader : Reader) (earlier later : List Request) :
    reader.run (earlier ++ later) = reader.run earlier ++ (reader.reached earlier).run later := by
  induction earlier generalizing reader with
  | nil => rfl
  | cons request earlier ih => simp [run, reached, ih]

theorem reached_keeps (reader : Reader) (requests : List Request)
    (within : reader.offset ≤ reader.tokens.length) :
    (reader.reached requests).origin = reader.origin ∧
      (reader.reached requests).tokens = reader.tokens ∧
      (reader.reached requests).offset ≤ reader.tokens.length := by
  induction requests generalizing reader with
  | nil => exact ⟨rfl, rfl, within⟩
  | cons request rest ih =>
      have moves := moves_perform request within
      obtain ⟨origin, tokens⟩ := moves.source
      have kept := ih (reader.perform request).2 (by rw [tokens]; exact moves.within)
      rwa [origin, tokens] at kept

/-- Whatever is asked of a reader and in which order, also after faults, it only moves on, stops
where its fault says, and answers what a new reader over the tokens ahead would answer. -/
theorem run_moves (origin : Origin) (tokens : List Token) (earlier : List Request)
    (request : Request) (later : List Request) :
    let before := (ofTokens origin tokens).reached earlier
    let step := before.perform request
    (ofTokens origin tokens).run (earlier ++ request :: later) =
        (ofTokens origin tokens).run earlier ++ (step.1, step.2.offset) :: step.2.run later ∧
      Moves origin tokens before request step ∧
      Local origin tokens before.offset step
        ((ofTokens origin (tokens.drop before.offset)).perform request) := by
  intro before step
  -- The requests so far have changed the offset only.
  obtain ⟨sameOrigin, sameTokens, within⟩ :=
    reached_keeps (ofTokens origin tokens) earlier (Nat.zero_le _)
  have within' : before.offset ≤ before.tokens.length := by rwa [sameTokens]
  have moves := moves_perform request within'
  have located := local_perform request within'
  rw [sameOrigin, sameTokens] at moves
  rw [ahead, sameOrigin, sameTokens] at located
  exact ⟨run_append _ earlier (request :: later), moves, located⟩

theorem Reply.raised_eq_error_iff {reply : Reply} {fault : RenderFault} :
    reply.raised = .error fault ↔ ∃ diagnostic context, reply = .diagnostic diagnostic ∧
      diagnostic.context = some context ∧ context.format = .error fault := by
  cases reply with
  | diagnostic found =>
      obtain ⟨subject, message, context⟩ := found
      cases context with
      | none => simp [raised, Diagnostic.raised]
      | some context => cases written : context.format <;> simp [raised, Diagnostic.raised, written]
  | _ => simp [raised]

/-- A diagnostic that cannot be made plays no part in where the reader goes from there. -/
theorem answers_append (reader : Reader) (earlier : List Request) (request : Request)
    (later : List Request) :
    let step := (reader.reached earlier).perform request
    reader.answers (earlier ++ request :: later) =
      reader.answers earlier ++ (step.1.raised, step.2.offset) :: step.2.answers later := by
  simp [answers, run_append, run]

end Reader

end SceneScript
