import SceneScript.Proofs.Restamping
import SceneScript.Proofs.Script
import SceneScript.Proofs.Shift
import SceneScript.Proofs.Stamp

set_option autoImplicit false

namespace SceneScript

def Token.face (token : Token) : Kind × Text := (token.kind, token.value)

def layOut (gaps : Nat → Text) : List Text → Text
  | [] => gaps 0
  | piece :: pieces => gaps 0 ++ (piece ++ layOut (fun index => gaps (index + 1)) pieces)

structure Parting (count : Nat) (gaps : Nat → Text) : Prop where
  blank : ∀ index, ∀ c ∈ gaps index, Text.isBlank c = true
  parted : ∀ index, 0 < index → index < count → gaps index ≠ []

namespace Parting

variable {count : Nat} {gaps : Nat → Text}

theorem tail (parting : Parting (count + 1) gaps) :
    Parting count fun index => gaps (index + 1) where
  blank := fun index => parting.blank (index + 1)
  parted := fun index _ below => parting.parted (index + 1) (by omega) (by omega)

end Parting

theorem quote_notMem_layOut {gaps : Nat → Text} (blank : ∀ index, ∀ c ∈ gaps index,
    Text.isBlank c = true) {pieces : List Text} (free : ∀ piece ∈ pieces, '"' ∉ piece) :
    '"' ∉ layOut gaps pieces := by
  have gapless (index : Nat) : '"' ∉ gaps index :=
    List.count_eq_zero.mp (Text.count_quote_of_blank (blank index))
  induction pieces generalizing gaps with
  | nil => exact gapless 0
  | cons piece pieces ih =>
      obtain ⟨first, others⟩ := List.forall_mem_cons.mp free
      have rest := ih (fun index => blank (index + 1)) others fun index => gapless (index + 1)
      simp [layOut, gapless 0, first, rest]

theorem Span.mem_of_mem_cut {span : Span} {text : Text} {c : Char} {index : Nat}
    (held : c ∈ span.cut text) (behind : index ≤ span.start) : c ∈ text.drop index := by
  obtain ⟨further, same⟩ := Nat.exists_eq_add_of_le behind
  rw [cut, List.drop_take, same, ← List.drop_drop] at held
  exact List.mem_of_mem_drop (List.mem_of_mem_take held)

namespace Lexeme

variable {lexeme : Lexeme} {before text : Text} {span : Span}

theorem Fills.cut_eq (filled : lexeme.Fills before span text) : span.cut text = lexeme.raw := by
  obtain ⟨rest, rfl, rfl, _⟩ := filled
  exact Span.cut_of_append before lexeme.raw rest

theorem Fills.ends_drop (filled : lexeme.Fills before span text) :
    lexeme.Ends (text.drop span.stop) := by
  obtain ⟨rest, rfl, rfl, _, ends⟩ := filled
  rw [← List.append_assoc, ← List.length_append, List.drop_left]
  exact ends

theorem ends_nil (lexeme : Lexeme) : lexeme.Ends [] := by
  cases lexeme <;> simp [Ends]

theorem ends_layOut {gaps : Nat → Text} (blank : ∀ index, ∀ c ∈ gaps index,
    Text.isBlank c = true) {pieces : List Text} (parted : pieces ≠ [] → gaps 0 ≠ [])
    (alone : lexeme = loneQuote → ∀ piece ∈ pieces, '"' ∉ piece) :
    lexeme.Ends (layOut gaps pieces) := by
  by_cases none : gaps 0 = []
  next =>
    have last : pieces = [] := by
      by_contra more
      exact parted more none
    subst last
    rw [layOut, none]
    exact ends_nil lexeme
  next =>
    have free (lone : lexeme = loneQuote) := quote_notMem_layOut blank (alone lone)
    cases pieces with
    | nil =>
        have ends : lexeme.Ends (gaps 0 ++ []) :=
          (ends_nil lexeme).append (blank 0) none fun _ => List.not_mem_nil
        simpa [layOut] using ends
    | cons piece pieces =>
        refine (ends_nil lexeme).append (blank 0) none fun lone => ?_
        have := free lone
        simp only [layOut, List.mem_append, not_or] at this
        simp [this.2]

end Lexeme

theorem scans_layOut {text before : Text} {place : Position} {spans : List Span}
    {tokens : List Token} (read : List.Forall₂ (ReadAt text before place) spans tokens)
    (ordered : spans.Pairwise fun left right => left.stop ≤ right.start) {gaps : Nat → Text}
    (parting : Parting spans.length gaps) (position : Position) :
    ∃ relaid, Scans position (layOut gaps (spans.map (·.cut text))) relaid ∧
      relaid.map Token.face = tokens.map Token.face ++ [(.endOfInput, [])] := by
  induction read generalizing gaps position with
  | nil => exact ⟨_, .done (parting.blank 0), rfl⟩
  | @cons span token spans tokens first _ ih =>
      obtain ⟨lexeme, between, filled, rfl⟩ := first
      obtain ⟨_, _, _, formed, _⟩ := id filled
      obtain ⟨relaid, scans, faces⟩ := ih ordered.of_cons parting.tail
        (position.after (gaps 0 ++ lexeme.raw))
      -- A quote alone has none behind it in the text, and so none in the later pieces.
      have alone (lone : lexeme = .loneQuote) :
          ∀ piece ∈ spans.map (·.cut text), '"' ∉ piece := by
        intro piece listed quote
        obtain ⟨later, held, rfl⟩ := List.mem_map.mp listed
        have behind := List.rel_of_pairwise_cons ordered held
        have none := filled.ends_drop
        rw [lone] at none
        exact none (Span.mem_of_mem_cut quote behind)
      have parted (more : spans.map (·.cut text) ≠ []) : gaps 1 ≠ [] := by
        have further : 0 < spans.length := by
          simpa using List.length_pos_of_ne_nil more
        exact parting.parted 1 (by omega) (by simpa using further)
      have ends := Lexeme.ends_layOut (fun index => parting.tail.blank index) parted alone
      refine ⟨lexeme.token (position.after (gaps 0)) :: relaid, ?_, ?_⟩
      · rw [List.map_cons, filled.cut_eq, layOut]
        exact .next (parting.blank 0) formed ends scans
      · simp [faces, Token.face, Lexeme.token]

theorem Closed.of_faces {tokens tokens' : List Token} (closed : Closed tokens)
    (faces : tokens'.map Token.face = tokens.map Token.face) : Closed tokens' := by
  obtain ⟨body, last, rfl, endFree, ended⟩ := closed
  rw [List.map_append] at faces
  obtain ⟨body', ending, rfl, before, final⟩ := List.map_eq_append_iff.mp faces
  obtain ⟨last', rfl, same⟩ := List.map_eq_singleton_iff.mp final
  refine ⟨body', last', rfl, ?_, (congrArg Prod.fst same).trans ended⟩
  intro token held
  have listed : token.face ∈ body.map Token.face := before ▸ List.mem_map_of_mem held
  obtain ⟨other, there, alike⟩ := List.mem_map.mp listed
  have kinds : other.kind = token.kind := congrArg Prod.fst alike
  exact kinds ▸ endFree other there

def numbered (faces : List (Kind × Text)) : List Token :=
  faces.mapIdx fun index face => ⟨face.1, face.2, ⟨index, 0⟩⟩

def positionOf (tokens : List Token) (number : Position) : Position :=
  (tokens[number.line.toNat]?.map Token.position).getD .start

theorem face_numbered (faces : List (Kind × Text)) :
    (numbered faces).map Token.face = faces := by
  apply List.ext_getElem <;> simp [numbered, Token.face]

theorem restamp_numbered (tokens : List Token) :
    (numbered (tokens.map Token.face)).map (Token.restamp (positionOf tokens)) = tokens := by
  apply List.ext_getElem
  · simp [numbered]
  · intro index low high
    have held : index < tokens.length := high
    simp [numbered, Token.restamp, Token.face, positionOf, held]

structure Diagnostic.SameAmong (tokens tokens' : List Token) (diagnostic other : Diagnostic) :
    Prop where
  message : other.message = diagnostic.message
  subject : ∃ (index : Nat) (token token' : Token), tokens[index]? = some token ∧
    tokens'[index]? = some token' ∧ diagnostic.subject.token = some token ∧
    other.subject = diagnostic.subject.mapToken fun _ => token'

/-- The same program, or the same fault of tokens with the same index. -/
def SameOutcome (tokens tokens' : List Token) :
    Except Diagnostic Program → Except Diagnostic Program → Prop
  | .ok program, .ok other => program = other
  | .error diagnostic, .error other => diagnostic.SameAmong tokens tokens' other
  | _, _ => False

namespace Subject

variable {subject : Subject} {token : Token} (change : Token → Token)

theorem token_mapToken : (subject.mapToken change).token = subject.token.map change := by
  cases subject <;> rfl

theorem mapToken_of_token (found : subject.token = some token) (other : Token → Token) :
    (subject.mapToken change).mapToken (fun _ => other token) = subject.mapToken other := by
  cases subject with
  | unknownInstruction held =>
      cases found
      rfl
  | unexpectedKind expected actual held =>
      cases found
      rfl
  | _ => cases found

end Subject

theorem Program.ofTokens_restamp (origin : Origin) (move : Position → Position)
    (tokens : List Token) :
    ofTokens origin (tokens.map (Token.restamp move)) =
      match Production.program tokens with
      | .ok program _ => .ok program
      | .error fault _ =>
          .error (origin.diagnose (tokens.map (Token.restamp move)).getLast?
            (fault.mapToken (Token.restamp move))) := by
  simp only [ofTokens, Production.blind_program move tokens]
  cases Production.program tokens <;> rfl

theorem sameOutcome_restamp {tokens : List Token} (closed : Closed tokens)
    (origin origin' : Origin) (move move' : Position → Position) :
    SameOutcome (tokens.map (Token.restamp move)) (tokens.map (Token.restamp move'))
      (Program.ofTokens origin (tokens.map (Token.restamp move)))
      (Program.ofTokens origin' (tokens.map (Token.restamp move'))) := by
  rw [Program.ofTokens_restamp, Program.ofTokens_restamp]
  cases result : Production.program tokens with
  | ok program rest => rfl
  | error fault rest =>
      obtain ⟨token, held, found⟩ := Production.token_of_program_error closed result
      obtain ⟨index, there⟩ := List.mem_iff_getElem?.mp held
      have named : fault.subject.token = some token := by rw [Fault.token_subject, found]
      constructor
      case message => exact (fault.message_restamp move').trans (fault.message_restamp move).symm
      case subject =>
        refine ⟨index, token.restamp move, token.restamp move', ?_, ?_, ?_, ?_⟩
        · rw [List.getElem?_map, there, Option.map_some]
        · rw [List.getElem?_map, there, Option.map_some]
        · simp only [Origin.diagnose, Fault.subject_restamp, Subject.token_mapToken, named,
            Option.map_some]
        · simp only [Origin.diagnose, Fault.subject_restamp, Subject.mapToken_of_token _ named]

theorem sameOutcome_of_faces {tokens tokens' : List Token} (closed : Closed tokens)
    (faces : tokens'.map Token.face = tokens.map Token.face) (origin origin' : Origin) :
    SameOutcome tokens tokens' (Program.ofTokens origin tokens)
      (Program.ofTokens origin' tokens') := by
  -- Both lists are the same numbered tokens, stamped in two ways.
  have same := sameOutcome_restamp (closed.of_faces (face_numbered _)) origin origin'
    (positionOf tokens) (positionOf tokens')
  rw [restamp_numbered, ← faces, restamp_numbered] at same
  exact same

/-- Only the gaps between its lexemes can be changed in a text without changing what it says, and
those freely. -/
theorem tokenize_layOut (text : Text) :
    ∃ tokens last, tokenize text = tokens ++ [last] ∧ last.kind = .endOfInput ∧
      (∃ spans, Segmentation text 0 spans tokens) ∧
      ∀ spans, Segmentation text 0 spans tokens → ∀ gaps, Parting spans.length gaps →
        (tokenize (layOut gaps (spans.map (·.cut text)))).map Token.face =
            (tokenize text).map Token.face ∧
          ∀ file file', SameOutcome (tokenize text)
            (tokenize (layOut gaps (spans.map (·.cut text)))) (Program.ofText file text)
            (Program.ofText file' (layOut gaps (spans.map (·.cut text)))) := by
  obtain ⟨tokens, spans, whole, _, segmented, read⟩ :=
    ((tokenize_eq_iff text _).mp rfl).exists_spans []
  rw [List.nil_append] at segmented read
  refine ⟨tokens, _, whole, rfl, ⟨spans, segmented⟩, ?_⟩
  intro others segmented' gaps parting
  obtain ⟨rfl, _⟩ := segmented.unique segmented'
  obtain ⟨relaid, scans, faces⟩ := scans_layOut read segmented.ordered parting .start
  rw [← (tokenize_eq_iff _ _).mpr scans] at faces
  have same : (tokenize (layOut gaps (spans.map (·.cut text)))).map Token.face =
      (tokenize text).map Token.face := by
    rw [faces, whole]
    simp [Token.face]
  exact ⟨same, fun file file' => sameOutcome_of_faces (tokenize_closed text) same _ _⟩

end SceneScript
