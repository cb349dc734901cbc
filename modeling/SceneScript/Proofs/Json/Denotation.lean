import SceneScript.Proofs.Json.Assembly
import SceneScript.Proofs.Json.Lexical
import SceneScript.Proofs.Json.Scalars

set_option autoImplicit false

namespace SceneScript.Json

section Lexemes

/-- A text and the lexemes that it is made of, with at most so many digits before a point. -/
inductive Cut (most : Option Nat) : Text → List Lexeme → Prop where
  | written {text : Text} {lexemes : List Lexeme} (written : Written text lexemes) :
      Cut most text lexemes
  | scalar {before spelling rest : Text} {lexemes others : List Lexeme} {value : Json}
      (written : Written before lexemes) (spelled : ScalarSpelled most value spelling)
      (ended : Ended rest) (more : Cut most rest others) :
      Cut most (before ++ (spelling ++ rest)) (lexemes ++ .scalar value :: others)

theorem scan_scalar {limits : Limits} {value : Json} {spelling rest : Text}
    (solid : ∃ first more, spelling = first :: more ∧ separates first = false)
    (read : readLexeme limits (spelling ++ rest) = some (.scalar value, rest)) :
    scan limits (spelling ++ rest) = (scan limits rest).map (.scalar value :: ·) := by
  obtain ⟨first, more, rfl, solid⟩ := solid
  exact scan_of_readLexeme solid read

theorem scan_unread {limits : Limits} {spelling rest : Text}
    (solid : ∃ first more, spelling = first :: more ∧ separates first = false)
    (unread : readLexeme limits (spelling ++ rest) = none) :
    scan limits (spelling ++ rest) = none := by
  obtain ⟨first, more, rfl, solid⟩ := solid
  rw [List.cons_append] at unread ⊢
  rw [scan.eq_def]
  simp only [solid, Bool.false_eq_true, ↓reduceIte]
  split
  next => rfl
  next found =>
    rw [unread] at found
    cases found

namespace Cut

variable {text : Text} {lexemes : List Lexeme} {limits : Limits}

theorem scan_eq (cut : Cut limits.digits text lexemes) : scan limits text = some lexemes := by
  generalize digits : limits.digits = most at cut
  induction cut with
  | written written => exact written.scan limits
  | scalar written spelled ended _ ih =>
      subst digits
      rw [written.scan_append, scan_scalar spelled.solid (spelled.read ended), ih]
      rfl

theorem within_or_unread (cut : Cut none text lexemes) (limits : Limits) :
    Cut limits.digits text lexemes ∨ scan limits text = none := by
  generalize unlimited : (none : Option Nat) = most at cut
  induction cut with
  | written written => exact .inl (.written written)
  | @scalar before spelling rest _ _ value written spelled ended _ ih =>
      subst unlimited
      rw [written.scan_append]
      rcases spelled.within_or_unread limits with within | unread
      · rw [scan_scalar spelled.solid (within.read ended)]
        rcases ih with more | none
        · exact .inl (.scalar written within ended more)
        · right
          rw [none]
          rfl
      · right
        rw [scan_unread spelled.solid (unread rest ended)]
        rfl

end Cut

end Lexemes

section Room

namespace State

variable {most : Nat} {frames : List Frame}

theorem run_of_unadmitted {state : State} {lexeme : Lexeme}
    (unadmitted : ∀ next, state.step lexeme = some next → most < next.frames.length)
    (rest : List Lexeme) : state.run (some most) (lexeme :: rest) = none := by
  have stuck : state.stepWithin (some most) lexeme = none := by
    rw [stepWithin, Option.filter_eq_none_iff]
    intro next stepped
    simpa [Limits.admits] using unadmitted next stepped
  simp only [run, List.foldlM_cons, stuck, Option.bind_eq_bind, Option.bind_none]

theorem frames_of_enter {lexeme : Lexeme} {next : State}
    (entered : enter frames lexeme = some next) : next.frames = frames := by
  cases lexeme <;> simp only [enter, Option.some.injEq, reduceCtorEq] at entered
  all_goals
    subst entered
    rfl

theorem admits_some {count : Nat} (le : count ≤ most) : Limits.admits (some most) count := by
  simpa [Limits.admits] using le

def Stuck (most : Nat) (frames : List Frame) (lexemes : List Lexeme) : Prop :=
  ∀ rest, (wantsValue frames).run (some most) (lexemes ++ rest) = none

theorem stuck_of_crowded (crowded : most < frames.length) {lexemes : List Lexeme}
    (filled : lexemes ≠ []) : Stuck most frames lexemes := by
  intro rest
  obtain ⟨lexeme, more, rfl⟩ := List.exists_cons_of_ne_nil filled
  refine run_of_unadmitted (fun next entered => ?_) _
  rw [frames_of_enter entered]
  exact crowded

/-- A value fits into the room behind the frames, or the machine stops in the midst of it. -/
def FitsOrStops (most : Nat) (value : Json) (lexemes : List Lexeme) : Prop :=
  ∀ frames room, List.length frames + room = most →
    Spells room value lexemes ∨ Stuck most frames lexemes

section Inside

variable {room : Nat} (whole : frames.length + (room + 1) = most)

include whole

theorem FitsOrStops.inside {value : Json} {lexemes : List Lexeme}
    (either : FitsOrStops most value lexemes) (frame : Frame) :
    Spells room value lexemes ∨ Stuck most (frame :: frames) lexemes :=
  either (frame :: frames) room (by rw [List.length_cons]; omega)

theorem run_items_unfit {items : List Entry}
    (either : ∀ entry ∈ items, FitsOrStops most entry.value entry.lexemes)
    (unfit : ¬ ∀ entry ∈ items, Spells room entry.value entry.lexemes) (done : List Json)
    (value : Json) (rest : List Lexeme) :
    (holds (.items done :: frames) value).run (some most)
      (items.flatMap (fun entry => .comma :: entry.lexemes) ++ rest) = none := by
  induction items generalizing done value with
  | nil => exact absurd (by simp) unfit
  | cons entry items ih =>
      rw [List.forall_mem_cons] at either unfit
      rw [List.flatMap_cons, List.append_assoc, List.cons_append,
        run_step rfl (admits_some (by simp [State.frames]; omega))]
      rcases either.1.inside whole (.items (value :: done)) with fits | stuck
      · rw [(fits.reads (some most)).under (admits_some (by omega))]
        exact ih either.2 (fun others => unfit ⟨fits, others⟩) _ _
      · exact stuck _

theorem run_members_unfit {members : List Member}
    (either : ∀ member ∈ members, FitsOrStops most member.value member.lexemes)
    (unfit : ¬ ∀ member ∈ members, Spells room member.value member.lexemes) (done : Fields)
    (key : Text) (value : Json) (rest : List Lexeme) :
    (holds (.fields done key :: frames) value).run (some most)
      (members.flatMap (fun member => .comma :: member.spelling) ++ rest) = none := by
  induction members generalizing done key value with
  | nil => exact absurd (by simp) unfit
  | cons member members ih =>
      have outer : Limits.admits (some most) frames.length := admits_some (by omega)
      rw [List.forall_mem_cons] at either unfit
      simp only [List.flatMap_cons, Member.spelling, List.append_assoc, List.cons_append]
      rw [run_step rfl outer, run_step rfl outer,
        run_step rfl (admits_some (by simp [State.frames]; omega))]
      rcases either.1.inside whole (.fields (setField key value done) member.key) with fits | stuck
      · rw [(fits.reads (some most)).under (admits_some (by omega))]
        exact ih either.2 (fun others => unfit ⟨fits, others⟩) _ _ _
      · exact stuck _

end Inside

theorem fitsOrStops_array {first : Entry} {items : List Entry}
    (opens : ∃ lexeme more, first.lexemes = lexeme :: more ∧ lexeme ≠ .closeArray)
    (either : ∀ entry ∈ first :: items, FitsOrStops most entry.value entry.lexemes) :
    FitsOrStops most (.array (first.value :: items.map Entry.value))
      (.openArray :: (first.lexemes ++
        (items.flatMap (fun entry => .comma :: entry.lexemes) ++ [.closeArray]))) := by
  intro frames room whole
  obtain ⟨lexeme, more, spelling, opens⟩ := opens
  have opened (rest : List Lexeme) :
      (wantsValue frames).run (some most) (.openArray :: (first.lexemes ++ rest)) =
        (wantsValue (.items [] :: frames)).run (some most) (first.lexemes ++ rest) := by
    rw [run_step rfl (admits_some (by simp [State.frames]; omega)), spelling, List.cons_append,
      run_wantsFirstItem frames opens]
  cases room with
  | zero =>
      have crowded : most < (Frame.items [] :: frames).length := by
        rw [List.length_cons]
        omega
      refine .inr fun rest => ?_
      rw [List.cons_append, List.append_assoc, opened]
      exact stuck_of_crowded crowded (by simp [spelling]) _
  | succ room =>
      by_cases fits : ∀ entry ∈ first :: items, Spells room entry.value entry.lexemes
      next => exact .inl (.array fits)
      next =>
        rw [List.forall_mem_cons] at fits either
        refine .inr fun rest => ?_
        rw [List.cons_append, List.append_assoc, opened]
        -- The first item that does not fit is where the machine stops.
        rcases either.1.inside whole (.items []) with fitsFirst | stuck
        · rw [(fitsFirst.reads (some most)).under (admits_some (by omega)), List.append_assoc]
          exact run_items_unfit whole either.2 (fun others => fits ⟨fitsFirst, others⟩) _ _ _
        · exact stuck _

theorem fitsOrStops_object {first : Member} {members : List Member}
    (either : ∀ member ∈ first :: members, FitsOrStops most member.value member.lexemes) :
    FitsOrStops most (.object (collect [] (first :: members)))
      (.openObject :: (first.spelling ++
        (members.flatMap (fun member => .comma :: member.spelling) ++ [.closeObject]))) := by
  intro frames room whole
  have outer : Limits.admits (some most) frames.length := admits_some (by omega)
  have opened (rest : List Lexeme) :
      (wantsValue frames).run (some most) (.openObject :: (first.spelling ++ rest)) =
        (wantsColon frames [] first.key).run (some most) (.colon :: (first.lexemes ++ rest)) := by
    rw [run_step rfl outer, Member.spelling, List.cons_append, run_step rfl outer,
      List.cons_append]
  cases room with
  | zero =>
      refine .inr fun rest => ?_
      rw [List.cons_append, List.append_assoc, opened]
      refine run_of_unadmitted (fun next stepped => ?_) _
      cases stepped
      rw [State.frames, List.length_cons]
      omega
  | succ room =>
      by_cases fits : ∀ member ∈ first :: members, Spells room member.value member.lexemes
      next => exact .inl (.object fits)
      next =>
        rw [List.forall_mem_cons] at fits either
        refine .inr fun rest => ?_
        rw [List.cons_append, List.append_assoc, opened,
          run_step rfl (admits_some (by simp [State.frames]; omega))]
        rcases either.1.inside whole (.fields [] first.key) with fitsFirst | stuck
        · rw [(fitsFirst.reads (some most)).under (admits_some (by omega)), List.append_assoc]
          exact run_members_unfit whole either.2 (fun others => fits ⟨fitsFirst, others⟩) _ _ _ _
        · exact stuck _

end State

theorem Spells.fitsOrStops {depth : Nat} {value : Json} {lexemes : List Lexeme}
    (spells : Spells depth value lexemes) (most : Nat) :
    State.FitsOrStops most value lexemes := by
  induction spells with
  | scalar depth value => exact fun _ room _ => .inl (.scalar room value)
  | string depth text => exact fun _ room _ => .inl (.string room text)
  | emptyArray depth => exact fun _ room _ => .inl (.emptyArray room)
  | emptyObject depth => exact fun _ room _ => .inl (.emptyObject room)
  | array inside ih => exact State.fitsOrStops_array (inside _ List.mem_cons_self).opens ih
  | object _ ih => exact State.fitsOrStops_object ih

end Room

def Denotes (limits : Limits) (text : Text) (value : Json) : Prop :=
  ∃ depth lexemes, Spells depth value lexemes ∧ Cut limits.digits text lexemes ∧
    Limits.admits limits.nesting depth

section Denoted

variable {limits : Limits} {text : Text} {value : Json}

theorem Denotes.read (denotes : Denotes limits text value) : ofText? limits text = some value := by
  obtain ⟨depth, lexemes, spells, cut, room⟩ := denotes
  have ran := spells.reads limits.nesting [] (by simpa using room) []
  rw [List.append_nil] at ran
  rw [ofText?, cut.scan_eq, Option.bind_eq_bind, Option.bind_some, ran]
  rfl

theorem Denotes.unread (denotes : Denotes .unlimited text value)
    (beyond : ¬ Denotes limits text value) : ofText? limits text = none := by
  obtain ⟨depth, lexemes, spells, cut, _⟩ := denotes
  rcases cut.within_or_unread limits with within | unread
  · rw [ofText?, within.scan_eq, Option.bind_eq_bind, Option.bind_some]
    cases nesting : limits.nesting with
    | none =>
        exact absurd ⟨depth, lexemes, spells, within, by rw [nesting]; rfl⟩ beyond
    | some most =>
        rcases spells.fitsOrStops most [] most (Nat.zero_add most) with fits | stuck
        · exact absurd ⟨most, lexemes, fits, within, by
            rw [nesting]; exact State.admits_some (Nat.le_refl most)⟩ beyond
        · have ran := stuck []
          rw [List.append_nil] at ran
          rw [ran]
          rfl
  · rw [ofText?, unread]
    rfl

end Denoted

end SceneScript.Json
