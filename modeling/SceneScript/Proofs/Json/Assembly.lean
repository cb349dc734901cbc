import SceneScript.Json.Reader

set_option autoImplicit false

namespace SceneScript.Json

structure Entry where
  value : Json
  lexemes : List Lexeme

structure Member extends Entry where
  key : Text

def Member.spelling (member : Member) : List Lexeme :=
  .string member.key :: .colon :: member.lexemes

def collect (done : Fields) (members : List Member) : Fields :=
  members.foldl (fun done member => setField member.key member.value done) done

inductive Spells : Nat → Json → List Lexeme → Prop where
  | scalar (depth : Nat) (value : Json) : Spells depth value [.scalar value]
  | string (depth : Nat) (text : Text) : Spells depth (.string text) [.string text]
  | emptyArray (depth : Nat) : Spells depth (.array []) [.openArray, .closeArray]
  | emptyObject (depth : Nat) : Spells depth (.object []) [.openObject, .closeObject]
  | array {depth : Nat} {first : Entry} {rest : List Entry}
      (inside : ∀ entry ∈ first :: rest, Spells depth entry.value entry.lexemes) :
      Spells (depth + 1) (.array (first.value :: rest.map Entry.value))
        (.openArray :: (first.lexemes ++
          (rest.flatMap (fun entry => .comma :: entry.lexemes) ++ [.closeArray])))
  | object {depth : Nat} {first : Member} {rest : List Member}
      (inside : ∀ member ∈ first :: rest, Spells depth member.value member.lexemes) :
      Spells (depth + 1) (.object (collect [] (first :: rest)))
        (.openObject :: (first.spelling ++
          (rest.flatMap (fun member => .comma :: member.spelling) ++ [.closeObject])))

theorem Limits.admits_mono {limit : Option Nat} {count fewer : Nat} (le : fewer ≤ count)
    (admitted : admits limit count) : admits limit fewer := by
  cases limit with
  | none => rfl
  | some most =>
      simp only [admits, Option.all_some, decide_eq_true_eq] at admitted ⊢
      exact Nat.le_trans le admitted

namespace State

variable {nesting : Option Nat} {depth : Nat}

theorem run_step {state next : State} {lexeme : Lexeme} (stepped : state.step lexeme = some next)
    (room : Limits.admits nesting next.frames.length) (rest : List Lexeme) :
    state.run nesting (lexeme :: rest) = next.run nesting rest := by
  have within : state.stepWithin nesting lexeme = some next := by
    rw [stepWithin, stepped, Option.filter_some, if_pos room]
  simp only [run, List.foldlM_cons, within, Option.bind_eq_bind, Option.bind_some]

def Reads (nesting : Option Nat) (depth : Nat) (value : Json) (lexemes : List Lexeme) : Prop :=
  ∀ frames, Limits.admits nesting (frames.length + depth) →
    ∀ rest, (wantsValue frames).run nesting (lexemes ++ rest) =
      (holds frames value).run nesting rest

theorem Reads.under {value : Json} {lexemes : List Lexeme}
    (reads : Reads nesting depth value lexemes) {frames : List Frame}
    (room : Limits.admits nesting (frames.length + (depth + 1))) (frame : Frame)
    (rest : List Lexeme) :
    (wantsValue (frame :: frames)).run nesting (lexemes ++ rest) =
      (holds (frame :: frames) value).run nesting rest := by
  refine reads (frame :: frames) ?_ rest
  rwa [List.length_cons, Nat.add_assoc, Nat.add_comm 1]

theorem run_wantsFirstItem (frames : List Frame) {lexeme : Lexeme} (opens : lexeme ≠ .closeArray)
    (rest : List Lexeme) :
    (wantsFirstItem frames).run nesting (lexeme :: rest) =
      (wantsValue (.items [] :: frames)).run nesting (lexeme :: rest) := by
  have same : (wantsFirstItem frames).step lexeme =
      (wantsValue (.items [] :: frames)).step lexeme := by
    cases lexeme <;> first | rfl | exact absurd rfl opens
  simp only [run, List.foldlM_cons, stepWithin, same]

section Inside

variable {frames : List Frame} (room : Limits.admits nesting (frames.length + (depth + 1)))

include room

theorem run_items {items : List Entry}
    (reads : ∀ entry ∈ items, Reads nesting depth entry.value entry.lexemes) (done : List Json)
    (value : Json) (rest : List Lexeme) :
    (holds (.items done :: frames) value).run nesting
        (items.flatMap (fun entry => .comma :: entry.lexemes) ++ .closeArray :: rest) =
      (holds frames (.array (done.reverse ++ value :: items.map Entry.value))).run nesting
        rest := by
  induction items generalizing done value with
  | nil =>
      rw [List.flatMap_nil, List.nil_append,
        run_step rfl (Limits.admits_mono (Nat.le_add_right _ _) room)]
      simp
  | cons entry items ih =>
      rw [List.forall_mem_cons] at reads
      rw [List.flatMap_cons, List.append_assoc, List.cons_append,
        run_step rfl (Limits.admits_mono (Nat.add_le_add_left (Nat.le_add_left _ _) _) room),
        reads.1.under room, ih reads.2]
      simp

theorem run_member {member : Member} (reads : Reads nesting depth member.value member.lexemes)
    (done : Fields) (rest : List Lexeme) :
    (wantsColon frames done member.key).run nesting (.colon :: (member.lexemes ++ rest)) =
      (holds (.fields done member.key :: frames) member.value).run nesting rest := by
  rw [run_step rfl (Limits.admits_mono (Nat.add_le_add_left (Nat.le_add_left _ _) _) room),
    reads.under room]

theorem run_members {members : List Member}
    (reads : ∀ member ∈ members, Reads nesting depth member.value member.lexemes)
    (done : Fields) (key : Text) (value : Json) (rest : List Lexeme) :
    (holds (.fields done key :: frames) value).run nesting
        (members.flatMap (fun member => .comma :: member.spelling) ++ .closeObject :: rest) =
      (holds frames (.object (collect (setField key value done) members))).run nesting rest := by
  have outer : Limits.admits nesting frames.length :=
    Limits.admits_mono (Nat.le_add_right _ _) room
  induction members generalizing done key value with
  | nil => rw [List.flatMap_nil, List.nil_append, run_step rfl outer]; rfl
  | cons member members ih =>
      rw [List.forall_mem_cons] at reads
      simp only [List.flatMap_cons, Member.spelling, List.append_assoc, List.cons_append]
      rw [run_step rfl outer, run_step rfl outer, run_member room reads.1]
      exact ih reads.2 _ _ _

end Inside

end State

namespace Spells

variable {depth : Nat} {value : Json} {lexemes : List Lexeme}

theorem opens (spells : Spells depth value lexemes) :
    ∃ first more, lexemes = first :: more ∧ first ≠ .closeArray := by
  cases spells <;> exact ⟨_, _, rfl, Lexeme.noConfusion⟩

theorem reads (nesting : Option Nat) (spells : Spells depth value lexemes) :
    State.Reads nesting depth value lexemes := by
  induction spells with
  | scalar depth value =>
      intro frames room rest
      exact State.run_step rfl (Limits.admits_mono (Nat.le_add_right _ _) room) rest
  | string depth text =>
      intro frames room rest
      exact State.run_step rfl (Limits.admits_mono (Nat.le_add_right _ _) room) rest
  | emptyArray depth =>
      intro frames room rest
      have outer := Limits.admits_mono (Nat.le_add_right _ _) room
      exact (State.run_step rfl outer _).trans (State.run_step rfl outer _)
  | emptyObject depth =>
      intro frames room rest
      have outer := Limits.admits_mono (Nat.le_add_right _ _) room
      exact (State.run_step rfl outer _).trans (State.run_step rfl outer _)
  | @array depth first items inside ih =>
      intro frames room rest
      have outer := Limits.admits_mono (Nat.le_add_right _ _) room
      rw [List.forall_mem_cons] at inside ih
      -- The machine looks at the first lexeme behind the bracket to see whether there are items.
      obtain ⟨lexeme, more, spelling, opens⟩ := inside.1.opens
      simp only [List.cons_append, List.append_assoc]
      rw [State.run_step rfl outer, spelling, List.cons_append,
        State.run_wantsFirstItem frames opens, ← List.cons_append, ← spelling, ih.1.under room]
      exact State.run_items room ih.2 [] _ _
  | @object depth first members inside ih =>
      intro frames room rest
      have outer := Limits.admits_mono (Nat.le_add_right _ _) room
      rw [List.forall_mem_cons] at ih
      simp only [List.cons_append, List.append_assoc, Member.spelling]
      rw [State.run_step rfl outer, State.run_step rfl outer, State.run_member room ih.1]
      exact State.run_members room ih.2 [] _ _ _

end Spells

end SceneScript.Json
