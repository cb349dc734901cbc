import Mathlib.Data.List.Sort
import SceneScript.Lint

set_option autoImplicit false

namespace SceneScript

theorem Instruction.loadsNothing_iff {instruction : Instruction} :
    instruction.loadsNothing = true ↔
      ∃ path, instruction = .loadScript path ∧ ∀ c ∈ path, Text.isBlank c = true := by
  cases instruction <;> simp [loadsNothing]

namespace Program

variable {program : Program} {instruction : Instruction} {index : Nat}

-- Instructions are counted from one.
def StandsAt (program : Program) (index : Nat) (instruction : Instruction) : Prop :=
  1 ≤ index ∧ program.instructions[index - 1]? = some instruction

def LoadsBlank (program : Program) (index : Nat) : Prop :=
  ∃ path, program.StandsAt index (.loadScript path) ∧ ∀ c ∈ path, Text.isBlank c = true

/-- In order, the indices of all instructions that load a script from nowhere. -/
structure BlankLoads (program : Program) (indices : List Nat) : Prop where
  sorted : indices.Pairwise (· < ·)
  listed : ∀ index, index ∈ indices ↔ program.LoadsBlank index

def emptyPathText (index : Nat) : Text :=
  "Instruction " ++ Text.ofNat index ++ ": load_script has an empty path."

structure IsFirstEnd (program : Program) (index : Nat) : Prop where
  ends : program.StandsAt index .stop
  first : ∀ other, program.StandsAt other .stop → index ≤ other

def unreachableText (index remaining : Nat) : Text :=
  "Instruction " ++ Text.ofNat index ++ ": " ++ Text.ofNat remaining ++
    " instruction(s) after 'end' are unreachable."

/-- What there is to say about instructions behind an end. -/
inductive LeavesBehind (program : Program) : List Text → Prop where
  | nothing (last : ∀ index, program.StandsAt index .stop → index = program.instructions.length) :
      LeavesBehind program []
  | unreached {index : Nat} (first : program.IsFirstEnd index)
      (inside : index < program.instructions.length) :
      LeavesBehind program [unreachableText index (program.instructions.length - index)]

theorem message_emptyPath (index : Nat) :
    (Finding.emptyPath index).message = emptyPathText index := by
  have joined : ": load_script has an empty path.".toList =
      ": ".toList ++ "load_script has an empty path.".toList := by decide
  unfold Finding.message Finding.placed emptyPathText
  rw [joined, ← List.append_assoc]

theorem message_unreachable (index remaining : Nat) :
    (Finding.unreachable index remaining).message = unreachableText index remaining := rfl

theorem mem_numbered :
    (instruction, index) ∈ program.numbered ↔ program.StandsAt index instruction :=
  List.mem_zipIdx_iff_le_and_getElem?_sub

theorem pairwise_numbered (program : Program) :
    program.numbered.Pairwise fun one other => one.2 < other.2 := by
  rw [← List.pairwise_map (f := Prod.snd), numbered, List.zipIdx_map_snd]
  exact List.pairwise_lt_range' 1

theorem StandsAt.le_length (stands : program.StandsAt index instruction) :
    index ≤ program.instructions.length := by
  obtain ⟨counted, found⟩ := stands
  obtain ⟨within, -⟩ := List.getElem?_eq_some_iff.mp found
  omega

section Errors

def blankLoads (program : Program) : List Nat :=
  (program.numbered.filter (·.1.loadsNothing)).map Prod.snd

theorem blankLoads_listed (program : Program) : program.BlankLoads program.blankLoads := by
  constructor
  case sorted => exact List.pairwise_map.mpr ((pairwise_numbered program).filter _)
  case listed =>
    intro index
    simp only [blankLoads, List.mem_map, List.mem_filter, Instruction.loadsNothing_iff,
      Prod.exists, mem_numbered]
    constructor
    · rintro ⟨_, _, ⟨stands, path, rfl, blank⟩, rfl⟩
      exact ⟨path, stands, blank⟩
    · rintro ⟨path, stands, blank⟩
      exact ⟨_, index, ⟨stands, path, rfl, blank⟩, rfl⟩

theorem lint_errors (program : Program) :
    program.lint.1 = program.blankLoads.map emptyPathText := by
  simp only [lint, errors, blankLoads, List.map_map, Function.comp_def, message_emptyPath]

theorem BlankLoads.unique {indices others : List Nat} (one : program.BlankLoads indices)
    (another : program.BlankLoads others) : indices = others :=
  one.sorted.eq_of_mem_iff another.sorted fun index => by rw [one.listed, another.listed]

theorem numbered_append (program other : Program) :
    (Program.mk (program.instructions ++ other.instructions)).numbered =
      program.numbered ++
        other.numbered.map (Prod.map id (· + program.instructions.length)) := by
  rw [numbered, numbered, numbered, List.zipIdx_append, List.map_snd_add_zipIdx_eq_zipIdx,
    Nat.add_comm]

theorem blankLoads_append (program other : Program) :
    (Program.mk (program.instructions ++ other.instructions)).blankLoads =
      program.blankLoads ++ other.blankLoads.map (· + program.instructions.length) := by
  rw [blankLoads, numbered_append, List.filter_append, List.map_append, List.filter_map]
  simp [blankLoads, Function.comp_def]

theorem lint_errors_append (program other : Program) :
    (Program.mk (program.instructions ++ other.instructions)).lint.1 =
      program.lint.1 ++
        other.blankLoads.map fun index => emptyPathText (index + program.instructions.length) := by
  rw [lint_errors, lint_errors, blankLoads_append, List.map_append, List.map_map]
  rfl

end Errors

section Ends

theorem leavesBehind_unreachable (program : Program) :
    program.LeavesBehind (program.unreachable.map Finding.message) := by
  rw [unreachable]
  split
  -- The search counts from zero, the finding from one.
  next index found =>
    obtain ⟨within, ends, first⟩ := List.findIdx?_eq_some_iff_getElem.mp found
    have firstEnd : program.IsFirstEnd (index + 1) := by
      constructor
      case ends =>
        exact ⟨by omega, List.getElem?_eq_some_iff.mpr ⟨within, of_decide_eq_true ends⟩⟩
      case first =>
        rintro other ⟨counted, found⟩
        refine Classical.byContradiction fun earlier => ?_
        obtain ⟨inside, same⟩ := List.getElem?_eq_some_iff.mp found
        exact first (other - 1) (by omega) (decide_eq_true same)
    dsimp only
    split
    next =>
      rw [List.map_singleton, message_unreachable]
      exact .unreached firstEnd (by omega)
    next =>
      refine .nothing fun other stands => ?_
      have low := firstEnd.first other stands
      have high := stands.le_length
      omega
  next absent =>
    refine .nothing fun other stands => ?_
    have held := List.mem_of_getElem? stands.2
    simpa using List.findIdx?_eq_none_iff.mp absent _ held

theorem IsFirstEnd.unique {other : Nat} (one : program.IsFirstEnd index)
    (another : program.IsFirstEnd other) : index = other :=
  Nat.le_antisymm (one.first other another.ends) (another.first index one.ends)

theorem LeavesBehind.unique {remaining others : List Text}
    (leaves : program.LeavesBehind remaining) (leaves' : program.LeavesBehind others) :
    remaining = others := by
  cases leaves with
  | nothing last =>
      cases leaves' with
      | nothing => rfl
      | unreached first inside => exact absurd (last _ first.ends) (Nat.ne_of_lt inside)
  | unreached first inside =>
      cases leaves' with
      | nothing last => exact absurd (last _ first.ends) (Nat.ne_of_lt inside)
      | unreached first' => rw [first.unique first']

end Ends

theorem lint_of_empty (empty : program.instructions = []) :
    program.lint = ([], ["Script contains no instructions.".toList]) := by
  rw [lint, warnings, if_pos empty, errors, numbered, empty]
  rfl

theorem lint_warnings_of_filled (filled : program.instructions ≠ []) :
    program.lint.2 = program.repeatedAssets.map Finding.message ++
      program.undeclaredAssets.map Finding.message ++
        program.unreachable.map Finding.message := by
  rw [lint, warnings, if_neg filled, List.map_append, List.map_append]

end Program

end SceneScript
