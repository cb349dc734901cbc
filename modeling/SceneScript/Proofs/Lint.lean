import Mathlib.Data.List.Forall2
import SceneScript.Proofs.Declarations

set_option autoImplicit false

namespace SceneScript

namespace Program

variable {program other : Program}

structure IsLinted (program : Program) : Prop where
  errors : ∃ indices, program.BlankLoads indices ∧ program.lint.1 = indices.map emptyPathText
  empty : program.instructions = [] →
    program.lint = ([], ["Script contains no instructions.".toList])
  filled : program.instructions ≠ [] → ∃ names uses remaining,
    program.AboutAssets names uses ∧ program.LeavesBehind remaining ∧
      program.lint.2 =
        names.map program.repeatedText ++ uses.map undeclaredText ++ remaining
  appended : ∀ other : Program, ∃ indices, other.BlankLoads indices ∧
    other.lint.1 = indices.map emptyPathText ∧
    (Program.mk (program.instructions ++ other.instructions)).lint.1 = program.lint.1 ++
      indices.map fun index => emptyPathText (index + program.instructions.length)

/-- The same program but for the names in its declarations, which are the same as a whole. -/
structure Redeclares (program other : Program) : Prop where
  paired : List.Forall₂ (fun one another => one = another ∨
    ∃ names others, one = .assets names ∧ another = .assets others)
      program.instructions other.instructions
  same : program.declaredNames = other.declaredNames

theorem exists_warnings (filled : program.instructions ≠ []) : ∃ names uses remaining,
    program.AboutAssets names uses ∧ program.LeavesBehind remaining ∧
      program.lint.2 =
        names.map program.repeatedText ++ uses.map undeclaredText ++ remaining := by
  refine ⟨_, _, _, aboutAssets program, leavesBehind_unreachable program, ?_⟩
  rw [lint_warnings_of_filled filled, messages_repeatedAssets, messages_undeclaredAssets]

namespace Redeclares

variable {index : Nat}

theorem symm (redeclares : program.Redeclares other) : other.Redeclares program where
  paired := by
    refine redeclares.paired.flip.imp ?_
    rintro one another (rfl | ⟨names, others, rfl, rfl⟩)
    · exact .inl rfl
    · exact .inr ⟨_, _, rfl, rfl⟩
  same := redeclares.same.symm

theorem standsAt {instruction : Instruction} (redeclares : program.Redeclares other)
    (plain : instruction.keyword ≠ .assets) (stands : program.StandsAt index instruction) :
    other.StandsAt index instruction := by
  obtain ⟨counted, found⟩ := stands
  obtain ⟨within, rfl⟩ := List.getElem?_eq_some_iff.mp found
  have within' := redeclares.paired.length_eq ▸ within
  refine ⟨counted, List.getElem?_eq_some_iff.mpr ⟨within', ?_⟩⟩
  rcases redeclares.paired.get within within' with same | ⟨names, others, declares, -⟩
  · exact same.symm
  · exact absurd (congrArg Instruction.keyword declares) plain

theorem uses (redeclares : program.Redeclares other) {use : Use} (uses : program.Uses use) :
    other.Uses use := by
  cases uses with
  | background stands => exact .background (redeclares.standsAt nofun stands)
  | play stands => exact .play (redeclares.standsAt nofun stands)

theorem loadsBlank (redeclares : program.Redeclares other) (loads : program.LoadsBlank index) :
    other.LoadsBlank index := by
  obtain ⟨path, stands, blank⟩ := loads
  exact ⟨path, redeclares.standsAt nofun stands, blank⟩

theorem blankLoads {indices : List Nat} (redeclares : program.Redeclares other)
    (loads : program.BlankLoads indices) : other.BlankLoads indices where
  sorted := loads.sorted
  listed := fun index => by
    rw [loads.listed]
    exact ⟨redeclares.loadsBlank, redeclares.symm.loadsBlank⟩

theorem isFirstEnd (redeclares : program.Redeclares other)
    (firstEnd : program.IsFirstEnd index) : other.IsFirstEnd index where
  ends := redeclares.standsAt nofun firstEnd.ends
  first := fun later stands =>
    firstEnd.first later (redeclares.symm.standsAt nofun stands)

theorem leavesBehind {remaining : List Text} (redeclares : program.Redeclares other)
    (leaves : program.LeavesBehind remaining) : other.LeavesBehind remaining := by
  have same := redeclares.paired.length_eq
  cases leaves with
  | nothing last =>
      refine .nothing fun index stands => ?_
      rw [← same]
      exact last index (redeclares.symm.standsAt nofun stands)
  | unreached first inside =>
      rw [same] at inside ⊢
      exact .unreached (redeclares.isFirstEnd first) inside

theorem aboutAssets {names : List Text} {uses : List Use} (redeclares : program.Redeclares other)
    (about : program.AboutAssets names uses) : other.AboutAssets names uses where
  sorted := about.sorted
  repeated := redeclares.same ▸ about.repeated
  ordered := about.ordered
  undeclared := fun use => by
    rw [about.undeclared, redeclares.same]
    exact and_congr_right fun _ => and_congr_left' ⟨redeclares.uses, redeclares.symm.uses⟩

theorem repeatedText_eq (redeclares : program.Redeclares other) :
    program.repeatedText = other.repeatedText := by
  funext name
  unfold repeatedText
  rw [redeclares.same]

theorem lint_eq (redeclares : program.Redeclares other) : program.lint = other.lint := by
  -- The reports are not compared item by item: what they hold and in which order is settled.
  have length := redeclares.paired.length_eq
  by_cases empty : program.instructions = []
  next =>
    have empty' : other.instructions = [] := by
      rw [← List.length_eq_zero_iff, ← length, empty, List.length_nil]
    rw [lint_of_empty empty, lint_of_empty empty']
  next =>
    have filled' : other.instructions ≠ [] := by
      rwa [← List.length_pos_iff, ← length, List.length_pos_iff]
    have errors : program.lint.1 = other.lint.1 := by
      rw [lint_errors, lint_errors,
        (redeclares.blankLoads (blankLoads_listed program)).unique (blankLoads_listed other)]
    have warnings : program.lint.2 = other.lint.2 := by
      obtain ⟨names, uses, remaining, about, leaves, same⟩ := exists_warnings empty
      obtain ⟨names', uses', remaining', about', leaves', same'⟩ := exists_warnings filled'
      obtain ⟨rfl, rfl⟩ := (redeclares.aboutAssets about).unique about'
      obtain rfl := (redeclares.leavesBehind leaves).unique leaves'
      rw [same, same', redeclares.repeatedText_eq]
    exact Prod.ext errors warnings

end Redeclares

/-- Every program is linted as described, whatever its instructions are. -/
theorem lint_exact (program : Program) : program.IsLinted := by
  constructor
  case errors => exact ⟨_, blankLoads_listed program, lint_errors program⟩
  case empty => exact lint_of_empty
  case filled => exact exists_warnings
  case appended =>
    exact fun other =>
      ⟨_, blankLoads_listed other, lint_errors other, lint_errors_append program other⟩

/-- The warnings about assets are those that the declared names ask for, and nothing that lint says
tells where or in which order names are declared. -/
theorem asset_warnings_exact (program : Program) :
    (program.instructions ≠ [] → ∃ names uses remaining,
        program.AboutAssets names uses ∧ program.LeavesBehind remaining ∧
          program.lint.2 =
            names.map program.repeatedText ++ uses.map undeclaredText ++ remaining) ∧
      ∀ other, program.Redeclares other → program.lint = other.lint :=
  ⟨exists_warnings, fun _ redeclares => redeclares.lint_eq⟩

def scenery : Program :=
  ⟨[.assets ["hill", "lake"], .background "sea", .assets ["lake", "hill", "lake"]]⟩

def rearranged : Program :=
  ⟨[.assets ["lake", "lake", "lake"], .background "sea", .assets ["hill", "hill"]]⟩

theorem scenery_rearranged : scenery.instructions ≠ [] ∧ scenery.Redeclares rearranged ∧
    scenery.lint = rearranged.lint := by
  have redeclares : scenery.Redeclares rearranged := by
    constructor
    case paired =>
      exact .cons (.inr ⟨_, _, rfl, rfl⟩) (.cons (.inl rfl) (.cons (.inr ⟨_, _, rfl, rfl⟩) .nil))
    case same =>
      -- As lists the names are rearranged, which can be decided.
      rw [declaredNames_eq, declaredNames_eq]
      exact Quot.sound (by decide)
  exact ⟨by simp [scenery], redeclares, (asset_warnings_exact scenery).2 rearranged redeclares⟩

example : scenery.lint = ([], ["Asset 'hill' is declared 2 times.".toList,
    "Asset 'lake' is declared 3 times.".toList,
    "Instruction 2: background 'sea' is not declared in Assets.".toList]) := by
  decide +kernel

end Program

end SceneScript
