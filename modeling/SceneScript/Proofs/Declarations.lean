import Mathlib.Algebra.BigOperators.Group.List.Basic
import Mathlib.Data.Multiset.Count
import Mathlib.Data.Multiset.AddSub
import SceneScript.Proofs.Ascending
import SceneScript.Proofs.Findings

set_option autoImplicit false

namespace SceneScript

structure Use where
  index : Nat
  kind : Text
  name : Text

def Instruction.use? (index : Nat) (instruction : Instruction) : Option Use :=
  instruction.asset?.map fun name => ⟨index, instruction.keyword.tag, name⟩

namespace Program

variable {program : Program}

def declaredNames (program : Program) : Multiset Text :=
  ((program.ofKind .assets).map fun instruction => (instruction.parameters : Multiset Text)).sum

inductive Uses (program : Program) : Use → Prop where
  | background {index : Nat} {name : Text} (stands : program.StandsAt index (.background name)) :
      Uses program ⟨index, "background", name⟩
  | play {index : Nat} {name : Text} (stands : program.StandsAt index (.play name)) :
      Uses program ⟨index, "play", name⟩

def repeatedText (program : Program) (name : Text) : Text :=
  "Asset '" ++ name ++ "' is declared " ++ Text.ofNat (program.declaredNames.count name) ++ " times."

def undeclaredText (use : Use) : Text :=
  "Instruction " ++ Text.ofNat use.index ++ ": " ++ use.kind ++ " '" ++ use.name ++
    "' is not declared in Assets."

structure AboutAssets (program : Program) (names : List Text) (uses : List Use) : Prop where
  sorted : names.Pairwise (· < ·)
  repeated : ∀ name, name ∈ names ↔ 2 ≤ program.declaredNames.count name
  ordered : uses.Pairwise fun one other => one.index < other.index
  undeclared : ∀ use, use ∈ uses ↔
    program.declaredNames ≠ 0 ∧ program.Uses use ∧ use.name ∉ program.declaredNames

theorem message_declaredAgain (program : Program) (name : Text) :
    (Finding.declaredAgain name (program.declaredNames.count name)).message =
      program.repeatedText name :=
  rfl

theorem message_undeclared (index : Nat) (keyword : Keyword) (name : Text) :
    (Finding.undeclared index keyword name).message = undeclaredText ⟨index, keyword.tag, name⟩ :=
  rfl

theorem declaredNames_eq (program : Program) : program.declaredNames = program.declared := by
  obtain ⟨instructions⟩ := program
  induction instructions with
  | nil => rfl
  | cons first rest ih =>
      simp only [declaredNames, declared, ofKind] at ih ⊢
      cases first with
      | assets names => simp_all [Instruction.keyword, Instruction.declares, Instruction.parameters]
      | _ => simpa [Instruction.keyword, Instruction.declares] using ih

theorem count_declaredNames (program : Program) (name : Text) :
    program.declaredNames.count name = program.declared.count name := by
  rw [declaredNames_eq, Multiset.coe_count]
  congr!

def repeatedNames (program : Program) : List Text :=
  (ascending program.declared).filter fun name => 1 < program.declared.count name

theorem repeatedAssets_eq (program : Program) : program.repeatedAssets =
    program.repeatedNames.map fun name => .declaredAgain name (program.declared.count name) := by
  rw [repeatedAssets, repeatedNames, List.filterMap_map, ← List.filterMap_eq_filter,
    List.map_filterMap]
  congr 1
  funext name
  by_cases repeated : 1 < program.declared.count name <;> simp [Option.guard, repeated]

theorem messages_repeatedAssets (program : Program) :
    program.repeatedAssets.map Finding.message =
      program.repeatedNames.map program.repeatedText := by
  simp only [repeatedAssets_eq, List.map_map, Function.comp_def, ← count_declaredNames,
    message_declaredAgain]

theorem mem_repeatedNames {name : Text} :
    name ∈ program.repeatedNames ↔ 2 ≤ program.declared.count name := by
  rw [repeatedNames, List.mem_filter, mem_ascending, decide_eq_true_eq]
  constructor
  · exact And.right
  · exact fun repeated => ⟨List.count_pos_iff.mp (by omega), repeated⟩

def allUses (program : Program) : List Use :=
  program.numbered.filterMap fun (instruction, index) => instruction.use? index

theorem mem_allUses {use : Use} : use ∈ program.allUses ↔ program.Uses use := by
  simp only [allUses, List.mem_filterMap, Prod.exists, mem_numbered]
  constructor
  · rintro ⟨instruction, index, stands, used⟩
    cases instruction with
    | background name =>
        obtain rfl := by simpa [Instruction.use?, Instruction.asset?] using used
        exact .background stands
    | play track =>
        obtain rfl := by simpa [Instruction.use?, Instruction.asset?] using used
        exact .play stands
    | _ => cases used
  · rintro (stands | stands)
    · exact ⟨_, _, stands, rfl⟩
    · exact ⟨_, _, stands, rfl⟩

theorem pairwise_allUses (program : Program) :
    program.allUses.Pairwise fun one other => one.index < other.index := by
  refine (pairwise_numbered program).filterMap _ ?_
  rintro ⟨first, index⟩ ⟨second, index'⟩ before use used use' used'
  obtain ⟨_, -, rfl⟩ := Option.map_eq_some_iff.mp used
  obtain ⟨_, -, rfl⟩ := Option.map_eq_some_iff.mp used'
  exact before

def undeclaredUses (program : Program) : List Use :=
  if program.declared = [] then []
  else program.allUses.filter fun use => !program.declared.contains use.name

theorem messages_undeclaredAssets (program : Program) :
    program.undeclaredAssets.map Finding.message = program.undeclaredUses.map undeclaredText := by
  rw [undeclaredAssets, undeclaredUses]
  split
  next => rfl
  next =>
    rw [allUses, List.filter_filterMap, List.map_filterMap, List.map_filterMap]
    congr 1
    funext entry
    obtain ⟨instruction, index⟩ := entry
    cases named : instruction.asset? with
    | none => simp [Instruction.use?, named]
    | some name =>
        by_cases declared : name ∈ program.declared
        next => simp [Instruction.use?, named, declared, Option.filter]
        next => simp [Instruction.use?, named, declared, Option.filter, message_undeclared]

theorem mem_undeclaredUses {use : Use} : use ∈ program.undeclaredUses ↔
    program.declared ≠ [] ∧ program.Uses use ∧ use.name ∉ program.declared := by
  rw [undeclaredUses]
  split
  next empty => simp [empty]
  next filled => simp [filled, mem_allUses]

theorem aboutAssets (program : Program) :
    program.AboutAssets program.repeatedNames program.undeclaredUses := by
  constructor
  case sorted => exact (pairwise_ascending _).filter _
  case repeated =>
    intro name
    rw [mem_repeatedNames, count_declaredNames]
  case ordered =>
    rw [undeclaredUses]
    split
    next => exact .nil
    next => exact (pairwise_allUses program).filter _
  case undeclared =>
    intro use
    rw [mem_undeclaredUses, declaredNames_eq, Multiset.mem_coe, ne_eq, ne_eq, Multiset.coe_eq_zero]

theorem AboutAssets.unique {names names' : List Text} {uses uses' : List Use}
    (about : program.AboutAssets names uses) (about' : program.AboutAssets names' uses') :
    names = names' ∧ uses = uses' := by
  constructor
  · refine about.sorted.eq_of_mem_iff about'.sorted fun name => ?_
    rw [about.repeated, about'.repeated]
  · refine about.ordered.eq_of_mem_iff about'.ordered fun use => ?_
    rw [about.undeclared, about'.undeclared]

end Program

end SceneScript
