import Mathlib.Data.List.Infix
import SceneScript.Glob.Search
import SceneScript.Proofs.Following
import SceneScript.Proofs.Rows

set_option autoImplicit false

namespace SceneScript

/-- No character of it means anything in a search pattern. -/
def IsPlain (text : Text) : Prop := ∀ c ∈ text, c ≠ '*' ∧ c ≠ '?' ∧ c ≠ '[' ∧ c ≠ '/'

namespace Wild

theorem suffixes_eq_tails (text : Text) : suffixes text = text.tails := by
  induction text with
  | nil => rfl
  | cons c rest ih => simp [suffixes, ih]

theorem mem_suffixes {rest text : Text} : rest ∈ suffixes text ↔ rest <:+ text := by
  rw [suffixes_eq_tails, List.mem_tails]

theorem mem_foldl_advance {rests : List Text} {text rest : Text} :
    rest ∈ (text.map exactly).foldl advance rests ↔ text ++ rest ∈ rests := by
  induction text generalizing rests with
  | nil => simp
  | cons c text ih =>
      rw [List.map_cons, List.foldl_cons, ih]
      simp only [advance, List.mem_filterMap, List.cons_append]
      constructor
      · rintro ⟨behind, held, taken⟩
        cases behind with
        | nil => simp [without?] at taken
        | cons first others =>
            simp only [without?, accepts, decide_eq_true_eq, Option.ite_none_right_eq_some,
              Option.some.injEq] at taken
            rwa [← taken.1, ← taken.2]
      · exact fun held => ⟨_, held, by simp [without?, accepts]⟩

theorem fits_ending {ending name : Text} :
    fits (run :: ending.map exactly) name = true ↔ ending <:+ name := by
  have begun : advance [name] run = suffixes name := rfl
  rw [fits, List.foldl_cons, begun, List.any_eq_true]
  simp [mem_foldl_advance, mem_suffixes]

theorem ofText_plain {text : Text} (plain : IsPlain text) : ofText text = text.map exactly := by
  induction text with
  | nil => simp [ofText]
  | cons c rest ih =>
      obtain ⟨apart, behind⟩ := List.forall_mem_cons.mp plain
      rw [ofText, ih behind, List.map_cons] <;> simp [apart]

end Wild

namespace Glob

theorem stageOf_star {ending : Text} (plain : IsPlain ending) :
    stageOf ('*' :: ending) = .ok (.matching (.run :: ending.map .exactly)) := by
  have starless : '*' ∉ ending := fun held => (plain _ held).1 rfl
  have single : '*' :: ending ≠ twoStars := by
    intro same
    obtain ⟨-, rfl⟩ := List.cons.inj same
    simp at starless
  have apart : (Wild.suffixes ('*' :: ending)).any twoStars.isPrefixOf = false := by
    rw [List.any_eq_false]
    intro rest held doubled
    obtain ⟨behind, rfl⟩ := List.isPrefixOf_iff_prefix.mp doubled
    -- Of two stars in a row the second one stands in the ending.
    rcases List.suffix_cons_iff.mp (Wild.mem_suffixes.mp held) with same | inside
    · obtain ⟨-, rfl⟩ := List.cons.inj same
      simp at starless
    · exact starless (inside.subset (by simp [twoStars]))
  have magic : Wild.isMagic ('*' :: ending) = true := by simp [Wild.isMagic]
  simp [stageOf, single, apart, magic, Wild.ofText, Wild.ofText_plain plain]

theorem ofText_star {ending : Text} (plain : IsPlain ending) :
    ofText ('*' :: ending) = .ok ⟨[.matching (.run :: ending.map .exactly)], false⟩ := by
  have slashless : '/' ∉ '*' :: ending := by
    simpa using fun held => (plain _ held).2.2.2 rfl
  have parts : Path.partsOf ('*' :: ending) = ['*' :: ending] := by
    simp [Path.partsOf, Text.split_eq_splitOn, List.splitOn_eq_singleton slashless]
  have level : endsInSlash ('*' :: ending) = false :=
    decide_eq_false fun last => slashless (List.mem_of_getLast? last)
  simp [ofText, parts, level, List.mapM_cons, stageOf_star plain]

variable {wilds : List Wild}

theorem mem_directoriesFrom {tree : FileTree} {place other : Place} :
    other ∈ tree.directoriesFrom place ↔ place <+: other ∧ tree.isDirectory other = true := by
  simp only [FileTree.directoriesFrom, List.mem_map, List.mem_filter, Bool.and_eq_true,
    decide_eq_true_eq, List.isPrefixOf_iff_prefix, Prod.exists, FileTree.isDirectory_iff,
    FileTree.lookup_eq_some_iff]
  constructor
  · rintro ⟨_, _, ⟨held, rfl, below⟩, rfl⟩
    exact ⟨below, held⟩
  · rintro ⟨below, held⟩
    exact ⟨other, _, ⟨held, rfl, below⟩, rfl⟩

theorem mem_children {tree : FileTree} {place : Place} {name : Text} {entry : Entry} :
    (name, entry) ∈ tree.children place ↔ tree.lookup (place ++ [name]) = some entry := by
  simp only [FileTree.children, List.mem_filterMap, FileTree.lookup_eq_some_iff]
  constructor
  · rintro ⟨⟨other, found⟩, held, child⟩
    split at child
    next last final =>
      simp only [Option.ite_none_right_eq_some, Option.some.injEq, Prod.mk.injEq] at child
      obtain ⟨rfl, rfl, rfl⟩ := child
      rwa [List.dropLast_append_getLast? _ final]
    next => simp at child
  · exact fun held => ⟨_, held, by simp⟩

theorem flatten_mapM {α β ε : Type} {step : α → Except ε (List β)} {yield : α → List β}
    (taken : step = fun item => .ok (yield item)) (items : List α) :
    (do return (← items.mapM step).flatten : Except ε (List β)) = .ok (items.flatMap yield) := by
  have all : items.mapM step = .ok (items.map yield) := taken ▸ List.mapM_pure
  rw [all, List.flatMap_def]
  rfl

def fittingIn (tree : FileTree) (wilds : List Wild) (found : Found) : List Found :=
  ((tree.children found.place).filter fun child => Wild.fits wilds child.1).map
    fun child => found.down [child.1]

theorem select_matching (workspace : Workspace) (wilds : List Wild) :
    select workspace false [.matching wilds] = fun found =>
      .ok (fittingIn workspace.tree wilds found) := by
  funext found
  have fitting : (workspace.tree.children found.place).filterMap (fun child =>
      if Wild.fits wilds child.1 then some (found.down [child.1]) else none) =
      fittingIn workspace.tree wilds found := by
    rw [fittingIn, ← List.filterMap_eq_map, List.filterMap_filter]
    rfl
  have last : select workspace false [] = fun item => .ok [item] := rfl
  rw [select, pure_bind]
  refine (flatten_mapM last _).trans ?_
  simpa using fitting

theorem select_anyDepth (workspace : Workspace) (wilds : List Wild) (base : Place) :
    select workspace false [.anyDepth, .matching wilds] ⟨base, base⟩ =
      .ok ((workspace.tree.directoriesFrom base).flatMap fun above =>
        fittingIn workspace.tree wilds ⟨above, above⟩) := by
  have spelled : (workspace.tree.directoriesFrom base).map (fun above =>
      (Found.mk base base).down (above.drop base.length)) =
      (workspace.tree.directoriesFrom base).map fun above => ⟨above, above⟩ := by
    refine List.map_congr_left fun above held => ?_
    obtain ⟨rest, rfl⟩ := (mem_directoriesFrom.mp held).1
    simp [Found.down]
  rw [select, pure_bind]
  refine (flatten_mapM (select_matching workspace wilds) _).trans ?_
  rw [spelled, List.flatMap_map]

theorem mem_fittingIn {tree : FileTree} {above : Place} {item : Found} :
    item ∈ fittingIn tree wilds ⟨above, above⟩ ↔
      ∃ name, item = ⟨above ++ [name], above ++ [name]⟩ ∧ tree.lookup (above ++ [name]) ≠ none ∧
        Wild.fits wilds name = true := by
  simp only [fittingIn, List.mem_map, List.mem_filter, Prod.exists, mem_children,
    Option.ne_none_iff_exists']
  constructor
  · rintro ⟨name, entry, ⟨known, fits⟩, rfl⟩
    exact ⟨name, rfl, ⟨entry, known⟩, fits⟩
  · rintro ⟨name, rfl, ⟨entry, known⟩, fits⟩
    exact ⟨name, entry, ⟨known, fits⟩, rfl⟩

theorem search_matching (workspace : Workspace) (base : Place) (wilds : List Wild) :
    ∃ found, (Glob.mk [.matching wilds] false).search workspace base = .ok found ∧
      ∀ path, path ∈ found ↔ path.anchor = .root ∧ ∃ above name, path.parts = above ++ [name] ∧
        base <+: above ∧ workspace.tree.lookup path.parts ≠ none ∧ Wild.fits wilds name = true := by
  by_cases directory : workspace.tree.isDirectory base = true
  next =>
    refine ⟨_, by simp only [search, directory, select_anyDepth, ↓reduceIte]; rfl, fun path => ?_⟩
    simp only [List.mem_map, List.mem_flatMap, mem_directoriesFrom, mem_fittingIn]
    constructor
    · rintro ⟨_, ⟨above, ⟨below, _⟩, name, rfl, there, fits⟩, rfl⟩
      exact ⟨rfl, above, name, rfl, below, there, fits⟩
    · obtain ⟨anchor, parts⟩ := path
      rintro ⟨rfl, above, name, rfl, below, there, fits⟩
      have inside := FileTree.isDirectory_of_below there (List.cons_ne_nil name [])
      exact ⟨_, ⟨above, ⟨below, inside⟩, name, rfl, there, fits⟩, rfl⟩
  next =>
    refine ⟨[], by simp [search, directory, pure, Except.pure], fun path => ?_⟩
    simp only [List.not_mem_nil, false_iff]
    rintro ⟨-, above, name, split, ⟨rest, rfl⟩, there, -⟩
    rw [split, List.append_assoc] at there
    exact directory (FileTree.isDirectory_of_below there (by simp))

end Glob

end SceneScript
