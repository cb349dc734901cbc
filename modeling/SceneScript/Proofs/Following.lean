import Mathlib.Data.List.Induction
import SceneScript.FileTree

set_option autoImplicit false

namespace SceneScript

theorem Text.mem_intercalate {separator c : Char} (apart : c ≠ separator) (texts : List Text) :
    c ∈ List.intercalate [separator] texts ↔ ∃ text ∈ texts, c ∈ text := by
  induction texts with
  | nil => simp
  | cons first others ih =>
      cases others with
      | nil => simp
      | cons second others =>
          rw [List.intercalate_cons_cons, List.mem_append, List.mem_append, ih]
          simp [apart]

namespace Path

theorem notMem_toText_iff {c : Char} (letter : c ≠ '.') (apart : c ≠ '/') (path : Path) :
    c ∉ path.toText ↔ ∀ part ∈ path.parts, c ∉ part := by
  obtain ⟨anchor, parts⟩ := path
  have joined := Text.mem_intercalate apart parts
  cases anchor <;> cases parts <;> simp_all [toText, anchorText]

theorem mem_resolveParts {name : Text} {names : List Text} (held : name ∈ resolveParts names) :
    name ∈ names ∧ name ≠ FileTree.parentName := by
  induction names using List.reverseRecOn with
  | nil => simp [resolveParts] at held
  | append_singleton names last ih =>
      rw [resolveParts, List.foldl_append, List.foldl_cons, List.foldl_nil, ← resolveParts] at held
      split at held
      next =>
        have known := ih (List.dropLast_subset _ held)
        exact ⟨List.mem_append_left _ known.1, known.2⟩
      next other =>
        rcases List.mem_append.mp held with held | held
        · exact ⟨List.mem_append_left _ (ih held).1, (ih held).2⟩
        · obtain rfl := List.mem_singleton.mp held
          exact ⟨by simp, other⟩

end Path

namespace FileTree

variable {tree : FileTree} {place : Place} {name : Text} {names rest : List Text}

theorem isDirectory_iff : tree.isDirectory place = true ↔ tree.lookup place = some .directory := by
  simp [isDirectory]

theorem lookup_root (tree : FileTree) : tree.lookup [] = some .directory :=
  (tree.lookup_eq_some_iff ..).mpr tree.rooted

theorem isDirectory_of_below (there : tree.lookup (place ++ names) ≠ none) (below : names ≠ []) :
    tree.isDirectory place = true := by
  -- A tree is closed one step up at a time, so the induction takes names off the end.
  induction names using List.reverseRecOn with
  | nil => exact absurd rfl below
  | append_singleton names last ih =>
      obtain ⟨entry, known⟩ := Option.ne_none_iff_exists'.mp there
      have directory := tree.closed _ _ ((tree.lookup_eq_some_iff ..).mp known) (by simp)
      rw [← List.append_assoc, List.dropLast_concat, ← lookup_eq_some_iff] at directory
      by_cases direct : names = []
      next =>
        rw [direct, List.append_nil] at directory
        exact isDirectory_iff.mpr directory
      next => exact ih (by simp [directory]) direct

theorem lookup_below_of_absent (absent : tree.lookup place = none) (names : List Text) :
    tree.lookup (place ++ names) = none := by
  cases names with
  | nil => simpa using absent
  | cons name rest =>
      refine Classical.byContradiction fun there => ?_
      simp [isDirectory_iff.mp (isDirectory_of_below there (List.cons_ne_nil name rest))] at absent

def MeetsLongName (tree : FileTree) (place : Place) (names : List Text) : Prop :=
  ∃ above name rest, names = above ++ name :: rest ∧ tree.isDirectory (place ++ above) = true ∧
    longestName < byteLength name

theorem meetsLongName_cons : tree.MeetsLongName place (name :: rest) ↔
    (tree.isDirectory place = true ∧ longestName < byteLength name) ∨
      tree.MeetsLongName (place ++ [name]) rest := by
  constructor
  · rintro ⟨above, other, after, split, directory, long⟩
    cases above with
    | nil =>
        obtain ⟨rfl, rfl⟩ := List.cons.inj split
        exact .inl ⟨by simpa using directory, long⟩
    | cons first above =>
        obtain ⟨rfl, rfl⟩ := List.cons.inj split
        exact .inr ⟨above, other, after, rfl, by simpa using directory, long⟩
  · rintro (⟨directory, long⟩ | ⟨above, other, after, rfl, directory, long⟩)
    · exact ⟨[], name, rest, rfl, by simpa using directory, long⟩
    · exact ⟨name :: above, other, after, rfl, by simpa using directory, long⟩

theorem follow_of_meetsLongName (plain : parentName ∉ names)
    (long : tree.MeetsLongName place names) : tree.follow place names = .error .nameTooLong := by
  induction names generalizing place with
  | nil =>
      obtain ⟨above, _, _, split, _⟩ := long
      simp at split
  | cons name rest ih =>
      rw [List.mem_cons, not_or] at plain
      rcases meetsLongName_cons.mp long with ⟨directory, long⟩ | later
      · simp [follow, directory, Ne.symm plain.1, long]
      · -- What is above the long name is there, so that following gets past this one.
        have ⟨above, _, _, _, directory, _⟩ := later
        have inside : tree.lookup (place ++ ([name] ++ above)) ≠ none := by
          rw [← List.append_assoc, isDirectory_iff.mp directory]
          simp
        have here := isDirectory_of_below inside (by simp)
        have there : tree.lookup (place ++ [name]) ≠ none := by
          intro absent
          rw [← List.append_assoc] at inside
          exact inside (lookup_below_of_absent absent above)
        simp [follow, here, Ne.symm plain.1, there, ih plain.2 later]

theorem follow_of_short (plain : parentName ∉ names) (short : ¬ tree.MeetsLongName place names)
    (there : tree.lookup place ≠ none) :
    (tree.lookup (place ++ names) ≠ none ∧ tree.follow place names = .ok (place ++ names)) ∨
      (tree.lookup (place ++ names) = none ∧
        ∃ fault, tree.follow place names = .error fault ∧ fault ≠ .nameTooLong) := by
  induction names generalizing place with
  | nil => exact .inl ⟨by simpa using there, by simp [follow]⟩
  | cons name rest ih =>
      rw [List.mem_cons, not_or] at plain
      rw [meetsLongName_cons, not_or] at short
      by_cases directory : tree.isDirectory place = true
      next =>
        have fits : ¬ longestName < byteLength name := fun long => short.1 ⟨directory, long⟩
        by_cases absent : tree.lookup (place ++ [name]) = none
        next =>
          have nothing := lookup_below_of_absent absent rest
          rw [List.append_assoc, List.singleton_append] at nothing
          exact .inr ⟨nothing, .notFound,
            by simp [follow, directory, Ne.symm plain.1, fits, absent], by simp⟩
        next =>
          have onward := ih plain.2 short.2 absent
          simp only [List.append_assoc, List.singleton_append] at onward
          simpa [follow, directory, Ne.symm plain.1, fits, absent] using onward
      next =>
        have nothing : tree.lookup (place ++ name :: rest) = none :=
          Classical.byContradiction fun there =>
            directory (isDirectory_of_below there (List.cons_ne_nil name rest))
        exact .inr ⟨nothing, .notDirectory, by simp [follow, directory], by simp⟩

end FileTree

structure Path.IsResolved (path : Path) : Prop where
  rooted : path.anchor = .root
  plain : FileTree.parentName ∉ path.parts
  free : '\x00' ∉ path.toText

namespace Workspace

variable {workspace : Workspace} {path : Path}

def IsTooLong (workspace : Workspace) (path : Path) : Prop :=
  FileTree.longestPath < FileTree.byteLength path.toText ∨
    workspace.tree.MeetsLongName [] path.parts

theorem isResolved_resolve (real : ∀ name ∈ workspace.directory, '\x00' ∉ name)
    (free : '\x00' ∉ path.toText) : (workspace.resolve path).IsResolved where
  rooted := rfl
  plain := fun held => (Path.mem_resolveParts held).2 rfl
  free := by
    refine (Path.notMem_toText_iff (by decide) (by decide) _).mpr fun name held => ?_
    have origin := (Path.mem_resolveParts held).1
    have asked := (Path.notMem_toText_iff (by decide) (by decide) path).mp free
    simp only [Path.join] at origin
    split at origin
    next => exact asked name origin
    next => exact (List.mem_append.mp origin).elim (real name) (asked name)

theorem locate_of_resolved (resolved : path.IsResolved) : workspace.locate path =
    if FileTree.longestPath < FileTree.byteLength path.toText then .error .nameTooLong
    else workspace.tree.follow [] path.parts := by
  simp [locate, resolved.free, Path.isAbsolute, resolved.rooted]

theorem entryIfAny_of_tooLong (resolved : path.IsResolved) (long : workspace.IsTooLong path) :
    workspace.entryIfAny path = .error ⟨.nameTooLong, path⟩ := by
  rcases long with long | meets
  · simp [entryIfAny, entry?, locate_of_resolved resolved, long]
  · simp [entryIfAny, entry?, locate_of_resolved resolved,
      FileTree.follow_of_meetsLongName resolved.plain meets]

theorem entryIfAny_of_short (resolved : path.IsResolved) (short : ¬ workspace.IsTooLong path) :
    workspace.entryIfAny path = .ok (workspace.tree.lookup path.parts) := by
  rw [IsTooLong, not_or] at short
  have root : workspace.tree.lookup [] ≠ none := by simp [FileTree.lookup_root]
  have located : workspace.locate path = workspace.tree.follow [] path.parts :=
    (locate_of_resolved resolved).trans (if_neg short.1)
  rcases FileTree.follow_of_short resolved.plain short.2 root with
    ⟨there, reached⟩ | ⟨nothing, fault, stopped, other⟩
  · rw [List.nil_append] at there reached
    obtain ⟨entry, known⟩ := Option.ne_none_iff_exists'.mp there
    simp [entryIfAny, entry?, located, reached, known]
  · rw [List.nil_append] at nothing
    cases fault with
    | nameTooLong => exact absurd rfl other
    | _ => simp [entryIfAny, entry?, located, stopped, nothing]

end Workspace

end SceneScript
