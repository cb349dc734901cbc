import SceneScript.Proofs.Respelling

set_option autoImplicit false

namespace SceneScript

namespace ScriptSettings

variable {workspace : Workspace} {root : Path} {extension : Text} {paths others : List Text}
  {one other configured outer : Text} {place : Place}

def listing (workspace : Workspace) (root : Path) (extension : Text) (paths : List Text) :
    Option (List Path) :=
  (discover workspace root ⟨paths, extension⟩).toOption

def IsMissing (workspace : Workspace) (root : Path) (configured : Text) : Prop :=
  workspace.tree.lookup (target workspace root configured).parts = none

def IsInside (workspace : Workspace) (root : Path) (configured outer : Text) : Prop :=
  (target workspace root outer).parts <+: (target workspace root configured).parts

/-- A listing that depends on the configured places only. -/
structure ByPlace (workspace : Workspace) (root : Path)
    (list : List Text → Option (List Path)) : Prop where
  ascends : ∀ paths found, list paths = some found →
    found.Pairwise fun one other => one.parts < other.parts
  -- As long as nothing in the tree has a name or a path that is too long.
  breaks : ∀ paths, list paths = none ↔ ∃ configured ∈ paths, Refused workspace root configured
  unordered : ∀ paths others, (∀ configured, configured ∈ paths ↔ configured ∈ others) →
    list paths = list others
  respelled : ∀ paths others, List.Forall₂ (SamePlace workspace root) paths others →
    list paths = list others
  spellings : Respellings workspace root (SamePlace workspace root)
  missing : ∀ front configured back, IsMissing workspace root configured →
    ¬ Refused workspace root configured → list (front ++ configured :: back) = list (front ++ back)
  inside : ∀ front configured back, ∀ outer ∈ front ++ back,
    IsInside workspace root configured outer → ¬ Refused workspace root configured →
      list (front ++ configured :: back) = list (front ++ back)
  joined : ∀ paths others found more, list paths = some found → list others = some more →
    ∃ both, list (paths ++ others) = some both ∧
      ∀ path, path ∈ both ↔ path ∈ found ∨ path ∈ more

theorem refused_congr (same : SamePlace workspace root one other) :
    Refused workspace root one ↔ Refused workspace root other := by
  simp only [SamePlace, resolved?] at same
  rw [Refused, Refused]
  split at same <;> split at same
  next held held' => simp [held, held']
  next => cases same
  next => cases same
  next free free' => simp [free, free', Option.some.inj same]

theorem target_congr (same : SamePlace workspace root one other)
    (taken : ¬ Refused workspace root one) :
    target workspace root one = target workspace root other := by
  have free := (not_or.mp taken).1
  have free' := (not_or.mp fun refused => taken ((refused_congr same).mpr refused)).1
  simpa [SamePlace, resolved?, free, free'] using same

theorem liesBelow_congr (same : SamePlace workspace root one other)
    (taken : ¬ Refused workspace root one) :
    LiesBelow workspace root one place ↔ LiesBelow workspace root other place := by
  rw [LiesBelow, LiesBelow, target_congr same taken]

theorem liesBelow_of_inside (inside : IsInside workspace root configured outer)
    (below : LiesBelow workspace root configured place) :
    LiesBelow workspace root outer place := by
  obtain ⟨there, above, apart⟩ := below
  refine ⟨?_, inside.trans above, ?_⟩
  · obtain ⟨names, whole⟩ := inside
    intro absent
    exact there (whole ▸ FileTree.lookup_below_of_absent absent names)
  · -- The outer place is no script of its own, so the inner one is not it either.
    intro same
    rw [IsInside, same] at inside
    exact apart (above.eq_of_length_le inside.length_le)

theorem isFound_iff {path : Path} : IsFound workspace root ⟨paths, extension⟩ path ↔
    (path.anchor = .root ∧ workspace.tree.lookup path.parts ≠ none ∧ extension <:+ path.name) ∧
      ∃ configured ∈ paths, LiesBelow workspace root configured path.parts := by
  constructor
  · exact fun found => ⟨⟨found.anchored, found.present, found.named⟩, found.below⟩
  · exact fun ⟨⟨anchored, present, named⟩, below⟩ => ⟨anchored, present, named, below⟩

theorem isFound_append {path : Path} :
    IsFound workspace root ⟨paths ++ others, extension⟩ path ↔
      IsFound workspace root ⟨paths, extension⟩ path ∨
        IsFound workspace root ⟨others, extension⟩ path := by
  simp only [isFound_iff, List.mem_append, or_and_right, exists_or, and_or_left]

theorem exists_of_paired {Paired : Text → Text → Prop} {Holds Holds' : Text → Prop}
    (paired : List.Forall₂ Paired paths others)
    (transfers : ∀ one ∈ paths, ∀ other, Paired one other → (Holds one ↔ Holds' other)) :
    (∃ one ∈ paths, Holds one) ↔ ∃ other ∈ others, Holds' other := by
  induction paired with
  | nil => simp
  | cons same _ ih =>
      obtain ⟨first, later⟩ := List.forall_mem_cons.mp transfers
      simp [first _ same, ih later]

section Listing

variable (plain : IsPlain extension) (real : ∀ name ∈ workspace.directory, '\x00' ∉ name)
include real

theorem listing_of_refused (asked : configured ∈ paths)
    (refused : Refused workspace root configured) :
    listing workspace root extension paths = none := by
  obtain ⟨breakdown, stopped⟩ := discover_of_refused ⟨paths, extension⟩ real asked refused
  rw [listing, stopped]
  rfl

include plain

theorem listing_of_taken (taken : ∀ configured ∈ paths, ¬ Refused workspace root configured) :
    ∃ items : List Path, listing workspace root extension paths =
        some ((ascending (items.map Path.parts)).map (Path.mk .root)) ∧
      ∀ path, path ∈ items ↔ IsFound workspace root ⟨paths, extension⟩ path := by
  obtain ⟨items, discovered, yields⟩ :=
    @discover_of_taken workspace root ⟨paths, extension⟩ plain real taken
  refine ⟨items, ?_, yields⟩
  rw [listing, discovered]
  rfl

theorem listing_eq_none_iff : listing workspace root extension paths = none ↔
    ∃ configured ∈ paths, Refused workspace root configured := by
  constructor
  · intro broken
    refine Classical.byContradiction fun taken => ?_
    obtain ⟨items, listed, -⟩ := listing_of_taken plain real fun configured asked refused =>
      taken ⟨configured, asked, refused⟩
    rw [listed] at broken
    cases broken
  · rintro ⟨configured, asked, refused⟩
    exact listing_of_refused real asked refused

theorem exists_of_listing {found : List Path}
    (listed : listing workspace root extension paths = some found) :
    ∃ items : List Path, found = (ascending (items.map Path.parts)).map (Path.mk .root) ∧
      ∀ path, path ∈ items ↔ IsFound workspace root ⟨paths, extension⟩ path := by
  have taken : ∀ configured ∈ paths, ¬ Refused workspace root configured := by
    intro configured asked refused
    rw [listing_of_refused real asked refused] at listed
    cases listed
  obtain ⟨items, known, yields⟩ := listing_of_taken plain real taken
  exact ⟨items, Option.some.inj (listed.symm.trans known), yields⟩

theorem mem_of_listing {found : List Path}
    (listed : listing workspace root extension paths = some found) (path : Path) :
    path ∈ found ↔ IsFound workspace root ⟨paths, extension⟩ path := by
  obtain ⟨items, rfl, yields⟩ := exists_of_listing plain real listed
  simp only [List.mem_map, mem_ascending]
  constructor
  · rintro ⟨parts, ⟨item, held, rfl⟩, rfl⟩
    have known := (yields item).mp held
    exact ⟨rfl, known.present, known.named, known.below⟩
  · exact fun known => ⟨path.parts, ⟨path, (yields path).mpr known, rfl⟩, by rw [← known.anchored]⟩

theorem pairwise_of_listing {found : List Path}
    (listed : listing workspace root extension paths = some found) :
    found.Pairwise fun one other => one.parts < other.parts := by
  obtain ⟨items, rfl, -⟩ := exists_of_listing plain real listed
  exact List.pairwise_map.mpr (pairwise_ascending _)

theorem listing_congr
    (refused : (∃ configured ∈ paths, Refused workspace root configured) ↔
      ∃ configured ∈ others, Refused workspace root configured)
    -- Places are compared only where nothing is refused: a refused path leads somewhere too.
    (below : (∀ configured ∈ paths, ¬ Refused workspace root configured) → ∀ place,
      (∃ configured ∈ paths, LiesBelow workspace root configured place) ↔
        ∃ configured ∈ others, LiesBelow workspace root configured place) :
    listing workspace root extension paths = listing workspace root extension others := by
  by_cases broken : ∃ configured ∈ paths, Refused workspace root configured
  next =>
    rw [(listing_eq_none_iff plain real).mpr broken,
      (listing_eq_none_iff plain real).mpr (refused.mp broken)]
  next =>
    have taken : ∀ configured ∈ paths, ¬ Refused workspace root configured :=
      fun configured asked refuses => broken ⟨configured, asked, refuses⟩
    have taken' : ∀ configured ∈ others, ¬ Refused workspace root configured :=
      fun configured asked refuses => broken (refused.mpr ⟨configured, asked, refuses⟩)
    obtain ⟨items, listed, yields⟩ := listing_of_taken plain real taken
    obtain ⟨items', listed', yields'⟩ := listing_of_taken plain real taken'
    have same (path : Path) : path ∈ items ↔ path ∈ items' := by
      rw [yields, yields', isFound_iff, isFound_iff, below taken]
    have members (parts : List Text) :
        parts ∈ items.map Path.parts ↔ parts ∈ items'.map Path.parts := by
      simp only [List.mem_map, same]
    rw [listed, listed', ascending_congr members]

theorem listing_insert {front back : List Text} (taken : ¬ Refused workspace root configured)
    (covered : ∀ place, LiesBelow workspace root configured place →
      ∃ outer ∈ front ++ back, LiesBelow workspace root outer place) :
    listing workspace root extension (front ++ configured :: back) =
      listing workspace root extension (front ++ back) := by
  have more (Holds : Text → Prop) : (∃ path ∈ front ++ configured :: back, Holds path) ↔
      Holds configured ∨ ∃ path ∈ front ++ back, Holds path := by
    simp [or_and_right, exists_or, or_left_comm]
  refine listing_congr plain real ?_ fun _ place => ?_
  · rw [more, or_iff_right taken]
  · rw [more, or_iff_right_of_imp (covered place)]

end Listing

/-- Discovery depends only on the places that are configured, as long as the file system takes the
paths to them. -/
theorem listing_byPlace (plain : IsPlain extension)
    (real : ∀ name ∈ workspace.directory, '\x00' ∉ name) :
    ByPlace workspace root (listing workspace root extension) := by
  constructor
  case ascends => exact fun _ _ => pairwise_of_listing plain real
  case breaks => exact fun _ => listing_eq_none_iff plain real
  case unordered =>
    intro paths others same
    exact listing_congr plain real (by simp [same]) fun _ _ => by simp [same]
  case respelled =>
    intro paths others paired
    refine listing_congr plain real ?_ fun taken place => ?_
    · exact exists_of_paired paired fun _ _ _ => refused_congr
    · exact exists_of_paired paired fun one asked _ same => liesBelow_congr same (taken one asked)
  case spellings => exact respellings real
  case missing =>
    intro front configured back missing taken
    exact listing_insert plain real taken fun _ below => absurd missing below.1
  case inside =>
    intro front configured back outer asked inside taken
    exact listing_insert plain real taken fun _ below =>
      ⟨outer, asked, liesBelow_of_inside inside below⟩
  case joined =>
    intro paths others found more listed listed'
    cases result : listing workspace root extension (paths ++ others) with
    | none =>
        obtain ⟨configured, asked, refused⟩ := (listing_eq_none_iff plain real).mp result
        rcases List.mem_append.mp asked with asked | asked
        · simp [listing_of_refused real asked refused] at listed
        · simp [listing_of_refused real asked refused] at listed'
    | some both =>
        refine ⟨both, rfl, fun path => ?_⟩
        rw [mem_of_listing plain real result, mem_of_listing plain real listed,
          mem_of_listing plain real listed', isFound_append]

theorem namesakes_listed_by_place :
    IsPlain usual.extension ∧ (∀ name ∈ namesakes.directory, '\x00' ∉ name) ∧
      ByPlace namesakes ⟨.root, []⟩ (listing namesakes ⟨.root, []⟩ usual.extension) := by
  have plain : IsPlain usual.extension := by
    simp [IsPlain, usual, Manifest.defaultExtension]
  have real : ∀ name ∈ namesakes.directory, '\x00' ∉ name := by simp [namesakes]
  exact ⟨plain, real, listing_byPlace plain real⟩

def oneScript : Workspace := ⟨FileTree.empty.addFile ["scripts", "a.kat"] [], []⟩

def longName : Text := List.replicate 256 'a'

theorem listing_broken_by_missing_place :
    IsMissing oneScript ⟨.root, []⟩ longName ∧
      listing oneScript ⟨.root, []⟩ usual.extension ["scripts/"] =
        some [⟨.root, ["scripts", "a.kat"]⟩] ∧
      discover oneScript ⟨.root, []⟩ ⟨["scripts/", longName], usual.extension⟩ =
        .error (.access ⟨.nameTooLong, ⟨.root, [longName]⟩⟩) := by
  unfold IsMissing
  decide +kernel

end ScriptSettings

end SceneScript
