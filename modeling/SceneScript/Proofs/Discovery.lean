import SceneScript.Discovery
import SceneScript.Proofs.Ascending
import SceneScript.Proofs.Search

set_option autoImplicit false

namespace SceneScript

section Collecting

variable {α β ε : Type} {step : α → Except ε (List β)} {items : List α}

theorem exists_mapM_ok {Yields : α → β → Prop}
    (each : ∀ item ∈ items, ∃ found, step item = .ok found ∧
      ∀ other, other ∈ found ↔ Yields item other) :
    ∃ all, items.mapM step = .ok all ∧
      ∀ other, other ∈ all.flatten ↔ ∃ item ∈ items, Yields item other := by
  induction items with
  | nil => exact ⟨[], rfl, by simp⟩
  | cons item items ih =>
      obtain ⟨⟨found, taken, yields⟩, later⟩ := List.forall_mem_cons.mp each
      obtain ⟨all, others, yielded⟩ := ih later
      refine ⟨found :: all, ?_, by simp [yields, yielded]⟩
      rw [List.mapM_cons, taken, others]
      rfl

theorem exists_mapM_error {item : α} (held : item ∈ items)
    (failed : ∃ error, step item = .error error) : ∃ error, items.mapM step = .error error := by
  induction items with
  | nil => simp at held
  | cons first rest ih =>
      rw [List.mapM_cons]
      cases result : step first with
      | error error => exact ⟨error, rfl⟩
      | ok found =>
          rcases List.mem_cons.mp held with rfl | held
          · simp [result] at failed
          · obtain ⟨error, stopped⟩ := ih held
            rw [stopped]
            exact ⟨error, rfl⟩

end Collecting

namespace ScriptSettings

variable {workspace : Workspace} {root : Path} {settings : ScriptSettings} {configured : Text}

def target (workspace : Workspace) (root : Path) (configured : Text) : Path :=
  workspace.resolve (root.join (Path.ofText configured))

/-- No file system takes the configured path. -/
def Refused (workspace : Workspace) (root : Path) (configured : Text) : Prop :=
  '\x00' ∈ (root.join (Path.ofText configured)).toText ∨
    workspace.IsTooLong (target workspace root configured)

def LiesBelow (workspace : Workspace) (root : Path) (configured : Text) (place : Place) : Prop :=
  workspace.tree.lookup (target workspace root configured).parts ≠ none ∧
    (target workspace root configured).parts <+: place ∧
    (target workspace root configured).parts ≠ place

structure IsFound (workspace : Workspace) (root : Path) (settings : ScriptSettings) (path : Path) :
    Prop where
  anchored : path.anchor = .root
  present : workspace.tree.lookup path.parts ≠ none
  named : settings.extension <:+ path.name
  below : ∃ configured ∈ settings.paths, LiesBelow workspace root configured path.parts

theorem base?_of_refused (real : ∀ name ∈ workspace.directory, '\x00' ∉ name)
    (refused : Refused workspace root configured) :
    ∃ breakdown, base? workspace root configured = .error breakdown := by
  by_cases nul : '\x00' ∈ (root.join (Path.ofText configured)).toText
  next => exact ⟨.access ⟨.embeddedNul, root.join (Path.ofText configured)⟩, if_pos nul⟩
  next =>
    have long := Workspace.entryIfAny_of_tooLong (Workspace.isResolved_resolve real nul)
      (refused.resolve_left nul)
    exact ⟨_, by simp only [base?, nul, ↓reduceIte, long]; rfl⟩

theorem base?_of_taken (real : ∀ name ∈ workspace.directory, '\x00' ∉ name)
    (taken : ¬ Refused workspace root configured) :
    base? workspace root configured =
      .ok (if workspace.tree.lookup (target workspace root configured).parts = none then none
        else some (target workspace root configured).parts) := by
  rw [Refused, not_or] at taken
  have short := Workspace.entryIfAny_of_short (Workspace.isResolved_resolve real taken.1) taken.2
  simp only [base?, taken.1, ↓reduceIte, short, target]
  split
  next failed => cases failed
  next absent =>
    have missing := Except.ok.inj absent
    simp [missing]
  next entry known =>
    have present := Except.ok.inj known
    simp [present]

theorem liesBelow_iff {path : Path} : LiesBelow workspace root configured path.parts ↔
    workspace.tree.lookup (target workspace root configured).parts ≠ none ∧
      ∃ above, path.parts = above ++ [path.name] ∧
        (target workspace root configured).parts <+: above := by
  refine and_congr_right fun _ => ?_
  constructor
  · rintro ⟨⟨rest, whole⟩, apart⟩
    obtain rfl | ⟨between, last, rfl⟩ := List.eq_nil_or_concat' rest
    · exact absurd (by simpa using whole) apart
    · rw [← List.append_assoc] at whole
      exact ⟨_, by simp [Path.name, ← whole], List.prefix_append _ between⟩
  · rintro ⟨above, whole, rest, rfl⟩
    rw [whole, List.append_assoc]
    exact ⟨List.prefix_append _ _, by simp⟩

theorem foundAt_of_taken (settings : ScriptSettings) (plain : IsPlain settings.extension)
    (real : ∀ name ∈ workspace.directory, '\x00' ∉ name)
    (taken : ¬ Refused workspace root configured) :
    ∃ found, foundAt workspace root settings configured = .ok found ∧ ∀ path, path ∈ found ↔
      path.anchor = .root ∧ workspace.tree.lookup path.parts ≠ none ∧
        settings.extension <:+ path.name ∧ LiesBelow workspace root configured path.parts := by
  have base := base?_of_taken real taken
  by_cases absent : workspace.tree.lookup (target workspace root configured).parts = none
  next =>
    rw [if_pos absent] at base
    refine ⟨[], ?_, fun path => ?_⟩
    · rw [foundAt, base]
      rfl
    · simp [LiesBelow, absent]
  next =>
    rw [if_neg absent] at base
    obtain ⟨found, searched, yields⟩ := Glob.search_matching workspace
      (target workspace root configured).parts (.run :: settings.extension.map .exactly)
    refine ⟨found, ?_, fun path => (yields path).trans ?_⟩
    · rw [foundAt, base]
      simp [bind, Except.bind, pattern, Glob.ofText_star plain, searched, pure, Except.pure]
    · rw [liesBelow_iff]
      constructor
      · rintro ⟨rooted, above, name, whole, below, there, fits⟩
        have last : path.name = name := by simp [Path.name, whole]
        exact ⟨rooted, there, last ▸ Wild.fits_ending.mp fits, absent, above, last ▸ whole, below⟩
      · rintro ⟨rooted, there, ends, -, above, whole, below⟩
        exact ⟨rooted, above, _, whole, below, there, Wild.fits_ending.mpr ends⟩

theorem foundAt_of_refused (settings : ScriptSettings)
    (real : ∀ name ∈ workspace.directory, '\x00' ∉ name)
    (refused : Refused workspace root configured) :
    ∃ breakdown, foundAt workspace root settings configured = .error breakdown := by
  obtain ⟨breakdown, failed⟩ := base?_of_refused real refused
  rw [foundAt, failed]
  exact ⟨breakdown, rfl⟩

theorem discover_of_refused (settings : ScriptSettings)
    (real : ∀ name ∈ workspace.directory, '\x00' ∉ name) (asked : configured ∈ settings.paths)
    (refused : Refused workspace root configured) :
    ∃ breakdown, settings.discover workspace root = .error breakdown := by
  obtain ⟨breakdown, stopped⟩ := exists_mapM_error asked (foundAt_of_refused settings real refused)
  rw [discover, stopped]
  exact ⟨breakdown, rfl⟩

theorem discover_of_taken (plain : IsPlain settings.extension)
    (real : ∀ name ∈ workspace.directory, '\x00' ∉ name)
    (taken : ∀ configured ∈ settings.paths, ¬ Refused workspace root configured) :
    ∃ items : List Path, settings.discover workspace root =
        .ok ((ascending (items.map Path.parts)).map (Path.mk .root)) ∧
      ∀ path, path ∈ items ↔ IsFound workspace root settings path := by
  obtain ⟨all, collected, yields⟩ := exists_mapM_ok fun configured asked =>
    foundAt_of_taken settings plain real (taken configured asked)
  refine ⟨all.flatten, ?_, fun path => (yields path).trans ?_⟩
  · rw [discover, collected]
    rfl
  · constructor
    · rintro ⟨configured, asked, rooted, there, ends, below⟩
      exact ⟨rooted, there, ends, configured, asked, below⟩
    · rintro ⟨rooted, there, ends, configured, asked, below⟩
      exact ⟨configured, asked, rooted, there, ends, below⟩

/-- Nothing that is asked for is missed, and discovery stops only at a path that is refused. What
stands in the tree is taken to keep to the limits that paths are refused for. -/
theorem discover_finds (plain : IsPlain settings.extension)
    (real : ∀ name ∈ workspace.directory, '\x00' ∉ name) :
    (∃ found, settings.discover workspace root = .ok found ∧
      (∀ configured ∈ settings.paths, ¬ Refused workspace root configured) ∧
      ∀ path, path ∈ found ↔ IsFound workspace root settings path) ∨
    ∃ breakdown, settings.discover workspace root = .error breakdown ∧
      ∃ configured ∈ settings.paths, Refused workspace root configured := by
  by_cases refused : ∃ configured ∈ settings.paths, Refused workspace root configured
  next =>
    obtain ⟨configured, asked, refused⟩ := refused
    obtain ⟨breakdown, stopped⟩ := discover_of_refused settings real asked refused
    exact .inr ⟨breakdown, stopped, configured, asked, refused⟩
  next =>
    have taken : ∀ configured ∈ settings.paths, ¬ Refused workspace root configured :=
      fun configured asked refuses => refused ⟨configured, asked, refuses⟩
    obtain ⟨items, discovered, yields⟩ := discover_of_taken plain real taken
    refine .inl ⟨_, discovered, taken, fun path => ?_⟩
    simp only [List.mem_map, mem_ascending]
    constructor
    · rintro ⟨parts, ⟨found, held, rfl⟩, rfl⟩
      have known := (yields found).mp held
      exact ⟨rfl, known.present, known.named, known.below⟩
    · exact fun known =>
        ⟨path.parts, ⟨path, (yields path).mpr known, rfl⟩, by rw [← known.anchored]⟩

def namesakes : Workspace :=
  ⟨(FileTree.empty.addFile ["scripts", "a.kat"] []).addFile ["scripts", "dir.kat", "n.txt"] [], []⟩

def usual : ScriptSettings := ⟨Manifest.defaultPaths, Manifest.defaultExtension⟩

theorem namesakes_discovered :
    IsPlain usual.extension ∧ (∀ name ∈ namesakes.directory, '\x00' ∉ name) ∧
      ((∃ found, usual.discover namesakes ⟨.root, []⟩ = .ok found ∧
        (∀ configured ∈ usual.paths, ¬ Refused namesakes ⟨.root, []⟩ configured) ∧
        ∀ path, path ∈ found ↔ IsFound namesakes ⟨.root, []⟩ usual path) ∨
      ∃ breakdown, usual.discover namesakes ⟨.root, []⟩ = .error breakdown ∧
        ∃ configured ∈ usual.paths, Refused namesakes ⟨.root, []⟩ configured) := by
  have plain : IsPlain usual.extension := by
    simp [IsPlain, usual, Manifest.defaultExtension]
  have real : ∀ name ∈ namesakes.directory, '\x00' ∉ name := by simp [namesakes]
  exact ⟨plain, real, discover_finds plain real⟩

theorem directory_discovered :
    usual.discover namesakes ⟨.root, []⟩ =
        .ok [⟨.root, ["scripts", "a.kat"]⟩, ⟨.root, ["scripts", "dir.kat"]⟩] ∧
      namesakes.tree.lookup ["scripts", "dir.kat"] = some .directory := by
  decide +kernel

end ScriptSettings

end SceneScript
