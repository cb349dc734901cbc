import SceneScript.Proofs.Respelling

set_option autoImplicit false

namespace SceneScript

namespace Path

structure IsPart (part : Text) : Prop where
  whole : '/' ∉ part
  filled : part ≠ []
  single : part ≠ ['.']

def IsWritten (path : Path) : Prop := ∀ part ∈ path.parts, IsPart part

theorem isPart_of_mem_partsOf {text part : Text} (held : part ∈ partsOf text) : IsPart part := by
  obtain ⟨piece, kept⟩ := List.mem_filter.mp held
  simp only [ne_eq, decide_eq_true_eq] at kept
  exact ⟨Text.notMem_of_mem_split piece, kept.1, kept.2⟩

theorem isWritten_ofText (text : Text) : (ofText text).IsWritten := fun _ => isPart_of_mem_partsOf

theorem partsOf_intercalate {parts : List Text} (fits : ∀ part ∈ parts, IsPart part) :
    partsOf (List.intercalate ['/'] parts) = parts := by
  by_cases none : parts = []
  next =>
    subst none
    rfl
  next =>
    rw [partsOf, Text.split_eq_splitOn,
      List.splitOn_intercalate '/' (fun part held => (fits part held).whole) none]
    exact List.filter_eq_self.mpr fun part held => by
      simp [(fits part held).filled, (fits part held).single]

theorem head?_intercalate {parts : List Text} (fits : ∀ part ∈ parts, IsPart part) :
    (List.intercalate ['/'] parts).head? ≠ some '/' := by
  cases parts with
  | nil => simp
  | cons first others =>
      have first_fits := fits first List.mem_cons_self
      obtain ⟨c, rest, rfl⟩ := List.exists_cons_of_ne_nil first_fits.filled
      have apart : c ≠ '/' := fun same => first_fits.whole (same ▸ List.mem_cons_self)
      cases others <;> simp [List.intercalate_cons_cons, apart]

theorem anchorOf_append {text : Text} (bare : text.head? ≠ some '/') (anchor : Anchor) :
    anchorOf (anchorText anchor ++ text) = anchor := by
  cases text with
  | nil => cases anchor <;> rfl
  | cons c rest =>
      have apart : c ≠ '/' := fun same => bare (same ▸ rfl)
      cases anchor <;> simp [anchorOf, anchorText, apart]

theorem partsOf_anchorText (anchor : Anchor) (text : Text) :
    partsOf (anchorText anchor ++ text) = partsOf text := by
  cases anchor with
  | relative => rfl
  | root => exact partsOf_slash text
  | doubleRoot => exact (partsOf_slash _).trans (partsOf_slash text)

theorem ofText_toText {path : Path} (written : path.IsWritten) : ofText path.toText = path := by
  obtain ⟨anchor, parts⟩ := path
  by_cases here : anchor = .relative ∧ parts = []
  next =>
    obtain ⟨rfl, rfl⟩ := here
    rfl
  next =>
    have spelled : (Path.mk anchor parts).toText =
        anchorText anchor ++ List.intercalate ['/'] parts := by
      unfold toText
      split
      next level empty => exact absurd ⟨level, empty⟩ here
      next => rfl
    rw [spelled, ofText, anchorOf_append (head?_intercalate written), partsOf_anchorText,
      partsOf_intercalate written]

end Path

/-- A workspace such as a file system can hold. -/
structure Workspace.IsNamed (workspace : Workspace) : Prop where
  entries : ∀ place entry, (place, entry) ∈ workspace.tree.entries →
    ∀ name ∈ place, ScriptSettings.IsName name
  directory : ∀ name ∈ workspace.directory, ScriptSettings.IsName name

theorem ScriptSettings.IsName.isPart {name : Text} (named : IsName name) : Path.IsPart name :=
  ⟨named.whole, named.filled, named.single⟩

section Running

variable {α β ε : Type}

theorem exists_of_bind_eq_ok {action : Except ε α} {next : α → Except ε β} {result : β}
    (ran : (action >>= next) = .ok result) :
    ∃ value, action = .ok value ∧ next value = .ok result := by
  cases action with
  | error error => cases ran
  | ok value => exact ⟨value, rfl, ran⟩

theorem forall_of_mapM_eq_ok {step : α → Except ε β} {holds : β → Prop} {items : List α}
    {all : List β} (ran : items.mapM step = .ok all)
    (each : ∀ item ∈ items, ∀ found, step item = .ok found → holds found) :
    ∀ found ∈ all, holds found := by
  induction items generalizing all with
  | nil =>
      cases ran
      simp
  | cons item items ih =>
      obtain ⟨here, later⟩ := List.forall_mem_cons.mp each
      rw [List.mapM_cons] at ran
      obtain ⟨found, first, ran⟩ := exists_of_bind_eq_ok ran
      obtain ⟨others, rest, ran⟩ := exists_of_bind_eq_ok ran
      cases ran
      exact List.forall_mem_cons.mpr ⟨here found first, ih rest later⟩

end Running

namespace Glob

variable {workspace : Workspace} {stages : List Stage} {found : Found}

theorem name_of_stageOf {part name : Text} (staged : stageOf part = .ok (.named name)) :
    name = part := by
  simp only [stageOf] at staged
  split at staged
  next => cases staged
  next =>
    split at staged
    next => cases staged
    next =>
      split at staged
      next => cases staged
      next =>
        cases staged
        rfl

theorem isPart_of_named {pattern : Text} {glob : Glob} (read : ofText pattern = .ok glob)
    {name : Text} (asked : .named name ∈ glob.stages) : Path.IsPart name := by
  obtain ⟨stages, staged, made⟩ := exists_of_bind_eq_ok read
  cases made
  have each : ∀ stage ∈ stages, ∀ name, stage = .named name → Path.IsPart name := by
    refine forall_of_mapM_eq_ok staged ?_
    rintro part held _ from_part name rfl
    rw [name_of_stageOf from_part]
    exact Path.isPart_of_mem_partsOf held
  exact each _ asked name rfl

def reach (workspace : Workspace) (onlyDirectories : Bool) (found : Found) :
    Stage → Except AccessError (List Found)
  | .anyDepth => .ok ((workspace.tree.directoriesFrom found.place).map fun place =>
      found.down (place.drop found.place.length))
  | .matching wilds => .ok ((workspace.tree.children found.place).filterMap fun (name, entry) =>
      if (!onlyDirectories || entry = .directory) && Wild.fits wilds name then
        some (found.down [name])
      else none)
  | .named name => enter workspace onlyDirectories name found

theorem select_cons (directoriesOnly : Bool) (stage : Stage) (rest : List Stage) :
    select workspace directoriesOnly (stage :: rest) found = (do
      let reached ← reach workspace (directoriesOnly || !rest.isEmpty) found stage
      return (← reached.mapM (select workspace directoriesOnly rest)).flatten) := by
  cases stage <;> rfl

theorem isPart_of_mem_directoriesFrom (named : workspace.IsNamed) {place other : Place}
    (held : other ∈ workspace.tree.directoriesFrom place) :
    ∀ name ∈ other, Path.IsPart name := by
  obtain ⟨_, directory⟩ := mem_directoriesFrom.mp held
  rw [FileTree.isDirectory_iff, FileTree.lookup_eq_some_iff] at directory
  exact fun name inside => (named.entries _ _ directory name inside).isPart

theorem isPart_of_mem_children (named : workspace.IsNamed) {place : Place} {name : Text}
    {entry : Entry} (held : (name, entry) ∈ workspace.tree.children place) : Path.IsPart name := by
  rw [mem_children, FileTree.lookup_eq_some_iff] at held
  exact (named.entries _ _ held name (by simp)).isPart

theorem isPart_of_down {names : List Text} (shown : ∀ part ∈ found.shown, Path.IsPart part)
    (fits : ∀ name ∈ names, Path.IsPart name) :
    ∀ part ∈ (found.down names).shown, Path.IsPart part :=
  List.forall_mem_append.mpr ⟨shown, fits⟩

theorem isPart_of_enter {directory : Bool} {name : Text} {reached : List Found}
    (shown : ∀ part ∈ found.shown, Path.IsPart part) (fits : Path.IsPart name)
    (enters : enter workspace directory name found = .ok reached) :
    ∀ item ∈ reached, ∀ part ∈ item.shown, Path.IsPart part := by
  have longer : ∀ part ∈ found.shown ++ [name], Path.IsPart part :=
    List.forall_mem_append.mpr ⟨shown, List.forall_mem_singleton.mpr fits⟩
  simp only [enter] at enters
  split at enters
  next => cases enters
  next =>
    cases enters
    simp
  next =>
    split at enters
    next =>
      cases enters
      simp
    next =>
      split at enters
      next =>
        cases enters
        simpa using longer
      next =>
        cases enters
        simp

theorem isPart_of_reach (named : workspace.IsNamed) {stage : Stage} {onlyDirectories : Bool}
    (asked : ∀ name, stage = .named name → Path.IsPart name)
    (shown : ∀ part ∈ found.shown, Path.IsPart part) {reached : List Found}
    (reaches : reach workspace onlyDirectories found stage = .ok reached) :
    ∀ item ∈ reached, ∀ part ∈ item.shown, Path.IsPart part := by
  cases stage with
  | anyDepth =>
      cases reaches
      intro item held
      obtain ⟨place, directory, rfl⟩ := List.mem_map.mp held
      exact isPart_of_down shown fun name inside =>
        isPart_of_mem_directoriesFrom named directory name (List.mem_of_mem_drop inside)
  | matching wilds =>
      cases reaches
      intro item held
      obtain ⟨⟨name, entry⟩, child, taken⟩ := List.mem_filterMap.mp held
      simp only at taken
      split at taken
      next =>
        cases taken
        exact isPart_of_down shown
          (List.forall_mem_singleton.mpr (isPart_of_mem_children named child))
      next => cases taken
  | named name => exact isPart_of_enter shown (asked name rfl) reaches

theorem isPart_of_select (named : workspace.IsNamed) {directoriesOnly : Bool}
    (asked : ∀ name, .named name ∈ stages → Path.IsPart name)
    (shown : ∀ part ∈ found.shown, Path.IsPart part) {all : List Found}
    (selects : select workspace directoriesOnly stages found = .ok all) :
    ∀ item ∈ all, ∀ part ∈ item.shown, Path.IsPart part := by
  -- On the stages: what one stage reaches is where the next ones start.
  induction stages generalizing found all with
  | nil =>
      cases selects
      simpa using shown
  | cons stage rest ih =>
      rw [select_cons] at selects
      obtain ⟨reached, reaches, selects⟩ := exists_of_bind_eq_ok selects
      obtain ⟨each, selected, selects⟩ := exists_of_bind_eq_ok selects
      cases selects
      have near := isPart_of_reach named (fun name same => asked name (same ▸ List.mem_cons_self))
        shown reaches
      have far := forall_of_mapM_eq_ok selected fun item held _ further =>
        ih (fun name later => asked name (List.mem_cons_of_mem _ later)) (near item held) further
      intro item held
      obtain ⟨items, listed, inside⟩ := List.mem_flatten.mp held
      exact far items listed item inside

theorem isWritten_of_search (named : workspace.IsNamed) {pattern : Text} {glob : Glob}
    (read : ofText pattern = .ok glob) {base : Place} (start : ∀ name ∈ base, Path.IsPart name)
    {all : List Path} (searched : glob.search workspace base = .ok all) :
    ∀ path ∈ all, path.IsWritten := by
  rw [search] at searched
  split at searched
  next =>
    obtain ⟨found, selects, made⟩ := exists_of_bind_eq_ok searched
    cases made
    intro path held
    obtain ⟨item, inside, rfl⟩ := List.mem_map.mp held
    refine isPart_of_select named ?_ start selects item inside
    intro name asked
    exact isPart_of_named read ((List.mem_cons.mp asked).resolve_left (by simp))
  next =>
    cases searched
    simp

end Glob

namespace ScriptSettings

variable {workspace : Workspace} {root : Path} {settings : ScriptSettings}

theorem isWritten_resolve (named : workspace.IsNamed) {path : Path} (written : path.IsWritten) :
    (workspace.resolve path).IsWritten := by
  intro part held
  have known := (Path.mem_resolveParts held).1
  rw [Path.parts_join] at known
  rcases List.mem_append.mp known with inside | inside
  · split at inside
    next => cases inside
    next => exact (named.directory part inside).isPart
  · exact written part inside

theorem isWritten_join {path other : Path} (one : path.IsWritten) (two : other.IsWritten) :
    (path.join other).IsWritten := by
  intro part held
  rw [Path.parts_join] at held
  rcases List.mem_append.mp held with inside | inside
  · split at inside
    next => cases inside
    next => exact one part inside
  · exact two part inside

theorem isPart_of_base? (named : workspace.IsNamed) (rooted : root.IsWritten) {configured : Text}
    {base : Place} (found : base? workspace root configured = .ok (some base)) :
    ∀ name ∈ base, Path.IsPart name := by
  have resolved := isWritten_resolve named
    (isWritten_join rooted (Path.isWritten_ofText configured))
  simp only [base?] at found
  split at found
  next => cases found
  next =>
    split at found
    next => cases found
    next => cases found
    next =>
      cases found
      exact resolved

theorem isWritten_of_foundAt (named : workspace.IsNamed) (rooted : root.IsWritten)
    {configured : Text} {all : List Path}
    (found : foundAt workspace root settings configured = .ok all) :
    ∀ path ∈ all, path.IsWritten := by
  obtain ⟨base, there, found⟩ := exists_of_bind_eq_ok found
  cases base with
  | none =>
      cases found
      simp
  | some base =>
      have start := isPart_of_base? named rooted there
      simp only at found
      split at found
      next => cases found
      next glob read =>
        split at found
        next => cases found
        next searched =>
          cases found
          exact Glob.isWritten_of_search named read start searched

theorem isWritten_of_discover (named : workspace.IsNamed) (rooted : root.IsWritten)
    {scripts : List Path} (found : settings.discover workspace root = .ok scripts) :
    ∀ script ∈ scripts, script.IsWritten := by
  obtain ⟨each, ran, made⟩ := exists_of_bind_eq_ok found
  cases made
  have written := forall_of_mapM_eq_ok ran fun _ _ _ => isWritten_of_foundAt named rooted
  intro script held
  obtain ⟨parts, listed, rfl⟩ := List.mem_map.mp held
  obtain ⟨path, inside, rfl⟩ := List.mem_map.mp (mem_ascending.mp listed)
  obtain ⟨paths, among, inside⟩ := List.mem_flatten.mp inside
  exact written paths among path inside

end ScriptSettings

end SceneScript
