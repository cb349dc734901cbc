import Mathlib.Data.List.Forall2
import SceneScript.Command.Run
import SceneScript.Proofs.Numbering
import SceneScript.Proofs.Styling

set_option autoImplicit false

namespace SceneScript

namespace Check

variable {workspace : Workspace} {format : Format} {root script : Path} {files scripts : List Path}

def Readable (workspace : Workspace) (script : Path) : Prop :=
  ∃ text, workspace.readText script = .ok text

def Clean (workspace : Workspace) (script : Path) : Prop :=
  ∃ text program, workspace.readText script = .ok text ∧
    Program.ofText (some script) text = .ok program ∧ program.lint.1 = []

-- The way to the root is left out where the path leads through it.
def shownFrom (root path : Path) : Path :=
  if path.anchor = root.anchor ∧ root.parts <+: path.parts then
    ⟨.relative, path.parts.drop root.parts.length⟩
  else path

def faultText (format : Format) (root script : Path) (context : Context) (message : Text) : Text :=
  match format with
  | .human => "Parse error: " ++ (context.render ++ "\n" ++ message)
  | .editor =>
      locationText (some (shownFrom root script)) context.position.line context.position.column ++
        ": error: " ++ message

def allCheckedText (count : Nat) : Text := "OK: " ++ Text.ofNat count ++ " script(s) checked."

/-- What a script adds to a run. -/
inductive Contributes (workspace : Workspace) (format : Format) (root script : Path) :
    List Line → Prop where
  | unreadable {error : Workspace.ReadError} (failed : workspace.readText script = .error error) :
      Contributes workspace format root script
        [.message .errors ("Error: cannot read " ++ script.toText ++ ": " ++ error.message)]
  | malformed {text : Text} {diagnostic : Diagnostic} {context : Context}
      (read : workspace.readText script = .ok text)
      (failed : Program.ofText (some script) text = .error diagnostic)
      (placed : diagnostic.context = some context) :
      Contributes workspace format root script
        [.message .errors (faultText format root script context diagnostic.message)]
  | sound {text : Text} {program : Program} (read : workspace.readText script = .ok text)
      (parsed : Program.ofText (some script) text = .ok program) :
      Contributes workspace format root script
        (program.lint.1.map (fun finding =>
            .message .errors (script.toText ++ ": ERROR: " ++ finding)) ++
          program.lint.2.map fun finding =>
            .message .output (script.toText ++ ": WARNING: " ++ finding))

/-- The scripts that a check is about: those given, or else those that the manifest leads to,
provided that its entry is there if it names one. -/
inductive Selects (workspace : Workspace) : List Path → Path → Task → Prop where
  | given {files : List Path} {manifest : Path} (some : files ≠ []) :
      Selects workspace files manifest ⟨files, ⟨.root, workspace.directory⟩⟩
  | found {manifest : Path} {loaded : Manifest} {scripts : List Path}
      (loads : Manifest.load workspace (workspace.resolve manifest) = .ok loaded)
      (discovers : loaded.scripts.discover workspace (workspace.resolve manifest).parent =
        .ok scripts)
      (entry : ∀ path ∈ loaded.entryPath, ∃ entry, workspace.entryIfAny path = .ok (some entry)) :
      Selects workspace [] manifest ⟨scripts, (workspace.resolve manifest).parent⟩

/-- The outcome is put together from what the scripts add, and a channel that is no terminal
receives its lines without their styling. -/
structure Reports (workspace : Workspace) (format : Format) (task : Task) (outcome : Outcome) :
    Prop where
  folded : ∃ looked rest contributions, task.scripts = looked ++ rest ∧
    (∀ script ∈ looked.dropLast, Readable workspace script) ∧
    (rest ≠ [] → ∃ last ∈ looked.getLast?, ¬ Readable workspace last) ∧
    List.Forall₂ (Contributes workspace format task.root) looked contributions ∧
    outcome.lines = contributions.flatten ++
      if outcome.exitCode = 0 then [.message .output (allCheckedText task.scripts.length)] else []
  independent : ∀ script first second, Contributes workspace format task.root script first →
    Contributes workspace format task.root script second → first = second
  received : ∀ channel, outcome.textOn channel =
    (outcome.lines.filter (·.channel = channel)).flatMap fun line =>
      Text.unstyled line.text ++ ['\n']
  verbatim : ∀ line ∈ outcome.lines, ¬ Text.IsStyled line.text →
    Text.unstyled line.text = line.text
  clean : outcome.exitCode = 0 ↔ ∀ script ∈ task.scripts, Clean workspace script
  quiet : outcome.exitCode = 0 ↔ outcome.textOn .errors = []
  announced : outcome.exitCode = 0 ↔
    .message .output (allCheckedText task.scripts.length) ∈ outcome.lines
  last : outcome.exitCode = 0 →
    allCheckedText task.scripts.length ++ ['\n'] <:+ outcome.textOn .output
  failed : outcome.exitCode ≠ 0 → outcome.exitCode = 1

theorem exists_context {text : Text} {diagnostic : Diagnostic}
    (failed : Program.ofText (some script) text = .error diagnostic) :
    ∃ position excerpt, diagnostic.context = some ⟨some script, position, excerpt⟩ := by
  obtain ⟨fault, rest, read, rfl⟩ := Program.ofTokens_eq_error_iff.mp failed
  simp only [Origin.diagnose, Origin.context]
  split
  next => exact ⟨_, _, rfl⟩
  next => exact ⟨_, _, rfl⟩

theorem fromRoot_eq (root path : Path) : fromRoot root path = shownFrom root path := by
  rw [fromRoot, Path.relativeTo?, shownFrom]
  split <;> rfl

theorem faultLine_human (root : Path) (diagnostic : Diagnostic) :
    faultLine .human root diagnostic = "Parse error: " ++ diagnostic.render := by
  cases known : diagnostic.context <;> rfl

theorem faultLine_editor (root : Path) {diagnostic : Diagnostic} {context : Context}
    (known : diagnostic.context = some context) :
    faultLine .editor root diagnostic = Context.place (context.file.map (fromRoot root))
      context.position ++ ": error: " ++ diagnostic.message := by
  simp only [faultLine, known]

theorem faultLine_eq {diagnostic : Diagnostic} {position : Position} {excerpt : Option Text}
    (format : Format) (root : Path)
    (placed : diagnostic.context = some ⟨some script, position, excerpt⟩) :
    faultLine format root diagnostic =
      faultText format root script ⟨some script, position, excerpt⟩ diagnostic.message := by
  unfold faultText
  cases format with
  | human => rw [faultLine_human, Diagnostic.render, placed]
  | editor => rw [faultLine_editor root placed, Option.map_some, fromRoot_eq, Context.place_eq]

theorem contributes_linesOf (workspace : Workspace) (format : Format) (root script : Path) :
    Contributes workspace format root script
      (linesOf format root script (judge workspace script)) := by
  simp only [judge]
  cases read : workspace.readText script with
  | error error => exact .unreadable read
  | ok text =>
      simp only [judgeText]
      cases parsed : Program.ofText (some script) text with
      | error diagnostic =>
          obtain ⟨position, excerpt, placed⟩ := exists_context parsed
          rw [linesOf, faultLine_eq format root placed]
          exact .malformed read parsed placed
      | ok program =>
          have written : linesOf format root script (.sound program.lint.1 program.lint.2) =
              program.lint.1.map (fun finding =>
                .message .errors (script.toText ++ ": ERROR: " ++ finding)) ++
              program.lint.2.map fun finding =>
                .message .output (script.toText ++ ": WARNING: " ++ finding) := by
            simp [linesOf, findingLine]
          rw [written]
          exact .sound read parsed

theorem Contributes.unique {first second : List Line}
    (one : Contributes workspace format root script first)
    (other : Contributes workspace format root script second) : first = second := by
  cases one <;> cases other <;> simp_all

theorem not_readable_iff :
    ¬ Readable workspace script ↔ (judge workspace script).isUnreadable = true := by
  simp only [Readable, judge]
  cases workspace.readText script with
  | error error => simp [Verdict.isUnreadable]
  | ok text =>
      simp only [judgeText]
      cases Program.ofText (some script) text <;> simp [Verdict.isUnreadable]

theorem clean_iff : Clean workspace script ↔ (judge workspace script).passes = true := by
  simp only [Clean, judge]
  cases workspace.readText script with
  | error error => simp [Verdict.passes]
  | ok text =>
      simp only [judgeText]
      cases parsed : Program.ofText (some script) text <;> simp [Verdict.passes, parsed]

theorem readable_of_passes (passes : (judge workspace script).passes = true) :
    Readable workspace script := by
  obtain ⟨text, _, read, _⟩ := clean_iff.mpr passes
  exact ⟨text, read⟩

theorem exists_looked (workspace : Workspace) (scripts : List Path) :
    ∃ looked rest, scripts = looked ++ rest ∧
      judged workspace scripts = looked.map (fun script => (script, judge workspace script)) ∧
      (∀ script ∈ looked.dropLast, Readable workspace script) ∧
      (rest ≠ [] → ∃ last ∈ looked.getLast?, ¬ Readable workspace last) := by
  induction scripts with
  | nil => exact ⟨[], [], rfl, rfl, by simp, by simp⟩
  | cons script others ih =>
      by_cases unreadable : (judge workspace script).isUnreadable = true
      next =>
        exact ⟨[script], others, rfl, by simp [judged, unreadable], by simp,
          fun _ => ⟨script, rfl, not_readable_iff.mpr unreadable⟩⟩
      next =>
        obtain ⟨looked, rest, rfl, verdicts, readable, stops⟩ := ih
        have read : Readable workspace script :=
          Classical.byContradiction fun stopped => unreadable (not_readable_iff.mp stopped)
        refine ⟨script :: looked, rest, rfl, by simp [judged, unreadable, verdicts], ?_, ?_⟩
        · cases looked with
          | nil => simp
          | cons next more => simpa [List.dropLast] using ⟨read, readable⟩
        · intro more
          obtain ⟨last, final, stopped⟩ := stops more
          exact ⟨last, by simp [List.getLast?_cons, Option.mem_def.mp final], stopped⟩

theorem passes_iff_quiet (format : Format) (root script : Path) (verdict : Verdict) :
    verdict.passes = true ↔
      ∀ line ∈ linesOf format root script verdict, line.channel ≠ .errors := by
  cases verdict with
  | unreadable error => simp [Verdict.passes, linesOf, Line.message]
  | malformed diagnostic => simp [Verdict.passes, linesOf, Line.message]
  | sound errors warnings =>
      cases errors <;> simp [Verdict.passes, linesOf, Line.message]

theorem allGood_eq (count : Nat) : allGood count = allCheckedText count := rfl

theorem verbatim_of_mem_linesOf {verdict : Verdict} {line : Line}
    (held : line ∈ linesOf format root script verdict) : line.verbatim = false := by
  cases verdict with
  | unreadable error =>
      obtain rfl := List.mem_singleton.mp held
      rfl
  | malformed diagnostic =>
      obtain rfl := List.mem_singleton.mp held
      rfl
  | sound errors warnings =>
      rcases List.mem_append.mp held with held | held
      · obtain ⟨finding, _, rfl⟩ := List.mem_map.mp held
        rfl
      · obtain ⟨finding, _, rfl⟩ := List.mem_map.mp held
        rfl

theorem notMem_allGood {c : Char} (other : c.isDigit = false)
    (apart : c ∉ "OK: script(s) checked.".toList) (count : Nat) : c ∉ allGood count := by
  simp at apart
  simp [allGood, Text.notMem_ofNat other, apart]

theorem allGood_notMem_linesOf (format : Format) (root script : Path) (verdict : Verdict)
    (count : Nat) : .message .output (allGood count) ∉ linesOf format root script verdict := by
  intro held
  have warned : 'W' ∈ allGood count := by
    cases verdict with
    | unreadable error => simp [linesOf, Line.message] at held
    | malformed diagnostic => simp [linesOf, Line.message] at held
    | sound errors warnings =>
        simp only [linesOf, List.mem_append, List.mem_map, Line.message, Line.mk.injEq] at held
        rcases held with ⟨_, _, other, _⟩ | ⟨finding, _, _, same, _⟩
        · cases other
        · rw [← same]
          simp [findingLine]
  exact notMem_allGood rfl (by decide) count warned

theorem passes_of_all_looked {looked rest : List Path}
    (stops : rest ≠ [] → ∃ last ∈ looked.getLast?, ¬ Readable workspace last)
    (passes : ∀ script ∈ looked, (judge workspace script).passes = true) : rest = [] := by
  refine Classical.byContradiction fun more => ?_
  obtain ⟨last, final, stopped⟩ := stops more
  exact stopped (readable_of_passes (passes last (List.mem_of_getLast? final)))

theorem runOn_lines (workspace : Workspace) (format : Format) (root : Path) (scripts : List Path) :
    (runOn workspace format root scripts).lines =
      (judged workspace scripts).flatMap (fun item => linesOf format root item.1 item.2) ++
        if (runOn workspace format root scripts).exitCode = 0 then
          [.message .output (allGood scripts.length)]
        else [] := by
  simp only [runOn]
  split <;> simp

theorem runOn_exitCode (workspace : Workspace) (format : Format) (root : Path)
    (scripts : List Path) :
    (runOn workspace format root scripts).exitCode =
      if (judged workspace scripts).all (·.2.passes) then 0 else 1 := by
  simp only [runOn]
  split <;> rfl

end Check

theorem Outcome.textOn_eq_nil_iff {outcome : Outcome} {channel : Channel} :
    outcome.textOn channel = [] ↔ ∀ line ∈ outcome.lines, line.channel ≠ channel := by
  simp [textOn]

namespace Check

variable {workspace : Workspace} {format : Format} {manifest : Path} {files : List Path}
  {task : Task}

theorem reports_runOn (workspace : Workspace) (format : Format) (task : Task) :
    Reports workspace format task (runOn workspace format task.root task.scripts) := by
  obtain ⟨looked, rest, whole, verdicts, readable, stops⟩ := exists_looked workspace task.scripts
  have lines := runOn_lines workspace format task.root task.scripts
  have exitCode := runOn_exitCode workspace format task.root task.scripts
  generalize runOn workspace format task.root task.scripts = outcome at lines exitCode ⊢
  have passed : outcome.exitCode = 0 ↔
      ∀ script ∈ looked, (judge workspace script).passes = true := by
    rw [exitCode, verdicts]
    simp
  rw [verdicts, List.flatMap_map] at lines
  simp only [allGood_eq] at lines
  have styled : ∀ line ∈ outcome.lines, line.verbatim = false := by
    intro line held
    rw [lines] at held
    rcases List.mem_append.mp held with held | held
    · obtain ⟨script, _, inside⟩ := List.mem_flatMap.mp held
      exact verbatim_of_mem_linesOf inside
    · split at held
      next =>
        obtain rfl := List.mem_singleton.mp held
        rfl
      next => cases held
  constructor
  case folded =>
    refine ⟨looked, rest, looked.map fun script =>
      linesOf format task.root script (judge workspace script), whole, readable, stops, ?_, ?_⟩
    · exact List.forall₂_map_right_iff.mpr (List.forall₂_same.mpr fun script _ =>
        contributes_linesOf workspace format task.root script)
    · rw [lines, List.flatMap_def]
  case independent => exact fun _ _ _ => Contributes.unique
  case received =>
    intro channel
    rw [Outcome.textOn, List.flatMap_def, List.flatMap_def]
    refine congrArg List.flatten (List.map_congr_left fun line held => ?_)
    rw [Line.plain, styled line (List.mem_of_mem_filter held)]
    rfl
  case verbatim => exact fun _ _ => Text.unstyled_of_not_isStyled
  case clean =>
    rw [passed, whole]
    constructor
    · intro passes script held
      rw [passes_of_all_looked stops passes, List.append_nil] at held
      exact clean_iff.mpr (passes script held)
    · intro clean script held
      exact clean_iff.mp (clean script (List.mem_append_left rest held))
  case quiet =>
    rw [Outcome.textOn_eq_nil_iff, lines]
    constructor
    · intro zero line held
      rcases List.mem_append.mp held with held | held
      · obtain ⟨script, within, inside⟩ := List.mem_flatMap.mp held
        exact (passes_iff_quiet ..).mp (passed.mp zero script within) line inside
      · rw [if_pos zero] at held
        obtain rfl := List.mem_singleton.mp held
        simp [Line.message]
    · intro quiet
      refine passed.mpr fun script within => (passes_iff_quiet format task.root script _).mpr ?_
      exact fun line inside =>
        quiet line (List.mem_append_left _ (List.mem_flatMap.mpr ⟨script, within, inside⟩))
  case announced =>
    rw [lines]
    constructor
    · intro zero
      simp [zero]
    · intro held
      refine Classical.byContradiction fun other => ?_
      rw [if_neg other, List.append_nil] at held
      obtain ⟨script, _, inside⟩ := List.mem_flatMap.mp held
      exact allGood_notMem_linesOf _ _ _ _ _ inside
  case last =>
    intro zero
    have bare : '\x1b' ∉ allCheckedText task.scripts.length := notMem_allGood rfl (by decide) _
    rw [if_pos zero] at lines
    simp only [Outcome.textOn, lines, List.filter_append, List.flatMap_append]
    apply List.suffix_append_of_suffix
    simp [Line.message, Line.plain, Text.unstyled_of_absent bare]
  case failed =>
    intro other
    rw [exitCode] at other ⊢
    split
    next passes => exact absurd (if_pos passes) other
    next => rfl

theorem taskOf_of_selects (selected : Selects workspace files manifest task) :
    taskOf workspace files manifest = .ok (.ok task) := by
  cases selected with
  | given some => simp [taskOf, some]
  | @found _ loaded scripts loads discovers entry =>
      have there : entryExists workspace loaded = .ok true := by
        simp only [entryExists]
        cases named : loaded.entryPath with
        | none => rfl
        | some path =>
            obtain ⟨found, known⟩ := entry path named
            simp [known]
      simp only [taskOf, ofManifest, loads, discovers, ↓reduceIte]
      change (do if ← entryExists workspace loaded then _ else _) = _
      rw [there]
      rfl

/-- A check of scripts that were given or found runs through and reports on them. -/
theorem run_check_reports (format : Format) (selected : Selects workspace files manifest task)
    (some : task.scripts ≠ []) :
    ∃ outcome, Command.run workspace (.check files manifest format) = .ok outcome ∧
      Reports workspace format task outcome := by
  refine ⟨runOn workspace format task.root task.scripts, ?_, reports_runOn workspace format task⟩
  simp only [Command.run, run, taskOf_of_selects selected]
  change (if task.scripts = [] then _ else _) = _
  exact if_neg some

def farewell : Workspace :=
  ⟨((FileTree.empty.addFile ["katrin.toml"] []).addFile ["scripts", "a.kat"]
      ("end".toList.map fun c => c.toNat.toUInt8)).addDirectory ["scripts", "b.kat"], []⟩

def farewellTask : Task :=
  ⟨[⟨.root, ["scripts", "a.kat"]⟩, ⟨.root, ["scripts", "b.kat"]⟩], ⟨.root, []⟩⟩

theorem farewell_reported :
    Selects farewell [] (Path.ofText "katrin.toml") farewellTask ∧ farewellTask.scripts ≠ [] ∧
      ∃ outcome, Command.run farewell (.check [] (Path.ofText "katrin.toml") .human) = .ok outcome ∧
        Reports farewell .human farewellTask outcome := by
  have selected : Selects farewell [] (Path.ofText "katrin.toml") farewellTask := by
    have loads : Manifest.load farewell (farewell.resolve (Path.ofText "katrin.toml")) =
        .ok ⟨[], ⟨.root, []⟩, none, ⟨["scripts/"], ".kat"⟩⟩ := by decide +kernel
    exact .found loads (by decide +kernel) (by simp [Manifest.entryPath])
  have some : farewellTask.scripts ≠ [] := by decide
  exact ⟨selected, some, run_check_reports .human selected some⟩

def colourfulName : Workspace := ⟨FileTree.empty.addFile ["\x1b[0ma.kat"] [], []⟩

def colourfulNameRun : Outcome :=
  ⟨0, [.message .output "\x1b[0ma.kat: WARNING: Script contains no instructions.",
    .message .output "OK: 1 script(s) checked."]⟩

theorem received_without_path :
    Command.run colourfulName
        (.check [Path.ofText "\x1b[0ma.kat"] (Path.ofText "katrin.toml") .human) =
      .ok colourfulNameRun ∧
    ¬ (Path.ofText "\x1b[0ma.kat").toText ++ ": WARNING: ".toList <+:
        colourfulNameRun.textOn .output := by
  refine ⟨by decide +kernel, fun received => ?_⟩
  obtain ⟨rest, same⟩ := received
  have plain : Text.unstyled "\x1b[0ma.kat: WARNING: Script contains no instructions." =
      "a.kat: WARNING: Script contains no instructions." := by
    rw [Text.unstyled_of_afterStyle? rfl]
    exact Text.unstyled_of_absent (by decide)
  have left : (colourfulNameRun.textOn .output).head? = some 'a' := by
    change (Text.unstyled "\x1b[0ma.kat: WARNING: Script contains no instructions." ++ ['\n'] ++
      (Text.unstyled "OK: 1 script(s) checked." ++ ['\n'] ++ [])).head? = _
    rw [plain]
    rfl
  have named : (Path.ofText "\x1b[0ma.kat").toText = "\x1b[0ma.kat" := by decide +kernel
  rw [← same, named] at left
  cases left

end Check

end SceneScript
