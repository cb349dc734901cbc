import SceneScript.Proofs.CheckRun
import SceneScript.Proofs.Styling
import SceneScript.Proofs.WrittenPaths

set_option autoImplicit false

namespace SceneScript

namespace Check

def editorLine (path : Text) (position : Position) (message : Text) : Text :=
  path ++ ":" ++ Text.ofInt position.line ++ ":" ++ Text.ofInt position.column ++ ": error: " ++
    message

/-- Both formats tell of the same fault, and the path for an editor is that of the script. -/
structure PointsOut (root script : Path) (diagnostic : Diagnostic) (position : Position)
    (shown : Path) : Prop where
  context : ∃ excerpt, diagnostic.context = some ⟨some script, position, excerpt⟩
  human : ∃ rows, faultLine .human root diagnostic =
    "Parse error: " ++ (script.toText ++ ":" ++ Text.ofInt position.line ++ ":" ++
      Text.ofInt position.column ++ rows ++ "\n" ++ diagnostic.message)
  editor : faultLine .editor root diagnostic = editorLine shown.toText position diagnostic.message
  received : (Line.message .errors (faultLine .editor root diagnostic)).plain =
    editorLine (Text.unstyled shown.toText) position diagnostic.message
  joined : root.join shown = root.join script
  reread : ¬ Text.IsStyled shown.toText →
    root.join (Path.ofText (Text.unstyled shown.toText)) = root.join script

inductive Rephrases (workspace : Workspace) (task : Task) (one other : Format) :
    Line → Line → Prop where
  | same (line : Line) : Rephrases workspace task one other line line
  | fault {script shown : Path} {text : Text} {diagnostic : Diagnostic} {position : Position}
      (listed : script ∈ task.scripts) (read : workspace.readText script = .ok text)
      (failed : Program.ofText (some script) text = .error diagnostic)
      (pointsOut : PointsOut task.root script diagnostic position shown) :
      Rephrases workspace task one other (.message .errors (faultLine one task.root diagnostic))
        (.message .errors (faultLine other task.root diagnostic))

inductive Rephrased (workspace : Workspace) (files : List Path) (manifest : Path)
    (one other : Format) : Except Breakdown Outcome → Except Breakdown Outcome → Prop where
  | broken (breakdown : Breakdown) :
      Rephrased workspace files manifest one other (.error breakdown) (.error breakdown)
  | unchecked (outcome : Outcome) :
      Rephrased workspace files manifest one other (.ok outcome) (.ok outcome)
  | checked {task : Task} {first second : Outcome}
      (selected : Selects workspace files manifest task)
      (exitCode : first.exitCode = second.exitCode)
      (output : first.textOn .output = second.textOn .output)
      (lines : List.Forall₂ (Rephrases workspace task one other) first.lines second.lines) :
      Rephrased workspace files manifest one other (.ok first) (.ok second)

section Showing

variable {root script : Path} {text : Text} {diagnostic : Diagnostic}

theorem exists_render (context : Context) :
    ∃ rows, context.render = Context.place context.file context.position ++ rows := by
  rw [Context.render]
  split
  next => exact ⟨[], (List.append_nil _).symm⟩
  next => exact ⟨[], (List.append_nil _).symm⟩
  next => exact ⟨_, List.append_assoc ..⟩

theorem join_fromRoot (absolute : root.isAbsolute = true) (path : Path) :
    root.join (fromRoot root path) = root.join path := by
  simp only [fromRoot, Path.relativeTo?]
  split
  next below =>
    obtain ⟨level, names, split⟩ := below
    have fixed : path.isAbsolute = true := by rwa [Path.isAbsolute, level]
    have behind : path.parts.drop root.parts.length = names := by
      rw [← split, List.drop_left]
    rw [Option.getD_some, behind, Path.join, Path.join, if_pos fixed,
      if_neg (by simp [Path.isAbsolute]), split, ← level]
  next => rfl

theorem isWritten_fromRoot (root : Path) {path : Path} (written : path.IsWritten) :
    (fromRoot root path).IsWritten := by
  simp only [fromRoot, Path.relativeTo?]
  split
  next => exact fun part held => written part (List.mem_of_mem_drop held)
  next => exact written

theorem unstyled_editorLine (path : Text) (position : Position) {message : Text}
    (bare : '\x1b' ∉ message) :
    Text.unstyled (editorLine path position message) =
      editorLine (Text.unstyled path) position message := by
  let behind := Text.ofInt position.line ++ ":" ++ Text.ofInt position.column ++ ": error: " ++
    message
  have divided (front : Text) : editorLine front position message = front ++ ':' :: behind := by
    simp [editorLine, behind]
  have column := List.not_mem_append (Text.escape_notMem_ofInt position.line)
    (by decide : '\x1b' ∉ ":".toList)
  have label := List.not_mem_append (List.not_mem_append column
    (Text.escape_notMem_ofInt position.column)) (by decide : '\x1b' ∉ ": error: ".toList)
  rw [divided, divided, Text.unstyled_append_colon path (List.not_mem_append label bare)]

theorem exists_pointsOut (absolute : root.isAbsolute = true) (written : script.IsWritten)
    (failed : Program.ofText (some script) text = .error diagnostic) :
    ∃ position, PointsOut root script diagnostic position (fromRoot root script) := by
  obtain ⟨position, excerpt, context⟩ := exists_context failed
  have editor : faultLine .editor root diagnostic =
      editorLine (fromRoot root script).toText position diagnostic.message := by
    rw [faultLine_editor root context]
    rfl
  have joined := join_fromRoot absolute script
  refine ⟨position, ?_⟩
  constructor
  case context => exact ⟨excerpt, context⟩
  case human =>
    obtain ⟨rows, rendered⟩ := exists_render ⟨some script, position, excerpt⟩
    refine ⟨rows, ?_⟩
    rw [faultLine_human, Diagnostic.render, context]
    simp only [rendered]
    rfl
  case editor => exact editor
  case received =>
    change Text.unstyled (faultLine .editor root diagnostic) = _
    rw [editor, unstyled_editorLine _ _ (Program.escape_notMem_message failed)]
  case joined => exact joined
  case reread =>
    intro bare
    rw [Text.unstyled_of_not_isStyled bare, Path.ofText_toText (isWritten_fromRoot root written),
      joined]

end Showing

section Runs

variable {workspace : Workspace} {files : List Path} {manifest : Path} {task : Task}

theorem entry_of_entryExists {loaded : Manifest} (known : entryExists workspace loaded = .ok true) :
    ∀ path ∈ loaded.entryPath, ∃ entry, workspace.entryIfAny path = .ok (some entry) := by
  intro path named
  rw [entryExists, Option.mem_def.mp named] at known
  cases found : workspace.entryIfAny path with
  | error error => simp [found] at known
  | ok entry =>
      obtain ⟨entry, rfl⟩ := Option.isSome_iff_exists.mp (by simpa [found] using known)
      exact ⟨entry, rfl⟩

theorem selects_of_taskOf (chosen : taskOf workspace files manifest = .ok (.ok task)) :
    Selects workspace files manifest task := by
  rw [taskOf] at chosen
  split at chosen
  next none =>
    subst none
    simp only [ofManifest] at chosen
    split at chosen
    next => cases chosen
    next => cases chosen
    next loaded loads =>
      obtain ⟨scripts, discovers, chosen⟩ := exists_of_bind_eq_ok chosen
      obtain ⟨present, known, chosen⟩ := exists_of_bind_eq_ok chosen
      cases present with
      | false => cases chosen
      | true =>
          cases chosen
          exact .found loads discovers (entry_of_entryExists known)
  next some =>
    cases chosen
    exact .given some

theorem Selects.isAbsolute_root (selected : Selects workspace files manifest task) :
    task.root.isAbsolute = true := by
  cases selected <;> rfl

theorem Selects.isWritten (named : workspace.IsNamed) (spelled : ∀ file ∈ files, file.IsWritten)
    (told : manifest.IsWritten) (selected : Selects workspace files manifest task) :
    ∀ script ∈ task.scripts, script.IsWritten := by
  cases selected with
  | given => exact spelled
  | found loads discovers =>
      refine ScriptSettings.isWritten_of_discover named ?_ discovers
      intro part held
      exact ScriptSettings.isWritten_resolve named told part (List.dropLast_subset _ held)

variable {one other : Format}

theorem Rephrases.same_or_errors {line line' : Line}
    (rephrases : Rephrases workspace task one other line line') :
    line = line' ∨ line.channel = .errors ∧ line'.channel = .errors := by
  cases rephrases with
  | same => exact .inl rfl
  | fault => exact .inr ⟨rfl, rfl⟩

theorem textOn_output_eq {first second : Outcome}
    (lines : List.Forall₂ (Rephrases workspace task one other) first.lines second.lines) :
    first.textOn .output = second.textOn .output := by
  have kept : first.lines.filter (·.channel = .output) =
      second.lines.filter (·.channel = .output) := by
    generalize first.lines = lines₁ at lines ⊢
    generalize second.lines = lines₂ at lines ⊢
    induction lines with
    | nil => rfl
    | cons rephrases _ ih =>
        rcases rephrases.same_or_errors with rfl | ⟨errs, errs'⟩
        · simp only [List.filter_cons, ih]
        · simp [errs, errs', ih]
  rw [Outcome.textOn, Outcome.textOn, kept]

theorem rephrases_refl (lines : List Line) :
    List.Forall₂ (Rephrases workspace task one other) lines lines :=
  List.forall₂_same.mpr fun line _ => .same line

theorem rephrases_linesOf (written : ∀ script ∈ task.scripts, script.IsWritten)
    (absolute : task.root.isAbsolute = true) {script : Path} (listed : script ∈ task.scripts) :
    List.Forall₂ (Rephrases workspace task one other)
      (linesOf one task.root script (judge workspace script))
      (linesOf other task.root script (judge workspace script)) := by
  rw [judge]
  cases read : workspace.readText script with
  | error error => exact rephrases_refl _
  | ok text =>
      simp only [judgeText]
      cases parsed : Program.ofText (some script) text with
      | ok program => exact rephrases_refl _
      | error diagnostic =>
          obtain ⟨position, pointsOut⟩ :=
            exists_pointsOut absolute (written script listed) parsed
          exact .cons (.fault listed read parsed pointsOut) .nil

theorem exitCode_runOn_eq (workspace : Workspace) (one other : Format) (task : Task) :
    (runOn workspace one task.root task.scripts).exitCode =
      (runOn workspace other task.root task.scripts).exitCode := by
  rw [runOn_exitCode, runOn_exitCode]

theorem rephrases_runOn (written : ∀ script ∈ task.scripts, script.IsWritten)
    (absolute : task.root.isAbsolute = true) :
    List.Forall₂ (Rephrases workspace task one other)
      (runOn workspace one task.root task.scripts).lines
      (runOn workspace other task.root task.scripts).lines := by
  obtain ⟨looked, rest, whole, verdicts, -⟩ := exists_looked workspace task.scripts
  rw [runOn_lines, runOn_lines, verdicts, List.flatMap_map, List.flatMap_map,
    exitCode_runOn_eq workspace one other]
  have within : ∀ script ∈ looked, script ∈ task.scripts :=
    fun script held => whole ▸ List.mem_append_left rest held
  refine List.rel_append ?_ (rephrases_refl _)
  -- The format has no part in what is looked at, so the lines pair up script by script.
  clear whole verdicts
  induction looked with
  | nil => exact .nil
  | cons script others ih =>
      obtain ⟨listed, later⟩ := List.forall_mem_cons.mp within
      rw [List.flatMap_cons, List.flatMap_cons]
      exact List.rel_append (rephrases_linesOf written absolute listed) (ih later)

theorem rephrased_run
    (written : ∀ task, Selects workspace files manifest task →
      ∀ script ∈ task.scripts, script.IsWritten) :
    Rephrased workspace files manifest one other (run workspace files manifest one)
      (run workspace files manifest other) := by
  rw [run, run]
  cases chosen : taskOf workspace files manifest with
  | error breakdown => exact .broken breakdown
  | ok choice =>
      cases choice with
      | error trouble => exact .unchecked _
      | ok task =>
          have selected := selects_of_taskOf chosen
          change Rephrased workspace files manifest one other (if task.scripts = [] then _ else _)
            (if task.scripts = [] then _ else _)
          split
          next => exact .unchecked _
          next =>
            have lines : List.Forall₂ (Rephrases workspace task one other)
                (runOn workspace one task.root task.scripts).lines
                (runOn workspace other task.root task.scripts).lines :=
              rephrases_runOn (written task selected) selected.isAbsolute_root
            exact .checked selected (exitCode_runOn_eq ..) (textOn_output_eq lines) lines

end Runs

theorem run_rephrased {workspace : Workspace} (named : workspace.IsNamed) (words : List Text)
    (manifest one other : Text) :
    let files := words.map Path.ofText
    let run (format : Text) := Command.run workspace
      (.check files (Path.ofText manifest) (Command.formatOf format))
    Rephrased workspace files (Path.ofText manifest) (Command.formatOf one)
        (Command.formatOf other) (run one) (run other) ∧
      ∀ task, Selects workspace files (Path.ofText manifest) task → ∀ script ∈ task.scripts,
        ∀ text diagnostic, workspace.readText script = .ok text →
          Program.ofText (some script) text = .error diagnostic →
          ∃ position shown, PointsOut task.root script diagnostic position shown := by
  intro files run
  have spelled : ∀ file ∈ files, file.IsWritten := by
    intro file held
    obtain ⟨word, _, rfl⟩ := List.mem_map.mp held
    exact Path.isWritten_ofText word
  have written {task : Task} (selected : Selects workspace files (Path.ofText manifest) task) :=
    selected.isWritten named spelled (Path.isWritten_ofText manifest)
  refine ⟨rephrased_run fun task => written, ?_⟩
  intro task selected script listed text diagnostic read failed
  obtain ⟨position, pointsOut⟩ :=
    exists_pointsOut selected.isAbsolute_root (written selected script listed) failed
  exact ⟨position, _, pointsOut⟩

def colourful : Workspace :=
  let bytes := "bad".toList.map fun c => c.toNat.toUInt8
  ⟨(FileTree.empty.addFile ["\x1b[0ma.kat"] bytes).addFile ["b.kat"] bytes, []⟩

def unknownBad : Text := "Unknown instruction: 'bad'"

theorem colourful_rephrased :
    colourful.IsNamed ∧
      Rephrased colourful [⟨.root, ["b.kat"]⟩] (Path.ofText "katrin.toml") .editor .human
        (Command.run colourful (.check [⟨.root, ["b.kat"]⟩] (Path.ofText "katrin.toml") .editor))
        (Command.run colourful (.check [⟨.root, ["b.kat"]⟩] (Path.ofText "katrin.toml") .human)) ∧
      ∃ diagnostic position shown,
        Program.ofText (some ⟨.root, ["b.kat"]⟩) "bad" = .error diagnostic ∧
        PointsOut ⟨.root, []⟩ ⟨.root, ["b.kat"]⟩ diagnostic position shown := by
  have names : ∀ item ∈ colourful.tree.entries, ∀ name ∈ item.1, '/' ∉ name ∧ '\x00' ∉ name ∧
      name ≠ [] ∧ name ≠ ['.'] ∧ name ≠ FileTree.parentName := by decide +kernel
  have named : colourful.IsNamed := by
    refine ⟨fun place entry held name inside => ?_, by simp [colourful]⟩
    obtain ⟨whole, free, filled, single, double⟩ := names _ held name inside
    exact ⟨whole, free, filled, single, double⟩
  obtain ⟨rephrased, pointsOut⟩ :=
    run_rephrased named ["/b.kat"] "katrin.toml" "vscode" "human"
  have read : colourful.readText ⟨.root, ["b.kat"]⟩ = .ok "bad" := by decide +kernel
  refine ⟨named, rephrased, ?_⟩
  cases parsed : Program.ofText (some ⟨.root, ["b.kat"]⟩) "bad" with
  | ok program =>
      have fails : (Program.ofText (some ⟨.root, ["b.kat"]⟩) "bad").isOk = false := by
        decide +kernel
      rw [parsed] at fails
      cases fails
  | error diagnostic =>
      obtain ⟨position, shown, found⟩ :=
        pointsOut _ (.given (by simp)) ⟨.root, ["b.kat"]⟩ (by decide) "bad" diagnostic read parsed
      exact ⟨diagnostic, position, shown, rfl, found⟩

def colourfulRun : Outcome :=
  ⟨1, [.message .errors ("\x1b[0ma.kat:1:4: error: " ++ unknownBad)]⟩

theorem printed_path_misleads :
    Command.run colourful
        (.check [Path.ofText "\x1b[0ma.kat"] (Path.ofText "katrin.toml") .editor) =
      .ok colourfulRun ∧
    ∀ printed, colourfulRun.textOn .errors = editorLine printed ⟨1, 4⟩ unknownBad ++ ['\n'] →
      (Path.mk .root []).join (Path.ofText printed) ≠
        (Path.mk .root []).join (Path.ofText "\x1b[0ma.kat") := by
  refine ⟨by decide +kernel, fun printed received => ?_⟩
  have left : colourfulRun.textOn .errors = editorLine "a.kat" ⟨1, 4⟩ unknownBad ++ ['\n'] := by
    have plain : Text.unstyled ("\x1b[0ma.kat:1:4: error: " ++ unknownBad) =
        "a.kat:1:4: error: " ++ unknownBad := by
      rw [Text.unstyled_of_afterStyle? rfl]
      exact Text.unstyled_of_absent (by decide)
    change Text.unstyled ("\x1b[0ma.kat:1:4: error: " ++ unknownBad) ++ ['\n'] ++ [] = _
    rw [plain]
    rfl
  have same : "a.kat" = printed := by
    simpa only [left, editorLine, List.append_left_inj] using received
  subst same
  decide

end Check

end SceneScript
