import SceneScript.Command.Arguments
import SceneScript.Discovery
import SceneScript.Grammar
import SceneScript.Lint
import SceneScript.Text.Styling

set_option autoImplicit false

namespace SceneScript

inductive Channel where
  | output
  | errors
deriving DecidableEq

structure Line where
  channel : Channel
  text : Text
  -- Nothing in it is taken for styling.
  verbatim : Bool
deriving DecidableEq

namespace Line

def message (channel : Channel) (text : Text) : Line := ⟨channel, text, false⟩

def drawn (text : Text) : Line := ⟨.output, text, true⟩

def plain (line : Line) : Text := if line.verbatim then line.text else Text.unstyled line.text

end Line

structure Outcome where
  exitCode : Nat
  lines : List Line
deriving DecidableEq

namespace Outcome

/-- What a channel that is no terminal receives. -/
def textOn (channel : Channel) (outcome : Outcome) : Text :=
  (outcome.lines.filter (·.channel = channel)).flatMap fun line => line.plain ++ ['\n']

def succeed (lines : List Text) : Outcome := ⟨0, lines.map (.message .output)⟩

def fail (message : Text) : Outcome := ⟨1, [.message .errors message]⟩

end Outcome

inductive Verdict where
  | unreadable (error : Workspace.ReadError)
  | malformed (diagnostic : Diagnostic)
  | sound (errors warnings : List Text)
deriving DecidableEq

namespace Verdict

def passes : Verdict → Bool
  | sound errors _ => errors = []
  | _ => false

def isUnreadable : Verdict → Bool
  | unreadable _ => true
  | _ => false

end Verdict

namespace Check

def judgeText (script : Path) (text : Text) : Verdict :=
  match Program.ofText (some script) text with
  | .error diagnostic => .malformed diagnostic
  | .ok program => .sound program.lint.1 program.lint.2

def judge (workspace : Workspace) (script : Path) : Verdict :=
  match workspace.readText script with
  | .error error => .unreadable error
  | .ok text => judgeText script text

def cannotRead (script : Path) (error : Workspace.ReadError) : Text :=
  "Error: cannot read " ++ script.toText ++ ": " ++ error.message

def fromRoot (root path : Path) : Path := (path.relativeTo? root).getD path

def faultLine (format : Format) (root : Path) (diagnostic : Diagnostic) : Text :=
  match format, diagnostic.context with
  | .editor, some context =>
      Context.place (context.file.map (fromRoot root)) context.position
        ++ ": error: " ++ diagnostic.message
  | _, _ => "Parse error: " ++ diagnostic.render

def findingLine (script : Path) (label finding : Text) : Text :=
  script.toText ++ ": " ++ label ++ ": " ++ finding

def linesOf (format : Format) (root script : Path) : Verdict → List Line
  | .unreadable error => [.message .errors (cannotRead script error)]
  | .malformed diagnostic => [.message .errors (faultLine format root diagnostic)]
  | .sound errors warnings =>
      errors.map (fun finding => .message .errors (findingLine script "ERROR" finding))
        ++ warnings.map fun finding => .message .output (findingLine script "WARNING" finding)

/-- The scripts that are looked at: all up to the first that cannot be read, and that one. -/
def judged (workspace : Workspace) : List Path → List (Path × Verdict)
  | [] => []
  | script :: rest =>
      let verdict := judge workspace script
      if verdict.isUnreadable then [(script, verdict)]
      else (script, verdict) :: judged workspace rest

def allGood (count : Nat) : Text := "OK: " ++ Text.ofNat count ++ " script(s) checked."

def runOn (workspace : Workspace) (format : Format) (root : Path) (scripts : List Path) :
    Outcome :=
  let verdicts := judged workspace scripts
  let lines := verdicts.flatMap fun (script, verdict) => linesOf format root script verdict
  if verdicts.all (·.2.passes) then ⟨0, lines ++ [.message .output (allGood scripts.length)]⟩
  else ⟨1, lines⟩

structure Task where
  scripts : List Path
  root : Path
deriving DecidableEq

inductive Trouble where
  | manifest (fault : ManifestFault) (path : Path)
  | noEntry (entry : Text)
deriving DecidableEq

def Trouble.diagnostic : Trouble → Diagnostic
  | manifest fault path => Diagnostic.manifest fault.message (some path)
  | noEntry entry => ⟨.general, "Entry script " ++ entry ++ " does not exist", none⟩

def entryExists (workspace : Workspace) (manifest : Manifest) : Except Breakdown Bool :=
  match manifest.entryPath with
  | none => .ok true
  | some path =>
      match workspace.entryIfAny path with
      | .error error => .error (.access error)
      | .ok found => .ok found.isSome

def ofManifest (workspace : Workspace) (given : Path) :
    Except Breakdown (Except Trouble Task) := do
  let path := workspace.resolve given
  match Manifest.load workspace path with
  | .error (.breakdown breakdown) => throw breakdown
  | .error (.fault fault) => return .error (.manifest fault path)
  | .ok manifest =>
      let scripts ← manifest.scripts.discover workspace path.parent
      if ← entryExists workspace manifest then return .ok ⟨scripts, path.parent⟩
      else return .error (.noEntry (manifest.entry.getD []))

def taskOf (workspace : Workspace) (files : List Path) (manifest : Path) :
    Except Breakdown (Except Trouble Task) :=
  if files = [] then ofManifest workspace manifest
  else .ok (.ok ⟨files, ⟨.root, workspace.directory⟩⟩)

def run (workspace : Workspace) (files : List Path) (manifest : Path) (format : Format) :
    Except Breakdown Outcome := do
  match ← taskOf workspace files manifest with
  | .error trouble => return .fail ("Error: " ++ trouble.diagnostic.render)
  | .ok task =>
      if task.scripts = [] then return .fail "No scripts found."
      else return runOn workspace format task.root task.scripts

end Check

end SceneScript
