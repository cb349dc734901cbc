import SceneScript.Command.Check
import SceneScript.Interchange.Encoding
import SceneScript.Table

set_option autoImplicit false

namespace SceneScript

namespace Command

def manifestSources (workspace : Workspace) (given : Path) : List Path :=
  match Manifest.load workspace (workspace.resolve given) with
  | .error _ => []
  | .ok manifest =>
      manifest.entryPath.toList
        ++ manifest.scripts.paths.map fun place => manifest.root.join (Path.ofText place)

def sources (workspace : Workspace) : Command → List Path
  | check [] manifest _ => manifest :: manifestSources workspace manifest
  | check files _ _ => files
  | tokens script => [script]
  | dump script => [script]
  | _ => []

def versionText : Text := "katrin 0.3.0"

def helpText : List Text :=
  ["Usage: katrin [--version] [--help] COMMAND", "", "  check [-m MANIFEST] [-f FORMAT] [FILES]",
    "  tokens FILE", "  dump FILE"]

def withScript (workspace : Workspace) (script : Path) (use : Text → Outcome) : Outcome :=
  match workspace.readText script with
  | .error error => .fail (Check.cannotRead script error)
  | .ok text => use text

def tokenRow (token : Token) : List Text :=
  [Text.ofInt token.position.line, Text.ofInt token.position.column, token.kind.label,
    Text.quoted token.value]

def tokenTable (script : Path) (text : Text) : Table where
  title := script.toText
  columns := [⟨"Line", .right⟩, ⟨"Col", .right⟩, ⟨"Type", .left⟩, ⟨"Value", .left⟩]
  rows := (tokenize text).map tokenRow

def dumpText (script : Path) (text : Text) : Outcome :=
  match Program.ofText (some script) text with
  | .error diagnostic => .fail ("Parse error: " ++ diagnostic.render)
  | .ok program => .succeed [program.encode (.indented 2)]

def run (workspace : Workspace) : Command → Except Breakdown Outcome
  | help => .ok (.succeed helpText)
  | version => .ok (.succeed [versionText])
  | check files manifest format => Check.run workspace files manifest format
  | tokens script =>
      .ok (withScript workspace script fun text =>
        ⟨0, (tokenTable script text).lines.map Line.drawn⟩)
  | dump script => .ok (withScript workspace script (dumpText script))

end Command

end SceneScript
