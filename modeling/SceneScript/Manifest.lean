import SceneScript.Breakdown
import SceneScript.Diagnostic
import SceneScript.Text.Utf8
import SceneScript.Toml.Reader

set_option autoImplicit false

namespace SceneScript

structure ScriptSettings where
  paths : List Text
  extension : Text
deriving DecidableEq

structure Manifest where
  name : Text
  root : Path
  entry : Option Text
  scripts : ScriptSettings
deriving DecidableEq

inductive ManifestFault where
  | unreadable (reason : Text)
  | notToml
  | projectNotTable
  | scriptsNotTable
  | nameNotText
  | entryNotText
  | pathsNotTexts
  | extensionNotText
deriving DecidableEq

namespace ManifestFault

def message : ManifestFault → Text
  | unreadable reason => "cannot read manifest: " ++ reason
  | notToml => "invalid TOML"
  | projectNotTable => "[project] must be a table"
  | scriptsNotTable => "[scripts] must be a table"
  | nameNotText => "[project] name must be a string"
  | entryNotText => "[project] entry must be a string"
  | pathsNotTexts => "[scripts] paths must be a list of strings"
  | extensionNotText => "[scripts] extension must be a string"

end ManifestFault

namespace Manifest

def fileName : Text := "katrin.toml"

def defaultPaths : List Text := ["scripts/"]

def defaultExtension : Text := ".kat"

def entryPath (manifest : Manifest) : Option Path :=
  manifest.entry.map fun entry => manifest.root.join (Path.ofText entry)

def withDot (extension : Text) : Text :=
  if extension.head? = some '.' then extension else '.' :: extension

def asText? : Toml → Option Text
  | .string text => some text
  | _ => none

def asTexts? : Toml → Option (List Text)
  | .array items => items.mapM asText?
  | _ => none

def asTable? : Toml → Option Toml.Fields
  | .table fields => some fields
  | _ => none

def fieldOr {α : Type} (name : Text) (default : α) (form : Toml → Option α)
    (fault : ManifestFault) (fields : Toml.Fields) : Except ManifestFault α :=
  match fields.lookup name with
  | none => .ok default
  | some value =>
      match form value with
      | some found => .ok found
      | none => .error fault

def ofFields (path : Path) (fields : Toml.Fields) : Except ManifestFault Manifest := do
  let project ← fieldOr "project" [] asTable? .projectNotTable fields
  let scripts ← fieldOr "scripts" [] asTable? .scriptsNotTable fields
  let name ← fieldOr "name" path.parent.name asText? .nameNotText project
  let entry ← fieldOr "entry" none (fun value => (asText? value).map some) .entryNotText project
  let paths ← fieldOr "paths" defaultPaths asTexts? .pathsNotTexts scripts
  let extension ← fieldOr "extension" defaultExtension asText? .extensionNotText scripts
  return ⟨name, path.parent, entry, ⟨paths, withDot extension⟩⟩

inductive LoadError where
  | fault (fault : ManifestFault)
  | breakdown (breakdown : Breakdown)
deriving DecidableEq

def ofText (path : Path) (text : Text) : Except LoadError Manifest :=
  match Toml.ofText text with
  | .error .malformed => .error (.fault .notToml)
  | .error (.numeral error) => .error (.breakdown (.numeral error))
  | .error .tooDeep => .error (.breakdown .tooDeep)
  | .ok fields =>
      match ofFields path fields with
      | .error fault => .error (.fault fault)
      | .ok manifest => .ok manifest

def load (workspace : Workspace) (path : Path) : Except LoadError Manifest :=
  match workspace.readText path with
  | .error (.access ⟨.embeddedNul, path⟩) => .error (.breakdown (.access ⟨.embeddedNul, path⟩))
  | .error error => .error (.fault (.unreadable error.message))
  | .ok text => ofText path text

end Manifest

end SceneScript
